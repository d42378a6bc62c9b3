import ShardControl.Proofs.Deploy.Contact
import ShardControl.Proofs.Deploy.Preparation

/-!
# Metadata first

An agent is asked for a replica only after the store has it.  The store then
lists the replica that the task resolved to, what the agent is given is what
is stored, and the monitor hears of the replica exactly when the agent has it.
-/

namespace ShardControl

namespace DeployTask

variable (task : DeployTask)

/-- What the agent is asked for is what the store has, unless rivals wrote meanwhile. -/
structure Requests (older : List Moment) (found : Store) (node : StorageNodeId)
    (settings : ParameterMap) (topology : Topology) : Prop where
  storageNode : node = task.storageNode
  first : ∀ moment ∈ older, moment.creates = false ∧ moment.registers = false
  agrees : Undisturbed older found →
    ∃ id shard replica params, task.target.shard? older = some id ∧
      found.topology.shard? id = some shard ∧ resolved? older task.key = some replica ∧
      ⟨replica, task.storageNode⟩ ∈ shard.replicas.toList ∧
      found.parameters.replica? replica = some params ∧
      settings = params.settings ∧ topology = found.topology

/-- The monitor hears of the replica under the address of its storage node. -/
structure Announces (older : List Moment) (host : String) (port : UInt16)
    (resource : ResourceId) : Prop where
  first : ∀ moment ∈ older, moment.registers = false
  created : ∃ found settings topology created storageNode,
    Moment.mk found (.createReplica task.storageNode settings topology) (.ok created) ∈ older ∧
      topology.storageNode? task.storageNode = some storageNode ∧
      host = storageNode.hostname ∧ port = storageNode.registryPort
  resolved : ∃ replica, resolved? older task.key = some replica ∧ resource = .replica replica

def Keeps (older : List Moment) : Moment → Prop
  | ⟨_, .store (.commit _), _⟩ => Undecided older
  | ⟨found, .createReplica node settings topology, _⟩ =>
      task.Requests older found node settings topology
  | ⟨_, .register host port resource, _⟩ => task.Announces older host port resource
  | _ => True

/-- A past in which metadata come first. -/
structure MetadataFirst (past : List Moment) : Prop where
  /-- At most one commit is accepted. -/
  committed : past.countP Moment.commits ≤ 1
  /-- Once an agent is contacted nothing is committed. -/
  before : ∀ newer moment older, past = newer ++ moment :: older → moment.contacts = true →
    ∀ found update answer, ⟨found, .store (.commit update), answer⟩ ∉ newer
  /-- Whatever an agent is asked to create agrees with the store. -/
  requests : ∀ newer found node settings topology answer older,
    past = newer ++ ⟨found, .createReplica node settings topology, answer⟩ :: older →
      task.Requests older found node settings topology
  /-- Whatever is registered was created before. -/
  announces : ∀ newer found host port resource answer older,
    past = newer ++ ⟨found, .register host port resource, answer⟩ :: older →
      task.Announces older host port resource
  /-- What was created is registered, and once. -/
  registered : past.countP Moment.registers = past.countP Moment.creates ∧
    past.countP Moment.registers ≤ 1

variable {task} {world : World}

/-- The moments that a preparation leaves neither create nor register anything. -/
theorem creates_registers_eq_false {moment : Moment} (silent : moment.contacts = false) :
    moment.creates = false ∧ moment.registers = false := by
  obtain ⟨found, call, answer⟩ := moment
  cases call with
  | createReplica node settings topology => cases silent
  | register host port resource => cases silent
  | _ => exact ⟨rfl, rfl⟩

theorem keeps_of_prepares {older : List Moment} {moment : Moment}
    (prepares : task.Prepares world older moment) : task.Keeps older moment := by
  obtain ⟨found, call, answer⟩ := moment
  cases call with
  | store call =>
      cases call with
      | commit update => exact prepares.1
      | _ => trivial
  | createReplica node settings topology => exact prepares.elim
  | register host port resource => exact prepares.elim
  | _ => trivial

/-! ## Contact with the agent -/

structure Tally (past : List Moment) (created registered : Nat) : Prop where
  committed : past.countP Moment.commits ≤ 1
  creates : past.countP Moment.creates = created
  registers : past.countP Moment.registers = registered

theorem Tally.cons {past : List Moment} {created registered : Nat}
    (tally : Tally past created registered) (moment : Moment)
    (uncommitted : moment.commits = false) :
    Tally (moment :: past) (created + moment.creates.toNat)
      (registered + moment.registers.toNat) := by
  refine ⟨?_, ?_, ?_⟩
  · rw [List.countP_cons, uncommitted]
    exact tally.committed
  · rw [List.countP_cons, tally.creates]
    cases moment.creates <;> rfl
  · rw [List.countP_cons, tally.registers]
    cases moment.registers <;> rfl

theorem tally_of_silent {past : List Moment} (committed : past.countP Moment.commits ≤ 1)
    (silent : ∀ moment ∈ past, moment.contacts = false) : Tally past 0 0 where
  committed := committed
  creates := List.countP_eq_zero.mpr fun moment member => by
    simp [(creates_registers_eq_false (silent moment member)).1]
  registers := List.countP_eq_zero.mpr fun moment member => by
    simp [(creates_registers_eq_false (silent moment member)).2]

theorem Prepared.requests {draft : Draft} {scene : Scene}
    (prepared : task.Prepared world draft scene) {asked found : Store}
    (leads : scene.store.Leads found) :
    task.Requests (task.pastFound draft scene asked (.ok ())) found task.storageNode
      draft.params.settings draft.topology where
  storageNode := rfl
  first := List.forall_mem_cons.mpr
    ⟨⟨rfl, rfl⟩, fun moment member => creates_registers_eq_false (prepared.silent moment member)⟩
  agrees := by
    intro undisturbed
    obtain ⟨id, target, stands⟩ := prepared.stands found leads undisturbed
    obtain ⟨shard, present, placed⟩ := stands.listed
    exact ⟨id, shard, draft.params.id, draft.params, target, present, prepared.resolved,
      (Shard.replicaOn_eq_some placed).1, stands.stored, rfl, stands.topology_eq⟩

theorem Prepared.announces {draft : Draft} {scene : Scene}
    (prepared : task.Prepared world draft scene) {first second third : Store} {created : Bool}
    {host : StorageNode} (present : draft.topology.storageNode? task.storageNode = some host) :
    task.Announces (task.pastLogged draft scene first second third created) host.hostname
      host.registryPort (.replica draft.params.id) where
  first := by
    simp only [pastLogged, pastCreated, pastFound, List.forall_mem_cons]
    exact ⟨rfl, rfl, rfl, fun moment member =>
      (creates_registers_eq_false (prepared.silent moment member)).2⟩
  created := ⟨second, draft.params.settings, draft.topology, created, host,
    List.mem_cons_of_mem _ List.mem_cons_self, present, rfl, rfl⟩
  resolved := ⟨draft.params.id, prepared.resolved, rfl⟩

theorem keeps_of_contacts {draft : Draft} {scene : Scene}
    (prepared : task.Prepared world draft scene) {older : List Moment} {moment : Moment}
    (contacts : task.Contacts draft scene world older moment) : task.Keeps older moment := by
  cases contacts with
  | find reached => trivial
  | create reached => exact prepared.requests (world.leads reached)
  | log event => trivial
  | register present => exact prepared.announces present

theorem tally_of_contacted {draft : Draft} {result : Except DeployError TaskState}
    {scene last : Scene}
    (prepared : task.Prepared world draft scene)
    (lists : ∀ store, world.holds store → store.topology.storageNode? task.storageNode ≠ none)
    (contacted : task.Contacted draft scene result last) :
    ∃ count ≤ 1, Tally last.past count count := by
  have tally := tally_of_silent prepared.committed prepared.silent
  cases contacted with
  | lost reason => exact ⟨0, Nat.zero_le 1, tally.cons _ rfl⟩
  | refused reason => exact ⟨0, Nat.zero_le 1, (tally.cons _ rfl).cons _ rfl⟩
  | unlisted absent =>
      obtain ⟨reading, holds, nodes⟩ := prepared.nodes
      rw [Topology.storageNode?, nodes] at absent
      exact absurd absent (lists reading holds)
  | registered present =>
      exact ⟨1, Nat.le_refl 1, (((tally.cons _ rfl).cons _ rfl).cons _ rfl).cons _ rfl⟩

/-! ## Whole runs -/

theorem execute_obeys {scene : Scene}
    (lists : ∀ store, world.holds store → store.topology.storageNode? task.storageNode ≠ none)
    (undecided : Undecided scene.past) :
    Obeys world task.Keeps (fun _ last => ∃ count ≤ 1, Tally last.past count count)
      task.execute scene := by
  rw [execute, deploy]
  apply Obeys.bindExcept
  refine (prepareWithRetry_obeys undecided).mono (fun _ _ _ => keeps_of_prepares) ?_
  rintro (reason | draft) last ends
  · have uncommitted : last.past.countP Moment.commits ≤ 1 :=
      ends.countP_eq_zero ▸ Nat.zero_le 1
    have silent : ∀ moment ∈ last.past, moment.contacts = false :=
      fun moment member => (ends moment member).2
    exact ⟨0, Nat.zero_le 1, tally_of_silent uncommitted silent⟩
  · refine contact_obeys.mono (fun _ _ _ => keeps_of_contacts ends) ?_
    rintro result final ⟨_, contacted⟩
    exact tally_of_contacted ends lists contacted

def listed (task : DeployTask) : World :=
  .rivals fun store => store.topology.storageNode? task.storageNode ≠ none

theorem metadata_first {start : Store} {result : Except DeployError TaskState} {last : Scene}
    (run : Runs task.listed task.execute ⟨start, []⟩ result last) :
    task.MetadataFirst last.past := by
  have obeys : Obeys task.listed task.Keeps _ task.execute ⟨start, []⟩ :=
    execute_obeys (fun _ holds => holds) Undecided.nil
  obtain ⟨follows, count, few, tally⟩ := obeys.of_runs trivial run
  exact {
    committed := tally.committed
    before := by
      intro newer moment older split contacts found update answer member
      obtain ⟨later, between, rfl⟩ := List.append_of_mem member
      rw [split, List.append_assoc] at follows
      have undecided : Undecided (between ++ moment :: older) := follows.at
      have silent := (undecided moment (List.mem_append_right _ List.mem_cons_self)).2
      rw [contacts] at silent
      cases silent
    requests := by
      rintro newer found node settings topology answer older split
      rw [split] at follows
      exact follows.at
    announces := by
      intro newer found host port resource answer older split
      rw [split] at follows
      exact follows.at
    registered := ⟨tally.registers.trans tally.creates.symm, tally.registers ▸ few⟩ }

/-- A new replica is committed, created and registered. -/
theorem metadata_first_small :
    let last := ((Scene.mk .small []).play Scene.obliging small.execute).2
    last.past.countP Moment.commits = 1 ∧ last.past.countP Moment.registers = 1 ∧
      small.MetadataFirst last.past := by
  have nodes : ∀ moment ∈ ((Scene.mk .small []).play Scene.obliging small.execute).2.past,
      moment.found.topology.storageNode? ⟨1⟩ ≠ none := by decide
  exact ⟨by decide, by decide,
    metadata_first (Scene.runs_play (fun _ => trivial) small.execute ⟨.small, []⟩ nodes)⟩

end DeployTask

end ShardControl
