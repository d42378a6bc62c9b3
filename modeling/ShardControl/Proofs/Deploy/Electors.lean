import ShardControl.Proofs.Deploy.Accounts

/-!
# Shards that can elect a master

A shard needs a member that can be elected.  A deployment does not found a
shard with a member that cannot, but no errand looks at what becomes of the
members that stay: a cleanup takes out the only elector of a shard as it takes
out any other replica.  Apart from that, and from a shard that has no numbers
left and gives the id of its only elector out again, electors are kept.
-/

namespace ShardControl

/-! ## Electors -/

namespace Store

def elects (store : Store) (id : ReplicaId) : Bool :=
  (store.parameters.replica? id).any fun params => params.nodeType.isElectable

/-- The shard of an id has an electable replica if it has any. -/
def Led (store : Store) (id : ShardId) : Prop :=
  ∀ shard, store.topology.shard? id = some shard → shard.replicas.toList ≠ [] →
    ∃ replica ∈ shard.replicas.toList, store.elects replica.id = true

/-- No replica of a shard is electable, unless it is the one of an id. -/
def Relies (store : Store) (shard : Shard) (id : ReplicaId) : Prop :=
  ∀ replica ∈ shard.replicas.toList, replica.id ≠ id → store.elects replica.id = false

theorem exists_of_not_relies {store : Store} {shard : Shard} {id : ReplicaId}
    (others : ¬ store.Relies shard id) :
    ∃ replica ∈ shard.replicas.toList, replica.id ≠ id ∧ store.elects replica.id = true := by
  simpa [Relies] using others

instance (store : Store) (id : ShardId) : Decidable (store.Led id) :=
  match present : store.topology.shard? id with
  | none => isTrue fun shard found => by rw [present] at found; cases found
  | some shard =>
      decidable_of_iff (shard.replicas.toList ≠ [] →
          ∃ replica ∈ shard.replicas.toList, store.elects replica.id = true)
        ⟨fun led other found => Option.some.inj (present.symm.trans found) ▸ led,
          fun led => led shard present⟩

theorem Bare.led {store : Store} (bare : store.Bare) (id : ShardId) : store.Led id :=
  fun shard present some =>
    absurd (bare shard (Topology.shard?_eq_some_iff.mp present).1) some

theorem Led.congr {store last : Store} {id : ShardId} (led : store.Led id)
    (shards : last.topology.shard? id = store.topology.shard? id)
    (kept : ∀ shard, store.topology.shard? id = some shard →
      ∀ replica ∈ shard.replicas.toList,
        last.parameters.replica? replica.id = store.parameters.replica? replica.id) :
    last.Led id := by
  intro shard present some
  rw [shards] at present
  obtain ⟨replica, member, elects⟩ := led shard present some
  refine ⟨replica, member, ?_⟩
  rw [Store.elects, kept shard present replica member]
  exact elects

end Store

/-- The errand leaves a shard members of which none is electable: it adds one that is not, under
the id of the only elector, since the shard has no numbers left; or it takes the only elector
out. -/
def Errand.Robs (store : Store) (id : ShardId) : Errand → Prop
  | execute task slots => ∃ shard params, task.choice slots store = .adds shard params ∧
      shard.id = id ∧ shard.nextNum.toNat = UInt32.size - 1 ∧ params.nodeType = .secondary ∧
      store.Relies shard shard.nextReplica
  | clean node replica deployed => deployed = .ok false ∧
      store.topology.places replica node = true ∧ replica.shard = id ∧
      ∃ shard, store.topology.shard? id = some shard ∧
        (∃ other ∈ shard.replicas.toList, other.id ≠ replica) ∧ store.Relies shard replica

theorem NodeType.eq_electable {nodeType : NodeType} (electable : nodeType.isElectable = true) :
    nodeType = .electable := by
  cases nodeType with
  | electable => rfl
  | secondary => cases electable

namespace DeployTask

variable {task : DeployTask} {slots : ShardSlots} {store : Store} {shard : Shard}
  {params : ReplicaParams}

/-- The first member of a shard can be elected. -/
theorem electable_of_choice (chosen : task.choice slots store = .adds shard params)
    (first : shard.replicas.toList = []) : params.nodeType = .electable := by
  obtain ⟨_, _, draft, made, rfl⟩ := made_of_choice chosen
  obtain ⟨host, datacenter, peers, added, given, _, _, helped, electable, _, _, rfl⟩ :=
    Draft.ofNewReplica_eq_ok_iff.mp made
  rw [first] at helped
  obtain rfl := Except.ok.inj helped
  change datacenter.replicaType = .electable
  cases kind : datacenter.replicaType with
  | electable => rfl
  | secondary => rw [kind] at electable; cases electable

theorem elects_adding (store : Store) (shard : Shard) (node : StorageNodeId)
    (params : ReplicaParams) (id : ReplicaId) :
    (store.adding shard node params).elects id =
      if params.id = id then params.nodeType.isElectable else store.elects id := by
  rw [Store.elects, Store.replica?_adding]
  split <;> rfl

/-- A shard that has grown can elect the new member, or one that it had under another id. -/
theorem led_adding (named : params.id = shard.nextReplica) (node : StorageNodeId) :
    (store.adding shard node params).Led shard.id ↔
      params.nodeType = .electable ∨ ¬ store.Relies shard shard.nextReplica := by
  have found : (store.adding shard node params).topology.shard? shard.id =
      some (shard.addReplica node).2 := (Store.shard?_adding ..).trans (if_pos rfl)
  have added : ⟨shard.nextReplica, node⟩ ∈ (shard.addReplica node).2.replicas.toList :=
    Shard.mem_addReplica_iff.mpr (.inl rfl)
  constructor
  · intro led
    obtain ⟨replica, member, elects⟩ := led _ found (List.ne_nil_of_mem added)
    rw [elects_adding] at elects
    rcases Shard.mem_addReplica_iff.mp member with rfl | ⟨old, differ⟩
    · rw [if_pos named] at elects
      exact .inl (NodeType.eq_electable elects)
    · rw [if_neg (named ▸ differ.symm)] at elects
      exact .inr fun relies => by rw [relies replica old differ] at elects; cases elects
  · rintro (electable | others) changed present _
    · obtain rfl := Option.some.inj (found.symm.trans present)
      refine ⟨_, added, ?_⟩
      rw [elects_adding, if_pos named, electable]
      rfl
    · obtain rfl := Option.some.inj (found.symm.trans present)
      obtain ⟨replica, old, differ, elects⟩ := Store.exists_of_not_relies others
      refine ⟨replica, Shard.mem_addReplica_iff.mpr (.inr ⟨old, differ⟩), ?_⟩
      rw [elects_adding, if_neg (named ▸ differ.symm), elects]

/-- The next id of a shard is in use only if it is the last one. -/
theorem ended_of_relies (accounted : store.Accounted) (led : store.Led shard.id)
    (present : store.topology.shard? shard.id = some shard) (some : shard.replicas.toList ≠ [])
    (relies : store.Relies shard shard.nextReplica) :
    shard.nextNum.toNat = UInt32.size - 1 := by
  obtain ⟨replica, member, elects⟩ := led shard present some
  have same : replica.id = shard.nextReplica := by
    by_contra differ
    rw [relies replica member differ] at elects
    cases elects
  refine (accounted _ shard present replica member).issued.resolve_left fun below => ?_
  rw [same] at below
  exact UInt32.lt_irrefl _ below

/-- The other shards keep their members, and the parameters of these. -/
theorem led_adding_of_ne (accounted : store.Accounted) (named : params.id = shard.nextReplica)
    (node : StorageNodeId) {id : ShardId} (apart : shard.id ≠ id) (led : store.Led id) :
    (store.adding shard node params).Led id := by
  refine led.congr ((Store.shard?_adding ..).trans (if_neg apart)) fun home present => ?_
  intro replica member
  refine (Store.replica?_adding ..).trans (if_neg fun same => apart ?_)
  have own := (accounted id home present replica member).own
  rw [← same, named] at own
  exact own.trans (KeyedMap.key_of_find? present)

theorem led_left_iff (accounted : store.Accounted) {id : ShardId} (led : store.Led id) :
    (task.left slots store).Led id ↔ ¬ (Errand.execute task slots).Robs store id := by
  rw [left]
  cases chosen : task.choice slots store with
  | fails reason | adopts replica stored =>
      refine iff_of_true led ?_
      rintro ⟨shard, params, adds, _⟩
      rw [chosen] at adds
      cases adds
  | adds shard params =>
      obtain ⟨named, _⟩ := params_of_choice chosen
      obtain ⟨present, _⟩ := made_of_choice chosen
      change (store.adding shard task.storageNode params).Led id ↔ _
      by_cases home : shard.id = id
      · subst home
        rw [led_adding named]
        constructor
        · rintro kept ⟨_, _, adds, _, _, secondary, relies⟩
          rw [chosen] at adds
          cases adds
          rcases kept with electable | others
          · rw [secondary] at electable
            cases electable
          · exact others relies
        · intro safe
          cases nodeType : params.nodeType with
          | electable => exact .inl rfl
          | secondary =>
              refine .inr fun relies => safe ⟨shard, params, chosen, rfl, ?_, nodeType, relies⟩
              refine ended_of_relies accounted led present (fun none => ?_) relies
              rw [electable_of_choice chosen none] at nodeType
              cases nodeType
      · refine iff_of_true (led_adding_of_ne accounted named _ home led) ?_
        rintro ⟨_, _, adds, same, _⟩
        rw [chosen] at adds
        cases adds
        exact home same

end DeployTask

/-! ## Cleanups -/

section Stripped

variable {store last : Store} {remedy : Remedy} {deployed : Except CheckError Bool}

/-- A shard that a replica is taken out of can elect one of the others, if it has others. -/
theorem Store.Accounted.led_stripped_iff (accounted : store.Accounted)
    (denied : store.Denied remedy.storageNode remedy.node deployed)
    (strips : remedy.Strips store last) {id : ShardId} (led : store.Led id) :
    last.Led id ↔ ¬ (Errand.clean remedy.storageNode remedy.node deployed).Robs store id := by
  have elects {replica : Replica} (differ : replica.id ≠ remedy.node) :
      last.elects replica.id = store.elects replica.id := by
    rw [elects, elects, strips.replica?_eq, if_neg differ]
  constructor
  · rintro kept ⟨_, _, _, shard, present, ⟨other, member, differ⟩, relies⟩
    have left : last.topology.shard? id = some (shard.without remedy.node) := by
      rw [accounted.shard?_stripped denied strips, present]
      rfl
    obtain ⟨replica, stays, electable⟩ :=
      kept _ left (List.ne_nil_of_mem (Shard.mem_without_iff.mpr ⟨member, differ⟩))
    obtain ⟨old, apart⟩ := Shard.mem_without_iff.mp stays
    rw [elects apart, relies replica old apart] at electable
    cases electable
  · intro safe changed found some
    rw [accounted.shard?_stripped denied strips] at found
    obtain ⟨shard, present, rfl⟩ := Option.map_eq_some_iff.mp found
    obtain ⟨other, stays⟩ := List.exists_mem_of_ne_nil _ some
    obtain ⟨old, differ⟩ := Shard.mem_without_iff.mp stays
    by_contra lost
    have relies : store.Relies shard remedy.node := by
      intro replica member apart
      rw [← Bool.not_eq_true, ← elects apart]
      exact fun electable => lost ⟨replica, Shard.mem_without_iff.mpr ⟨member, apart⟩, electable⟩
    obtain ⟨replica, member, electable⟩ := led shard present (List.ne_nil_of_mem old)
    have same : replica.id = remedy.node := by
      by_contra apart
      rw [relies replica member apart] at electable
      cases electable
    have own := (accounted id shard present replica member).own
    rw [same] at own
    have placed := accounted.placed_of_denied present member (same ▸ denied)
    exact safe ⟨denied.1, same ▸ placed, own.trans (KeyedMap.key_of_find? present), shard, present,
      ⟨other, old, differ⟩, relies⟩

end Stripped

/-! ## Errands -/

namespace Errand

variable {store last : Store} {errand : Errand}

/-- An errand keeps a shard electable unless it robs it. -/
theorem led_iff_of_makes (accounted : store.Accounted) (makes : errand.Makes store last)
    {id : ShardId} (led : store.Led id) : last.Led id ↔ ¬ errand.Robs store id := by
  cases errand with
  | execute task slots =>
      obtain rfl := DeployTask.makes_execute_iff.mp makes
      exact DeployTask.led_left_iff accounted led
  | clean node replica deployed =>
      rcases strips_of_makes accounted.agrees makes with ⟨denied, strips⟩ | ⟨accepted, rfl⟩
      · exact accounted.led_stripped_iff denied strips led
      · exact iff_of_true led fun robs => accepted ⟨robs.1, .inl robs.2.1⟩

end Errand

/-- While shards have numbers left, no deployment robs one. -/
theorem Errand.not_robs_of_room {store : Store} (room : store.topology.HasRoom) (task : DeployTask)
    (slots : ShardSlots) (id : ShardId) : ¬ (Errand.execute task slots).Robs store id := by
  rintro ⟨shard, params, chosen, _, ended, _⟩
  have member := (Topology.shard?_eq_some_iff.mp (DeployTask.made_of_choice chosen).1).1
  exact Nat.lt_irrefl _ (ended ▸ room shard member)

/-- A shard that no errand robbed can elect one of its members, and it is exactly the errands
that rob it after which it cannot. -/
theorem led_iff_not_robbed {start store : Store} {past : List (Store × Errand)}
    (bare : start.Bare) (errands : Errands start past store) (id : ShardId)
    (kept : ∀ step ∈ past, ¬ step.2.Robs step.1 id) :
    store.Led id ∧ ∀ (errand : Errand) (last : Store), errand.Makes store last →
      (last.Led id ↔ ¬ errand.Robs store id) := by
  have led : store.Led id := by
    induction errands with
    | none => exact bare.led id
    | next before makes ih =>
        obtain ⟨safe, earlier⟩ := List.forall_mem_cons.mp kept
        exact (Errand.led_iff_of_makes (before.accounted bare) makes (ih earlier)).mpr safe
  exact ⟨led, fun errand last makes =>
    Errand.led_iff_of_makes (errands.accounted bare) makes led⟩

def Store.divided : Store :=
  .start
    { Store.small.topology with
      datacenters := KeyedMap.ofList [⟨⟨1⟩, "east", .primary⟩, ⟨⟨2⟩, "west", .secondary⟩]
      storageNodes := KeyedMap.ofList [⟨⟨1⟩, ⟨1⟩, "host", 5000⟩, ⟨⟨2⟩, ⟨2⟩, "other", 5000⟩] }
    { Store.small.parameters with
      storageNodes := KeyedMap.ofList [
        ⟨⟨1⟩, "host", ⟨5010, 5012⟩, 0, 4, 1⟩, ⟨⟨2⟩, "other", ⟨5010, 5012⟩, 0, 4, 1⟩] }

def DeployTask.remote : DeployTask :=
  { DeployTask.small with key := 2, storageNode := ⟨2⟩, host := "sn2(other:5000)" }

def Store.founded : Store := DeployTask.small.left .empty .divided

def Store.joined : Store := DeployTask.remote.left .empty .founded

theorem errands_joined : Errands .divided
    [(.founded, .execute .remote .empty), (.divided, .execute .small .empty)] .joined :=
  .next (.next .none (DeployTask.makes_execute_iff.mpr rfl)) (DeployTask.makes_execute_iff.mpr rfl)

/-- After both deployments the replica of the secondary datacenter can be taken out. -/
theorem led_of_joined :
    Store.divided.Bare ∧ Store.joined.Led ⟨1⟩ ∧
      ∀ last, (Errand.clean ⟨2⟩ ⟨⟨1⟩, 2⟩ (.ok false)).Makes .joined last → last.Led ⟨1⟩ := by
  have bare : Store.divided.Bare := by decide
  have kept : ∀ step ∈ [(Store.founded, Errand.execute .remote .empty),
      (Store.divided, .execute .small .empty)], ¬ step.2.Robs step.1 ⟨1⟩ := by
    refine List.forall_mem_cons.mpr ⟨?_, List.forall_mem_singleton.mpr ?_⟩
    · exact Errand.not_robs_of_room (by decide +kernel) _ _ _
    · exact Errand.not_robs_of_room (by decide +kernel) _ _ _
  obtain ⟨led, onward⟩ := led_iff_not_robbed bare errands_joined ⟨1⟩ kept
  refine ⟨bare, led, fun last makes => (onward _ last makes).mpr ?_⟩
  rintro ⟨_, _, _, shard, present, _, relies⟩
  -- The replica of the primary datacenter is electable.
  have electable : (Store.joined.topology.shard? ⟨1⟩).any (fun shard =>
      ⟨⟨⟨1⟩, 1⟩, ⟨1⟩⟩ ∈ shard.replicas.toList ∧ Store.joined.elects ⟨⟨1⟩, 1⟩) = true := by
    decide +kernel
  rw [present, Option.any_some, decide_eq_true_eq] at electable
  rw [relies _ electable.1 (by decide)] at electable
  cases electable.2

/-- The divided store whose shard has come to its last number. -/
def Store.ended : Store :=
  .start
    { Store.divided.topology with
      shards := KeyedMap.ofList [{ Shard.fresh ⟨1⟩ with nextNum := 4294967295 }] }
    Store.divided.parameters

/-- The replica of the primary datacenter, the one that the first task came to, is taken out just
as well, although the replica that stays cannot be elected.  On the last number of the shard the
second deployment puts its replica in the place of the first one. -/
theorem exists_not_led_of_bare :
    (∃ last, Store.divided.Bare ∧
      (DeployTask.small.choice .empty .divided).resolved = some ⟨⟨1⟩, 1⟩ ∧
      Errands .divided [(.joined, .clean ⟨1⟩ ⟨⟨1⟩, 1⟩ (.ok false)),
        (.founded, .execute .remote .empty), (.divided, .execute .small .empty)] last ∧
      last.topology.replicas = [⟨⟨⟨1⟩, 2⟩, ⟨2⟩⟩] ∧ ¬ last.Led ⟨1⟩) ∧
    ∃ middle last, Store.ended.Bare ∧
      Errands .ended [(middle, .execute .remote .empty), (.ended, .execute .small .empty)] last ∧
      last.topology.replicas = [⟨⟨⟨1⟩, 4294967295⟩, ⟨2⟩⟩] ∧ ¬ last.Led ⟨1⟩ := by
  have cleaned := Errand.makes_clean_play .empty Scene.obliging (fun _ _ => rfl) (fun _ => rfl) ⟨1⟩
    ⟨⟨1⟩, 1⟩ .joined
  refine ⟨⟨_, by decide, by decide +kernel, .next errands_joined cleaned, by decide +kernel,
    by decide +kernel⟩, DeployTask.small.left .empty .ended,
    DeployTask.remote.left .empty (DeployTask.small.left .empty .ended), by decide, ?_,
    by decide +kernel, by decide +kernel⟩
  exact .next (.next .none (DeployTask.makes_execute_iff.mpr rfl))
    (DeployTask.makes_execute_iff.mpr rfl)

end ShardControl
