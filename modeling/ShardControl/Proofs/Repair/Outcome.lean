import ShardControl.Proofs.Repair.Removal

/-!
# Checks and remedies together

A check decides on what it reads, and its remedy reads again before it
commits.  The removal of stray metadata looks at topology and parameters one by
one, so it takes the parameters of a replica that is placed elsewhere; and it
does not look at the storage node again, so it takes a replica that was created
since the check.
-/

namespace ShardControl

variable {slots : ShardSlots} {node : StorageNodeId} {id : ReplicaId}
  {deployed : Except CheckError Bool}

theorem RemedyKind.choose_eq_removal_iff {placed deployed : Bool} {params : Option ReplicaParams} :
    RemedyKind.choose placed deployed params node = .removeStrayMetadata ↔
      deployed = false ∧ (placed = true ∨ ReplicaParams.isOn params node = true) := by
  rw [choose]
  cases placed <;> cases deployed <;> cases ReplicaParams.isOn params node <;>
    cases params <;> simp

theorem RemedyKind.choose_eq_repair_iff {placed deployed : Bool} {params : Option ReplicaParams} :
    RemedyKind.choose placed deployed params node = .repairParams ↔
      placed = true ∧ deployed = true ∧ params.isSome = true ∧
        ReplicaParams.isOn params node = false := by
  rw [choose]
  cases placed <;> cases deployed <;> cases ReplicaParams.isOn params node <;>
    cases params <;> simp

/-! ## Replicas without parameters -/

/-- A replica of the id stays when it is taken from the storage node: it is placed elsewhere, or
in a shard that its id does not name. -/
def Topology.Keeps (topology : Topology) (id : ReplicaId) (node : StorageNodeId) : Prop :=
  ∃ shard ∈ topology.shards.toList, ∃ replica ∈ shard.replicas.toList,
    replica.id = id ∧ ¬ (topology.places id node = true ∧ shard.id = id.shard)

namespace Store

/-- Every replica of the topology has parameters. -/
def Described (store : Store) : Prop :=
  ∀ replica ∈ store.topology.replicas, (store.parameters.replica? replica.id).isSome = true

instance (store : Store) : Decidable store.Described :=
  inferInstanceAs (Decidable (∀ replica ∈ store.topology.replicas, _))

/-- The metadata put the replica on the storage node, and its removal from there would take the
parameters of a replica that stays. -/
structure Strands (store : Store) (id : ReplicaId) (node : StorageNodeId) : Prop where
  here : store.topology.places id node = true ∨
    ReplicaParams.isOn (store.parameters.replica? id) node = true
  keeps : store.topology.Keeps id node

theorem Alike.described_iff {store last : Store} (alike : store.Alike last) :
    last.Described ↔ store.Described := by
  have replicas : last.topology.replicas = store.topology.replicas := by
    rw [Topology.replicas, alike.shards]
    rfl
  rw [Described, replicas]
  exact forall₂_congr fun replica _ => by rw [alike.described]

end Store

namespace Remedy

variable {remedy : Remedy} {store last : Store}

theorem Strips.described_iff (strips : remedy.Strips store last) (described : store.Described) :
    last.Described ↔ ¬ store.topology.Keeps remedy.node remedy.storageNode := by
  constructor
  · rintro after ⟨shard, inTopology, replica, inShard, named, apart⟩
    have stays := strips.mem_replicas_iff.mpr
      ⟨shard, inTopology, inShard, fun same => apart ⟨same.1, same.2.1⟩⟩
    have kept := after replica stays
    rw [strips.replica?_eq, if_pos named] at kept
    cases kept
  · intro none replica stays
    obtain ⟨shard, inTopology, inShard, differ⟩ := strips.mem_replicas_iff.mp stays
    rw [strips.replica?_eq]
    split
    · rename_i named
      exact absurd ⟨shard, inTopology, replica, inShard, named,
        fun same => differ ⟨same.1, same.2, named⟩⟩ none
    · exact described replica (Topology.mem_replicas_iff.mpr ⟨shard, inTopology, inShard⟩)

theorem Leaves.described_iff (leaves : remedy.Leaves store last) (described : store.Described) :
    last.Described ↔ ¬ (remedy.kind = .removeStrayMetadata ∧
      store.topology.Keeps remedy.node remedy.storageNode) := by
  rw [Leaves] at leaves
  split at leaves
  · rename_i removes
    simp [leaves.described_iff described, removes]
  · rename_i other
    simp [leaves.described_iff, described, other]

/-- A removal leaves the replica neither placed on the storage node nor described. -/
theorem Leaves.kept_iff (leaves : remedy.Leaves store last)
    (placed : store.topology.places remedy.node remedy.storageNode = true) :
    (last.topology.places remedy.node remedy.storageNode = true ∧
        (last.parameters.replica? remedy.node).isSome = true) ↔
      (store.parameters.replica? remedy.node).isSome = true ∧
        remedy.kind ≠ .removeStrayMetadata := by
  rw [Leaves] at leaves
  split at leaves
  · rename_i removes
    simp [leaves.places_eq_false, removes]
  · rename_i other
    simp [Topology.places_congr leaves.shards, leaves.described, placed, other]

end Remedy

/-- After a check and its remedy every replica is described as before, unless the storage node
denied a replica that the removal strands. -/
theorem described_iff_of_check_apply {store : Store} {result : Except CheckError Bool}
    {last : Scene} (described : store.Described)
    (run : Runs (.alone slots) (checkLocation node id >>= Remedy.apply).run ⟨store, []⟩ result last)
    (inspected : Follows (Inspected deployed) last.past) :
    last.store.Described ↔ ¬ (deployed = .ok false ∧ store.Strands id node) := by
  have ensures : Ensures slots (Inspected deployed)
      (fun _ last => last.store.Described ↔ ¬ (deployed = .ok false ∧ store.Strands id node))
      (checkLocation node id >>= Remedy.apply).run ⟨store, []⟩ := by
    apply Ensures.bindExcept
    refine (checkLocation_ensures fun _ _ answered => answered).mono ?_
    rintro _ ⟨_, past⟩ ⟨rfl, rfl⟩
    cases deployed with
    | error reason => exact iff_of_true described fun never => by cases never.1
    | ok deployed =>
        refine Remedy.apply_ensures.mono fun result last leaves => ?_
        rw [leaves.described_iff described, RemedyKind.choose_eq_removal_iff]
        constructor
        · rintro safe ⟨denied, strands⟩
          exact safe ⟨⟨Except.ok.inj denied, strands.here⟩, strands.keeps⟩
        · rintro safe ⟨⟨rfl, here⟩, keeps⟩
          exact safe ⟨rfl, here, keeps⟩
  exact ensures.of_runs run inspected

/-- A store that places its one replica on a storage node and describes it on another. -/
def Store.misplaced : Store :=
  .start
    { Store.small.topology with
      storageNodes := KeyedMap.ofList [⟨⟨1⟩, ⟨1⟩, "host", 5000⟩, ⟨⟨2⟩, ⟨1⟩, "other", 5000⟩]
      shards := KeyedMap.ofList [((Shard.fresh ⟨1⟩).addReplica ⟨2⟩).2] }
    { Store.small.parameters with
      replicas := KeyedMap.ofList [
        { id := ⟨⟨1⟩, 1⟩, storageNode := ⟨1⟩, disabled := false, haHostname := "host",
          haPort := 5010, helperHosts := "host:5010", directory := none, nodeType := .electable,
          heapMb := 0, cacheBytes := 0, cachePercent := 0, gcThreads := 4, policies := ∅ }] }

theorem follows_inspected_play {α : Type} (reply : (call : ControlCall) → call.Answer)
    (answers : ∀ node id, reply (.isDeployed node id) = deployed)
    (program : Program Control α) (store : Store) :
    Follows (Inspected deployed) ((Scene.mk store []).play reply program).2.past := by
  refine Scene.follows_play (fun scene call => ?_) program trivial
  cases call with
  | isDeployed node id => exact answers node id
  | _ => trivial

/-- Seen from where it is placed, the replica goes together with its parameters. -/
theorem described_of_misplaced_placed :
    let repaired := (Scene.mk .misplaced []).play Scene.obliging
      (checkLocation ⟨2⟩ ⟨⟨1⟩, 1⟩ >>= Remedy.apply).run
    Store.misplaced.Described ∧ repaired.1 = .ok true ∧ repaired.2.store.Described := by
  intro repaired
  have described : Store.misplaced.Described := by decide
  have run : Runs (.alone .empty) (checkLocation ⟨2⟩ ⟨⟨1⟩, 1⟩ >>= Remedy.apply).run
      ⟨.misplaced, []⟩ repaired.1 repaired.2 :=
    Scene.runs_play (fun _ => rfl) _ _ fun _ _ => trivial
  have inspected := follows_inspected_play Scene.obliging (fun _ _ => rfl)
    (checkLocation ⟨2⟩ ⟨⟨1⟩, 1⟩ >>= Remedy.apply).run .misplaced
  refine ⟨described, rfl, (described_iff_of_check_apply described run inspected).mpr ?_⟩
  rintro ⟨_, _, shard, inTopology, replica, inShard, named, apart⟩
  obtain rfl : shard = ((Shard.fresh ⟨1⟩).addReplica ⟨2⟩).2 := List.mem_singleton.mp inTopology
  exact apart ⟨rfl, rfl⟩

/-- Seen from where it is described, it stays without its parameters. -/
theorem not_described_of_misplaced :
    let repaired := (Scene.mk .misplaced []).play Scene.obliging
      (checkLocation ⟨1⟩ ⟨⟨1⟩, 1⟩ >>= Remedy.apply).run
    Store.misplaced.Described ∧ repaired.1 = .ok true ∧ ¬ repaired.2.store.Described :=
  ⟨by decide, rfl, by decide⟩

/-! ## Replicas created since the check -/

/-- A remedy applied later keeps a replica that is placed and described by then, unless the
storage node denied it at the check and the metadata put it there. -/
theorem kept_iff_of_check_apply {checked store : Store} {remedy : Remedy} {middle last : Scene}
    {past : List Moment} {later : ShardSlots} {result : Except CheckError Bool}
    (check : Runs (.alone slots) (checkLocation node id).run ⟨checked, []⟩ (.ok remedy) middle)
    (inspected : Follows (Inspected deployed) middle.past)
    (apply : Runs (.alone later) remedy.apply.run ⟨store, past⟩ result last)
    (placed : store.topology.places id node = true) :
    (last.store.topology.places id node = true ∧
        (last.store.parameters.replica? id).isSome = true) ↔
      (store.parameters.replica? id).isSome = true ∧ ¬ (deployed = .ok false ∧
        (checked.topology.places id node = true ∨
          ReplicaParams.isOn (checked.parameters.replica? id) node = true)) := by
  have checks : Ensures slots (Inspected deployed) _ (checkLocation node id).run ⟨checked, []⟩ :=
    checkLocation_ensures fun _ _ answered => answered
  obtain ⟨_, decided⟩ := checks.of_runs check inspected
  have applies : Ensures later (fun _ _ => True) _ remedy.apply.run ⟨store, past⟩ :=
    Remedy.apply_ensures
  have leaves := applies.of_runs apply (.of_forall fun _ _ _ => trivial)
  cases deployed with
  | error reason => cases decided
  | ok deployed =>
      obtain rfl := Except.ok.inj decided
      rw [leaves.kept_iff placed, Ne, RemedyKind.choose_eq_removal_iff, Except.ok.injEq]

/-- A check that finds the replica on its storage node keeps it. -/
theorem kept_of_check_hosting :
    let deployed := (Scene.mk .small []).play Scene.obliging DeployTask.small.execute
    let checked := (Scene.mk deployed.2.store []).play Scene.hosting
      (checkLocation ⟨1⟩ ⟨⟨1⟩, 1⟩).run
    ∃ remedy, checked.1 = .ok remedy ∧
      let cleaned := (Scene.mk checked.2.store []).play Scene.hosting remedy.apply.run
      cleaned.2.store.topology.places ⟨⟨1⟩, 1⟩ ⟨1⟩ = true ∧
        (cleaned.2.store.parameters.replica? ⟨⟨1⟩, 1⟩).isSome = true := by
  intro deployed checked
  refine ⟨⟨⟨1⟩, ⟨⟨1⟩, 1⟩, .noOp⟩, rfl, ?_⟩
  intro cleaned
  have check : Runs (.alone .empty) (checkLocation ⟨1⟩ ⟨⟨1⟩, 1⟩).run ⟨deployed.2.store, []⟩
      checked.1 checked.2 :=
    Scene.runs_play (fun _ => rfl) _ _ fun _ _ => trivial
  have apply : Runs (.alone .empty) (Remedy.apply ⟨⟨1⟩, ⟨⟨1⟩, 1⟩, .noOp⟩).run
      ⟨checked.2.store, []⟩ cleaned.1 cleaned.2 :=
    Scene.runs_play (fun _ => rfl) _ _ fun _ _ => trivial
  have inspected := follows_inspected_play Scene.hosting (fun _ _ => rfl)
    (checkLocation ⟨1⟩ ⟨⟨1⟩, 1⟩).run deployed.2.store
  refine (kept_iff_of_check_apply check inspected apply (by decide)).mpr ⟨by decide, ?_⟩
  rintro ⟨denied, _⟩
  cases denied

/-- A replica that is created after the check found it missing is removed all the same. -/
theorem not_kept_of_redeployed :
    let failed := (Scene.mk .small []).play Scene.refusing DeployTask.small.execute
    let checked := (Scene.mk failed.2.store []).play Scene.obliging
      (checkLocation ⟨1⟩ ⟨⟨1⟩, 1⟩).run
    let again := (Scene.mk checked.2.store []).play Scene.obliging DeployTask.small.execute
    ∃ remedy, checked.1 = .ok remedy ∧
      let cleaned := (Scene.mk again.2.store []).play Scene.hosting remedy.apply.run
      again.1 = .ok .succeeded ∧ again.2.past.countP Moment.creates = 1 ∧
        again.2.store.topology.places ⟨⟨1⟩, 1⟩ ⟨1⟩ = true ∧
        (again.2.store.parameters.replica? ⟨⟨1⟩, 1⟩).isSome = true ∧
        cleaned.2.store.topology.places ⟨⟨1⟩, 1⟩ ⟨1⟩ = false ∧
        cleaned.2.store.parameters.replica? ⟨⟨1⟩, 1⟩ = none :=
  ⟨⟨⟨1⟩, ⟨⟨1⟩, 1⟩, .removeStrayMetadata⟩, rfl, rfl, by decide, by decide, by decide, by decide,
    by decide⟩

end ShardControl
