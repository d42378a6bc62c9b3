import ShardControl.Proofs.Deploy.Solo
import ShardControl.Proofs.Topology.Orderly
import ShardControl.Repair.Check

/-!
# What remedies leave

While nobody else writes, a remedy that removes stray metadata takes a replica
out of the parameters in any case, and out of the topology if it is placed on
the storage node of the remedy.  The other remedies neither place nor describe
another replica than before.
-/

namespace ShardControl

/-! ## Stores after a remedy -/

/-- The same replicas are placed, on the same storage nodes, and the same ones are described. -/
structure Store.Alike (store last : Store) : Prop where
  shards : last.topology.shards = store.topology.shards
  described : ∀ id,
    (last.parameters.replica? id).isSome = (store.parameters.replica? id).isSome

theorem Store.Alike.refl (store : Store) : store.Alike store := ⟨rfl, fun _ => rfl⟩

def Store.mended (store : Store) (params : ReplicaParams) : Store :=
  store.apply ⟨store.sequence, none, [params], []⟩

theorem Store.replica?_mended (store : Store) (params : ReplicaParams) (id : ReplicaId) :
    (store.mended params).parameters.replica? id =
      if params.id = id then some params else store.parameters.replica? id :=
  Parameters.replica?_putReplica store.parameters params id

theorem Store.alike_mended {store : Store} {current params : ReplicaParams}
    (stored : store.parameters.replica? params.id = some current) :
    store.Alike (store.mended params) := by
  refine ⟨rfl, fun id => ?_⟩
  rw [replica?_mended]
  split
  · rename_i own
    rw [← own, stored]
    rfl
  · rfl

theorem Topology.places_congr {topology other : Topology}
    (shards : other.shards = topology.shards) (id : ReplicaId) (node : StorageNodeId) :
    other.places id node = topology.places id node := by
  simp only [places, replica?, shard?, shards]

theorem Topology.places_eq_true_iff {topology : Topology} {id : ReplicaId}
    {node : StorageNodeId} :
    topology.places id node = true ↔
      ∃ replica, topology.replica? id = some replica ∧ replica.storageNode = node := by
  rw [places]
  cases topology.replica? id <;> simp

/-- A replica that is placed is in the shard that its id names. -/
theorem Topology.exists_shard_of_places {topology : Topology} {id : ReplicaId}
    {node : StorageNodeId} (placed : topology.places id node = true) :
    ∃ shard replica, topology.shard? id.shard = some shard ∧
      shard.replicas.find? id = some replica := by
  obtain ⟨replica, found, _⟩ := places_eq_true_iff.mp placed
  obtain ⟨shard, shardFound, replicaFound⟩ := Option.bind_eq_some_iff.mp found
  exact ⟨shard, replica, shardFound, replicaFound⟩

namespace Remedy

variable {remedy : Remedy} {store last : Store}

/-- What a removal commits for a replica that parameters may describe. -/
def removals (remedy : Remedy) (store : Store) : List ReplicaId :=
  if (store.parameters.replica? remedy.node).isSome then [remedy.node] else []

/-- The store after a removal: nothing was there, or parameters alone, or the replica itself. -/
inductive Strips (remedy : Remedy) (store : Store) : Store → Prop where
  | nothing (unplaced : store.topology.places remedy.node remedy.storageNode = false)
      (undescribed : store.parameters.replica? remedy.node = none) : Strips remedy store store
  | params (unplaced : store.topology.places remedy.node remedy.storageNode = false) :
      Strips remedy store (store.apply ⟨store.sequence, none, [], remedy.removals store⟩)
  | replica {shard : Shard}
      (placed : store.topology.places remedy.node remedy.storageNode = true)
      (present : store.topology.shard? remedy.node.shard = some shard) :
      Strips remedy store (store.apply ⟨store.sequence,
        some (store.topology.putShard (shard.without remedy.node)), [], remedy.removals store⟩)

theorem replica?_removals (update : Update) (upserts : update.upserts = [])
    (removals : update.removals = remedy.removals store) (id : ReplicaId) :
    (store.apply update).parameters.replica? id =
      if id = remedy.node then none else store.parameters.replica? id := by
  rw [Store.replica?_apply, upserts, removals, Remedy.removals]
  by_cases same : id = remedy.node
  · subst same
    cases store.parameters.replica? remedy.node <;> simp
  · split <;> simp [same]

namespace Strips

/-- The parameters of the replica are gone, and no others. -/
theorem replica?_eq (strips : remedy.Strips store last) (id : ReplicaId) :
    last.parameters.replica? id =
      if id = remedy.node then none else store.parameters.replica? id := by
  cases strips with
  | nothing _ undescribed =>
      split
      · rename_i same
        rw [same, undescribed]
      · rfl
  | params _ => exact replica?_removals _ rfl rfl id
  | replica _ _ => exact replica?_removals _ rfl rfl id

/-- The replica is not placed there any more. -/
theorem places_eq_false (strips : remedy.Strips store last) :
    last.topology.places remedy.node remedy.storageNode = false := by
  cases strips with
  | nothing unplaced _ => exact unplaced
  | params unplaced => exact unplaced
  | @replica shard placed present =>
      have named : (shard.without remedy.node).id = remedy.node.shard :=
        (Topology.shard?_eq_some_iff.mp present).2
      have gone : (store.topology.putShard (shard.without remedy.node)).replica? remedy.node =
          none := by
        rw [Topology.replica?, Topology.shard?_putShard, if_pos named]
        exact (KeyedMap.find?_erase _ _ _).trans (if_pos rfl)
      change (store.topology.putShard (shard.without remedy.node)).places _ _ = false
      rw [Topology.places, gone]

/-- The topology keeps every other replica, and one of the same id in another shard. -/
theorem mem_replicas_iff (strips : remedy.Strips store last) {replica : Replica} :
    replica ∈ last.topology.replicas ↔
      ∃ shard ∈ store.topology.shards.toList, replica ∈ shard.replicas.toList ∧
        ¬ (store.topology.places remedy.node remedy.storageNode = true ∧
          shard.id = remedy.node.shard ∧ replica.id = remedy.node) := by
  have kept (unplaced : store.topology.places remedy.node remedy.storageNode = false) :
      replica ∈ store.topology.replicas ↔
        ∃ shard ∈ store.topology.shards.toList, replica ∈ shard.replicas.toList ∧
          ¬ (store.topology.places remedy.node remedy.storageNode = true ∧
            shard.id = remedy.node.shard ∧ replica.id = remedy.node) := by
    simp [Topology.mem_replicas_iff, unplaced]
  cases strips with
  | nothing unplaced _ => exact kept unplaced
  | params unplaced => exact kept unplaced
  | @replica shard placed present =>
      obtain ⟨inTopology, named⟩ := Topology.shard?_eq_some_iff.mp present
      change replica ∈ (store.topology.putShard (shard.without remedy.node)).replicas ↔ _
      rw [Topology.mem_replicas_putShard_iff, Shard.mem_without_iff]
      constructor
      · rintro (⟨inShard, differ⟩ | ⟨other, otherIn, apart, inOther⟩)
        · exact ⟨shard, inTopology, inShard, fun same => differ same.2.2⟩
        · exact ⟨other, otherIn, inOther, fun same => apart (same.2.1.trans named.symm)⟩
      · rintro ⟨other, otherIn, inOther, apart⟩
        by_cases same : other.id = shard.id
        · rw [KeyedMap.eq_of_key_eq otherIn inTopology same] at inOther
          exact .inl ⟨inOther, fun isNode => apart ⟨placed, same.trans named, isNode⟩⟩
        · exact .inr ⟨other, otherIn, same, inOther⟩

end Strips

def Leaves (remedy : Remedy) (store last : Store) : Prop :=
  if remedy.kind = .removeStrayMetadata then remedy.Strips store last else store.Alike last

end Remedy

/-! ## Conduct of remedies -/

variable {slots : ShardSlots} {assume : List Moment → Moment → Prop} {scene : Scene}

theorem Ensures.checkStore {call : StoreCall} {post : Except CheckError call.Value → Scene → Prop}
    (ensures : post ((scene.store.respond call).1.mapError .metadata)
      ⟨(scene.store.respond call).2,
        ⟨scene.store, .store call, (scene.store.respond call).1⟩ :: scene.past⟩) :
    Ensures slots assume post (Checking.askStore call).run scene :=
  .store (.done ensures)

namespace Remedy

variable {remedy : Remedy}

theorem commit_ensures {update : Update} (expected : update.expected = scene.store.sequence) :
    Ensures slots assume
      (fun result last => result = .ok true ∧ last.store = scene.store.apply update)
      (remedy.commit update).run scene := by
  have accepted := Store.respond_commit_of_eq expected
  apply Ensures.bind
  apply Ensures.store
  rw [accepted]
  apply Ensures.done
  apply Ensures.log
  exact .done ⟨rfl, rfl⟩

theorem removal_of_places {topology : Topology} (stored : Bool)
    (placed : topology.places remedy.node remedy.storageNode = true) :
    ∃ shard, topology.shard? remedy.node.shard = some shard ∧
      remedy.removal topology true stored = .ok
        { expected := topology.sequence
          topology := some (topology.putShard (shard.without remedy.node))
          upserts := []
          removals := if stored then [remedy.node] else [] } := by
  obtain ⟨shard, replica, present, found⟩ := Topology.exists_shard_of_places placed
  have removed : topology.removeReplica remedy.node =
      .ok (replica, topology.putShard (shard.without remedy.node)) := by
    simp only [Topology.removeReplica, present, found]
    rfl
  refine ⟨shard, present, ?_⟩
  rw [removal, if_pos rfl, removed]
  rfl

theorem removeStray_ensures :
    Ensures slots assume
      (fun result last => result = .ok true ∧ remedy.Strips scene.store last.store)
      remedy.removeStray.run scene := by
  rw [removeStray]
  apply Ensures.bindExcept
  apply Ensures.checkStore
  apply Ensures.bindExcept
  apply Ensures.checkStore
  change Ensures _ _ _ (remedy.clear scene.store.topology
    (scene.store.parameters.replica? remedy.node)).run _
  rw [clear]
  split
  · rename_i nothing
    obtain ⟨unplaced, undescribed⟩ := (Bool.and_eq_true _ _).mp nothing
    refine .done ⟨rfl, .nothing (by simpa using unplaced) (by simpa using undescribed)⟩
  · cases placed : scene.store.topology.places remedy.node remedy.storageNode with
    | false =>
        refine (commit_ensures rfl).mono ?_
        rintro result last ⟨rfl, changed⟩
        exact ⟨rfl, changed ▸ .params placed⟩
    | true =>
        obtain ⟨shard, present, made⟩ :=
          removal_of_places (scene.store.parameters.replica? remedy.node).isSome placed
        rw [made]
        refine (commit_ensures rfl).mono ?_
        rintro result last ⟨rfl, changed⟩
        exact ⟨rfl, changed ▸ .replica placed present⟩

/-- Parameters are mended for a replica that is both placed and described. -/
theorem repairParams_mends :
    Ensures slots assume
      (fun result last =>
        match scene.store.topology.replica? remedy.node,
          scene.store.parameters.replica? remedy.node with
        | some placed, some current => result = .ok true ∧ last.store =
            scene.store.mended (repaired scene.store.parameters current placed.storageNode)
        | _, _ => result = .ok false ∧ last.store = scene.store)
      remedy.repairParams.run scene := by
  rw [repairParams]
  apply Ensures.bindExcept
  apply Ensures.checkStore
  apply Ensures.bindExcept
  apply Ensures.checkStore
  change Ensures _ _ _ (remedy.align scene.store.topology scene.store.parameters).run _
  rw [align]
  cases scene.store.topology.replica? remedy.node with
  | none => exact .done ⟨rfl, rfl⟩
  | some placed =>
      cases scene.store.parameters.replica? remedy.node with
      | none => exact .done ⟨rfl, rfl⟩
      | some current => exact commit_ensures rfl

theorem repairParams_ensures :
    Ensures slots assume (fun _ last => scene.store.Alike last.store)
      remedy.repairParams.run scene := by
  refine repairParams_mends.mono fun result last mends => ?_
  split at mends
  · rename_i placed current _ stored
    rw [mends.2]
    exact Store.alike_mended ((congrArg _ (KeyedMap.key_of_find? stored)).trans stored)
  · rw [mends.2]
    exact .refl scene.store

theorem disable_ensures :
    Ensures slots assume (fun _ last => last.store = scene.store) remedy.disable.run scene := by
  rw [disable]
  apply Ensures.bindExcept
  apply Ensures.call
  intro disabled _ _
  cases disabled with
  | error reason => exact .done rfl
  | ok =>
      apply Ensures.done
      apply Ensures.bindExcept
      apply Ensures.log
      exact .done (.done rfl)

/-- What a remedy does to a store that nobody else writes to. -/
theorem apply_ensures :
    Ensures slots assume (fun _ last => remedy.Leaves scene.store last.store)
      remedy.apply.run scene := by
  rw [apply]
  cases kind : remedy.kind with
  | noOp => exact .done (by simp [Leaves, kind, Store.Alike.refl])
  | removeStrayMetadata =>
      refine removeStray_ensures.mono ?_
      rintro result last ⟨_, strips⟩
      simpa [Leaves, kind] using strips
  | repairParams =>
      refine repairParams_ensures.mono fun result last alike => ?_
      simpa [Leaves, kind] using alike
  | markDisabled =>
      refine disable_ensures.mono fun result last same => ?_
      simp [Leaves, kind, same, Store.Alike.refl]

end Remedy

/-! ## Conduct of checks -/

/-- Whatever inspector is asked for whatever replica, it gives this answer. -/
def Inspected (deployed : Except CheckError Bool) (_ : List Moment) : Moment → Prop
  | ⟨_, .isDeployed .., answer⟩ => answer = deployed
  | _ => True

/-- A check changes nothing, and names the remedy for what it reads. -/
theorem checkLocation_ensures {deployed : Except CheckError Bool} {node : StorageNodeId}
    {replica : ReplicaId} (inspected : ∀ older moment, assume older moment →
      Inspected deployed older moment) :
    Ensures slots assume
      (fun result last => last.store = scene.store ∧ result = deployed.map fun deployed =>
        ⟨node, replica, .choose (scene.store.topology.places replica node) deployed
          (scene.store.parameters.replica? replica) node⟩)
      (checkLocation node replica).run scene := by
  rw [checkLocation]
  apply Ensures.bindExcept
  apply Ensures.checkStore
  apply Ensures.bindExcept
  apply Ensures.checkStore
  apply Ensures.bindExcept
  apply Ensures.call
  intro answer _ assumed
  obtain rfl : answer = deployed := inspected _ _ assumed
  cases answer with
  | error reason => exact .done ⟨rfl, rfl⟩
  | ok deployed => exact .done (.done ⟨rfl, rfl⟩)

end ShardControl
