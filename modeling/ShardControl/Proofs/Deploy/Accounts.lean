import ShardControl.Proofs.Deploy.Errands
import ShardControl.Proofs.KeyedMap.Equality

/-!
# Accounted members

In a store that started without replicas, parameters describe every member of
a shard where it is placed, and members carry numbers that their shard has
given out.  Errands keep it so: executions add a member together with its
parameters, and cleanups take both out.
-/

namespace ShardControl

theorem ReplicaParams.isOn_eq_true_iff {params : Option ReplicaParams} {node : StorageNodeId} :
    isOn params node = true ↔ ∃ found, params = some found ∧ found.storageNode = node := by
  cases params <;> simp [isOn]

namespace Store

/-- A member carries the id of its shard and a number that was given out, unless the shard has
come to its last number, and parameters describe it where it is placed. -/
structure Accounts (store : Store) (shard : Shard) (replica : Replica) : Prop where
  own : replica.id.shard = shard.id
  issued : replica.id.num < shard.nextNum ∨ shard.nextNum.toNat = UInt32.size - 1
  here : ReplicaParams.isOn (store.parameters.replica? replica.id) replica.storageNode = true

/-- What a change leaves of the parameters and of the shard of a member. -/
theorem Accounts.mono {store last : Store} {shard changed : Shard} {replica : Replica}
    (accounts : store.Accounts shard replica) (named : changed.id = shard.id)
    (more : shard.nextNum.toNat ≤ changed.nextNum.toNat)
    (kept : last.parameters.replica? replica.id = store.parameters.replica? replica.id) :
    last.Accounts changed replica where
  own := accounts.own.trans named.symm
  issued := by
    have small := changed.nextNum.toNat_lt
    rcases accounts.issued with below | ended
    · exact .inl (UInt32.lt_iff_toNat_lt.mpr
        (Nat.lt_of_lt_of_le (UInt32.lt_iff_toNat_lt.mp below) more))
    · rw [ended] at more
      exact .inr (Nat.le_antisymm (Nat.le_sub_one_of_lt small) more)
  here := kept ▸ accounts.here

def Accounted (store : Store) : Prop :=
  ∀ id shard, store.topology.shard? id = some shard →
    ∀ replica ∈ shard.replicas.toList, store.Accounts shard replica

/-- No shard has a replica. -/
def Bare (store : Store) : Prop :=
  ∀ shard ∈ store.topology.shards.toList, shard.replicas.toList = []

instance (store : Store) : Decidable store.Bare :=
  inferInstanceAs (Decidable (∀ shard ∈ store.topology.shards.toList, _))

theorem Bare.accounted {store : Store} (bare : store.Bare) : store.Accounted := by
  intro id shard present replica member
  rw [bare shard (Topology.shard?_eq_some_iff.mp present).1] at member
  cases member

theorem shard?_adding (store : Store) (shard : Shard) (node : StorageNodeId)
    (params : ReplicaParams) (id : ShardId) :
    (store.adding shard node params).topology.shard? id =
      if shard.id = id then some (shard.addReplica node).2 else store.topology.shard? id :=
  Topology.shard?_putShard store.topology (shard.addReplica node).2 id

theorem replica?_adding (store : Store) (shard : Shard) (node : StorageNodeId)
    (params : ReplicaParams) (id : ReplicaId) :
    (store.adding shard node params).parameters.replica? id =
      if params.id = id then some params else store.parameters.replica? id :=
  Parameters.replica?_putReplica store.parameters params id

namespace Accounted

variable {store : Store}

/-- Parameters agree with the placement. -/
theorem agrees (accounted : store.Accounted) {node : StorageNodeId} {id : ReplicaId}
    (placed : store.topology.places id node = true) :
    ReplicaParams.isOn (store.parameters.replica? id) node = true := by
  obtain ⟨shard, replica, present, found⟩ := Topology.exists_shard_of_places placed
  obtain ⟨member, rfl⟩ := KeyedMap.find?_eq_some_iff.mp found
  have here : replica.storageNode = node := by
    have listed : store.topology.replica? (key replica) = some replica := by
      rw [Topology.replica?, present]
      exact found
    rw [Topology.places, listed] at placed
    exact of_decide_eq_true placed
  exact here ▸ (accounted _ shard present replica member).here

/-- A member that is denied is placed on the storage node that denies it. -/
theorem placed_of_denied (accounted : store.Accounted) {node : StorageNodeId}
    {deployed : Except CheckError Bool} {id : ShardId} {shard : Shard} {replica : Replica}
    (present : store.topology.shard? id = some shard) (member : replica ∈ shard.replicas.toList)
    (denied : store.Denied node replica.id deployed) :
    store.topology.places replica.id node = true := by
  rcases denied.2 with placed | on
  · exact placed
  · have accounts := accounted id shard present replica member
    obtain ⟨inTopology, _⟩ := Topology.shard?_eq_some_iff.mp present
    obtain ⟨params, described, rfl⟩ := ReplicaParams.isOn_eq_true_iff.mp on
    obtain ⟨again, describedAgain, same⟩ := ReplicaParams.isOn_eq_true_iff.mp accounts.here
    rw [described] at describedAgain
    cases describedAgain
    rw [Topology.places, Topology.replica?_of_mem inTopology member accounts.own]
    exact decide_eq_true same.symm

/-! ### One more replica -/

theorem adding (accounted : store.Accounted) {shard : Shard} {params : ReplicaParams}
    (present : store.topology.shard? shard.id = some shard)
    (named : params.id = shard.nextReplica) :
    (store.adding shard params.storageNode params).Accounted := by
  intro id changed found replica member
  have kept (differ : params.id ≠ replica.id) :=
    (replica?_adding store shard params.storageNode params replica.id).trans (if_neg differ)
  rw [shard?_adding] at found
  split at found
  · obtain rfl := Option.some.inj found
    have small := shard.nextNum.toNat_lt
    have more : (Word.succSat shard.nextNum).toNat =
        min (shard.nextNum.toNat + 1) (UInt32.size - 1) := Word.toNat_succSat _
    rcases Shard.mem_addReplica_iff.mp member with rfl | ⟨old, differ⟩
    · refine ⟨rfl, ?_, ?_⟩
      · rw [Shard.nextNum_addReplica, UInt32.lt_iff_toNat_lt, more]
        change shard.nextNum.toNat < _ ∨ _
        simp only [UInt32.size] at small ⊢
        omega
      · rw [replica?_adding, if_pos named]
        exact decide_eq_true rfl
    · refine (accounted _ shard present replica old).mono rfl ?_ (kept (named ▸ differ.symm))
      rw [Shard.nextNum_addReplica, more]
      simp only [UInt32.size] at small ⊢
      omega
  · rename_i apart
    have accounts := accounted id changed found replica member
    refine accounts.mono rfl (Nat.le_refl _) (kept fun same => apart ?_)
    have home : changed.id = id := KeyedMap.key_of_find? found
    rw [← home, ← accounts.own, ← same, named]
    rfl

/-! ### One replica less -/

section Stripped

variable {remedy : Remedy} {last : Store} {deployed : Except CheckError Bool}

/-- The replica is gone from its shard, and the other shards do not have it. -/
theorem shard?_stripped (accounted : store.Accounted)
    (denied : store.Denied remedy.storageNode remedy.node deployed)
    (strips : remedy.Strips store last) (id : ShardId) :
    last.topology.shard? id = (store.topology.shard? id).map (·.without remedy.node) := by
  have unchanged (absent : store.topology.places remedy.node remedy.storageNode = false ∨
      id ≠ remedy.node.shard) :
      store.topology.shard? id = (store.topology.shard? id).map (·.without remedy.node) := by
    cases present : store.topology.shard? id with
    | none => rfl
    | some shard =>
        refine congrArg some (Shard.without_of_absent fun replica member same => ?_).symm
        rw [← same] at denied absent
        rcases absent with unplaced | apart
        · rw [accounted.placed_of_denied present member denied] at unplaced
          cases unplaced
        · have home : shard.id = id := KeyedMap.key_of_find? present
          exact apart (home.symm.trans (accounted id shard present replica member).own.symm)
  cases strips with
  | nothing unplaced _ => exact unchanged (.inl unplaced)
  | params unplaced => exact unchanged (.inl unplaced)
  | @replica shard placed present =>
      have home : shard.id = remedy.node.shard := KeyedMap.key_of_find? present
      refine (Topology.shard?_putShard store.topology (shard.without remedy.node) id).trans ?_
      rw [Shard.id_without, home]
      split
      · rename_i same
        rw [← same, present]
        rfl
      · rename_i apart
        exact unchanged (.inr fun same => apart same.symm)

theorem stripped (accounted : store.Accounted)
    (denied : store.Denied remedy.storageNode remedy.node deployed)
    (strips : remedy.Strips store last) : last.Accounted := by
  intro id changed found replica member
  rw [accounted.shard?_stripped denied strips] at found
  obtain ⟨shard, present, rfl⟩ := Option.map_eq_some_iff.mp found
  obtain ⟨old, differ⟩ := Shard.mem_without_iff.mp member
  exact (accounted id shard present replica old).mono rfl (Nat.le_refl _)
    ((strips.replica?_eq replica.id).trans (if_neg differ))

end Stripped

end Accounted

end Store

/-! ## Errands -/

namespace DeployTask

variable {task : DeployTask} {slots : ShardSlots} {store : Store} {shard : Shard}
  {params : ReplicaParams}

theorem accounted_left (accounted : store.Accounted) : (task.left slots store).Accounted := by
  rw [left]
  cases chosen : task.choice slots store with
  | fails reason | adopts replica stored => exact accounted
  | adds shard params =>
      obtain ⟨named, placed⟩ := params_of_choice chosen
      change (store.adding shard task.storageNode params).Accounted
      rw [← placed]
      exact accounted.adding (made_of_choice chosen).1 named

end DeployTask

theorem Errand.accounted_of_makes {store last : Store} {errand : Errand}
    (accounted : store.Accounted) (makes : errand.Makes store last) : last.Accounted := by
  cases errand with
  | execute task slots =>
      obtain rfl := DeployTask.makes_execute_iff.mp makes
      exact DeployTask.accounted_left accounted
  | clean node id deployed =>
      rcases strips_of_makes accounted.agrees makes with ⟨denied, strips⟩ | ⟨_, rfl⟩
      · exact accounted.stripped denied strips
      · exact accounted

theorem Errands.accounted {start store : Store} {past : List (Store × Errand)}
    (bare : start.Bare) (errands : Errands start past store) : store.Accounted := by
  induction errands with
  | none => exact bare.accounted
  | next before makes ih => exact Errand.accounted_of_makes ih makes

end ShardControl
