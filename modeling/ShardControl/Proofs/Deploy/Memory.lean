import Mathlib.Data.List.Nodup
import ShardControl.Proofs.Deploy.Accounts
import ShardControl.Proofs.Deploy.Independence
import ShardControl.Proofs.Parameters.Sharing

/-!
# Memory handed out by deployments

Each deployment sizes the replica that it adds, from the replicas that the
storage node hosts by then, and no other.  So the heaps on a storage node come
to the sum of the shares that its replicas got one after the other: the first
one the whole room, the second one half of it, and so on.  That is more than
the room as soon as there are two, unless the cap keeps them small.
-/

namespace ShardControl

namespace Store

def heapMb (store : Store) (id : ReplicaId) : Nat :=
  ((store.parameters.replica? id).map fun params => params.heapMb.toNat).getD 0

def heaps (store : Store) (node : StorageNodeId) : List Nat :=
  (store.topology.hostedReplicas node).map store.heapMb

/-- A shard has one replica on a storage node at most. -/
def Spread (store : Store) : Prop :=
  ∀ id shard, store.topology.shard? id = some shard →
    ∀ first ∈ shard.replicas.toList, ∀ second ∈ shard.replicas.toList,
      first.storageNode = second.storageNode → first = second

theorem Bare.spread {store : Store} (bare : store.Bare) : store.Spread := by
  intro id shard present first member
  rw [bare shard (Topology.shard?_eq_some_iff.mp present).1] at member
  cases member

theorem Bare.heaps {store : Store} (bare : store.Bare) (node : StorageNodeId) :
    store.heaps node = [] := by
  have none : store.topology.replicas = [] := List.flatMap_eq_nil_iff.mpr bare
  rw [Store.heaps, Topology.hostedReplicas, none]
  rfl

theorem length_heaps (store : Store) (node : StorageNodeId) :
    (store.heaps node).length = (store.topology.hostedReplicas node).length := List.length_map _

namespace Accounted

variable {store : Store} {shard : Shard} {params : ReplicaParams} {node place : StorageNodeId}

theorem own (accounted : store.Accounted) {home : Shard} {replica : Replica}
    (inTopology : home ∈ store.topology.shards.toList) (member : replica ∈ home.replicas.toList) :
    replica.id.shard = home.id :=
  (accounted home.id home (Topology.shard?_eq_some_iff.mpr ⟨inTopology, rfl⟩) replica member).own

/-- No replica is listed twice. -/
theorem nodup_replicas (accounted : store.Accounted) : store.topology.replicas.Nodup := by
  refine List.nodup_flatMap.mpr ⟨fun shard _ => shard.replicas.nodup_toList, ?_⟩
  refine store.topology.shards.nodup_toList.pairwise_of_forall_ne fun first inFirst second inSecond
    differ replica member other => differ ?_
  have same := (accounted.own inFirst member).symm.trans (accounted.own inSecond other)
  exact KeyedMap.eq_of_key_eq inFirst inSecond same

/-- On a storage node there are no more replicas than there are ids of shards. -/
theorem length_hostedReplicas_le (accounted : store.Accounted) (spread : store.Spread)
    (node : StorageNodeId) :
    (store.topology.hostedReplicas node).length ≤ UInt32.size := by
  let hosted := store.topology.replicas.filter fun replica => replica.storageNode = node
  let homes := hosted.map fun replica => replica.id.shard.num.toNat
  have nodup : homes.Nodup := by
    refine List.Nodup.map_on ?_ (accounted.nodup_replicas.filter _)
    intro first inFirst second inSecond same
    obtain ⟨listed, here⟩ := List.mem_filter.mp inFirst
    obtain ⟨alsoListed, alsoHere⟩ := List.mem_filter.mp inSecond
    obtain ⟨shard, inTopology, member⟩ := Topology.mem_replicas_iff.mp listed
    obtain ⟨home, homeIn, alsoMember⟩ := Topology.mem_replicas_iff.mp alsoListed
    have homeId : home.id = shard.id := by
      rw [← accounted.own inTopology member, ← accounted.own homeIn alsoMember]
      exact congrArg ShardId.mk (UInt32.toNat_inj.mp same).symm
    obtain rfl := KeyedMap.eq_of_key_eq homeIn inTopology homeId
    exact spread _ _ (Topology.shard?_eq_some_iff.mpr ⟨homeIn, rfl⟩) first member second alsoMember
      ((of_decide_eq_true here).trans (of_decide_eq_true alsoHere).symm)
  have subset : homes ⊆ List.range UInt32.size := by
    intro num member
    obtain ⟨replica, _, rfl⟩ := List.mem_map.mp member
    exact List.mem_range.mpr replica.id.shard.num.toNat_lt
  have length := (List.subperm_of_subset nodup subset).length_le
  simpa [homes, hosted, Topology.hostedReplicas] using length

/-! ## One more replica -/

theorem mem_replicas_adding (accounted : store.Accounted)
    (present : store.topology.shard? shard.id = some shard)
    (named : params.id = shard.nextReplica) {replica : Replica} :
    replica ∈ (store.adding shard node params).topology.replicas ↔
      replica = ⟨params.id, node⟩ ∨
        replica ∈ store.topology.replicas ∧ replica.id ≠ params.id := by
  have inTopology := (Topology.shard?_eq_some_iff.mp present).1
  change replica ∈ (store.topology.putShard (shard.addReplica node).2).replicas ↔ _
  rw [Topology.mem_replicas_putShard_iff, Shard.mem_addReplica_iff, named]
  constructor
  · rintro ((rfl | ⟨old, differ⟩) | ⟨other, otherIn, apart, member⟩)
    · exact .inl rfl
    · exact .inr ⟨Topology.mem_replicas_iff.mpr ⟨shard, inTopology, old⟩, differ⟩
    · refine .inr ⟨Topology.mem_replicas_iff.mpr ⟨other, otherIn, member⟩, fun same => apart ?_⟩
      rw [← accounted.own otherIn member, same]
      rfl
  · rintro (rfl | ⟨listed, differ⟩)
    · exact .inl (.inl rfl)
    · obtain ⟨other, otherIn, member⟩ := Topology.mem_replicas_iff.mp listed
      by_cases same : other.id = shard.id
      · obtain rfl := KeyedMap.eq_of_key_eq otherIn inTopology same
        exact .inl (.inr ⟨member, differ⟩)
      · exact .inr ⟨other, otherIn, same, member⟩

/-- The new replica comes to those that have another id. -/
theorem replicas_adding (accounted : store.Accounted)
    (present : store.topology.shard? shard.id = some shard)
    (named : params.id = shard.nextReplica) :
    (store.adding shard params.storageNode params).topology.replicas.Perm
      (⟨params.id, params.storageNode⟩ ::
        store.topology.replicas.filter fun replica => replica.id ≠ params.id) := by
  have fresh : ⟨params.id, params.storageNode⟩ ∉
      store.topology.replicas.filter fun replica => replica.id ≠ params.id := by
    simp
  refine (List.perm_ext_iff_of_nodup (accounted.adding present named).nodup_replicas
    (List.nodup_cons.mpr ⟨fresh, accounted.nodup_replicas.filter _⟩)).mpr fun replica => ?_
  rw [accounted.mem_replicas_adding present named, List.mem_cons, List.mem_filter,
    decide_eq_true_eq]

/-- A new replica comes to the heaps of its storage node, and takes the place of another one only
if that has its id. -/
theorem heaps_adding (accounted : store.Accounted)
    (present : store.topology.shard? shard.id = some shard)
    (named : params.id = shard.nextReplica) (place : StorageNodeId) :
    ∃ kept, kept.Sublist (store.heaps place) ∧
      ((store.adding shard params.storageNode params).heaps place).Perm
        ((if params.storageNode = place then [params.heapMb.toNat] else []) ++ kept) ∧
      ((∀ replica ∈ store.topology.replicas, replica.id ≠ params.id) →
        kept = store.heaps place) := by
  let last := store.adding shard params.storageNode params
  let others := store.topology.replicas.filter fun replica => replica.id ≠ params.id
  let kept := ((others.filter fun replica => replica.storageNode = place).map Replica.id).map
    store.heapMb
  have unchanged : ((others.filter fun replica => replica.storageNode = place).map
      Replica.id).map last.heapMb = kept := by
    refine List.map_congr_left fun id member => ?_
    obtain ⟨replica, found, rfl⟩ := List.mem_map.mp member
    have differ := of_decide_eq_true (List.mem_filter.mp (List.mem_filter.mp found).1).2
    rw [heapMb, heapMb, replica?_adding, if_neg (Ne.symm differ)]
  refine ⟨kept, ?_, ?_, fun fresh => ?_⟩
  · exact ((List.filter_sublist.filter _).map _).map _
  · have perm := (((accounted.replicas_adding present named).filter fun replica =>
      replica.storageNode = place).map Replica.id).map last.heapMb
    refine perm.trans (.of_eq ?_)
    have own : last.heapMb params.id = params.heapMb.toNat := by
      rw [heapMb, replica?_adding, if_pos rfl]
      rfl
    rw [List.filter_cons, ← unchanged]
    by_cases here : params.storageNode = place
    · rw [if_pos (decide_eq_true here), if_pos here, List.map_cons, List.map_cons, own]
      rfl
    · rw [if_neg (by simpa using here), if_neg here]
      rfl
  · have all : others = store.topology.replicas :=
      List.filter_eq_self.mpr fun replica member => decide_eq_true (fresh replica member)
    change ((others.filter _).map _).map _ = _
    rw [all]
    rfl

end Accounted

/-- The storage node of a new replica has none of its shard yet. -/
theorem Spread.adding {store : Store} (spread : store.Spread) {shard : Shard}
    {node : StorageNodeId} (params : ReplicaParams)
    (present : store.topology.shard? shard.id = some shard)
    (absent : shard.replicaOn node = none) : (store.adding shard node params).Spread := by
  intro id changed found first inFirst second inSecond same
  have alone := Shard.replicaOn_eq_none_iff.mp absent
  rw [shard?_adding] at found
  split at found
  · obtain rfl := Option.some.inj found
    rcases Shard.mem_addReplica_iff.mp inFirst with rfl | ⟨oldFirst, _⟩
    · rcases Shard.mem_addReplica_iff.mp inSecond with rfl | ⟨oldSecond, _⟩
      · rfl
      · exact absurd same.symm (alone second oldSecond)
    · rcases Shard.mem_addReplica_iff.mp inSecond with rfl | ⟨oldSecond, _⟩
      · exact absurd same (alone first oldFirst)
      · exact spread _ shard present first oldFirst second oldSecond same
  · exact spread id changed found first inFirst second inSecond same

/-! ## Rooms and shares -/

/-- The room for replicas on a storage node, as it is worked out with words. -/
def wordRoom (store : Store) (node : StorageNodeId) : Nat :=
  match store.parameters.storageNode? node with
  | none => 0
  | some host => (host.wordRoom store.parameters.policies
      (UInt64.ofNat (store.topology.hostedArbiters node).length)).toNat

def heapCap (store : Store) : Nat := store.parameters.policies.maxHeapMb.toNat

/-- The heaps on each storage node have come one after the other, each as a share of the room. -/
structure Shared (store : Store) : Prop where
  accounted : store.Accounted
  spread : store.Spread
  fits : ∀ node, Fits (store.wordRoom node) store.heapCap (store.heaps node)

theorem Bare.shared {store : Store} (bare : store.Bare) : store.Shared :=
  ⟨bare.accounted, bare.spread, fun node => bare.heaps node ▸ .nil _ _⟩

variable {store : Store} {shard : Shard}

/-- A new replica changes nothing that rooms are worked out from. -/
theorem wordRoom_adding (present : store.topology.shard? shard.id = some shard)
    (node place : StorageNodeId) (params : ReplicaParams) :
    (store.adding shard node params).wordRoom place = store.wordRoom place := by
  have arbiters : (store.adding shard node params).topology.hostedArbiters place =
      store.topology.hostedArbiters place := Topology.hostedArbiters_addReplica present node place
  rw [wordRoom, arbiters]
  rfl

end Store

/-! ## One execution -/

namespace DeployTask

variable {task : DeployTask} {slots : ShardSlots} {store : Store} {shard : Shard}
  {params : ReplicaParams}

/-- A new replica gets its share of the room, among all that the storage node hosts with it. -/
theorem heapMb_of_choice (chosen : task.choice slots store = .adds shard params) :
    params.heapMb.toNat = min (store.wordRoom task.storageNode / (UInt64.ofNat
      ((store.adding shard task.storageNode params).heaps task.storageNode).length).toNat)
        store.heapCap := by
  obtain ⟨present, _, draft, made, rfl⟩ := made_of_choice chosen
  obtain ⟨host, _, _, ⟨id, grown⟩, _, listed, _, _, _, grew, _, rfl⟩ :=
    Draft.ofNewReplica_eq_ok_iff.mp made
  obtain ⟨_, found, foundAgain, _, rfl⟩ := Topology.addReplica_eq_ok grew
  obtain rfl := Option.some.inj (present.symm.trans foundAgain)
  have named : host.id = task.storageNode := KeyedMap.key_of_find? listed
  have arbiters := Topology.hostedArbiters_addReplica present task.storageNode task.storageNode
  simp only [Store.length_heaps, Store.wordRoom, listed, ← arbiters]
  rw [← named]
  exact StorageNodeParams.toNat_heapMb host store.parameters.policies _ _ _

/-- The heaps after a deployment: those that stay, and on its storage node the share of the new
replica. -/
theorem heaps_of_choice (shared : store.Shared)
    (chosen : task.choice slots store = .adds shard params) (place : StorageNodeId) :
    ∃ kept, kept.Sublist (store.heaps place) ∧
      ((store.adding shard task.storageNode params).heaps place).Perm
        (if task.storageNode = place then
          min (store.wordRoom place / (kept.length + 1)) store.heapCap :: kept else kept) ∧
      ((∀ replica ∈ store.topology.replicas, replica.id ≠ params.id) →
        kept = store.heaps place) := by
  obtain ⟨present, absent, _⟩ := made_of_choice chosen
  obtain ⟨named, placed⟩ := params_of_choice chosen
  have heap := heapMb_of_choice chosen
  rw [← placed] at heap absent ⊢
  obtain ⟨kept, less, perm, fresh⟩ := shared.accounted.heaps_adding present named place
  refine ⟨kept, less, ?_, fresh⟩
  by_cases here : params.storageNode = place
  · rw [if_pos here] at perm ⊢
    subst here
    have length : ((store.adding shard params.storageNode params).heaps
        params.storageNode).length = kept.length + 1 := perm.length_eq
    have few := (shared.accounted.adding present named).length_hostedReplicas_le
      (shared.spread.adding params present absent) params.storageNode
    rw [← Store.length_heaps, length] at few
    have counted : (UInt64.ofNat (kept.length + 1)).toNat = kept.length + 1 :=
      UInt64.toNat_ofNat_of_lt (Nat.lt_of_le_of_lt few (by decide))
    rw [length, counted] at heap
    rw [← heap]
    exact perm
  · rwa [if_neg here] at perm ⊢

theorem shared_left (shared : store.Shared) : (task.left slots store).Shared := by
  rw [left]
  cases chosen : task.choice slots store with
  | fails reason | adopts replica stored => exact shared
  | adds shard params =>
      obtain ⟨present, absent, _⟩ := made_of_choice chosen
      have accounted : (task.left slots store).Accounted := accounted_left shared.accounted
      rw [left, chosen] at accounted
      change (store.adding shard task.storageNode params).Shared
      refine ⟨accounted, shared.spread.adding params present absent, fun place => ?_⟩
      obtain ⟨kept, less, perm, _⟩ := heaps_of_choice shared chosen place
      have fits := (shared.fits place).sublist less
      rw [Store.wordRoom_adding present]
      refine Fits.perm ?_ perm.symm
      split
      · exact fits.cons (Nat.min_le_right _ _) (Nat.min_le_left _ _)
      · exact fits

/-- Numbers are only given out. -/
theorem room_of_left (room : (task.left slots store).topology.HasRoom) :
    store.topology.HasRoom := by
  rw [left] at room
  cases chosen : task.choice slots store with
  | fails reason | adopts replica stored => rw [chosen] at room; exact room
  | adds shard params =>
      obtain ⟨present, _⟩ := made_of_choice chosen
      rw [chosen] at room
      change ((store.topology.putShard (shard.addReplica task.storageNode).2)).HasRoom at room
      intro other member
      by_cases same : other.id = shard.id
      · obtain rfl := KeyedMap.eq_of_key_eq member (Topology.shard?_eq_some_iff.mp present).1 same
        have grown := room _ (Topology.mem_putShard_iff.mpr (.inl rfl))
        rw [Shard.nextNum_addReplica, Word.toNat_succSat] at grown
        omega
      · exact room other (Topology.mem_putShard_iff.mpr (.inr ⟨member, same⟩))

/-- The heaps come to all of the shares as long as no replica is replaced. -/
theorem sum_left (shared : store.Shared) (room : store.topology.HasRoom) {place : StorageNodeId}
    (sum : (store.heaps place).sum =
      shares (store.wordRoom place) store.heapCap (store.heaps place).length) :
    let last := task.left slots store
    (last.heaps place).sum =
      shares (last.wordRoom place) last.heapCap (last.heaps place).length := by
  intro last
  rw [show last = task.left slots store from rfl, left]
  cases chosen : task.choice slots store with
  | fails reason | adopts replica stored => exact sum
  | adds shard params =>
      obtain ⟨present, _⟩ := made_of_choice chosen
      obtain ⟨named, _⟩ := params_of_choice chosen
      have fresh : ∀ replica ∈ store.topology.replicas, replica.id ≠ params.id := by
        rw [named]
        refine fun replica => Topology.id_ne_of_issued ?_ present (UInt32.le_refl _)
        intro other member replica inOther
        have accounts := shared.accounted other.id other
          (Topology.shard?_eq_some_iff.mpr ⟨member, rfl⟩) replica inOther
        exact ⟨accounts.own, accounts.issued.resolve_right (Nat.ne_of_lt (room other member))⟩
      obtain ⟨kept, _, perm, all⟩ := heaps_of_choice shared chosen place
      obtain rfl := all fresh
      change ((store.adding shard task.storageNode params).heaps place).sum = shares
        ((store.adding shard task.storageNode params).wordRoom place) store.heapCap
        ((store.adding shard task.storageNode params).heaps place).length
      rw [Store.wordRoom_adding present, perm.sum_nat, perm.length_eq]
      split
      · rw [List.sum_cons, List.length_cons, shares, sum, Nat.add_comm]
      · exact sum

end DeployTask

/-! ## All executions -/

def Errand.IsExecution : Errand → Prop
  | execute _ _ => True
  | clean _ _ _ => False

/-- What every execution keeps holds after executions alone. -/
theorem Errands.keeps {start store : Store} {past : List (Store × Errand)}
    {holds : Store → Prop} (errands : Errands start past store)
    (executions : ∀ step ∈ past, step.2.IsExecution) (first : holds start)
    (kept : ∀ (task : DeployTask) (slots : ShardSlots) (found : Store), holds found →
      holds (task.left slots found)) : holds store := by
  induction errands with
  | none => exact first
  | @next past found last errand before makes ih =>
      obtain ⟨execution, earlier⟩ := List.forall_mem_cons.mp executions
      cases errand with
      | execute task slots =>
          obtain rfl := DeployTask.makes_execute_iff.mp makes
          exact kept task slots found (ih earlier)
      | clean node id deployed => cases execution

theorem Errands.shared {start store : Store} {past : List (Store × Errand)} (bare : start.Bare)
    (errands : Errands start past store) (executions : ∀ step ∈ past, step.2.IsExecution) :
    store.Shared :=
  errands.keeps executions bare.shared fun _ _ _ => DeployTask.shared_left

theorem Errands.sum_heaps {start store : Store} {past : List (Store × Errand)} (bare : start.Bare)
    (errands : Errands start past store) (executions : ∀ step ∈ past, step.2.IsExecution)
    (room : store.topology.HasRoom) (node : StorageNodeId) :
    (store.heaps node).sum =
      shares (store.wordRoom node) store.heapCap (store.heaps node).length := by
  have both : store.Shared ∧ (store.topology.HasRoom → (store.heaps node).sum =
      shares (store.wordRoom node) store.heapCap (store.heaps node).length) := by
    apply errands.keeps executions
    case first =>
      refine ⟨bare.shared, fun _ => ?_⟩
      rw [bare.heaps]
      rfl
    case kept =>
      rintro task slots found ⟨shared, sum⟩
      refine ⟨DeployTask.shared_left shared, fun room => ?_⟩
      have roomBefore := DeployTask.room_of_left room
      exact DeployTask.sum_left shared roomBefore (sum roomBefore)
  exact both.2 room

/-- After executions alone, the heaps on a storage node come to no more than the shares of its
room that replicas get one after the other, and to all of them as long as shards have numbers and
words hold the memory.  So the memory is kept where one replica is hosted, or where the cap keeps
them all within the room. -/
theorem heaps_le_shares {start store : Store} {past : List (Store × Errand)} (bare : start.Bare)
    (errands : Errands start past store) (executions : ∀ step ∈ past, step.2.IsExecution)
    {node : StorageNodeId} {host : StorageNodeParams}
    (listed : store.parameters.storageNode? node = some host)
    (counted : (store.topology.hostedArbiters node).length < UInt64.size) :
    let policies := store.parameters.policies
    let arbiters := (store.topology.hostedArbiters node).length
    let replicas := (store.topology.hostedReplicas node).length
    let memory := host.memoryMb.toNat * policies.replicaHeapPercent.toNat
    let room := host.roomMb policies arbiters
    (store.heaps node).sum ≤ shares room policies.maxHeapMb.toNat replicas ∧
    (memory < UInt64.size → store.topology.HasRoom →
      (store.heaps node).sum = shares room policies.maxHeapMb.toNat replicas) ∧
    (policies.arbiterHeapMb.toNat * arbiters ≤ memory / 100 →
      replicas ≤ 1 ∨ replicas * policies.maxHeapMb.toNat ≤ room →
        (store.heaps node).sum + policies.arbiterHeapMb.toNat * arbiters ≤ memory / 100) := by
  intro policies arbiters replicas memory room
  have counts : (UInt64.ofNat arbiters).toNat = arbiters := UInt64.toNat_ofNat_of_lt counted
  have words : store.wordRoom node = (host.wordRoom policies (UInt64.ofNat arbiters)).toNat := by
    simp only [Store.wordRoom, listed]
    rfl
  have length : (store.heaps node).length = replicas := store.length_heaps node
  have bound : (store.heaps node).sum ≤ shares room policies.maxHeapMb.toNat replicas := by
    have fits := ((errands.shared bare executions).fits node).sum_le
    have less : store.wordRoom node ≤ room := by
      have le := host.wordRoom_le policies (UInt64.ofNat arbiters)
      rwa [counts, ← words] at le
    rw [length] at fits
    exact Nat.le_trans fits (shares_mono less _ _)
  refine ⟨bound, fun small hasRoom => ?_, fun fit few => ?_⟩
  · have sum := errands.sum_heaps bare executions hasRoom node
    rw [length, words, host.wordRoom_eq policies _ small, counts] at sum
    exact sum
  · have low := shares_le_room few
    have total : room + policies.arbiterHeapMb.toNat * arbiters = memory / 100 :=
      Nat.sub_add_cancel fit
    omega

def StorageNodeParams.roomy : StorageNodeParams := ⟨⟨1⟩, "host", ⟨5010, 5012⟩, 10000, 4, 1⟩

/-- A store with two empty shards and the one storage node. -/
def Store.roomy : Store :=
  .start
    { Store.small.topology with shards := KeyedMap.ofList [.fresh ⟨1⟩, .fresh ⟨2⟩] }
    { Store.small.parameters with storageNodes := KeyedMap.ofList [.roomy] }

def DeployTask.second : DeployTask :=
  { DeployTask.small with key := 2, target := .existing ⟨2⟩ }

def Store.occupied : Store := DeployTask.small.left .empty .roomy

def Store.crowded : Store := DeployTask.second.left .empty .occupied

theorem errands_crowded : Errands .roomy
    [(.occupied, .execute .second .empty), (.roomy, .execute .small .empty)] .crowded :=
  .next (.next .none (DeployTask.makes_execute_iff.mpr rfl)) (DeployTask.makes_execute_iff.mpr rfl)

theorem executions_crowded : ∀ step ∈ [(Store.occupied, Errand.execute .second .empty),
    (Store.roomy, .execute .small .empty)], step.2.IsExecution :=
  List.forall_mem_cons.mpr ⟨trivial, List.forall_mem_singleton.mpr trivial⟩

/-- The first replica got all of the room, and the second one half of it. -/
theorem sum_heaps_crowded :
    Store.roomy.Bare ∧ (Store.crowded.heaps ⟨1⟩).sum = shares 8500 32767 2 := by
  have bare : Store.roomy.Bare := by decide
  have listed : Store.crowded.parameters.storageNode? ⟨1⟩ = some .roomy := by decide +kernel
  have counted : (Store.crowded.topology.hostedArbiters ⟨1⟩).length < UInt64.size := by
    decide +kernel
  obtain ⟨_, sum, _⟩ :=
    heaps_le_shares bare errands_crowded executions_crowded listed counted
  exact ⟨bare, sum (by decide +kernel) (by decide +kernel)⟩

/-- Together that is more than the policies leave of the memory. -/
theorem exists_heaps_gt_memory :
    ∃ past last, Store.roomy.Bare ∧ Errands .roomy past last ∧
      (∀ step ∈ past, step.2.IsExecution) ∧
      last.parameters.storageNode? ⟨1⟩ = some .roomy ∧
      last.topology.hostedArbiters ⟨1⟩ = [] ∧
      last.heaps ⟨1⟩ = [8500, 4250] ∧
      StorageNodeParams.roomy.memoryMb.toNat * last.parameters.policies.replicaHeapPercent.toNat /
        100 < (last.heaps ⟨1⟩).sum := by
  refine ⟨_, .crowded, by decide, errands_crowded, executions_crowded, ?_, ?_, ?_, ?_⟩
  all_goals decide +kernel

end ShardControl
