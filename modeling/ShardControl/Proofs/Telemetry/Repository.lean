import ShardControl.Proofs.Telemetry.Aggregate
import ShardControl.Telemetry.Repository
import Mathlib.Algebra.GroupWithZero.Nat
import Mathlib.Data.List.Forall2

/-!
# Repositories as lists

Producers add measurements to a repository and collectors drain it, each in one
step.  However their calls are mixed, the repository stands for the list of the
measurements that were added since the last drain: it holds the newest of them
as they are, and an aggregate of the others.
-/

namespace ShardControl

/-- The newest measurements as they are, and the older ones as one aggregate. -/
structure Snapshot.Covers (capacity : Nat) (batch : List Measurement) (snapshot : Snapshot) :
    Prop where
  measurements : snapshot.measurements = batch.drop (batch.length - capacity)
  statusChanges : snapshot.statusChanges =
    snapshot.measurements.countP Measurement.isStatusChange
  /-- Nothing is aggregated as long as everything fits. -/
  absent_iff : snapshot.pruned = none ↔ batch.length ≤ capacity
  aggregate : ∀ pruned, snapshot.pruned = some pruned →
    pruned.Summarizes (batch.take (batch.length - capacity))

/-- If every snapshot counts some of the measurements in its batch, all of them together count
those in the batches. -/
theorem sum_eq_countP_flatten {counts : Measurement → Bool} {figure : Snapshot → Nat}
    {batches : List (List Measurement)} {snapshots : List Snapshot}
    (each : List.Forall₂ (fun batch snapshot => figure snapshot = batch.countP counts) batches
      snapshots) :
    (snapshots.map figure).sum = batches.flatten.countP counts := by
  induction each with
  | nil => rfl
  | cons first _ ih =>
      rw [List.map_cons, List.sum_cons, ih, first, List.flatten_cons, List.countP_append]

namespace Repository

inductive Call where
  | add (measurement : Measurement)
  | drain

def Call.measurement? : Call → Option Measurement
  | add measurement => some measurement
  | drain => none

/-- The snapshots that calls hand out, one for each drain, and the repository they leave. -/
def serve (repository : Repository) : List Call → List Snapshot × Repository
  | [] => ([], repository)
  | .add measurement :: rest => serve (repository.add measurement) rest
  | .drain :: rest =>
      let later := serve repository.drain.2 rest
      (repository.drain.1 :: later.1, later.2)

/-- What is added between the drains, one list for each drain, and what is added after the last. -/
def batches (pending : List Measurement) : List Call → List (List Measurement) × List Measurement
  | [] => ([], pending)
  | .add measurement :: rest => batches (pending ++ [measurement]) rest
  | .drain :: rest =>
      let later := batches [] rest
      (pending :: later.1, later.2)

theorem flatten_batches (pending : List Measurement) (calls : List Call) :
    (batches pending calls).1.flatten ++ (batches pending calls).2 =
      pending ++ calls.filterMap Call.measurement? := by
  induction calls generalizing pending with
  | nil => simp [batches]
  | cons call rest ih =>
      cases call with
      | add measurement => simp [batches, ih, Call.measurement?]
      | drain => simp [batches, ih, Call.measurement?, List.filterMap_cons]

/-- Everything that an addition can do. -/
theorem add_cases (repository : Repository) (measurement : Measurement) :
    (repository.size < repository.capacity ∧ (repository.live.push measurement).1 = none ∧
      (repository.add measurement).live.toList = repository.live.toList ++ [measurement] ∧
      (repository.add measurement).statusChanges =
        repository.statusChanges + measurement.weight ∧
      (repository.add measurement).pruned = repository.pruned) ∨
    ∃ oldest rest, repository.size = repository.capacity ∧
      repository.live.toList = oldest :: rest ∧
      (repository.live.push measurement).1 = some oldest ∧
      (repository.add measurement).live.toList = rest ++ [measurement] ∧
      (repository.add measurement).statusChanges =
        repository.statusChanges + measurement.weight - oldest.weight ∧
      (repository.add measurement).pruned = repository.pruned.record oldest := by
  have fits : repository.size ≤ repository.capacity := repository.live.size_le
  rcases Nat.lt_or_eq_of_le fits with room | full
  · obtain ⟨handed, items⟩ := Ring.push_of_lt room measurement
    refine .inl ⟨room, handed, ?_⟩
    rw [add]
    generalize repository.live.push measurement = pushed at handed items
    obtain ⟨out, ring⟩ := pushed
    obtain rfl : out = none := handed
    exact ⟨items, rfl, rfl⟩
  · obtain ⟨oldest, rest, before, handed, items⟩ := Ring.push_of_full full measurement
    refine .inr ⟨oldest, rest, full, before, handed, ?_⟩
    rw [add]
    generalize repository.live.push measurement = pushed at handed items
    obtain ⟨out, ring⟩ := pushed
    obtain rfl : out = some oldest := handed
    exact ⟨items, rfl, rfl⟩

/-- A drain after a measurement leaves what a drain before it would have left. -/
theorem drain_add (repository : Repository) (measurement : Measurement) :
    (repository.add measurement).drain.2 = repository.drain.2 := by
  rw [add]
  split <;> rfl

theorem capacity_add (repository : Repository) (measurement : Measurement) :
    (repository.add measurement).capacity = repository.capacity := by
  rw [add]
  split <;> rfl

/-- The repository stands for a list of measurements, the first of which it has dropped. -/
structure Keeps (repository : Repository) (dropped pending : List Measurement) : Prop where
  pending_eq : pending = dropped ++ repository.live.toList
  statusChanges : repository.statusChanges =
    repository.live.toList.countP Measurement.isStatusChange
  pruned : repository.pruned.Summarizes dropped
  /-- Nothing is dropped before the repository is full. -/
  full : dropped ≠ [] → repository.size = repository.capacity

theorem keeps_fresh (resource : Option ResourceId) (capacity : Nat) :
    (fresh resource capacity).Keeps [] [] where
  pending_eq := rfl
  statusChanges := rfl
  pruned := Pruned.summarizes_none
  full dropped := absurd rfl dropped

theorem keeps_drain (repository : Repository) : repository.drain.2.Keeps [] [] where
  pending_eq := rfl
  statusChanges := rfl
  pruned := Pruned.summarizes_none
  full dropped := absurd rfl dropped

namespace Keeps

variable {repository : Repository} {dropped pending : List Measurement}

theorem size_eq (keeps : repository.Keeps dropped pending) :
    repository.size = min repository.capacity pending.length := by
  have fits : repository.size ≤ repository.capacity := repository.live.size_le
  have count : pending.length = dropped.length + repository.size := by
    rw [keeps.pending_eq, List.length_append, size, Ring.size_eq_length]
  rcases dropped with _ | ⟨first, rest⟩
  · simp only [List.length_nil] at count
    omega
  · have full := keeps.full (List.cons_ne_nil first rest)
    omega

/-- What is dropped is what does not fit. -/
theorem length_dropped (keeps : repository.Keeps dropped pending) :
    dropped.length = pending.length - repository.capacity := by
  have size := keeps.size_eq
  have count : pending.length = dropped.length + repository.size := by
    rw [keeps.pending_eq, List.length_append, Repository.size, Ring.size_eq_length]
  omega

/-- The counter has counted every status change that it takes back. -/
theorem weight_le (keeps : repository.Keeps dropped pending) {measurement oldest : Measurement}
    (evicted : (repository.live.push measurement).1 = some oldest) :
    oldest.weight ≤ repository.statusChanges + measurement.weight := by
  rcases repository.add_cases measurement with ⟨-, kept, -⟩ | ⟨first, rest, -, items, handed, -⟩
  · rw [kept] at evicted
    cases evicted
  · obtain rfl : first = oldest := Option.some.inj (handed.symm.trans evicted)
    rw [keeps.statusChanges, items, Measurement.countP_cons]
    omega

theorem add (keeps : repository.Keeps dropped pending) (measurement : Measurement) :
    ∃ outdated, (repository.add measurement).Keeps outdated (pending ++ [measurement]) := by
  rcases repository.add_cases measurement with ⟨room, -, items, counted, aggregate⟩ |
    ⟨oldest, rest, full, before, handed, items, counted, aggregate⟩
  · -- Nothing has been dropped from a repository with room.
    obtain rfl : dropped = [] := by
      by_contra some
      exact Nat.ne_of_lt room (keeps.full some)
    refine ⟨[], ?_, ?_, ?_, fun some => absurd rfl some⟩
    · rw [items, keeps.pending_eq]
      rfl
    · rw [items, counted, keeps.statusChanges, Measurement.countP_append_singleton]
    · rw [aggregate]
      exact keeps.pruned
  · refine ⟨dropped ++ [oldest], ?_, ?_, ?_, fun _ => ?_⟩
    · rw [items, keeps.pending_eq, before]
      simp
    · have solvent := keeps.weight_le handed
      rw [keeps.statusChanges, before, Measurement.countP_cons] at solvent
      rw [items, counted, keeps.statusChanges, before, Measurement.countP_cons,
        Measurement.countP_append_singleton]
      omega
    · rw [aggregate]
      exact keeps.pruned.record oldest
    · have same : repository.live.toList.length = rest.length + 1 := by
        rw [before, List.length_cons]
      rw [capacity_add, ← full, size, size, Ring.size_eq_length, Ring.size_eq_length, items, same,
        List.length_append, List.length_singleton]

/-- The next drain takes all that is pending. -/
theorem drain (keeps : repository.Keeps dropped pending) :
    repository.drain.1.Covers repository.capacity pending := by
  have count := keeps.length_dropped
  refine ⟨?_, keeps.statusChanges, ?_, ?_⟩
  · rw [← count, keeps.pending_eq, List.drop_left]
    rfl
  · change (if repository.pruned.exist then some repository.pruned else none) = none ↔ _
    have exist := keeps.pruned.exist_iff
    rw [count, Nat.sub_pos_iff_lt] at exist
    split
    · rename_i some
      exact ⟨nofun, fun fits => absurd (exist.mp some) (Nat.not_lt.mpr fits)⟩
    · rename_i none
      exact ⟨fun _ => Nat.not_lt.mp fun more => none (exist.mpr more), fun _ => rfl⟩
  · intro pruned held
    obtain rfl : repository.pruned = pruned := by
      change (if repository.pruned.exist then some repository.pruned else none) =
        some pruned at held
      split at held
      · exact Option.some.inj held
      · cases held
    rw [← count, keeps.pending_eq, List.take_left]
    exact keeps.pruned

/-- Calls keep what a repository stands for, and every drain among them takes its batch. -/
theorem serve (keeps : repository.Keeps dropped pending) (calls : List Call) :
    (∃ outdated, (repository.serve calls).2.Keeps outdated (batches pending calls).2) ∧
      List.Forall₂ (Snapshot.Covers repository.capacity) (batches pending calls).1
        (repository.serve calls).1 := by
  induction calls generalizing repository dropped pending with
  | nil => exact ⟨⟨dropped, keeps⟩, .nil⟩
  | cons call rest ih =>
      cases call with
      | add measurement =>
          obtain ⟨outdated, added⟩ := keeps.add measurement
          have later := ih added
          rw [capacity_add] at later
          exact later
      | drain =>
          have later := ih repository.keeps_drain
          exact ⟨later.1, .cons keeps.drain later.2⟩

end Keeps

theorem drain_serve (repository : Repository) (calls : List Call) :
    (repository.serve calls).2.drain.2 = repository.drain.2 := by
  induction calls generalizing repository with
  | nil => rfl
  | cons call rest ih =>
      cases call with
      | add measurement => exact (ih (repository.add measurement)).trans (drain_add ..)
      | drain => exact ih repository.drain.2

/-- What calls on a new repository come to, as told by the measurements that they add. -/
structure Accounts (resource : Option ResourceId) (capacity : Nat) (calls : List Call) : Prop where
  /-- Every measurement belongs to one drain or waits for the next one. -/
  flatten_batches : (batches [] calls).1.flatten ++ (batches [] calls).2 =
    calls.filterMap Call.measurement?
  taken : List.Forall₂ (Snapshot.Covers (max capacity 1)) (batches [] calls).1
    ((fresh resource capacity).serve calls).1
  size_eq : ((fresh resource capacity).serve calls).2.size =
    min (max capacity 1) (batches [] calls).2.length
  next : ((fresh resource capacity).serve calls).2.drain.1.Covers (max capacity 1)
    (batches [] calls).2
  emptied : ((fresh resource capacity).serve calls).2.drain.2 = fresh resource capacity
  /-- The counter of status changes can always pay for the measurement that gives way. -/
  weight_le : ∀ measurement oldest,
    (((fresh resource capacity).serve calls).2.live.push measurement).1 = some oldest →
      oldest.weight ≤
        ((fresh resource capacity).serve calls).2.statusChanges + measurement.weight

theorem serve_fresh_accounts (resource : Option ResourceId) (capacity : Nat)
    (calls : List Call) : Accounts resource capacity calls := by
  have emptied : ((fresh resource capacity).serve calls).2.drain.2 = fresh resource capacity :=
    drain_serve (fresh resource capacity) calls
  have holds : ((fresh resource capacity).serve calls).2.capacity = max capacity 1 :=
    congrArg Repository.capacity emptied
  obtain ⟨⟨dropped, keeps⟩, taken⟩ := (keeps_fresh resource capacity).serve calls
  refine ⟨flatten_batches [] calls, taken, ?_, ?_, emptied, ?_⟩
  · rw [keeps.size_eq, holds]
  · rw [← holds]
    exact keeps.drain
  · intro measurement oldest evicted
    exact keeps.weight_le evicted

end Repository

end ShardControl
