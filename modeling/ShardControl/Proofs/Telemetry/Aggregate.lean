import ShardControl.Telemetry.Measurement

/-!
# What an aggregate tells

An aggregate that records measurements one after the other counts them, counts
them by kind, and spans their times from the earliest to the latest.
-/

namespace ShardControl

/-- The weights of measurements add up to the number of status changes among them. -/
theorem Measurement.countP_append_singleton (measurements : List Measurement)
    (measurement : Measurement) :
    (measurements ++ [measurement]).countP isStatusChange =
      measurements.countP isStatusChange + measurement.weight := by
  rw [List.countP_append, List.countP_singleton, weight]

theorem Measurement.countP_cons (measurement : Measurement) (rest : List Measurement) :
    (measurement :: rest).countP isStatusChange =
      rest.countP isStatusChange + measurement.weight := by
  rw [List.countP_cons, weight]

namespace Pruned

/-- A bound of the times that one of the measurements has; there is none of no measurements. -/
def Bounds (below : UInt64 → UInt64 → Prop) (measurements : List Measurement) :
    Option UInt64 → Prop
  | .none => measurements = []
  | some time => (∃ measurement ∈ measurements, measurement.time = time) ∧
      ∀ measurement ∈ measurements, below time measurement.time

/-- The aggregate stands for these measurements and for no others. -/
structure Summarizes (pruned : Pruned) (measurements : List Measurement) : Prop where
  count : pruned.count = measurements.length
  statusChanges : pruned.statusChanges = measurements.countP Measurement.isStatusChange
  kinds : ∀ kind, pruned.kinds.get kind =
    measurements.countP fun measurement => measurement.reading.kind = kind
  earliest : Bounds (· ≤ ·) measurements pruned.earliest
  latest : Bounds (· ≥ ·) measurements pruned.latest

theorem summarizes_none : none.Summarizes [] where
  count := rfl
  statusChanges := rfl
  kinds kind := by cases kind <;> rfl
  earliest := rfl
  latest := rfl

/-- The bound of one more measurement is its time or the bound before. -/
theorem Bounds.record {below : UInt64 → UInt64 → Prop} {pick : UInt64 → UInt64 → UInt64}
    {measurements : List Measurement} {bound : Option UInt64}
    (bounds : Bounds below measurements bound) (refl : ∀ time, below time time)
    (trans : ∀ first second third, below first second → below second third → below first third)
    (picks : ∀ first second, (pick first second = first ∨ pick first second = second) ∧
      below (pick first second) first ∧ below (pick first second) second)
    (measurement : Measurement) :
    Bounds below (measurements ++ [measurement])
      (some ((bound.map (pick measurement.time)).getD measurement.time)) := by
  have last : measurement ∈ measurements ++ [measurement] := by simp
  cases bound with
  | none =>
      obtain rfl : measurements = [] := bounds
      refine ⟨⟨measurement, last, rfl⟩, ?_⟩
      intro other member
      obtain rfl := List.mem_singleton.mp member
      exact refl other.time
  | some before =>
      obtain ⟨⟨earlier, inBefore, same⟩, all⟩ := bounds
      obtain ⟨either, left, right⟩ := picks measurement.time before
      refine ⟨?_, ?_⟩
      · rcases either with new | old
        · exact ⟨measurement, last, new.symm⟩
        · exact ⟨earlier, List.mem_append_left _ inBefore, same.trans old.symm⟩
      · intro other member
        rcases List.mem_append.mp member with old | new
        · exact trans _ before _ right (all other old)
        · obtain rfl := List.mem_singleton.mp new
          exact left

theorem min_picks (first second : UInt64) :
    (min first second = first ∨ min first second = second) ∧
      min first second ≤ first ∧ min first second ≤ second :=
  ⟨Std.MinEqOr.min_eq_or first second, Std.min_le_left, Std.min_le_right⟩

theorem max_picks (first second : UInt64) :
    (max first second = first ∨ max first second = second) ∧
      max first second ≥ first ∧ max first second ≥ second := by
  rw [show max first second = if first ≤ second then second else first from rfl]
  rcases UInt64.le_total first second with below | above
  · rw [if_pos below]
    exact ⟨.inr rfl, below, UInt64.le_refl second⟩
  · split
    · next below => exact ⟨.inr rfl, below, UInt64.le_refl second⟩
    · exact ⟨.inl rfl, UInt64.le_refl first, above⟩

theorem Summarizes.record {pruned : Pruned} {measurements : List Measurement}
    (summarizes : pruned.Summarizes measurements) (measurement : Measurement) :
    (pruned.record measurement).Summarizes (measurements ++ [measurement]) where
  count := by
    rw [List.length_append, ← summarizes.count]
    rfl
  statusChanges := by
    rw [Measurement.countP_append_singleton, ← summarizes.statusChanges]
    rfl
  kinds kind := by
    have bumped := KindCounts.get_bump pruned.kinds measurement.reading.kind kind
    rw [List.countP_append, List.countP_singleton, ← summarizes.kinds kind]
    simpa [Pruned.record] using bumped
  earliest := summarizes.earliest.record UInt64.le_refl (fun _ _ _ => UInt64.le_trans) min_picks
    measurement
  latest := summarizes.latest.record UInt64.le_refl
    (fun _ _ _ lower upper => UInt64.le_trans upper lower) max_picks measurement

/-- There is something to tell as soon as one measurement is recorded. -/
theorem Summarizes.exist_iff {pruned : Pruned} {measurements : List Measurement}
    (summarizes : pruned.Summarizes measurements) :
    pruned.exist = true ↔ 0 < measurements.length := by
  rw [exist, summarizes.count, decide_eq_true_eq]

end Pruned

end ShardControl
