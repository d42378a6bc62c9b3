import ShardControl.Proofs.Program.Dialogue
import ShardControl.Retry.Loop

/-!
# Courses of repeated passes

Passes are repeated as a schedule grants pauses.  Whatever is answered, a
repetition ends with the first pass that settles the matter, with a pause that
is not spent in full, or with a pass after which the schedule refuses another
pause.  A schedule counts pauses, so one more pass than that was made.
-/

namespace ShardControl

variable {I : Interface} [Clocked I]

/-! ## Schedules -/

section Clock

variable {kind : Exchange I → Prop}

namespace RetryPolicy

theorem deadline_eq_none {policy : RetryPolicy} (unlimited : policy.budget = none) :
    policy.deadline (I := I) = .done none := by
  rw [deadline, unlimited]
  rfl

/-- Whether and how long to pause is asked of the clock only. -/
theorem keeps_pauseBefore (policy : RetryPolicy) (deadline : Option Nat)
    (clock : ∀ call, (Clocked.clock (I := I) call).Keeps kind) :
    (policy.pauseBefore deadline).Keeps kind := by
  have pause : policy.pause.Keeps kind := by
    by_cases jittered : policy.isJittered = true
    · have asks : policy.pause (I := I) =
          Clocked.clock (ClockCall.spread policy.delay policy.jitter) := if_pos jittered
      rw [asks]
      exact clock _
    · have settles : policy.pause (I := I) = .done policy.delay := if_neg jittered
      rw [settles]
      exact .done _
  cases deadline with
  | none => exact pause.bind fun _ => .done _
  | some deadline => exact pause.bind fun _ => (clock _).bind fun _ => .done _

end RetryPolicy

theorem RetrySchedule.keeps_next (schedule : RetrySchedule)
    (clock : ∀ call, (Clocked.clock (I := I) call).Keeps kind) : schedule.next.Keeps kind := by
  rw [next]
  split
  · exact .done _
  · refine (schedule.policy.keeps_pauseBefore schedule.deadline clock).bind fun granted => ?_
    cases granted with
    | none => exact .done _
    | some pause => exact .done _

end Clock

namespace RetrySchedule

variable {schedule after : RetrySchedule} {asking : List (Exchange I)} {pause : Nat}

theorem granted_eq {made : Nat} (counts : made + schedule.left = schedule.policy.maxAttempts - 1) :
    schedule.granted = made := Nat.sub_eq_of_eq_add counts.symm

theorem granted_grant {left : Nat} (grant : schedule.left = left + 1)
    (limit : schedule.left ≤ schedule.policy.maxAttempts - 1) :
    granted { schedule with left := left } = schedule.granted + 1 := by
  change schedule.policy.maxAttempts - 1 - left =
    schedule.policy.maxAttempts - 1 - schedule.left + 1
  omega

/-- A refusal leaves the schedule as it is, and a grant uses one pause up. -/
theorem next_cases {answer : Option Nat} (asked : Dialogue schedule.next asking (answer, after)) :
    (answer = none ∧ after = schedule ∧
      (schedule.left = 0 ∨ Dialogue (schedule.policy.pauseBefore schedule.deadline) asking none)) ∨
    ∃ pause, answer = some pause ∧ schedule.left = after.left + 1 ∧
      after = { schedule with left := after.left } ∧
      Dialogue (schedule.policy.pauseBefore schedule.deadline) asking (some pause) := by
  obtain ⟨policy, deadline, left⟩ := schedule
  cases left with
  | zero =>
      obtain ⟨_, same⟩ := Dialogue.done_iff.mp asked
      cases same
      exact .inl ⟨rfl, rfl, .inl rfl⟩
  | succ left =>
      obtain ⟨front, back, granted, rfl, before, further⟩ := Dialogue.bind_iff.mp asked
      cases granted with
      | none =>
          obtain ⟨rfl, same⟩ := Dialogue.done_iff.mp further
          cases same
          rw [List.append_nil]
          exact .inl ⟨rfl, rfl, .inr before⟩
      | some pause =>
          obtain ⟨rfl, same⟩ := Dialogue.done_iff.mp further
          cases same
          rw [List.append_nil]
          exact .inr ⟨pause, rfl, rfl, rfl, before⟩

/-- Without a deadline only the number of attempts counts, and the clock is not asked. -/
theorem exhausted_of_refused (unlimited : schedule.deadline = none)
    (refused : Dialogue schedule.next asking (none, after)) :
    schedule.left = 0 ∧ asking = [] := by
  obtain ⟨policy, _, left⟩ := schedule
  subst unlimited
  cases left with
  | zero => exact ⟨rfl, (Dialogue.done_iff.mp refused).1⟩
  | succ left =>
      obtain ⟨front, back, granted, rfl, before, further⟩ := Dialogue.bind_iff.mp refused
      obtain ⟨_, _, pause, _, _, always⟩ := Dialogue.bind_iff.mp before
      obtain ⟨_, rfl⟩ := Dialogue.done_iff.mp always
      cases (Dialogue.done_iff.mp further).2

end RetrySchedule

/-! ## Passes -/

namespace Repeated

variable {ρ α : Type} {work : Repeated I ρ α}

/-- A repetition under a schedule, from the next pass to its end. -/
inductive Course (work : Repeated I ρ α) : RetrySchedule → List (Exchange I) → α → Prop where
  | settled {schedule : RetrySchedule} {pass : List (Exchange I)} {value : α}
      (passed : Dialogue work.pass pass (.inr value)) : Course work schedule pass value
  | refused {schedule : RetrySchedule} {pass asking last : List (Exchange I)} {reason : ρ}
      {value : α} (passed : Dialogue work.pass pass (.inl reason))
      (asked : Dialogue schedule.next asking (none, schedule))
      (ended : Dialogue (work.giveUp reason (schedule.granted + 1)) last value) :
      Course work schedule (pass ++ (asking ++ last)) value
  | stopped {schedule after : RetrySchedule} {pass asking resting : List (Exchange I)} {reason : ρ}
      {pause : Nat} {value : α} (passed : Dialogue work.pass pass (.inl reason))
      (asked : Dialogue schedule.next asking (some pause, after))
      (rested : Dialogue (work.rest reason pause) resting (some value)) :
      Course work schedule (pass ++ (asking ++ resting)) value
  | again {schedule after : RetrySchedule} {pass asking resting later : List (Exchange I)}
      {reason : ρ} {pause : Nat} {value : α} (passed : Dialogue work.pass pass (.inl reason))
      (asked : Dialogue schedule.next asking (some pause, after))
      (rested : Dialogue (work.rest reason pause) resting none)
      (further : Course work after later value) :
      Course work schedule (pass ++ (asking ++ (resting ++ later))) value

variable {policy : RetryPolicy} {told : List (Exchange I)} {value : α}

/-- Passes go by a schedule, which has granted a pause after each of those made before. -/
theorem Course.of_passes {deadline : Option Nat} {made left : Nat}
    (counts : made + left = policy.maxAttempts - 1)
    (dialogue : Dialogue (work.passes policy deadline made left) told value) :
    Course work ⟨policy, deadline, left⟩ told value := by
  have granted : (RetrySchedule.mk policy deadline left).granted = made :=
    RetrySchedule.granted_eq counts
  -- On the pauses left: a granted one leaves fewer of them to the passes after it.
  induction left generalizing made told with
  | zero =>
      obtain ⟨pass, back, reason | result, rfl, passed, further⟩ := Dialogue.bind_iff.mp dialogue
      · have asked : Dialogue (I := I) (RetrySchedule.mk policy deadline 0).next [] (none, _) :=
          .done _
        exact .refused passed asked (granted ▸ further)
      · obtain ⟨rfl, rfl⟩ := Dialogue.done_iff.mp further
        rw [List.append_nil]
        exact .settled passed
  | succ left ih =>
      obtain ⟨pass, back, reason | result, rfl, passed, further⟩ := Dialogue.bind_iff.mp dialogue
      · obtain ⟨front, rest, pause | pause, rfl, before, further⟩ := Dialogue.bind_iff.mp further
        · have asked : Dialogue (RetrySchedule.mk policy deadline (left + 1)).next front
              (none, _) :=
            Dialogue.bind_iff.mpr ⟨front, [], none, (List.append_nil _).symm, before, .done _⟩
          exact .refused passed asked (granted ▸ further)
        · have asked : Dialogue (RetrySchedule.mk policy deadline (left + 1)).next front
              (some pause, ⟨policy, deadline, left⟩) :=
            Dialogue.bind_iff.mpr ⟨front, [], some pause, (List.append_nil _).symm, before, .done _⟩
          obtain ⟨resting, later, rested | result, rfl, rest, further⟩ :=
            Dialogue.bind_iff.mp further
          · have onward : made + 1 + left = policy.maxAttempts - 1 := by omega
            exact .again passed asked rest (ih onward further (RetrySchedule.granted_eq onward))
          · obtain ⟨rfl, rfl⟩ := Dialogue.done_iff.mp further
            rw [List.append_nil]
            exact .stopped passed asked rest
      · obtain ⟨rfl, rfl⟩ := Dialogue.done_iff.mp further
        rw [List.append_nil]
        exact .settled passed

/-- A repetition under a policy sets its deadline and goes on from the first pass. -/
theorem Course.of_under (dialogue : Dialogue (work.under policy) told value) :
    ∃ opening deadline rest, told = opening ++ rest ∧
      Dialogue policy.deadline opening deadline ∧
      Course work ⟨policy, deadline, policy.maxAttempts - 1⟩ rest value := by
  obtain ⟨opening, rest, deadline, rfl, started, further⟩ := Dialogue.bind_iff.mp dialogue
  exact ⟨opening, deadline, rest, rfl, started, .of_passes (Nat.zero_add _) further⟩

end Repeated

end ShardControl
