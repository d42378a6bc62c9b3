import ShardControl.Proofs.Deploy.Conduct
import ShardControl.Retry.Loop

/-!
# Conduct of repeated passes

What is true whenever a pass begins stays true through the pauses between
passes, however many of them a policy grants.
-/

namespace ShardControl

namespace Obeys

variable {world : World} {rule : List Moment → Moment → Prop}

section Clock

variable {waits : Scene → Prop}

/-- The clock may be asked at any time, and asking it changes nothing. -/
structure Unclocked (world : World) (rule : List Moment → Moment → Prop) (waits : Scene → Prop) :
    Prop where
  kept : ∀ older store call answer, rule older ⟨store, .clock call, answer⟩
  stays : ∀ scene store call answer, waits scene → world.may scene.store store →
    waits ⟨store, ⟨store, .clock call, answer⟩ :: scene.past⟩

theorem clock (unclocked : Unclocked world rule waits) (call : ClockCall) {scene : Scene}
    (waiting : waits scene) :
    Obeys world rule (fun _ last => waits last) (Clocked.clock (I := Control) call) scene := by
  intro store reached _ answer _
  exact ⟨unclocked.kept _ _ _ _, unclocked.stays _ _ _ _ waiting reached⟩

theorem deadline (unclocked : Unclocked world rule waits) (policy : RetryPolicy) {scene : Scene}
    (waiting : waits scene) :
    Obeys world rule (fun found last => (policy.budget = none → found = none) ∧ waits last)
      (policy.deadline (I := Control)) scene := by
  rw [RetryPolicy.deadline]
  split
  · exact ⟨fun _ => rfl, waiting⟩
  · next budget limited =>
      apply bind
      refine (clock unclocked .now waiting).mono (fun _ _ _ => id) fun _ _ still => ⟨?_, still⟩
      intro unlimited
      rw [limited] at unlimited
      cases unlimited

theorem pause (unclocked : Unclocked world rule waits) (policy : RetryPolicy) {scene : Scene}
    (waiting : waits scene) :
    Obeys world rule (fun _ last => waits last) (policy.pause (I := Control)) scene := by
  by_cases jittered : policy.isJittered = true
  · have asks : policy.pause (I := Control) =
        Clocked.clock (ClockCall.spread policy.delay policy.jitter) := if_pos jittered
    rw [asks]
    exact clock unclocked _ waiting
  · have settles : policy.pause (I := Control) = .done policy.delay := if_neg jittered
    rw [settles]
    exact waiting

/-- Without a deadline every pause is granted. -/
theorem pauseBefore (unclocked : Unclocked world rule waits) (policy : RetryPolicy)
    (deadline : Option Nat) {scene : Scene} (waiting : waits scene) :
    Obeys world rule (fun granted last => (granted = none → deadline ≠ none) ∧ waits last)
      (policy.pauseBefore (I := Control) deadline) scene := by
  cases deadline with
  | none =>
      apply bind
      refine (pause unclocked policy waiting).mono (fun _ _ _ => id) fun _ _ still => ⟨?_, still⟩
      intro refused
      cases refused
  | some deadline =>
      apply bind
      refine (pause unclocked policy waiting).mono (fun _ _ _ => id) ?_
      intro length last waiting
      apply bind
      refine (clock unclocked .now waiting).mono (fun _ _ _ => id) fun _ _ still => ⟨?_, still⟩
      intro _ none
      cases none

end Clock

variable {policy : RetryPolicy} {waits overtaken : Nat → Scene → Prop} {ρ α : Type}
  {work : Repeated Control ρ α} {post : α → Scene → Prop}

/-- A pass ends the repetition as said, or it is overtaken and the next one starts in the same
way. What is true then may depend on the number of passes made. -/
structure Repeats (world : World) (rule : List Moment → Moment → Prop) (policy : RetryPolicy)
    (waits overtaken : Nat → Scene → Prop) (post : α → Scene → Prop) (work : Repeated Control ρ α) :
    Prop where
  before : Unclocked world rule (waits 0)
  between : ∀ made, Unclocked world rule (overtaken made)
  pass : ∀ made scene, waits made scene → Obeys world rule (fun result last => match result with
    | .inl _ => overtaken (made + 1) last
    | .inr value => post value last) work.pass scene
  rest : ∀ made reason pause scene, overtaken made scene →
    Obeys world rule (fun result last => match result with
      | none => waits made last
      | some value => post value last) (work.rest reason pause) scene
  /-- Unless the time is up, all passes are made. -/
  giveUp : ∀ made reason scene, (policy.budget = none → policy.maxAttempts ≤ made) →
    overtaken made scene → Obeys world rule post (work.giveUp reason made) scene

theorem passes (repeats : Repeats world rule policy waits overtaken post work)
    {deadline : Option Nat} (timed : policy.budget = none → deadline = none) {made left : Nat}
    (limit : policy.maxAttempts ≤ made + left + 1) {scene : Scene} (waiting : waits made scene) :
    Obeys world rule post (work.passes policy deadline made left) scene := by
  -- On the passes left: whatever an overtaken pass has done, the next one begins with `waits`.
  induction left generalizing made scene with
  | zero =>
      apply bind
      refine (repeats.pass made scene waiting).mono (fun _ _ _ => id) ?_
      rintro (reason | value) last reaches
      · exact repeats.giveUp (made + 1) reason last (fun _ => limit) reaches
      · exact reaches
  | succ left ih =>
      apply bind
      refine (repeats.pass made scene waiting).mono (fun _ _ _ => id) ?_
      rintro (reason | value) last reaches
      · apply bind
        refine (pauseBefore (repeats.between (made + 1)) policy deadline reaches).mono
          (fun _ _ _ => id) ?_
        rintro (none | length) paused ⟨late, still⟩
        · exact repeats.giveUp (made + 1) reason paused
            (fun unlimited => absurd (timed unlimited) (late rfl)) still
        · apply bind
          refine (repeats.rest (made + 1) reason length paused still).mono (fun _ _ _ => id) ?_
          rintro (none | value) rested further
          · exact ih (by omega) further
          · exact further
      · exact reaches

/-- Passes under a policy, each of them begun in the same circumstances. -/
theorem under (repeats : Repeats world rule policy waits overtaken post work) {scene : Scene}
    (waiting : waits 0 scene) :
    Obeys world rule post (work.under policy) scene := by
  apply bind
  refine (deadline repeats.before policy waiting).mono (fun _ _ _ => id) ?_
  rintro deadline last ⟨timed, waiting⟩
  exact passes repeats timed (by omega) waiting

end Obeys

end ShardControl
