import ShardControl.Retry.Policy

/-!
# Repeated passes

A pass either settles a matter or gives a reason to try again.  Passes are
repeated under a retry policy until one settles it or the policy grants no
further pause.
-/

namespace ShardControl

/-- What is repeated, and what is done around the repetitions. -/
structure Repeated (I : Interface) (ρ α : Type) where
  /-- One pass: a result, or why to try again. -/
  pass : Program I (ρ ⊕ α)
  /-- Spend a granted pause; a result ends the repetition. -/
  rest : ρ → Nat → Program I (Option α)
  /-- Give up after a number of passes. -/
  giveUp : ρ → Nat → Program I α

namespace Repeated

variable {I : Interface} [Clocked I] {ρ α : Type}

/-- Go on after some passes, with a bound on the pauses that may still be granted. -/
def passes (work : Repeated I ρ α) (policy : RetryPolicy) (deadline : Option Nat) :
    (made left : Nat) → Program I α
  | made, 0 => do
      match ← work.pass with
      | .inr result => return result
      | .inl reason => work.giveUp reason (made + 1)
  | made, left + 1 => do
      match ← work.pass with
      | .inr result => return result
      | .inl reason =>
          match ← policy.pauseBefore deadline with
          | none => work.giveUp reason (made + 1)
          | some pause =>
              match ← work.rest reason pause with
              | some result => return result
              | none => work.passes policy deadline (made + 1) left

/-- Make passes under a policy whose budget runs from now. -/
def under (work : Repeated I ρ α) (policy : RetryPolicy) : Program I α := do
  let deadline ← policy.deadline
  work.passes policy deadline 0 (policy.maxAttempts - 1)

end Repeated

end ShardControl
