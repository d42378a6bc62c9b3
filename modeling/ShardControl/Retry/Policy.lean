import ShardControl.Program.Basic

/-!
# Retry policies

A policy bounds how often something is attempted, by a number of attempts or
by a time budget, and says how long to pause in between.  A pause may be
spread at random around its base.  Times are in nanoseconds.
-/

namespace ShardControl

inductive ClockCall where
  | now
  | spread (delay : Nat) (fraction : Rat)

/-- The present time, or a delay up to the fraction shorter or longer than the given one. -/
def ClockCall.Answer (_ : ClockCall) : Type := Nat

class Clocked (I : Interface) where
  clock : (call : ClockCall) → Program I call.Answer

def ofMillis (millis : Nat) : Nat := millis * 1000000

def toMillis (nanos : Nat) : Nat := nanos / 1000000

structure RetryPolicy where
  maxAttempts : Nat
  delay : Nat
  jitter : Rat
  budget : Option Nat

namespace RetryPolicy

/-- A number of attempts that is never reached. -/
def unbounded : Nat := UInt64.size - 1

/-- At least one attempt and at most the given number. -/
def fixed (attempts delay : Nat) : RetryPolicy where
  maxAttempts := max attempts 1
  delay := delay
  jitter := 0
  budget := none

/-- Attempts until a time budget is spent; without any budget a single one. -/
def untilDeadline (delay budget : Nat) : RetryPolicy :=
  if budget = 0 then fixed 1 delay
  else { fixed unbounded delay with budget := some budget }

/-- Spread the pauses by a fraction, which is brought between zero and one. -/
def withJitter (policy : RetryPolicy) (fraction : Rat) : RetryPolicy :=
  { policy with jitter := if fraction < 0 then 0 else if 1 < fraction then 1 else fraction }

def isJittered (policy : RetryPolicy) : Bool := policy.delay ≠ 0 && policy.jitter ≠ 0

variable {I : Interface} [Clocked I]

/-- The time at which a budget that starts now is spent. -/
def deadline (policy : RetryPolicy) : Program I (Option Nat) :=
  match policy.budget with
  | none => return none
  | some budget => do
      let started : Nat ← Clocked.clock .now
      return some (started + budget)

def pause (policy : RetryPolicy) : Program I Nat :=
  if policy.isJittered then Clocked.clock (.spread policy.delay policy.jitter)
  else return policy.delay

/-- The next pause, unless it would end after the deadline. -/
def pauseBefore (policy : RetryPolicy) : Option Nat → Program I (Option Nat)
  | none => do return some (← policy.pause)
  | some deadline => do
      let pause ← policy.pause
      let now : Nat ← Clocked.clock .now
      return if now + pause ≤ deadline then some pause else none

end RetryPolicy

/-- One way through a policy, with the number of pauses it may still grant. -/
structure RetrySchedule where
  policy : RetryPolicy
  deadline : Option Nat
  left : Nat

namespace RetrySchedule

variable {I : Interface} [Clocked I]

def start (policy : RetryPolicy) : Program I RetrySchedule := do
  let deadline ← policy.deadline
  return ⟨policy, deadline, policy.maxAttempts - 1⟩

/-- The pauses granted so far; one more attempt than that was made. -/
def granted (schedule : RetrySchedule) : Nat := schedule.policy.maxAttempts - 1 - schedule.left

/-- Ask for the next pause. A refusal leaves the schedule as it is. -/
def next (schedule : RetrySchedule) : Program I (Option Nat × RetrySchedule) :=
  match schedule.left with
  | 0 => return (none, schedule)
  | left + 1 => do
      match ← schedule.policy.pauseBefore schedule.deadline with
      | none => return (none, schedule)
      | some pause => return (some pause, { schedule with left := left })

end RetrySchedule

end ShardControl
