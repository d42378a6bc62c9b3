import ShardControl.Retry.Policy

/-!
# Rehearsals of schedules

A clock that goes on with every look at it, and that chooses the base of a
pause as its length.
-/

namespace ShardControl

def Clock : Interface where
  Call := ClockCall
  Answer := ClockCall.Answer

instance : Clocked Clock where
  clock call := Program.ask (I := Clock) call

namespace Clock

def answer : (call : ClockCall) → Nat → call.Answer × Nat
  | .now, time => (time, time + 1)
  | .spread delay _, time => (delay, time)

end Clock

namespace RetrySchedule

/-- Ask a schedule for pauses, and count after each how many it granted. -/
def pauses (schedule : RetrySchedule) : Nat → Program Clock (List (Option Nat × Nat))
  | 0 => return []
  | calls + 1 => do
      let (pause, after) ← schedule.next
      return (pause, after.granted) :: (← after.pauses calls)

end RetrySchedule

/-- A schedule from its start on, and the pauses it grants when it is asked several times. -/
def RetryPolicy.rehearse (policy : RetryPolicy) (calls : Nat) :
    RetrySchedule × List (Option Nat × Nat) :=
  let program : Program Clock (RetrySchedule × List (Option Nat × Nat)) := do
    let schedule ← RetrySchedule.start policy
    return (schedule, ← schedule.pauses calls)
  (program.run Clock.answer 0).1

end ShardControl
