import Mathlib.Data.List.Chain
import ShardControl.Proofs.Retry.Course
import ShardControl.Repair.Cleanup

/-!
# Attempts of a cleanup job

A job looks whether the plan is cancelled, has the replica checked and applies
the remedy that this check names.  Whatever the checker answers and whenever
the plan is cancelled, this is repeated until an answer or the cancellation
settles it or the schedule refuses another pause.
-/

namespace ShardControl

namespace Cleanup

def said (call : CleanupCall) (answer : call.Answer) : Exchange Cleanup := ⟨call, answer⟩

/-- The plan is seen cancelled, between two attempts or in a pause. -/
def interrupts : Exchange Cleanup → Bool
  | ⟨CleanupCall.isCancelled, answer⟩ => answer
  | ⟨CleanupCall.sleep _, answer⟩ => answer
  | _ => false

def consults : Exchange Cleanup → Bool
  | ⟨CleanupCall.check .., _⟩ => true
  | ⟨CleanupCall.apply _, _⟩ => true
  | _ => false

def checks : Exchange Cleanup → Bool
  | ⟨CleanupCall.check .., _⟩ => true
  | _ => false

def pauses : Exchange Cleanup → Bool
  | ⟨CleanupCall.sleep _, _⟩ => true
  | _ => false

def reports : Exchange Cleanup → Bool
  | ⟨CleanupCall.log _, _⟩ => true
  | _ => false

/-- The checker fails, or it says that the remedy took effect. -/
def concludes : Exchange Cleanup → Bool
  | ⟨CleanupCall.check .., Except.error _⟩ => true
  | ⟨CleanupCall.apply _, Except.ok took⟩ => took
  | ⟨CleanupCall.apply _, Except.error _⟩ => true
  | _ => false

def settles (exchange : Exchange Cleanup) : Bool := interrupts exchange || concludes exchange

/-- Nothing comes of what is asked. -/
structure Idle (exchange : Exchange Cleanup) : Prop where
  unconsulted : consults exchange = false
  unchecked : checks exchange = false
  unpaused : pauses exchange = false
  unseen : interrupts exchange = false
  unsettled : settles exchange = false

theorem idle_clock (call : ClockCall) : (Clocked.clock (I := Cleanup) call).Keeps Idle :=
  .ask fun _ => ⟨rfl, rfl, rfl, rfl, rfl⟩

end Cleanup

namespace CleanupJob

open Cleanup

inductive Attempt where
  | unchecked (reason : CheckError)
  | treated (remedy : Remedy) (answer : Except CheckError Bool)

namespace Attempt

def verdict : Attempt → Except CheckError Bool
  | unchecked reason => .error reason
  | treated _ answer => answer

/-- What is asked of the checker: to apply the remedy that its own check names. -/
def calls (node : StorageNodeId) (replica : ReplicaId) : Attempt → List (Exchange Cleanup)
  | unchecked reason => [said (.check node replica) (.error reason)]
  | treated remedy answer =>
      [said (.check node replica) (.ok remedy), said (.apply remedy) answer]

/-- All that is asked, from the look at the plan on. -/
def told (job : CleanupJob) (replica : ReplicaId) (attempt : Attempt) : List (Exchange Cleanup) :=
  said .isCancelled false :: match attempt with
    | unchecked reason => [said (.check job.storageNode replica) (.error reason)]
    | treated remedy answer =>
        [said (.check job.storageNode replica) (.ok remedy),
         said (.log (.cleanupRemedy job.task
          { remedy with node := replica, storageNode := job.storageNode })) (),
         said (.apply remedy) answer]

variable (job : CleanupJob) (replica : ReplicaId) (attempt : Attempt)

theorem filter_told :
    (attempt.told job replica).filter consults = attempt.calls job.storageNode replica := by
  cases attempt <;> rfl

theorem countP_told : (attempt.told job replica).countP pauses = 0 := by
  cases attempt <;> rfl

theorem interrupts_told :
    ∀ exchange ∈ attempt.told job replica, interrupts exchange = false := by
  cases attempt with
  | unchecked reason =>
      simp only [told, List.forall_mem_cons]
      exact ⟨rfl, rfl, List.forall_mem_nil _⟩
  | treated remedy answer =>
      simp only [told, List.forall_mem_cons]
      exact ⟨rfl, rfl, rfl, rfl, List.forall_mem_nil _⟩

theorem settles_told (missed : attempt.verdict = .ok false) :
    ∀ exchange ∈ attempt.told job replica, settles exchange = false := by
  cases attempt with
  | unchecked reason => cases missed
  | treated remedy answer =>
      obtain rfl : answer = .ok false := missed
      simp only [told, List.forall_mem_cons]
      exact ⟨rfl, rfl, rfl, rfl, List.forall_mem_nil _⟩

end Attempt

variable {job : CleanupJob} {replica : ReplicaId} {told : List (Exchange Cleanup)}

theorem attempt_cases {verdict : Except CheckError Bool}
    (dialogue : Dialogue (job.attempt replica) told verdict) :
    ∃ attempt : Attempt, attempt.verdict = verdict ∧
      said .isCancelled false :: told = attempt.told job replica := by
  obtain ⟨checked, rest, rfl, further⟩ := Dialogue.ask_bind_iff.mp dialogue
  cases checked with
  | error reason =>
      obtain ⟨rfl, rfl⟩ := Dialogue.done_iff.mp further
      exact ⟨.unchecked reason, rfl, rfl⟩
  | ok remedy =>
      obtain ⟨_, rest, rfl, onward⟩ := Dialogue.ask_bind_iff.mp further
      obtain ⟨answer, rest, rfl, ended⟩ := Dialogue.ask_bind_iff.mp onward
      obtain ⟨rfl, rfl⟩ := Dialogue.done_iff.mp ended
      exact ⟨.treated remedy verdict, rfl, rfl⟩

/-- How a pass goes: it is interrupted, or it makes an attempt. -/
inductive Passes (job : CleanupJob) (replica : ReplicaId) :
    List (Exchange Cleanup) → Unit ⊕ CleanupOutcome → Prop where
  | interrupted (event : Event) :
      Passes job replica [said .isCancelled true, said (.log event) ()] (.inr .interrupted)
  | completed (attempt : Attempt) (took : attempt.verdict = .ok true) (event : Event) :
      Passes job replica (attempt.told job replica ++ [said (.log event) ()]) (.inr .completed)
  | failed (attempt : Attempt) {reason : CheckError} (failed : attempt.verdict = .error reason)
      (event : Event) :
      Passes job replica (attempt.told job replica ++ [said (.log event) ()])
        (.inr (.failed reason.message))
  | inconclusive (attempt : Attempt) (missed : attempt.verdict = .ok false) :
      Passes job replica (attempt.told job replica) (.inl ())

theorem pass_cases {result : Unit ⊕ CleanupOutcome}
    (dialogue : Dialogue (job.repair replica).pass told result) :
    Passes job replica told result := by
  obtain ⟨cancelled, rest, rfl, further⟩ := Dialogue.ask_bind_iff.mp dialogue
  cases cancelled with
  | true =>
      obtain ⟨_, rest, rfl, ended⟩ := Dialogue.ask_bind_iff.mp further
      obtain ⟨rfl, rfl⟩ := Dialogue.done_iff.mp ended
      exact .interrupted _
  | false =>
      obtain ⟨front, back, verdict, rfl, attempted, onward⟩ := Dialogue.bind_iff.mp further
      obtain ⟨attempt, found, same⟩ := attempt_cases attempted
      change Passes job replica ((said .isCancelled false :: front) ++ back) result
      rw [same]
      cases verdict with
      | error reason =>
          obtain ⟨_, rest, rfl, ended⟩ := Dialogue.ask_bind_iff.mp onward
          obtain ⟨rfl, rfl⟩ := Dialogue.done_iff.mp ended
          exact .failed attempt found _
      | ok took =>
          cases took with
          | true =>
              obtain ⟨_, rest, rfl, ended⟩ := Dialogue.ask_bind_iff.mp onward
              obtain ⟨rfl, rfl⟩ := Dialogue.done_iff.mp ended
              exact .completed attempt found _
          | false =>
              obtain ⟨rfl, rfl⟩ := Dialogue.done_iff.mp onward
              rw [List.append_nil]
              exact .inconclusive attempt found

theorem rest_cases {pause : Nat} {found : Option CleanupOutcome}
    (dialogue : Dialogue ((job.repair replica).rest () pause) told found) :
    (∃ event, told = [said (.sleep pause) true, said (.log event) ()] ∧
      found = some .interrupted) ∨
    told = [said (.sleep pause) false] ∧ found = none := by
  obtain ⟨cancelled, rest, rfl, further⟩ := Dialogue.ask_bind_iff.mp dialogue
  cases cancelled with
  | true =>
      obtain ⟨_, rest, rfl, ended⟩ := Dialogue.ask_bind_iff.mp further
      obtain ⟨rfl, rfl⟩ := Dialogue.done_iff.mp ended
      exact .inl ⟨_, rfl, rfl⟩
  | false =>
      obtain ⟨rfl, rfl⟩ := Dialogue.done_iff.mp further
      exact .inr ⟨rfl, rfl⟩

theorem giveUp_cases {number : Nat} {outcome : CleanupOutcome}
    (dialogue : Dialogue ((job.repair replica).giveUp () number) told outcome) :
    ∃ event, told = [said (.log event) ()] ∧ outcome = .timedOut number := by
  obtain ⟨_, rest, rfl, ended⟩ := Dialogue.ask_bind_iff.mp dialogue
  obtain ⟨rfl, rfl⟩ := Dialogue.done_iff.mp ended
  exact ⟨_, rfl, rfl⟩

/-! ## The order of what is asked -/

/-- The plan is looked at right before every check, and once the matter is settled this is only
reported. -/
structure Orderly (told : List (Exchange Cleanup)) : Prop where
  looks : told.IsChain fun earlier later =>
    checks later = true → earlier = said .isCancelled false
  silent : told.Pairwise fun earlier later => settles earlier = true → reports later = true

namespace Orderly

theorem append {front back : List (Exchange Cleanup)} (first : Orderly front)
    (second : Orderly back) (unsettled : ∀ exchange ∈ front, settles exchange = false)
    (unchecked : ∀ exchange ∈ back.head?, checks exchange = false) : Orderly (front ++ back) where
  looks := by
    refine List.isChain_append.mpr ⟨first.looks, second.looks, ?_⟩
    intro _ _ later here checked
    rw [unchecked later here] at checked
    cases checked
  silent := by
    refine List.pairwise_append.mpr ⟨first.silent, second.silent, ?_⟩
    intro earlier member _ _ settled
    rw [unsettled earlier member] at settled
    cases settled

theorem report (orderly : Orderly told) (event : Event) :
    Orderly (told ++ [said (.log event) ()]) where
  looks := by
    refine List.isChain_append.mpr ⟨orderly.looks, .singleton _, ?_⟩
    intro _ _ later here checked
    cases here
    cases checked
  silent := by
    refine List.pairwise_append.mpr ⟨orderly.silent, List.pairwise_singleton _ _, ?_⟩
    intro _ _ later here _
    rw [List.mem_singleton.mp here]
    rfl

theorem of_idle (idle : ∀ exchange ∈ told, Idle exchange) : Orderly told where
  looks := by
    refine (List.pairwise_of_forall_mem_list fun _ _ later member checked => ?_).isChain
    rw [(idle later member).unchecked] at checked
    cases checked
  silent := by
    refine List.pairwise_of_forall_mem_list fun earlier member _ _ settled => ?_
    rw [(idle earlier member).unsettled] at settled
    cases settled

/-- An attempt comes right after a look, and what settles the matter comes at its end. -/
theorem attempt (attempt : Attempt) : Orderly (attempt.told job replica) := by
  cases attempt with
  | unchecked reason =>
      constructor
      · exact List.isChain_pair.mpr fun _ => rfl
      · exact List.pairwise_pair.mpr nofun
  | treated remedy answer =>
      constructor
      · exact List.isChain_cons_cons.mpr ⟨fun _ => rfl,
          List.isChain_cons_cons.mpr ⟨nofun, List.isChain_pair.mpr nofun⟩⟩
      · exact List.pairwise_cons.mpr ⟨fun _ _ => nofun,
          List.pairwise_cons.mpr ⟨fun _ _ => nofun, List.pairwise_pair.mpr nofun⟩⟩

end Orderly

/-! ## How a job ends -/

/-- At the end a pause is refused, after those that were granted. -/
def Exhausts (schedule : RetrySchedule) (told : List (Exchange Cleanup)) : Prop :=
  let spent := { schedule with left := schedule.left - told.countP pauses }
  ∃ front asking event, told = front ++ (asking ++ [said (.log event) ()]) ∧
    Dialogue spent.next asking (none, spent)

/-- How a job ends, by the attempts that it made and all that it was told. -/
inductive Ends (schedule : RetrySchedule) (attempts : List Attempt)
    (told : List (Exchange Cleanup)) : CleanupOutcome → Prop where
  | interrupted (seen : ∃ exchange ∈ told, interrupts exchange = true)
      (missed : ∀ attempt ∈ attempts, attempt.verdict = .ok false)
      (paced : attempts.length = told.countP pauses) : Ends schedule attempts told .interrupted
  | completed (earlier : List Attempt) (last : Attempt) (made : attempts = earlier ++ [last])
      (missed : ∀ attempt ∈ earlier, attempt.verdict = .ok false) (took : last.verdict = .ok true)
      (unseen : ∀ exchange ∈ told, interrupts exchange = false)
      (paced : attempts.length = told.countP pauses + 1) : Ends schedule attempts told .completed
  | failed (earlier : List Attempt) (last : Attempt) {reason : CheckError}
      (made : attempts = earlier ++ [last])
      (missed : ∀ attempt ∈ earlier, attempt.verdict = .ok false)
      (failed : last.verdict = .error reason)
      (unseen : ∀ exchange ∈ told, interrupts exchange = false)
      (paced : attempts.length = told.countP pauses + 1) :
      Ends schedule attempts told (.failed reason.message)
  | timedOut (missed : ∀ attempt ∈ attempts, attempt.verdict = .ok false)
      (unseen : ∀ exchange ∈ told, interrupts exchange = false)
      (paced : attempts.length = told.countP pauses + 1) (exhausts : Exhausts schedule told) :
      Ends schedule attempts told (.timedOut (schedule.granted + attempts.length))

/-- What a job does for a replica from one look at the plan on, attempt by attempt. -/
structure Tries (job : CleanupJob) (replica : ReplicaId) (schedule : RetrySchedule)
    (attempts : List Attempt) (told : List (Exchange Cleanup)) (outcome : CleanupOutcome) :
    Prop where
  opens : ∃ cancelled rest, told = said .isCancelled cancelled :: rest
  orderly : Orderly told
  calls : told.filter consults = attempts.flatMap (Attempt.calls job.storageNode replica)
  granted : told.countP pauses ≤ schedule.left
  ends : Ends schedule attempts told outcome

/-- One attempt is made, and no pause is granted. -/
structure Makes (job : CleanupJob) (replica : ReplicaId) (attempt : Attempt)
    (told : List (Exchange Cleanup)) : Prop where
  opens : ∃ rest, told = said .isCancelled false :: rest
  orderly : Orderly told
  calls : told.filter consults = attempt.calls job.storageNode replica
  paced : told.countP pauses = 0
  unseen : ∀ exchange ∈ told, interrupts exchange = false

namespace Makes

variable {attempt : Attempt}

theorem of_told (job : CleanupJob) (replica : ReplicaId) (attempt : Attempt) :
    Makes job replica attempt (attempt.told job replica) where
  opens := ⟨_, rfl⟩
  orderly := .attempt attempt
  calls := attempt.filter_told job replica
  paced := attempt.countP_told job replica
  unseen := attempt.interrupts_told job replica

theorem report {told : List (Exchange Cleanup)} (makes : Makes job replica attempt told)
    (event : Event) : Makes job replica attempt (told ++ [said (.log event) ()]) where
  opens := by
    obtain ⟨rest, rfl⟩ := makes.opens
    exact ⟨_, rfl⟩
  orderly := makes.orderly.report event
  calls := by
    rw [List.filter_append, makes.calls]
    exact List.append_nil _
  paced := by
    rw [List.countP_append, makes.paced]
    rfl
  unseen := List.forall_mem_append.mpr ⟨makes.unseen, List.forall_mem_singleton.mpr rfl⟩

theorem tries {told : List (Exchange Cleanup)} {schedule : RetrySchedule}
    {outcome : CleanupOutcome} (makes : Makes job replica attempt told)
    (ends : Ends schedule [attempt] told outcome) :
    Tries job replica schedule [attempt] told outcome where
  opens := ⟨false, makes.opens⟩
  orderly := makes.orderly
  calls := makes.calls.trans (List.append_nil _).symm
  granted := makes.paced ▸ Nat.zero_le _
  ends := ends

end Makes

/-- An attempt that settles nothing, until a pause is granted or refused. -/
structure Misses (job : CleanupJob) (replica : ReplicaId) (attempt : Attempt)
    (told : List (Exchange Cleanup)) : Prop extends Makes job replica attempt told where
  missed : attempt.verdict = .ok false
  unsettled : ∀ exchange ∈ told, settles exchange = false

theorem Misses.of_asking {attempt : Attempt} {asking : List (Exchange Cleanup)}
    (missed : attempt.verdict = .ok false) (idle : ∀ exchange ∈ asking, Idle exchange) :
    Misses job replica attempt (attempt.told job replica ++ asking) where
  missed := missed
  opens := ⟨_, rfl⟩
  orderly := by
    refine .append (.attempt attempt) (.of_idle idle) (attempt.settles_told job replica missed) ?_
    intro exchange here
    exact (idle exchange (List.mem_of_mem_head? here)).unchecked
  calls := by
    have none : asking.filter consults = [] := List.filter_eq_nil_iff.mpr fun exchange member => by
      simp [(idle exchange member).unconsulted]
    rw [List.filter_append, attempt.filter_told, none, List.append_nil]
  paced := by
    have none : asking.countP pauses = 0 := List.countP_eq_zero.mpr fun exchange member => by
      simp [(idle exchange member).unpaused]
    rw [List.countP_append, attempt.countP_told, none]
  unseen := List.forall_mem_append.mpr ⟨attempt.interrupts_told job replica,
    fun exchange member => (idle exchange member).unseen⟩
  unsettled := List.forall_mem_append.mpr ⟨attempt.settles_told job replica missed,
    fun exchange member => (idle exchange member).unsettled⟩

section Pauses

variable {schedule after : RetrySchedule} {attempt : Attempt} {attempts : List Attempt}
  {front later : List (Exchange Cleanup)} {pause : Nat} {outcome : CleanupOutcome}

/-- A pause that is granted counts among those after which the schedule refuses one. -/
theorem Exhausts.again (exhausts : Exhausts after later) (paced : front.countP pauses = 0)
    (left : schedule.left = after.left + 1) (same : after = { schedule with left := after.left }) :
    Exhausts schedule (front ++ said (.sleep pause) false :: later) := by
  obtain ⟨early, asking, event, rfl, refused⟩ := exhausts
  refine ⟨front ++ said (.sleep pause) false :: early, asking, event, by simp, ?_⟩
  have counts : schedule.left - (front ++ said (.sleep pause) false ::
      (early ++ (asking ++ [said (.log event) ()]))).countP pauses =
      after.left - (early ++ (asking ++ [said (.log event) ()])).countP pauses := by
    rw [List.countP_append, paced, List.countP_cons_of_pos rfl, left]
    omega
  rw [same] at refused
  rw [counts]
  exact refused

theorem Ends.again (ends : Ends after attempts later outcome)
    (misses : Misses job replica attempt front) (left : schedule.left = after.left + 1)
    (same : after = { schedule with left := after.left })
    (limit : schedule.left ≤ schedule.policy.maxAttempts - 1) :
    Ends schedule (attempt :: attempts) (front ++ said (.sleep pause) false :: later) outcome := by
  have paused : (front ++ said (.sleep pause) false :: later).countP pauses =
      later.countP pauses + 1 := by
    rw [List.countP_append, misses.paced, List.countP_cons_of_pos rfl, Nat.zero_add]
  have unseen (quiet : ∀ exchange ∈ later, interrupts exchange = false) :
      ∀ exchange ∈ front ++ said (.sleep pause) false :: later, interrupts exchange = false := by
    simp only [List.forall_mem_append, List.forall_mem_cons]
    exact ⟨misses.unseen, rfl, quiet⟩
  cases ends with
  | interrupted seen missed paced =>
      obtain ⟨exchange, member, cancelled⟩ := seen
      refine .interrupted ⟨exchange, by simp [member], cancelled⟩
        (List.forall_mem_cons.mpr ⟨misses.missed, missed⟩) ?_
      rw [List.length_cons, paced, paused]
  | completed earlier last made missed took quiet paced =>
      refine .completed (attempt :: earlier) last (by rw [made]; rfl)
        (List.forall_mem_cons.mpr ⟨misses.missed, missed⟩) took (unseen quiet) ?_
      rw [List.length_cons, paced, paused]
  | failed earlier last made missed failed quiet paced =>
      refine .failed (attempt :: earlier) last (by rw [made]; rfl)
        (List.forall_mem_cons.mpr ⟨misses.missed, missed⟩) failed (unseen quiet) ?_
      rw [List.length_cons, paced, paused]
  | timedOut missed quiet paced exhausts =>
      have number : after.granted + attempts.length =
          schedule.granted + (attempt :: attempts).length := by
        rw [same, RetrySchedule.granted_grant left limit, List.length_cons]
        omega
      rw [number]
      refine .timedOut (List.forall_mem_cons.mpr ⟨misses.missed, missed⟩) (unseen quiet) ?_
        (exhausts.again misses.paced left same)
      rw [List.length_cons, paced, paused]

theorem Tries.interrupted (misses : Misses job replica attempt front)
    (left : schedule.left = after.left + 1) (event : Event) :
    Tries job replica schedule [attempt]
      (front ++ [said (.sleep pause) true, said (.log event) ()]) .interrupted where
  opens := by
    obtain ⟨rest, rfl⟩ := misses.opens
    exact ⟨false, _, rfl⟩
  orderly := by
    have woken : Orderly [said (.sleep pause) true] := ⟨.singleton _, List.pairwise_singleton _ _⟩
    refine misses.orderly.append (woken.report event) misses.unsettled ?_
    rintro _ ⟨⟩
    rfl
  calls := by
    rw [List.filter_append, misses.calls]
    rfl
  granted := by
    rw [List.countP_append, misses.paced, left]
    exact Nat.le_add_left 1 after.left
  ends := by
    refine .interrupted ⟨said (.sleep pause) true, by simp, rfl⟩
      (List.forall_mem_singleton.mpr misses.missed) ?_
    rw [List.countP_append, misses.paced]
    rfl

theorem Tries.again (tries : Tries job replica after attempts later outcome)
    (misses : Misses job replica attempt front) (left : schedule.left = after.left + 1)
    (same : after = { schedule with left := after.left })
    (limit : schedule.left ≤ schedule.policy.maxAttempts - 1) :
    Tries job replica schedule (attempt :: attempts)
      (front ++ said (.sleep pause) false :: later) outcome where
  opens := by
    obtain ⟨rest, rfl⟩ := misses.opens
    exact ⟨false, _, rfl⟩
  orderly := by
    obtain ⟨cancelled, rest, rfl⟩ := tries.opens
    have resting : Orderly [said (.sleep pause) false] :=
      ⟨.singleton _, List.pairwise_singleton _ _⟩
    refine misses.orderly.append (resting.append tries.orderly ?_ ?_) misses.unsettled ?_
    · exact List.forall_mem_singleton.mpr rfl
    · rintro _ ⟨⟩
      rfl
    · rintro _ ⟨⟩
      rfl
  calls := by
    rw [List.filter_append, misses.calls, List.filter_cons_of_neg Bool.false_ne_true, tries.calls,
      List.flatMap_cons]
  granted := by
    rw [List.countP_append, misses.paced, List.countP_cons_of_pos rfl, left, Nat.zero_add]
    exact Nat.succ_le_succ tries.granted
  ends := tries.ends.again misses left same limit

end Pauses

/-- Whatever is answered, a job makes one attempt after the other. -/
theorem Tries.of_course {schedule : RetrySchedule} {outcome : CleanupOutcome}
    (limit : schedule.left ≤ schedule.policy.maxAttempts - 1)
    (course : Repeated.Course (job.repair replica) schedule told outcome) :
    ∃ attempts, Tries job replica schedule attempts told outcome := by
  have idle {schedule : RetrySchedule} {asking : List (Exchange Cleanup)}
      {granted : Option Nat × RetrySchedule} (asked : Dialogue schedule.next asking granted) :
      ∀ exchange ∈ asking, Idle exchange :=
    schedule.keeps_next idle_clock _ _ asked
  -- One case for each way to end, and one for an attempt that another one follows.
  induction course with
  | settled passed =>
      cases pass_cases passed with
      | interrupted event =>
          refine ⟨[], ⟨true, _, rfl⟩, ?_, rfl, Nat.zero_le _, ?_⟩
          · exact Orderly.report ⟨.singleton _, List.pairwise_singleton _ _⟩ event
          · exact .interrupted ⟨said .isCancelled true, by simp, rfl⟩ nofun rfl
      | completed attempt took event =>
          have makes := (Makes.of_told job replica attempt).report event
          refine ⟨[attempt], makes.tries ?_⟩
          exact .completed [] attempt rfl nofun took makes.unseen (by rw [makes.paced]; rfl)
      | failed attempt failed event =>
          have makes := (Makes.of_told job replica attempt).report event
          refine ⟨[attempt], makes.tries ?_⟩
          exact .failed [] attempt rfl nofun failed makes.unseen (by rw [makes.paced]; rfl)
  | refused passed asked ended =>
      cases pass_cases passed with
      | inconclusive attempt missed =>
          obtain ⟨event, rfl, rfl⟩ := giveUp_cases ended
          have misses : Misses job replica attempt _ := .of_asking missed (idle asked)
          have makes := misses.toMakes.report event
          rw [← List.append_assoc]
          refine ⟨[attempt], makes.tries (.timedOut ?_ makes.unseen ?_ ?_)⟩
          · exact List.forall_mem_singleton.mpr missed
          · rw [makes.paced]
            rfl
          · refine ⟨_, _, event, List.append_assoc .., ?_⟩
            rw [makes.paced]
            exact asked
  | stopped passed asked rested =>
      cases pass_cases passed with
      | inconclusive attempt missed =>
          obtain ⟨event, rfl, ended⟩ | ⟨rfl, never⟩ := rest_cases rested
          · obtain ⟨never, _⟩ | ⟨_, _, left, _⟩ := RetrySchedule.next_cases asked
            · cases never
            · cases ended
              have misses : Misses job replica attempt _ := .of_asking missed (idle asked)
              rw [← List.append_assoc]
              exact ⟨[attempt], .interrupted misses left event⟩
          · cases never
  | again passed asked rested further ih =>
      cases pass_cases passed with
      | inconclusive attempt missed =>
          obtain ⟨event, rfl, never⟩ | ⟨rfl, _⟩ := rest_cases rested
          · cases never
          · obtain ⟨never, _⟩ | ⟨_, _, left, same, _⟩ := RetrySchedule.next_cases asked
            · cases never
            · have misses : Misses job replica attempt _ := .of_asking missed (idle asked)
              obtain ⟨attempts, tries⟩ := ih (by
                rw [congrArg RetrySchedule.policy same]
                dsimp only
                omega)
              rw [← List.append_assoc]
              exact ⟨attempt :: attempts, tries.again misses left same limit⟩

/-- What a job does for the replica that was resolved when it started, and what it ends with. -/
structure Repairs (job : CleanupJob) (replica : ReplicaId) (schedule : RetrySchedule)
    (attempts : List Attempt) (told : List (Exchange Cleanup)) (outcome : CleanupOutcome) :
    Prop where
  orderly : Orderly told
  calls : told.filter consults = attempts.flatMap (Attempt.calls job.storageNode replica)
  missed : ∀ attempt ∈ attempts.dropLast, attempt.verdict = .ok false
  granted : told.countP pauses ≤ schedule.left
  interrupted_iff : outcome = .interrupted ↔ ∃ exchange ∈ told, interrupts exchange = true
  completed_iff : outcome = .completed ↔
    ∃ last, attempts.getLast? = some last ∧ last.verdict = .ok true
  failed_iff : ∀ text, outcome = .failed text ↔
    ∃ last reason, attempts.getLast? = some last ∧ last.verdict = .error reason ∧
      reason.message = text
  timedOut_iff : ∀ number, outcome = .timedOut number ↔
    number = attempts.length ∧ attempts.length = told.countP pauses + 1 ∧
      (∀ attempt ∈ attempts, attempt.verdict = .ok false) ∧
      (∀ exchange ∈ told, interrupts exchange = false) ∧ Exhausts schedule told

/-- Attempts that all miss neither complete the job nor make it fail. -/
theorem missed_last {attempts : List Attempt}
    (missed : ∀ attempt ∈ attempts, attempt.verdict = .ok false) :
    (¬ ∃ last, attempts.getLast? = some last ∧ last.verdict = .ok true) ∧
      ∀ text, ¬ ∃ last reason, attempts.getLast? = some last ∧ last.verdict = .error reason ∧
        reason.message = text := by
  constructor
  · rintro ⟨last, here, took⟩
    rw [missed last (List.mem_of_getLast? here)] at took
    cases took
  · rintro _ ⟨last, _, here, failed, _⟩
    rw [missed last (List.mem_of_getLast? here)] at failed
    cases failed

theorem Tries.repairs {schedule : RetrySchedule} {attempts : List Attempt}
    {outcome : CleanupOutcome} (tries : Tries job replica schedule attempts told outcome)
    (first : schedule.granted = 0) : Repairs job replica schedule attempts told outcome := by
  have unseen {told : List (Exchange Cleanup)}
      (quiet : ∀ exchange ∈ told, interrupts exchange = false) :
      ¬ ∃ exchange ∈ told, interrupts exchange = true := by
    rintro ⟨exchange, member, seen⟩
    rw [quiet exchange member] at seen
    cases seen
  obtain ⟨_, orderly, calls, granted, ends⟩ := tries
  cases ends with
  | interrupted seen missed paced =>
      obtain ⟨incomplete, unfailed⟩ := missed_last missed
      refine ⟨orderly, calls, fun _ member => missed _ (List.dropLast_subset _ member), granted,
        iff_of_true rfl seen, iff_of_false nofun incomplete,
        fun text => iff_of_false nofun (unfailed text), fun _ => iff_of_false nofun ?_⟩
      rintro ⟨_, _, _, quiet, _⟩
      exact unseen quiet seen
  | completed earlier last made missed took quiet paced =>
      subst made
      refine ⟨orderly, calls, by rwa [List.dropLast_concat], granted,
        iff_of_false nofun (unseen quiet), iff_of_true rfl ⟨last, List.getLast?_concat, took⟩,
        fun _ => iff_of_false nofun ?_, fun _ => iff_of_false nofun ?_⟩
      · simp [took]
      · simp [took]
  | failed earlier last made missed failed quiet paced =>
      subst made
      refine ⟨orderly, calls, by rwa [List.dropLast_concat], granted,
        iff_of_false nofun (unseen quiet), iff_of_false nofun ?_, fun _ => ?_,
        fun _ => iff_of_false nofun ?_⟩
      · simp [failed]
      · simp [failed]
      · simp [failed]
  | timedOut missed quiet paced exhausts =>
      obtain ⟨incomplete, unfailed⟩ := missed_last missed
      refine ⟨orderly, calls, fun _ member => missed _ (List.dropLast_subset _ member), granted,
        iff_of_false nofun (unseen quiet), iff_of_false nofun incomplete,
        fun text => iff_of_false nofun (unfailed text), fun number => ?_⟩
      rw [first, Nat.zero_add, CleanupOutcome.timedOut.injEq]
      exact ⟨fun same => ⟨same.symm, paced, missed, quiet, exhausts⟩, fun ends => ends.1.symm⟩

/-- In whatever surroundings a job without a replica ends at once, and any other job makes its
attempts until one of them or a cancellation settles it or its schedule is exhausted. -/
theorem run_repairs {σ : Type} (job : CleanupJob)
    (answer : (call : CleanupCall) → σ → call.Answer × σ) (state : σ) :
    let told := job.run.record answer state
    let outcome := (job.run.run answer state).1
    (∃ event, told = [said .resolved none, said (.log event) ()] ∧ outcome = .completed) ∨
    ∃ replica opening deadline rest attempts,
      told = said .resolved (some replica) :: (opening ++ rest) ∧
      Dialogue job.retries.deadline opening deadline ∧
      Repairs job replica ⟨job.retries, deadline, job.retries.maxAttempts - 1⟩ attempts rest
        outcome := by
  intro told outcome
  have dialogue : Dialogue job.run told outcome := .record answer job.run state
  obtain ⟨resolved, rest, same, further⟩ := Dialogue.ask_bind_iff.mp dialogue
  cases resolved with
  | none =>
      obtain ⟨_, last, rfl, ended⟩ := Dialogue.ask_bind_iff.mp further
      obtain ⟨rfl, finished⟩ := Dialogue.done_iff.mp ended
      exact .inl ⟨_, same, finished⟩
  | some replica =>
      obtain ⟨opening, deadline, rest, rfl, started, course⟩ := Repeated.Course.of_under further
      obtain ⟨attempts, tries⟩ := Tries.of_course (Nat.le_refl _) course
      exact .inr ⟨replica, opening, deadline, rest, attempts, same, started,
        tries.repairs (Nat.sub_self _)⟩

end CleanupJob

end ShardControl
