import ShardControl.Proofs.Fault.Coordinator

/-!
# Exits of a process

The service, the log and the fallback channel may panic whenever a shutdown
turns to them.  A panic of the bookkeeping is caught and reported to the
fallback channel; the report itself is not guarded.  So the process exits once,
after all that is written about it, unless this report panics.
-/

namespace ShardControl

namespace ShutdownCall

abbrev Behaviour : Type := List ShutdownCall → (call : ShutdownCall) → Except Panic call.Value

def observe (behaviour : Behaviour) (call : interface.Call) (asked : List ShutdownCall) :
    interface.Answer call × List ShutdownCall :=
  (behaviour asked call, asked ++ ([call] : List ShutdownCall))

def panics (behaviour : Behaviour) (asked : List ShutdownCall) (call : ShutdownCall) : Bool :=
  match behaviour asked call with
  | .ok _ => false
  | .error _ => true

/-- What is asked up to the first panic, if there is one among these questions. -/
def broken? (behaviour : Behaviour) (asked : List ShutdownCall) :
    List ShutdownCall → Option (List ShutdownCall)
  | [] => none
  | call :: rest =>
      if panics behaviour asked call then some (asked ++ [call])
      else broken? behaviour (asked ++ [call]) rest

/-- What was asked up to a panic is the first part of what would have been asked. -/
theorem exists_of_broken? {behaviour : Behaviour} {asked calls told : List ShutdownCall}
    (broken : broken? behaviour asked calls = some told) :
    ∃ rest, asked ++ calls = told ++ rest := by
  induction calls generalizing asked with
  | nil => cases broken
  | cons call later ih =>
      rw [broken?] at broken
      split at broken
      · obtain rfl := Option.some.inj broken
        exact ⟨later, List.append_cons asked call later⟩
      · obtain ⟨rest, same⟩ := ih broken
        exact ⟨rest, (List.append_cons asked call later).trans same⟩

variable {α : Type}

/-- A panic ends a program, and any other answer lets it go on. -/
theorem run_perform_bind (behaviour : Behaviour) (call : ShutdownCall)
    (next : call.Value → ShutdownProgram α) (asked : List ShutdownCall) :
    (call.perform >>= next).run.run (observe behaviour) asked =
      match behaviour asked call with
      | .ok value => (next value).run.run (observe behaviour) (asked ++ [call])
      | .error panic => (.error panic, asked ++ [call]) := by
  change (ExceptT.bindCont next (behaviour asked call) :
    Program ShutdownCall.interface (Except Panic α)).run (observe behaviour) (asked ++ [call]) = _
  cases behaviour asked call <;> rfl

/-- What follows a guarded program learns how that program ended. -/
theorem run_lift_bind (behaviour : Behaviour) (guarded : ShutdownProgram Unit)
    (next : Except Panic Unit → ShutdownProgram α) (asked : List ShutdownCall) :
    ((ExceptT.lift guarded.run : ShutdownProgram (Except Panic Unit)) >>= next).run.run
        (observe behaviour) asked =
      (next (guarded.run.run (observe behaviour) asked).1).run.run (observe behaviour)
        (guarded.run.run (observe behaviour) asked).2 := by
  rw [ExceptT.run_bind_lift]
  exact Program.run_bind _ _ _ _

end ShutdownCall

namespace ShutdownJob

open ShutdownCall

def notice : ShutdownCall := .writeLine "Shutdown bookkeeping failed; exiting anyway"

def asked (job : ShutdownJob) (behaviour : Behaviour) : List ShutdownCall :=
  (job.run.run.run (observe behaviour) []).2

theorem run_flush (behaviour : Behaviour) (before : List ShutdownCall) :
    flush.perform.run.run (observe behaviour) before =
      match broken? behaviour before [.flush] with
      | none => (.ok (), before ++ [.flush])
      | some told => (.error ⟨⟩, told) := by
  rw [broken?, panics, broken?]
  change (behaviour before .flush, before ++ [.flush]) = _
  cases behaviour before .flush <;> rfl

/-- The bookkeeping goes on up to the first panic. -/
theorem run_bookkeeping (job : ShutdownJob) (behaviour : Behaviour) :
    job.bookkeeping.run.run (observe behaviour) [] =
      match broken? behaviour [] job.entries with
      | none => (.ok (), job.entries)
      | some told => (.error ⟨⟩, told) := by
  rw [bookkeeping, entries, broken?, panics]
  refine (run_perform_bind behaviour (.writeLine _) _ []).trans ?_
  cases behaviour [] (.writeLine ("Process exiting due to fault: " ++ job.fault.text)) with
  | error => rfl
  | ok =>
      cases job.policy.exitStatus with
      | none => exact run_flush behaviour _
      | some status =>
          refine (run_perform_bind behaviour (.update status) _ _).trans ?_
          rw [if_neg Bool.false_ne_true, Option.map_some, Option.toList_some, List.cons_append,
            broken?, panics]
          cases behaviour _ (.update status) with
          | error => rfl
          | ok => exact run_flush behaviour _

/-- A panic of the bookkeeping that cannot even be reported, as the report panics, too. -/
def Silenced (job : ShutdownJob) (behaviour : Behaviour) : Prop :=
  ∃ told, broken? behaviour [] job.entries = some told ∧ panics behaviour told notice = true

theorem asked_of_process {job : ShutdownJob} (process : job.mode = .process)
    (behaviour : Behaviour) :
    job.asked behaviour =
      match broken? behaviour [] job.entries with
      | none => job.entries ++ [.exit job.code]
      | some told =>
          if panics behaviour told notice then told ++ [notice]
          else told ++ [notice] ++ [.exit job.code] := by
  rw [asked, run, process]
  dsimp only
  rw [exitProcess, run_lift_bind, run_bookkeeping]
  cases broken? behaviour [] job.entries with
  | none => rfl
  | some told =>
      refine (congrArg Prod.snd (run_perform_bind behaviour notice _ told)).trans ?_
      dsimp only
      rw [panics]
      cases behaviour told notice <;> rfl

/-- The bookkeeping itself does not exit. -/
theorem codes_entries (job : ShutdownJob) : job.entries.filterMap code? = [] := by
  rw [entries]
  cases job.policy.exitStatus <;> rfl

theorem codes_of_broken? {job : ShutdownJob} {behaviour : Behaviour} {told : List ShutdownCall}
    (broken : broken? behaviour [] job.entries = some told) : told.filterMap code? = [] := by
  obtain ⟨rest, same⟩ := exists_of_broken? broken
  have none := job.codes_entries
  rw [List.nil_append] at same
  rw [same, List.filterMap_append, List.append_eq_nil_iff] at none
  exact none.1

structure Exits (job : ShutdownJob) (behaviour : Behaviour) : Prop where
  /-- It exits once, with its code, unless the report of a panic panics; then it does not exit. -/
  codes_iff : (job.asked behaviour).filterMap code? = [job.code] ↔ ¬ job.Silenced behaviour
  codes_of_silenced : job.Silenced behaviour → (job.asked behaviour).filterMap code? = []
  /-- The exit comes after all that is written about it: everything, or as much as a panic allows
  and the report of it. -/
  whole : broken? behaviour [] job.entries = none →
    job.asked behaviour = job.entries ++ [.exit job.code]
  reported : ∀ told, broken? behaviour [] job.entries = some told → ¬ job.Silenced behaviour →
    job.asked behaviour = told ++ [notice] ++ [.exit job.code]

section

variable {job : ShutdownJob} {behaviour : Behaviour} {told : List ShutdownCall}

theorem exits_of_whole (process : job.mode = .process)
    (whole : broken? behaviour [] job.entries = none) : job.Exits behaviour := by
  have asks : job.asked behaviour = job.entries ++ [.exit job.code] := by
    rw [asked_of_process process, whole]
  have codes : (job.asked behaviour).filterMap code? = [job.code] := by
    rw [asks, List.filterMap_append, codes_entries]
    rfl
  have spoken : ¬ job.Silenced behaviour := by
    rintro ⟨told, broken, _⟩
    rw [whole] at broken
    cases broken
  refine ⟨iff_of_true codes spoken, fun silenced => absurd silenced spoken, fun _ => asks, ?_⟩
  intro told broken
  rw [whole] at broken
  cases broken

theorem exits_of_reported (process : job.mode = .process)
    (broken : broken? behaviour [] job.entries = some told)
    (report : panics behaviour told notice = false) : job.Exits behaviour := by
  have asks : job.asked behaviour = told ++ [notice] ++ [.exit job.code] := by
    rw [asked_of_process process, broken]
    dsimp only
    rw [report, if_neg Bool.false_ne_true]
  have codes : (job.asked behaviour).filterMap code? = [job.code] := by
    rw [asks, List.filterMap_append, List.filterMap_append, codes_of_broken? broken]
    rfl
  have spoken : ¬ job.Silenced behaviour := by
    rintro ⟨other, same, silenced⟩
    obtain rfl := Option.some.inj (broken.symm.trans same)
    rw [report] at silenced
    cases silenced
  refine ⟨iff_of_true codes spoken, fun silenced => absurd silenced spoken, ?_, ?_⟩
  · intro whole
    rw [broken] at whole
    cases whole
  · intro other same _
    obtain rfl := Option.some.inj (broken.symm.trans same)
    exact asks

theorem exits_of_silenced (process : job.mode = .process)
    (broken : broken? behaviour [] job.entries = some told)
    (silenced : panics behaviour told notice = true) : job.Exits behaviour := by
  have codes : (job.asked behaviour).filterMap code? = [] := by
    rw [asked_of_process process, broken]
    dsimp only
    rw [silenced, if_pos rfl, List.filterMap_append, codes_of_broken? broken]
    rfl
  have silences : job.Silenced behaviour := ⟨told, broken, silenced⟩
  refine ⟨iff_of_false ?_ (not_not_intro silences), fun _ => codes, ?_,
    fun _ _ spoken => absurd silences spoken⟩
  · rw [codes]
    exact (List.cons_ne_nil job.code []).symm
  · intro whole
    rw [broken] at whole
    cases whole

end

theorem exits_iff_not_silenced {fault : ServiceFault} {policy : ExitPolicy} {job : ShutdownJob}
    (queued : queue? .process fault policy = some job) (behaviour : Behaviour) :
    policy.exitCode = some job.code ∧ job.Exits behaviour := by
  obtain ⟨code, exits, made⟩ := Option.map_eq_some_iff.mp queued
  have process : job.mode = .process := by rw [← made]
  refine ⟨by rw [exits, ← made], ?_⟩
  cases broken : broken? behaviour [] job.entries with
  | none => exact exits_of_whole process broken
  | some told =>
      cases report : panics behaviour told notice with
      | true => exact exits_of_silenced process broken report
      | false => exact exits_of_reported process broken report

/-- Surroundings in which the status cannot be published. -/
def unpublished : Behaviour
  | _, .update _ => .error ⟨⟩
  | _, .stop _ => .ok (.ok ())
  | _, .writeLine _ | _, .flush | _, .exit _ => .ok ()

def restart : ShutdownJob := ⟨.process, .internal "heap exhausted", .restart, 200⟩

/-- A service that panics does not keep its process from exiting. -/
theorem exits_of_unpublished :
    queue? .process (.internal "heap exhausted") .restart = some restart ∧
      restart.Exits unpublished ∧ (restart.asked unpublished).filterMap code? = [200] :=
  have queued : queue? .process (.internal "heap exhausted") .restart = some restart := rfl
  ⟨queued, (exits_iff_not_silenced queued unpublished).2, rfl⟩

/-- Surroundings with a fallback channel that panics whenever it is written to. -/
def mute : Behaviour
  | _, .writeLine _ => .error ⟨⟩
  | _, .stop _ => .ok (.ok ())
  | _, .update _ | _, .flush | _, .exit _ => .ok ()

/-- A fallback channel that panics keeps the process from exiting. -/
theorem not_exits_of_mute :
    ¬ ∀ job, queue? .process (.internal "heap exhausted") .restart = some job →
      (job.asked mute).filterMap code? = [200] :=
  fun exits => (List.cons_ne_nil 200 []).symm (exits restart rfl)

end ShutdownJob

end ShardControl
