import ShardControl.Deploy.Runner
import ShardControl.Proofs.Deploy.Passes

/-!
# Lists of tasks

The tasks of a plan are run one after the other.  If nobody else cancels the
plan, each of them is executed once until one fails in a way that cancels the
plan, and the tasks after that one are skipped.  A failure of any other kind
has the cleanup job that the task offers started, if there is a thread for it.
-/

namespace ShardControl

open Control

namespace Control

def cancels : Exchange Control → Bool
  | ⟨ControlCall.cancel, _⟩ => true
  | _ => false

/-- The plan is seen as it is: cancelled before or by something that was asked since. -/
def Tracks (cancelled : Bool) : List (Exchange Control) → Prop
  | [] => True
  | exchange :: later =>
      (∀ answer, exchange = said .isCancelled answer → answer = cancelled) ∧
        Tracks (cancelled || cancels exchange) later

theorem tracks_append {cancelled : Bool} {front back : List (Exchange Control)} :
    Tracks cancelled (front ++ back) ↔
      Tracks cancelled front ∧ Tracks (cancelled || front.any cancels) back := by
  induction front generalizing cancelled with
  | nil => simp [Tracks]
  | cons exchange later ih =>
      rw [List.cons_append, Tracks, Tracks, ih, and_assoc, List.any_cons, Bool.or_assoc]

/-- Nobody but who asks for it cancels the plan. -/
structure Sole {σ : Type} (answer : (call : ControlCall) → σ → call.Answer × σ)
    (flag : σ → Bool) : Prop where
  seen : ∀ state, (answer .isCancelled state).1 = flag state
  cancel : ∀ state, flag (answer .cancel state).2 = true
  kept : ∀ call state, call ≠ .cancel → flag (answer call state).2 = flag state

theorem Sole.tracks {σ α : Type} {answer : (call : ControlCall) → σ → call.Answer × σ}
    {flag : σ → Bool} (sole : Sole answer flag) (program : Program Control α) (state : σ) :
    Tracks (flag state) (program.record answer state) ∧
      flag (program.run answer state).2 =
        (flag state || (program.record answer state).any cancels) := by
  induction program generalizing state with
  | done value => exact ⟨trivial, (Bool.or_false _).symm⟩
  | call question next ih =>
      change ControlCall at question
      have left : flag (answer question state).2 =
          (flag state || cancels (said question (answer question state).1)) := by
        cases question with
        | cancel => exact (sole.cancel state).trans (Bool.or_true _).symm
        | _ =>
            refine (sole.kept _ state ?_).trans (Bool.or_false _).symm
            nofun
      obtain ⟨tracks, last⟩ := ih (answer question state).1 (answer question state).2
      rw [left] at tracks last
      refine ⟨⟨fun found same => ?_, tracks⟩, ?_⟩
      · cases same
        exact sole.seen state
      · change _ = (flag state || List.any (_ :: _) cancels)
        rw [List.any_cons, ← Bool.or_assoc]
        exact last

end Control

namespace TaskOutcome

/-- The task failed in a way that cancels its plan. -/
def breaks (outcome : TaskOutcome) : Bool :=
  match outcome.error with
  | some reason => reason.policy = .planCancel
  | none => false

end TaskOutcome

/-! ## One task -/

namespace Task

/-- The task leaves it to others to cancel the plan. -/
structure Spares (task : Task) : Prop where
  name : task.name.Keeps fun exchange => cancels exchange = false
  execute : task.execute.Keeps fun exchange => cancels exchange = false
  cleanup : task.cleanup.Keeps fun exchange => cancels exchange = false

/-- The plan is seen cancelled before the task starts. -/
inductive Skips (task : Task) : List (Exchange Control) → TaskOutcome → Prop where
  | skipped {named : List (Exchange Control)} {name : String}
      (names : Dialogue task.name named name) (event : Event) :
      Skips task (named ++ [said .isCancelled true, said (.log event) ()]) (.finished .interrupted)

/-- The task starts in a plan that is seen uncancelled. -/
inductive Starts (task : Task) : List (Exchange Control) → Prop where
  | started {named : List (Exchange Control)} {name : String}
      (names : Dialogue task.name named name) (started : Nat) (event : Event) :
      Starts task
        (named ++ [said .isCancelled false, said (.clock .now) started, said (.log event) ()])

/-- What became of the job that was offered: it is the plan's if a thread runs it, and there is a
warning if no thread can be started. -/
inductive Engages : Option CleanupJob → List (Exchange Control) → Option CleanupJob → Prop where
  | idle : Engages none [] none
  | started (job : CleanupJob) :
      Engages (some job) [said (.spawn job.thread job) (.ok ())] (some job)
  | refused (job : CleanupJob) (plan : UInt64) (name reason : String) :
      Engages (some job)
        [said (.spawn job.thread job) (.error reason),
          said (.log (.cleanupSpawnFailed plan name reason)) ()]
        none

/-- The task is executed once. After a failure the plan is seen cancelled or not. -/
inductive Executes (task : Task) (seen : Bool) : List (Exchange Control) → TaskOutcome → Prop where
  | ended {opening executed renamed : List (Exchange Control)} {state : TaskState} {name : String}
      (starts : task.Starts opening) (executes : Dialogue task.execute executed (.ok state))
      (renames : Dialogue task.name renamed name) (ended : Nat) (event : Event) :
      Executes task seen
        (opening ++ (executed ++ (renamed ++ [said (.clock .now) ended, said (.log event) ()])))
        (.finished state)
  | broke {opening executed renamed : List (Exchange Control)} {reason : DeployError}
      {name : String} (starts : task.Starts opening)
      (executes : Dialogue task.execute executed (.error reason))
      (renames : Dialogue task.name renamed name) (policy : reason.policy = .planCancel)
      (first second : Event) :
      Executes task seen
        (opening ++ (executed ++ (renamed ++ [said (.log first) (), said .isCancelled seen,
          said (.log second) (), said .cancel ()])))
        ⟨if seen then .interrupted else .error, some reason, none⟩
  | failed {opening executed renamed cleaned engaged : List (Exchange Control)}
      {reason : DeployError} {name : String} {offered cleanup : Option CleanupJob}
      (starts : task.Starts opening) (executes : Dialogue task.execute executed (.error reason))
      (renames : Dialogue task.name renamed name)
      (policy : reason.policy = .runCleanup ∨ reason.policy = .noCleanupJobs) (event : Event)
      (offers : Dialogue task.cleanup cleaned offered)
      (engages : Engages offered engaged cleanup) :
      Executes task seen
        (opening ++ (executed ++ (renamed ++ ([said (.log event) (), said .isCancelled seen] ++
          (cleaned ++ engaged)))))
        ⟨if seen then .interrupted else .error, some reason, cleanup⟩

variable {task : Task} {told : List (Exchange Control)} {outcome : TaskOutcome}

theorem any_cancels_of_keeps {α : Type} {program : Program Control α} {value : α}
    (keeps : program.Keeps fun exchange => cancels exchange = false)
    (dialogue : Dialogue program told value) : told.any cancels = false :=
  List.any_eq_false.mpr fun exchange member =>
    Bool.eq_false_iff.mp (keeps told value dialogue exchange member)

theorem Skips.any_cancels (skips : task.Skips told outcome) (spares : task.Spares) :
    told.any cancels = outcome.breaks := by
  cases skips with
  | skipped names event =>
      rw [List.any_append, any_cancels_of_keeps spares.name names]
      rfl

theorem Skips.cancelled (skips : task.Skips told outcome) (spares : task.Spares) {flag : Bool}
    (tracks : Tracks flag told) : flag = true := by
  cases skips with
  | skipped names event =>
      have seen := (tracks_append.mp tracks).2.1 true rfl
      rw [any_cancels_of_keeps spares.name names, Bool.or_false] at seen
      exact seen.symm

theorem Starts.any_cancels (starts : task.Starts told) (spares : task.Spares) :
    told.any cancels = false := by
  cases starts with
  | started names started event =>
      rw [List.any_append, any_cancels_of_keeps spares.name names]
      rfl

theorem Starts.uncancelled (starts : task.Starts told) (spares : task.Spares) {flag : Bool}
    (tracks : Tracks flag told) : flag = false := by
  cases starts with
  | started names started event =>
      have seen := (tracks_append.mp tracks).2.1 false rfl
      rw [any_cancels_of_keeps spares.name names, Bool.or_false] at seen
      exact seen.symm

theorem Engages.any_cancels {offered cleanup : Option CleanupJob}
    (engages : Engages offered told cleanup) : told.any cancels = false := by
  cases engages <;> rfl

theorem Executes.any_cancels {seen : Bool} (executes : task.Executes seen told outcome)
    (spares : task.Spares) : told.any cancels = outcome.breaks := by
  have quiet {opening executed renamed : List (Exchange Control)} {name : String}
      {result : Except DeployError TaskState} (starts : task.Starts opening)
      (execution : Dialogue task.execute executed result)
      (renames : Dialogue task.name renamed name) (closing : List (Exchange Control)) :
      (opening ++ (executed ++ (renamed ++ closing))).any cancels = closing.any cancels := by
    rw [List.any_append, List.any_append, List.any_append, starts.any_cancels spares,
      any_cancels_of_keeps spares.execute execution, any_cancels_of_keeps spares.name renames]
    simp
  cases executes with
  | ended starts execution renames ended event =>
      rw [quiet starts execution renames]
      rfl
  | broke starts execution renames policy first second =>
      rw [quiet starts execution renames]
      exact (decide_eq_true policy).symm
  | failed starts execution renames policy event offers engages =>
      rw [quiet starts execution renames, List.any_append, List.any_append,
        any_cancels_of_keeps spares.cleanup offers, engages.any_cancels]
      rcases policy with policy | policy <;> simp [TaskOutcome.breaks, policy, cancels, said]

/-- A plan that is seen uncancelled at the start of a task is so after its execution. -/
theorem Executes.uncancelled {seen : Bool} (executes : task.Executes seen told outcome)
    (spares : task.Spares) {flag : Bool} (tracks : Tracks flag told) :
    flag = false ∧ task.Executes false told outcome := by
  have quiet {opening executed renamed closing : List (Exchange Control)} {name : String}
      {result : Except DeployError TaskState} (starts : task.Starts opening)
      (execution : Dialogue task.execute executed result)
      (renames : Dialogue task.name renamed name)
      (tracks : Tracks flag (opening ++ (executed ++ (renamed ++ closing)))) :
      flag = false ∧ Tracks false closing := by
    simp only [tracks_append, starts.any_cancels spares,
      any_cancels_of_keeps spares.execute execution, any_cancels_of_keeps spares.name renames,
      Bool.or_false] at tracks
    obtain ⟨opens, _, _, closes⟩ := tracks
    obtain rfl := starts.uncancelled spares opens
    exact ⟨rfl, closes⟩
  cases executes with
  | ended starts execution renames ended event =>
      exact ⟨(quiet starts execution renames tracks).1, .ended starts execution renames ended event⟩
  | broke starts execution renames policy first second =>
      obtain ⟨uncancelled, _, looks, _⟩ := quiet starts execution renames tracks
      obtain rfl : seen = false := looks seen rfl
      exact ⟨uncancelled, .broke starts execution renames policy first second⟩
  | failed starts execution renames policy event offers engages =>
      obtain ⟨uncancelled, _, looks, _⟩ := quiet starts execution renames tracks
      obtain rfl : seen = false := looks seen rfl
      exact ⟨uncancelled, .failed starts execution renames policy event offers engages⟩

end Task

/-! ## Deployments -/

namespace DeployTask

variable (task : DeployTask)

end DeployTask

/-! ## One task after the other -/

/-- The store that lists the replica of the small task without its parameters. -/
def Store.undescribed : Store :=
  .start
    { Store.small.topology with
      shards := KeyedMap.ofList [((Shard.fresh ⟨1⟩).addReplica ⟨1⟩).2] }
    Store.small.parameters

end ShardControl
