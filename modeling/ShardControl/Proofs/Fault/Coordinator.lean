import ShardControl.Fault.Coordinator
import ShardControl.Proofs.Program.Dialogue

/-!
# Shutdowns with and without a thread

A shutdown runs on a thread of its own, whose ticket the caller gets, or else
before the coordinator returns.  If nobody panics it leaves the same traces
either way: one status and one exit, or one stop of the service.
-/

namespace ShardControl

/-! ## Panics -/

def Exchange.Calm {Call : Type} {Value : Call → Type}
    (exchange : Exchange (Panic.interface Value)) : Prop :=
  ∃ value, exchange.answer = .ok value

instance {Call : Type} {Value : Call → Type} (exchange : Exchange (Panic.interface Value)) :
    Decidable exchange.Calm :=
  match exchange with
  | ⟨_, .ok value⟩ => .isTrue ⟨value, rfl⟩
  | ⟨_, .error _⟩ => .isFalse nofun

namespace Panic

variable {Call α : Type} {Value : Call → Type} {call : Call}
  {told : List (Exchange (interface Value))}

theorem ask_iff {answer : Except Panic (Value call)} :
    Dialogue (ask Value call).run told answer ↔ told = [⟨call, answer⟩] :=
  Dialogue.ask_iff (I := interface Value)

theorem ask_bind_iff {next : Value call → ExceptT Panic (Program (interface Value)) α}
    {result : Except Panic α} :
    Dialogue (ask Value call >>= next).run told result ↔
      (∃ panic, told = [⟨call, .error panic⟩] ∧ result = .error panic) ∨
      ∃ value rest, told = ⟨call, .ok value⟩ :: rest ∧ Dialogue (next value).run rest result := by
  rw [Dialogue.bindExcept_iff]
  constructor
  · rintro (⟨panic, rfl, asked⟩ | ⟨front, back, value, rfl, asked, further⟩)
    · exact .inl ⟨panic, ask_iff.mp asked, rfl⟩
    · obtain rfl := ask_iff.mp asked
      exact .inr ⟨value, back, rfl, further⟩
  · rintro (⟨panic, rfl, rfl⟩ | ⟨value, rest, rfl, further⟩)
    · exact .inl ⟨panic, rfl, ask_iff.mpr rfl⟩
    · exact .inr ⟨[_], rest, value, rfl, ask_iff.mpr rfl, further⟩

theorem not_calm (front : List (Exchange (interface Value))) (panic : Panic) :
    ¬ ∀ exchange ∈ front ++ [⟨call, .error panic⟩], exchange.Calm := by
  intro calm
  obtain ⟨value, isOk⟩ := calm _ (List.mem_append_right front List.mem_cons_self)
  cases isOk

/-- Without a panic the program goes on. -/
theorem calm_ask_bind {next : Value call → ExceptT Panic (Program (interface Value)) α}
    {result : Except Panic α} (dialogue : Dialogue (ask Value call >>= next).run told result)
    (calm : ∀ exchange ∈ told, exchange.Calm) :
    ∃ value rest, told = ⟨call, .ok value⟩ :: rest ∧ Dialogue (next value).run rest result ∧
      ∀ exchange ∈ rest, exchange.Calm := by
  rcases ask_bind_iff.mp dialogue with ⟨panic, rfl, _⟩ | ⟨value, rest, rfl, further⟩
  · obtain ⟨value, isOk⟩ := calm _ List.mem_cons_self
    cases isOk
  · exact ⟨value, rest, rfl, further, (List.forall_mem_cons.mp calm).2⟩

theorem calm_ask {answer : Except Panic (Value call)}
    (dialogue : Dialogue (ask Value call).run told answer)
    (calm : ∀ exchange ∈ told, exchange.Calm) :
    ∃ value, answer = .ok value ∧ told = [⟨call, .ok value⟩] := by
  obtain rfl := ask_iff.mp dialogue
  cases answer with
  | error panic =>
      obtain ⟨value, isOk⟩ := calm _ List.mem_cons_self
      cases isOk
  | ok value => exact ⟨value, rfl, rfl⟩

theorem calm_record {σ : Type} {answer : (call : Call) → σ → Except Panic (Value call) × σ}
    (quiet : ∀ call state, ∃ value, (answer call state).1 = .ok value)
    (program : Program (interface Value) α) (state : σ) :
    ∀ exchange ∈ program.record (I := interface Value) answer state, exchange.Calm := by
  induction program generalizing state with
  | done value => exact List.forall_mem_nil _
  | call question next ih => exact List.forall_mem_cons.mpr ⟨quiet question state, ih _ _⟩

end Panic

/-! ## Traces of a shutdown -/

namespace ShutdownCall

def status? : ShutdownCall → Option ServiceStatus
  | update status => some status
  | _ => none

def force? : ShutdownCall → Option Bool
  | stop force => some force
  | _ => none

def code? : ShutdownCall → Option Nat
  | exit code => some code
  | _ => none

end ShutdownCall

/-- What was published, how the service was stopped, and the codes that the process exited with. -/
structure Traces where
  statuses : List ServiceStatus
  stops : List Bool
  codes : List Nat

namespace Traces

def none : Traces := ⟨[], [], []⟩

def ofAsked (asked : List ShutdownCall) : Traces where
  statuses := asked.filterMap ShutdownCall.status?
  stops := asked.filterMap ShutdownCall.force?
  codes := asked.filterMap ShutdownCall.code?

def ofPolicy : ShutdownMode → ExitPolicy → Traces
  | _, .none => none
  | .process, .noRestart => ⟨[.errorNoRestart], [], [1]⟩
  | .process, .restart => ⟨[.errorRestarting], [], [200]⟩
  | .test, .noRestart | .test, .restart => ⟨[], [true], []⟩

end Traces

namespace ShutdownJob

/-- What is written about a shutdown before the process exits. -/
def entries (job : ShutdownJob) : List ShutdownCall :=
  .writeLine ("Process exiting due to fault: " ++ job.fault.text) ::
    ((job.policy.exitStatus.map .update).toList ++ [.flush])

variable {job : ShutdownJob} {told : List (Exchange ShutdownCall.interface)}
  {result : Except Panic Unit}

theorem bookkeeping_of_calm (dialogue : Dialogue job.bookkeeping.run told result)
    (calm : ∀ exchange ∈ told, exchange.Calm) :
    result = .ok () ∧ told.map Exchange.question = job.entries := by
  rw [bookkeeping] at dialogue
  obtain ⟨_, rest, rfl, further, calm⟩ := Panic.calm_ask_bind dialogue calm
  rw [entries]
  cases status : job.policy.exitStatus with
  | none =>
      rw [status] at further
      obtain ⟨_, rfl, rfl⟩ := Panic.calm_ask further calm
      exact ⟨rfl, rfl⟩
  | some published =>
      rw [status] at further
      obtain ⟨_, last, rfl, further, calm⟩ := Panic.calm_ask_bind further calm
      obtain ⟨_, rfl, rfl⟩ := Panic.calm_ask further calm
      exact ⟨rfl, rfl⟩

theorem exitProcess_of_calm (dialogue : Dialogue job.exitProcess.run told result)
    (calm : ∀ exchange ∈ told, exchange.Calm) :
    result = .ok () ∧ told.map Exchange.question = job.entries ++ [.exit job.code] := by
  rw [exitProcess, ExceptT.run_bind_lift] at dialogue
  obtain ⟨front, back, booked, rfl, first, further⟩ := Dialogue.bind_iff.mp dialogue
  obtain ⟨rfl, entries⟩ := bookkeeping_of_calm first fun exchange member =>
    calm exchange (List.mem_append_left back member)
  have exits : Dialogue (Panic.ask ShutdownCall.Value (.exit job.code)).run back result := further
  obtain ⟨_, rfl, rfl⟩ := Panic.calm_ask exits fun exchange member =>
    calm exchange (List.mem_append_right front member)
  exact ⟨rfl, by rw [List.map_append, entries]; rfl⟩

theorem stopService_of_calm (dialogue : Dialogue stopService.run told result)
    (calm : ∀ exchange ∈ told, exchange.Calm) :
    result = .ok () ∧ Traces.ofAsked (told.map Exchange.question) = ⟨[], [true], []⟩ := by
  rw [stopService] at dialogue
  obtain ⟨stopped, rest, rfl, further, quiet⟩ := Panic.calm_ask_bind dialogue calm
  cases stopped with
  | ok =>
      obtain ⟨rfl, rfl⟩ := Dialogue.done_iff.mp further
      exact ⟨rfl, rfl⟩
  | error reason =>
      obtain ⟨_, rfl, rfl⟩ := Panic.calm_ask further quiet
      exact ⟨rfl, rfl⟩

theorem run_of_calm (dialogue : Dialogue job.run.run told result)
    (calm : ∀ exchange ∈ told, exchange.Calm) :
    result = .ok () ∧ Traces.ofAsked (told.map Exchange.question) =
      match job.mode with
      | .test => ⟨[], [true], []⟩
      | .process => Traces.ofAsked (job.entries ++ [.exit job.code]) := by
  rw [run] at dialogue
  cases mode : job.mode with
  | test =>
      rw [mode] at dialogue
      exact stopService_of_calm dialogue calm
  | process =>
      rw [mode] at dialogue
      obtain ⟨isOk, asked⟩ := exitProcess_of_calm dialogue calm
      exact ⟨isOk, congrArg Traces.ofAsked asked⟩

/-- Where nothing panics a shutdown leaves the traces of its policy. -/
theorem traces_of_calm {mode : ShutdownMode} {fault : ServiceFault} {policy : ExitPolicy}
    (queued : queue? mode fault policy = some job) (dialogue : Dialogue job.run.run told result)
    (calm : ∀ exchange ∈ told, exchange.Calm) :
    Traces.ofAsked (told.map Exchange.question) = Traces.ofPolicy mode policy := by
  obtain ⟨code, exits, rfl⟩ := Option.map_eq_some_iff.mp queued
  rw [(run_of_calm dialogue calm).2]
  cases policy with
  | none => cases exits
  | noRestart | restart =>
      obtain rfl := Option.some.inj exits
      cases mode <;> rfl

/-- What a shutdown is told on its thread, by surroundings that do not panic. -/
def toldBy (reply : List (Exchange ShutdownCall.interface) → (call : ShutdownCall) → call.Value)
    (job : ShutdownJob) : List (Exchange ShutdownCall.interface) :=
  job.run.run.record
    (fun call told => (.ok (reply told call), told ++ [⟨call, .ok (reply told call)⟩])) []

theorem traces_toldBy {mode : ShutdownMode} {fault : ServiceFault} {policy : ExitPolicy}
    (queued : queue? mode fault policy = some job)
    (reply : List (Exchange ShutdownCall.interface) → (call : ShutdownCall) → call.Value) :
    Traces.ofAsked ((job.toldBy reply).map Exchange.question) = Traces.ofPolicy mode policy :=
  traces_of_calm queued (Dialogue.record _ _ _) (Panic.calm_record (fun _ _ => ⟨_, rfl⟩) _ _)

end ShutdownJob

/-! ## Coordinators -/

namespace CoordinatorCall

/-- How surroundings answer a question after others; any question may meet a panic. -/
abbrev Behaviour : Type :=
  List (Exchange interface) → (call : CoordinatorCall) → Except Panic call.Value

/-- Surroundings of some behaviour, which keep a record of what they are asked. -/
def observe (behaviour : Behaviour) (call : CoordinatorCall) (told : List (Exchange interface)) :
    Except Panic call.Value × List (Exchange interface) :=
  (behaviour told call, told ++ [⟨call, behaviour told call⟩])

theorem exists_dialogue_observe {α : Type} (behaviour : Behaviour) (program : Program interface α)
    (told : List (Exchange interface)) :
    ∃ new, Dialogue program new (program.run (observe behaviour) told).1 ∧
      (program.run (observe behaviour) told).2 = told ++ new := by
  induction program generalizing told with
  | done value => exact ⟨[], .done value, (List.append_nil told).symm⟩
  | call question next ih =>
      obtain ⟨new, goes, left⟩ := ih (behaviour told question)
        (told ++ [⟨question, behaviour told question⟩])
      exact ⟨_ :: new, .ask goes, left.trans (List.append_assoc told [_] new)⟩

def started? : Exchange interface → Option ShutdownJob
  | ⟨spawn _ job, .ok (.ok ())⟩ => some job
  | _ => none

/-- What a shutdown asked on the thread of its caller. -/
def inline? : Exchange interface → Option ShutdownCall
  | ⟨inline call, _⟩ => some call
  | _ => none

def inlined (exchange : Exchange ShutdownCall.interface) : Exchange interface :=
  ⟨inline exchange.question, exchange.answer⟩

theorem started?_inlined (inner : List (Exchange ShutdownCall.interface)) :
    (inner.map inlined).filterMap started? = [] := by
  rw [List.filterMap_map]
  exact List.filterMap_eq_nil_iff.mpr fun _ _ => rfl

theorem inline?_inlined (inner : List (Exchange ShutdownCall.interface)) :
    (inner.map inlined).filterMap inline? = inner.map Exchange.question := by
  rw [List.filterMap_map]
  exact congrFun List.filterMap_eq_map inner

end CoordinatorCall

namespace ShutdownJob

open CoordinatorCall

variable {job : ShutdownJob} {told : List (Exchange CoordinatorCall.interface)}

theorem inlined_of_dialogue {α : Type} {program : Program ShutdownCall.interface α} {value : α}
    (dialogue : Dialogue (program.interpret fun call =>
      Program.ask (I := CoordinatorCall.interface) (.inline call)) told value) :
    ∃ inner, told = inner.map inlined ∧ Dialogue program inner value := by
  induction program generalizing told with
  | done value =>
      obtain ⟨rfl, rfl⟩ := Dialogue.done_iff.mp dialogue
      exact ⟨[], rfl, .done value⟩
  | call question next ih =>
      obtain ⟨answer, rest, rfl, further⟩ := Dialogue.call_iff.mp dialogue
      obtain ⟨inner, rfl, goes⟩ := ih answer further
      exact ⟨⟨question, answer⟩ :: inner, rfl, .ask goes⟩

/-- A shutdown has a thread, or it has run in place of one, or there was a panic. -/
inductive Starts (job : ShutdownJob) :
    List (Exchange CoordinatorCall.interface) → Except Panic (Option ShutdownJob) → Prop where
  | thread (service : String) :
      Starts job
        [⟨.serviceName, .ok service⟩, ⟨.spawn (service ++ "-fault-shutdown") job, .ok (.ok ())⟩]
        (.ok (some job))
  | inPlace (service again reason : String) {inner : List (Exchange ShutdownCall.interface)}
      (runs : Dialogue job.run.run inner (.ok ())) :
      Starts job
        ([⟨.serviceName, .ok service⟩,
          ⟨.spawn (service ++ "-fault-shutdown") job, .ok (.error reason)⟩,
          ⟨.serviceName, .ok again⟩, ⟨.log (.shutdownSpawnFailed again reason), .ok ()⟩] ++
          inner.map inlined)
        (.ok none)
  | panicked {told : List (Exchange CoordinatorCall.interface)} {panic : Panic}
      (unstarted : told.filterMap started? = [])
      (broken : ¬ ∀ exchange ∈ told, exchange.Calm) :
      Starts job told (.error panic)

theorem starts_of_dialogue {answer : Except Panic (Option ShutdownJob)}
    (dialogue : Dialogue job.start.run told answer) : job.Starts told answer := by
  rw [start] at dialogue
  rcases Panic.ask_bind_iff.mp dialogue with ⟨panic, rfl, rfl⟩ | ⟨service, _, rfl, toSpawn⟩
  · exact .panicked rfl (Panic.not_calm [] panic)
  rcases Panic.ask_bind_iff.mp toSpawn with ⟨panic, rfl, rfl⟩ | ⟨started, _, rfl, toEnd⟩
  · exact .panicked rfl (Panic.not_calm [_] panic)
  cases started with
  | ok =>
      obtain ⟨rfl, rfl⟩ := Dialogue.done_iff.mp toEnd
      exact .thread service
  | error reason =>
      rcases Panic.ask_bind_iff.mp toEnd with ⟨panic, rfl, rfl⟩ | ⟨again, _, rfl, toLog⟩
      · exact .panicked rfl (Panic.not_calm [_, _] panic)
      rcases Panic.ask_bind_iff.mp toLog with ⟨panic, rfl, rfl⟩ | ⟨_, _, rfl, toRun⟩
      · exact .panicked rfl (Panic.not_calm [_, _, _] panic)
      rcases Dialogue.bindExcept_iff.mp toRun with
        ⟨panic, rfl, runs⟩ | ⟨_, _, ended, rfl, runs, done⟩
      · obtain ⟨inner, rfl, goes⟩ := inlined_of_dialogue runs
        refine .panicked (started?_inlined inner) fun calm => ?_
        have quiet : ∀ exchange ∈ inner, exchange.Calm := fun exchange member =>
          calm (inlined exchange) (by simp [List.mem_map_of_mem member])
        cases (run_of_calm goes quiet).1
      · obtain ⟨inner, rfl, goes⟩ := inlined_of_dialogue runs
        obtain ⟨rfl, rfl⟩ := Dialogue.done_iff.mp done
        rw [List.append_nil]
        exact .inPlace service again reason goes

/-- The ticket that a caller gets, unless there was a panic. -/
def granted : Except Panic (Option ShutdownJob) → List ShutdownJob
  | .ok ticket => ticket.toList
  | .error _ => []

/-- The questions of all shutdowns: those in place of a thread, and those on the threads. -/
def questions (reply : List (Exchange ShutdownCall.interface) → (call : ShutdownCall) → call.Value)
    (told : List (Exchange CoordinatorCall.interface)) : List ShutdownCall :=
  told.filterMap inline? ++
    (told.filterMap started?).flatMap fun job => (job.toldBy reply).map Exchange.question

structure Queued (mode : ShutdownMode) (policy : ExitPolicy)
    (told : List (Exchange CoordinatorCall.interface))
    (answer : Except Panic (Option ShutdownJob)) : Prop where
  /-- The caller gets the ticket of the thread, if there is one. -/
  ticket : told.filterMap started? = granted answer
  /-- The shutdown does not run twice. -/
  apart : told.filterMap inline? = [] ∨ told.filterMap started? = []
  returns : (∀ exchange ∈ told, exchange.Calm) → ∃ ticket, answer = .ok ticket
  traces : (∀ exchange ∈ told, exchange.Calm) →
    ∀ reply, Traces.ofAsked (questions reply told) = Traces.ofPolicy mode policy

theorem queued_of_dialogue {mode : ShutdownMode} {fault : ServiceFault} {policy : ExitPolicy}
    {answer : Except Panic (Option ShutdownJob)}
    (dialogue : Dialogue (queue mode fault policy).run told answer) :
    Queued mode policy told answer := by
  rw [queue] at dialogue
  cases queued : queue? mode fault policy with
  | none =>
      rw [queued] at dialogue
      obtain ⟨rfl, rfl⟩ := Dialogue.done_iff.mp dialogue
      refine ⟨rfl, .inl rfl, fun _ => ⟨none, rfl⟩, fun _ _ => ?_⟩
      cases policy with
      | none => cases mode <;> rfl
      | noRestart | restart => cases queued
  | some job =>
      rw [queued] at dialogue
      cases starts_of_dialogue dialogue with
      | thread service =>
          refine ⟨rfl, .inl rfl, fun _ => ⟨_, rfl⟩, fun _ reply => ?_⟩
          rw [← traces_toldBy queued reply]
          exact congrArg Traces.ofAsked (List.append_nil _)
      | @inPlace service again reason inner runs =>
          have unstarted := started?_inlined inner
          refine ⟨unstarted, .inr unstarted, fun _ => ⟨none, rfl⟩, fun calm reply => ?_⟩
          have quiet : ∀ exchange ∈ inner, exchange.Calm := fun exchange member =>
            calm (inlined exchange) (List.mem_append_right _ (List.mem_map_of_mem member))
          rw [← traces_of_calm queued runs quiet]
          refine congrArg Traces.ofAsked ?_
          change (inner.map inlined).filterMap inline? ++
            ((inner.map inlined).filterMap started?).flatMap _ = inner.map Exchange.question
          rw [unstarted, inline?_inlined, List.flatMap_nil, List.append_nil]
      | panicked unstarted broken =>
          exact ⟨unstarted, .inr unstarted, fun calm => absurd calm broken,
            fun calm => absurd calm broken⟩

end ShutdownJob

end ShardControl
