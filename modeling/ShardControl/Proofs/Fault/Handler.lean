import Mathlib.Data.List.Basic
import ShardControl.Fault.Handler
import ShardControl.Proofs.Fault.Coordinator

/-!
# One shutdown for all faults

The first fault whose policy ends the process starts the shutdown of a
service.  Whatever its handler is asked after that, its coordinator is not
asked for another one, and there is one ticket at most.  What the shutdown
publishes and the code that it exits with belong to that first fault.
-/

namespace ShardControl

/-! ## Fatal faults -/

namespace ServiceFault

/-- Whether a fault is classified with a policy that does not keep the process. -/
def IsFatal (default : ExitPolicy) (fault : ServiceFault) : Prop :=
  (fault.classify default).exitPolicy ≠ .none

instance (default : ExitPolicy) (fault : ServiceFault) : Decidable (fault.IsFatal default) :=
  inferInstanceAs (Decidable (_ ≠ _))

def fatal? (default : ExitPolicy) (fault : ServiceFault) : Option ServiceFault :=
  if fault.IsFatal default then some fault else none

theorem requiresShutdown_iff {default : ExitPolicy} {fault : ServiceFault} :
    (fault.classify default).exitPolicy.requiresShutdown = true ↔ fault.IsFatal default := by
  rw [IsFatal]
  cases (fault.classify default).exitPolicy <;> decide

end ServiceFault

namespace HandlerCall

/-- How a coordinator was asked to queue a shutdown. -/
def queue? : Exchange interface → Option (ShutdownMode × ServiceFault × ExitPolicy)
  | ⟨queue mode fault policy, _⟩ => some (mode, fault, policy)
  | ⟨log _, _⟩ => none

def ticket? : Exchange interface → Option ShutdownJob
  | ⟨queue .., .ok ticket⟩ => ticket
  | _ => none

end HandlerCall

namespace FaultHandler

open HandlerCall

/-! ## Calls of a handler -/

inductive Call (α : Type) where
  | handle (operation : String) (fault : ServiceFault)
  | execute (operation : String) (result : Except ServiceFault α)
  | take

inductive Answer (α : Type) where
  | handled (fault : SurfacedFault)
  | executed (result : Except SurfacedFault α)
  | taken (ticket : Option ShutdownJob)

variable {α : Type}

def Call.fault? : Call α → Option ServiceFault
  | handle _ fault | execute _ (.error fault) => some fault
  | execute _ (.ok _) | take => none

def Call.fatal? (default : ExitPolicy) (call : Call α) : Option ServiceFault :=
  call.fault?.bind (ServiceFault.fatal? default)

def fatal? (default : ExitPolicy) (calls : List (Call α)) : Option ServiceFault :=
  calls.findSome? (Call.fatal? default)

def Answer.ticket? : Answer α → Option ShutdownJob
  | taken ticket => ticket
  | handled _ | executed _ => none

/-- Whether an answer tells the caller how the operation ended: a fault in its surfaced form. -/
def Tells (default : ExitPolicy) : Call α → Answer α → Prop
  | .handle _ fault, .handled surfaced => surfaced = (fault.classify default).surfaced
  | .execute _ (.error fault), .executed result =>
      result = .error (fault.classify default).surfaced
  | .execute _ (.ok value), .executed result => result = .ok value
  | .take, .taken _ => True
  | _, _ => False

def serve (handler : FaultHandler) : Call α → Handling (Answer α × FaultHandler)
  | .handle operation fault => Prod.map .handled id <$> handler.handle operation fault
  | .execute operation result => Prod.map .executed id <$> handler.execute operation result
  | .take => return handler.takeTicket.map .taken id

/-- What became of calls: the answers to those that returned, each with the handler after it, and
whether a panic left the call after these. -/
structure Course (α : Type) where
  steps : List (Answer α × FaultHandler)
  broken : Bool

/-- Answer calls one after the other.  A panic that leaves one of them is the end. -/
def serveAll (handler : FaultHandler) : List (Call α) → Program HandlerCall.interface (Course α)
  | [] => return ⟨[], false⟩
  | call :: rest => do
      match ← (handler.serve call).run with
      | .error _ => return ⟨[], true⟩
      | .ok (answer, after) =>
          let course ← after.serveAll rest
          return { course with steps := (answer, after) :: course.steps }

namespace Course

def tickets (course : Course α) : List ShutdownJob :=
  course.steps.filterMap fun step => step.1.ticket?

def last (course : Course α) (handler : FaultHandler) : FaultHandler :=
  (course.steps.getLast?.map Prod.snd).getD handler

end Course

/-! ## One call -/

/-- How a fault is handled: surfaced, after the shutdown was queued that is due, unless a panic
comes first. -/
inductive Handles (handler : FaultHandler) (fault : ServiceFault) :
    List (Exchange HandlerCall.interface) → Except Panic (SurfacedFault × FaultHandler) → Prop where
  | unlogged (event : Event) (panic : Panic) :
      Handles handler fault [⟨.log event, .error panic⟩] (.error panic)
  | surfaced (event : Event)
      (undue : handler.shutdownFault.isSome ∨ fault.fatal? handler.defaultPolicy = none) :
      Handles handler fault [⟨.log event, .ok ()⟩]
        (.ok ((fault.classify handler.defaultPolicy).surfaced, handler))
  | unqueued (event : Event) (panic : Panic) (unknown : handler.shutdownFault = none)
      (fatal : fault.fatal? handler.defaultPolicy = some fault) :
      Handles handler fault
        [⟨.log event, .ok ()⟩,
          ⟨.queue handler.mode fault (fault.classify handler.defaultPolicy).exitPolicy,
            .error panic⟩]
        (.error panic)
  | queued (event : Event) (ticket : Option ShutdownJob) (unknown : handler.shutdownFault = none)
      (fatal : fault.fatal? handler.defaultPolicy = some fault) :
      Handles handler fault
        [⟨.log event, .ok ()⟩,
          ⟨.queue handler.mode fault (fault.classify handler.defaultPolicy).exitPolicy,
            .ok ticket⟩]
        (.ok ((fault.classify handler.defaultPolicy).surfaced,
          { handler with shutdownFault := some fault, ticket := ticket }))

variable {handler : FaultHandler} {heard : List (Exchange HandlerCall.interface)}

theorem handles_of_dialogue {operation : String} {fault : ServiceFault}
    {result : Except Panic (SurfacedFault × FaultHandler)}
    (dialogue : Dialogue (handler.handle operation fault).run heard result) :
    handler.Handles fault heard result := by
  rw [handle] at dialogue
  by_cases fatal : fault.IsFatal handler.defaultPolicy
  · have found : fault.fatal? handler.defaultPolicy = some fault := if_pos fatal
    simp only [ServiceFault.requiresShutdown_iff.mpr fatal, if_true] at dialogue
    rcases Panic.ask_bind_iff.mp dialogue with ⟨panic, rfl, rfl⟩ | ⟨_, _, rfl, toBegin⟩
    · exact .unlogged _ panic
    rw [begin] at toBegin
    cases known : handler.shutdownFault with
    | some earlier =>
        rw [known] at toBegin
        obtain ⟨rfl, rfl⟩ := Dialogue.done_iff.mp toBegin
        exact .surfaced _ (.inl (by rw [known]; rfl))
    | none =>
        rw [known] at toBegin
        rcases Dialogue.bindExcept_iff.mp toBegin with
          ⟨panic, rfl, begun⟩ | ⟨_, _, after, rfl, begun, ended⟩
        · rcases Panic.ask_bind_iff.mp begun with ⟨_, rfl, same⟩ | ⟨_, _, rfl, noted⟩
          · cases same
            exact .unqueued _ panic known found
          · cases (Dialogue.done_iff.mp noted).2
        · rcases Panic.ask_bind_iff.mp begun with ⟨_, rfl, same⟩ | ⟨ticket, _, rfl, noted⟩
          · cases same
          · obtain ⟨rfl, same⟩ := Dialogue.done_iff.mp noted
            obtain ⟨rfl, rfl⟩ := Dialogue.done_iff.mp ended
            cases same
            exact .queued _ ticket known found
  · have found : fault.fatal? handler.defaultPolicy = none := if_neg fatal
    simp only [mt ServiceFault.requiresShutdown_iff.mp fatal] at dialogue
    rcases Panic.ask_bind_iff.mp dialogue with ⟨panic, rfl, rfl⟩ | ⟨_, _, rfl, ended⟩
    · exact .unlogged _ panic
    · obtain ⟨rfl, rfl⟩ := Dialogue.done_iff.mp ended
      exact .surfaced _ (.inr found)

/-- The fault for which a call has to queue a shutdown. -/
def due? (handler : FaultHandler) (call : Call α) : Option ServiceFault :=
  match handler.shutdownFault with
  | some _ => none
  | none => call.fatal? handler.defaultPolicy

def order (handler : FaultHandler) (fault : ServiceFault) :
    ShutdownMode × ServiceFault × ExitPolicy :=
  (handler.mode, fault, (fault.classify handler.defaultPolicy).exitPolicy)

/-- What a call does: nothing is due, or a shutdown is queued, or the ticket is taken, or a panic
comes before the call has returned. -/
inductive Serves (handler : FaultHandler) : Call α → List (Exchange HandlerCall.interface) →
    Except Panic (Answer α × FaultHandler) → Prop where
  | undue {call : Call α} {answer : Answer α} {heard : List (Exchange HandlerCall.interface)}
      (asks : call ≠ .take) (none : handler.due? call = none)
      (tells : Tells handler.defaultPolicy call answer)
      (unasked : heard.filterMap queue? = []) (ungiven : heard.filterMap ticket? = []) :
      Serves handler call heard (.ok (answer, handler))
  | due {call : Call α} {answer : Answer α} {heard : List (Exchange HandlerCall.interface)}
      {fault : ServiceFault} {ticket : Option ShutdownJob}
      (asks : call ≠ .take) (falls : handler.due? call = some fault)
      (tells : Tells handler.defaultPolicy call answer)
      (asked : heard.filterMap queue? = [handler.order fault])
      (given : heard.filterMap ticket? = ticket.toList) :
      Serves handler call heard
        (.ok (answer, { handler with shutdownFault := some fault, ticket := ticket }))
  | take : Serves handler .take [] (.ok (.taken handler.ticket, { handler with ticket := none }))
  | panicked {call : Call α} {heard : List (Exchange HandlerCall.interface)} {panic : Panic}
      (asked : heard.filterMap queue? <+: ((handler.due? call).map handler.order).toList)
      (ungiven : heard.filterMap ticket? = [])
      (broken : ¬ ∀ exchange ∈ heard, exchange.Calm) :
      Serves handler call heard (.error panic)

theorem due?_of_undue {call : Call α} (undue : handler.shutdownFault.isSome ∨
    call.fatal? handler.defaultPolicy = none) : handler.due? call = none := by
  rw [due?]
  rcases undue with known | none
  · obtain ⟨earlier, known⟩ := Option.isSome_iff_exists.mp known
    rw [known]
  · cases handler.shutdownFault with
    | none => exact none
    | some _ => rfl

theorem Handles.serves {fault : ServiceFault} {result : Except Panic (SurfacedFault × FaultHandler)}
    (handles : handler.Handles fault heard result) {call : Call α}
    (answer : SurfacedFault → Answer α) (brings : call.fault? = some fault)
    (tells : Tells handler.defaultPolicy call
      (answer (fault.classify handler.defaultPolicy).surfaced)) :
    handler.Serves call heard (result.map (Prod.map answer id)) := by
  have asks : call ≠ .take := by
    rintro rfl
    cases brings
  have fatal : call.fatal? handler.defaultPolicy = fault.fatal? handler.defaultPolicy := by
    rw [Call.fatal?, brings, Option.bind_some]
  cases handles with
  | unlogged event panic => exact .panicked List.nil_prefix rfl (Panic.not_calm [] panic)
  | surfaced event undue => exact .undue asks (due?_of_undue (fatal ▸ undue)) tells rfl rfl
  | unqueued event panic unknown found =>
      have falls : handler.due? call = some fault := by rw [due?, unknown, fatal, found]
      refine .panicked ?_ rfl (Panic.not_calm [_] panic)
      rw [falls]
      exact List.prefix_refl _
  | queued event ticket unknown found =>
      have falls : handler.due? call = some fault := by rw [due?, unknown, fatal, found]
      refine .due asks falls tells rfl ?_
      cases ticket <;> rfl

theorem serves_of_dialogue {call : Call α} {result : Except Panic (Answer α × FaultHandler)}
    (dialogue : Dialogue (handler.serve call).run heard result) :
    handler.Serves call heard result := by
  match call with
  | .handle operation fault =>
      obtain ⟨found, handled, rfl⟩ := Dialogue.mapExcept_iff.mp dialogue
      exact (handles_of_dialogue handled).serves .handled rfl rfl
  | .execute operation (.ok value) =>
      obtain ⟨rfl, rfl⟩ := Dialogue.done_iff.mp dialogue
      exact .undue nofun (due?_of_undue (.inr rfl)) rfl rfl rfl
  | .execute operation (.error fault) =>
      obtain ⟨_, executed, rfl⟩ := Dialogue.mapExcept_iff.mp dialogue
      obtain ⟨found, handled, rfl⟩ := Dialogue.mapExcept_iff.mp
        (show Dialogue ((fun handled => (Except.error handled.1, handled.2)) <$>
          handler.handle operation fault).run heard _ by rwa [map_eq_pure_bind])
      have serves : handler.Serves (.execute operation (.error fault) : Call α) heard
          (found.map (Prod.map (fun surfaced => .executed (.error surfaced)) id)) :=
        (handles_of_dialogue handled).serves _ rfl rfl
      cases found <;> exact serves
  | .take =>
      obtain ⟨rfl, rfl⟩ := Dialogue.done_iff.mp dialogue
      exact .take

/-! ## All calls -/

/-- A run of calls, up to the one that a panic leaves. -/
inductive ServesAll : FaultHandler → List (Call α) → List (Exchange HandlerCall.interface) →
    Course α → Prop where
  | nil (handler : FaultHandler) : ServesAll handler [] [] ⟨[], false⟩
  | panicked {handler : FaultHandler} {call : Call α} {rest : List (Call α)}
      {heard : List (Exchange HandlerCall.interface)} {panic : Panic}
      (serves : handler.Serves call heard (.error panic)) :
      ServesAll handler (call :: rest) heard ⟨[], true⟩
  | cons {handler after : FaultHandler} {call : Call α} {rest : List (Call α)}
      {front back : List (Exchange HandlerCall.interface)} {answer : Answer α} {course : Course α}
      (serves : handler.Serves call front (.ok (answer, after)))
      (later : ServesAll after rest back course) :
      ServesAll handler (call :: rest) (front ++ back)
        ⟨(answer, after) :: course.steps, course.broken⟩

theorem servesAll_of_dialogue {calls : List (Call α)} {course : Course α}
    (dialogue : Dialogue (handler.serveAll calls) heard course) :
    handler.ServesAll calls heard course := by
  induction calls generalizing handler heard course with
  | nil =>
      obtain ⟨rfl, rfl⟩ := Dialogue.done_iff.mp dialogue
      exact .nil handler
  | cons call rest ih =>
      obtain ⟨front, back, result, rfl, first, further⟩ := Dialogue.bind_iff.mp dialogue
      cases result with
      | error panic =>
          obtain ⟨rfl, rfl⟩ := Dialogue.done_iff.mp further
          rw [List.append_nil]
          exact .panicked (serves_of_dialogue first)
      | ok served =>
          obtain ⟨back, _, later, rfl, onward, ended⟩ := Dialogue.bind_iff.mp further
          obtain ⟨rfl, rfl⟩ := Dialogue.done_iff.mp ended
          rw [List.append_nil]
          exact .cons (serves_of_dialogue first) (ih onward)

namespace Course

/-- The handler before the first call, and after each call that returned. -/
def states (course : Course α) (handler : FaultHandler) : List FaultHandler :=
  handler :: course.steps.map Prod.snd

theorem getElem?_states_nil {broken : Bool} {handler state : FaultHandler} {n : Nat}
    (found : ((⟨[], broken⟩ : Course α).states handler)[n]? = some state) :
    n = 0 ∧ handler = state := by
  simpa [states, List.getElem?_singleton] using found

end Course

variable {calls : List (Call α)} {course : Course α}

theorem Serves.settings {call : Call α} {answer : Answer α} {after : FaultHandler}
    (serves : handler.Serves call heard (.ok (answer, after))) :
    after.defaultPolicy = handler.defaultPolicy ∧ after.mode = handler.mode := by
  cases serves <;> exact ⟨rfl, rfl⟩

theorem Serves.tells {call : Call α} {answer : Answer α} {after : FaultHandler}
    (serves : handler.Serves call heard (.ok (answer, after))) :
    Tells handler.defaultPolicy call answer := by
  cases serves with
  | undue _ _ tells => exact tells
  | due _ _ tells => exact tells
  | take => trivial

theorem due?_take (handler : FaultHandler) : handler.due? (.take : Call α) = none := by
  rw [due?]
  cases handler.shutdownFault <;> rfl

theorem Serves.shutdownFault {call : Call α} {answer : Answer α} {after : FaultHandler}
    (serves : handler.Serves call heard (.ok (answer, after))) :
    after.shutdownFault = handler.shutdownFault.or (call.fatal? handler.defaultPolicy) := by
  have noted {found : Option ServiceFault} (due : handler.due? call = found) :
      handler.shutdownFault.or (call.fatal? handler.defaultPolicy) =
        handler.shutdownFault.or found := by
    rw [due?] at due
    cases known : handler.shutdownFault with
    | some earlier => rfl
    | none =>
        rw [known] at due
        exact congrArg (Option.or none) due
  cases serves with
  | undue _ none => rw [noted none, Option.or_none]
  | due _ falls =>
      rw [noted falls]
      cases known : handler.shutdownFault with
      | some earlier =>
          rw [due?, known] at falls
          cases falls
      | none => rfl
  | take => rw [noted (due?_take handler), Option.or_none]

/-- Every caller is told how the operation ended, up to a panic. -/
theorem ServesAll.tells (run : handler.ServesAll calls heard course) :
    List.Forall₂ (Tells handler.defaultPolicy) (calls.take course.steps.length)
      (course.steps.map Prod.fst) := by
  induction run with
  | nil handler => exact .nil
  | panicked serves => exact .nil
  | cons serves later ih =>
      rw [serves.settings.1] at ih
      exact .cons serves.tells ih

theorem ServesAll.length_eq (run : handler.ServesAll calls heard course)
    (whole : course.broken = false) : course.steps.length = calls.length := by
  induction run with
  | nil handler => rfl
  | panicked serves => cases whole
  | cons serves later ih => exact congrArg Nat.succ (ih whole)

/-- The fault that a handler knows is the first fatal one that it was told of. -/
theorem ServesAll.shutdownFault (run : handler.ServesAll calls heard course) {n : Nat}
    {state : FaultHandler} (found : (course.states handler)[n]? = some state) :
    state.shutdownFault =
      handler.shutdownFault.or (fatal? handler.defaultPolicy (calls.take n)) := by
  induction run generalizing n with
  | nil handler =>
      obtain ⟨rfl, rfl⟩ := Course.getElem?_states_nil found
      exact (Option.or_none).symm
  | panicked serves =>
      obtain ⟨rfl, rfl⟩ := Course.getElem?_states_nil found
      exact (Option.or_none).symm
  | @cons handler after call rest _ _ _ course serves later ih =>
      cases n with
      | zero =>
          obtain rfl := Option.some.inj found
          exact (Option.or_none).symm
      | succ n =>
          rw [ih found, serves.shutdownFault, serves.settings.1, Option.or_assoc,
            List.take_succ_cons, fatal?, fatal?, List.findSome?_cons]
          cases call.fatal? handler.defaultPolicy <;> rfl

/-- A call that is no news leaves the handler as it is. -/
theorem ServesAll.kept (run : handler.ServesAll calls heard course) {n : Nat} {call : Call α}
    {before after : FaultHandler} (asked : calls[n]? = some call) (asks : call ≠ .take)
    (first : (course.states handler)[n]? = some before)
    (second : (course.states handler)[n + 1]? = some after)
    (news : before.shutdownFault.isSome ∨ call.fatal? handler.defaultPolicy = none) :
    after = before := by
  induction run generalizing n with
  | nil handler => cases asked
  | panicked serves => cases second
  | @cons handler next call rest _ _ _ course serves later ih =>
      cases n with
      | zero =>
          obtain rfl := Option.some.inj asked
          obtain rfl := Option.some.inj first
          obtain rfl := Option.some.inj second
          cases serves with
          | undue => rfl
          | due _ falls => rw [due?_of_undue news] at falls; cases falls
          | take => exact absurd rfl asks
      | succ n =>
          rw [← serves.settings.1] at news
          exact ih asked first second news

def dueOf? (handler : FaultHandler) (calls : List (Call α)) : Option ServiceFault :=
  match handler.shutdownFault with
  | some _ => none
  | none => FaultHandler.fatal? handler.defaultPolicy calls

theorem dueOf?_cons (handler : FaultHandler) (call : Call α) (rest : List (Call α)) :
    handler.dueOf? (call :: rest) = (handler.due? call).or (handler.dueOf? rest) := by
  rw [dueOf?, dueOf?, due?]
  cases handler.shutdownFault with
  | some earlier => rfl
  | none =>
      dsimp only
      rw [fatal?, fatal?, List.findSome?_cons]
      cases call.fatal? handler.defaultPolicy <;> rfl

/-- A coordinator is asked for one shutdown at most, that of the first fatal fault. -/
theorem ServesAll.orders (run : handler.ServesAll calls heard course) :
    heard.filterMap queue? <+: ((handler.dueOf? calls).map handler.order).toList ∧
      (course.broken = false →
        heard.filterMap queue? = ((handler.dueOf? calls).map handler.order).toList) := by
  induction run with
  | nil handler =>
      rw [dueOf?]
      cases handler.shutdownFault <;> exact ⟨List.nil_prefix, fun _ => rfl⟩
  | @panicked handler call rest _ _ serves =>
      refine ⟨?_, nofun⟩
      cases serves with
      | panicked asked ungiven broken =>
          rw [dueOf?_cons]
          cases falls : handler.due? call with
          | none =>
              rw [falls] at asked
              rw [List.prefix_nil.mp asked]
              exact List.nil_prefix
          | some fault =>
              rw [falls] at asked
              exact asked
  | @cons handler after call rest front back answer course serves later ih =>
      rw [List.filterMap_append, dueOf?_cons]
      cases serves with
      | undue asks none tells unasked ungiven =>
          rw [unasked, none]
          exact ih
      | due asks falls tells asked given =>
          -- The handler knows the fault from now on, so nothing is due any more.
          have unasked : back.filterMap queue? = [] := List.prefix_nil.mp ih.1
          rw [asked, falls, unasked]
          exact ⟨List.prefix_refl _, fun _ => rfl⟩
      | take =>
          rw [due?_take]
          exact ih

theorem ticket?_of_tells {default : ExitPolicy} {call : Call α} {answer : Answer α}
    (tells : Tells default call answer) (asks : call ≠ .take) : answer.ticket? = none := by
  cases answer with
  | handled _ | executed _ => rfl
  | taken ticket =>
      match call with
      | .handle _ _ | .execute _ (.ok _) | .execute _ (.error _) => cases tells
      | .take => exact absurd rfl asks

theorem Course.tickets_cons (course : Course α) (answer : Answer α) (after : FaultHandler) :
    tickets ⟨(answer, after) :: course.steps, course.broken⟩ =
      answer.ticket?.toList ++ course.tickets := by
  rw [tickets, tickets, List.filterMap_cons]
  cases answer.ticket? <;> rfl

theorem Course.last_cons (course : Course α) (answer : Answer α) (handler after : FaultHandler) :
    last ⟨(answer, after) :: course.steps, course.broken⟩ handler = course.last after := by
  rw [last, last, List.getLast?_cons]
  cases course.steps.getLast? <;> rfl

/-- What calls hand over and what the handler keeps are the tickets that its coordinator gave. -/
theorem ServesAll.tickets (run : handler.ServesAll calls heard course)
    (orderly : handler.shutdownFault = none → handler.ticket = none) :
    course.tickets ++ (course.last handler).ticket.toList =
      handler.ticket.toList ++ heard.filterMap ticket? := by
  induction run with
  | nil handler => exact (List.append_nil _).symm
  | panicked serves =>
      cases serves with
      | panicked asked ungiven broken =>
          rw [ungiven]
          exact (List.append_nil _).symm
  | @cons handler after call rest front back answer course serves later ih =>
      rw [Course.tickets_cons, Course.last_cons, List.append_assoc, List.filterMap_append]
      cases serves with
      | undue asks none tells unasked ungiven =>
          rw [ih orderly, ticket?_of_tells tells asks, ungiven]
          rfl
      | due asks falls tells asked given =>
          have unknown : handler.shutdownFault = none := by
            rw [due?] at falls
            cases known : handler.shutdownFault with
            | none => rfl
            | some earlier => rw [known] at falls; cases falls
          rw [ih nofun, ticket?_of_tells tells asks, orderly unknown, given]
      | take =>
          rw [ih fun _ => rfl]
          rfl

theorem ServesAll.not_calm (run : handler.ServesAll calls heard course)
    (broken : course.broken = true) : ¬ ∀ exchange ∈ heard, exchange.Calm := by
  induction run with
  | nil handler => cases broken
  | panicked serves =>
      cases serves with
      | panicked asked ungiven loud => exact loud
  | cons serves later ih =>
      exact fun calm => ih broken fun exchange member =>
        calm exchange (List.mem_append_right _ member)

/-! ## The coordinator of a handler -/

/-- The surroundings of a handler: its coordinator, in surroundings of some behaviour. -/
def answer (behaviour : CoordinatorCall.Behaviour) (call : HandlerCall)
    (told : List (Exchange CoordinatorCall.interface)) :
    Except Panic call.Value × List (Exchange CoordinatorCall.interface) :=
  call.meaning.run.run (CoordinatorCall.observe behaviour) told

/-- What a handler heard came of what its coordinator was told. -/
inductive Backed : List (Exchange HandlerCall.interface) →
    List (Exchange CoordinatorCall.interface) → Prop where
  | nil : Backed [] []
  | cons {call : HandlerCall} {answer : Except Panic call.Value}
      {heard : List (Exchange HandlerCall.interface)}
      {front back : List (Exchange CoordinatorCall.interface)}
      (backs : Dialogue call.meaning.run front answer) (later : Backed heard back) :
      Backed (⟨call, answer⟩ :: heard) (front ++ back)

theorem exists_backed {β : Type} (behaviour : CoordinatorCall.Behaviour)
    (program : Program HandlerCall.interface β)
    (told : List (Exchange CoordinatorCall.interface)) :
    ∃ new, Backed (program.record (answer behaviour) told) new ∧
      (program.run (answer behaviour) told).2 = told ++ new := by
  induction program generalizing told with
  | done value => exact ⟨[], .nil, (List.append_nil told).symm⟩
  | call question next ih =>
      obtain ⟨front, backs, left⟩ :=
        CoordinatorCall.exists_dialogue_observe behaviour question.meaning.run told
      obtain ⟨back, later, ends⟩ := ih (answer behaviour question told).1
        (answer behaviour question told).2
      refine ⟨front ++ back, .cons backs later, ends.trans ?_⟩
      rw [← List.append_assoc]
      exact congrArg (· ++ back) left

namespace Backed

variable {told : List (Exchange CoordinatorCall.interface)}

open CoordinatorCall

/-- A coordinator gives the tickets of the threads that it has started. -/
theorem tickets (backed : Backed heard told) :
    heard.filterMap ticket? = told.filterMap started? := by
  induction backed with
  | nil => rfl
  | @cons call answer heard front back backs later ih =>
      rw [List.filterMap_append, ← ih, List.filterMap_cons]
      cases call with
      | log event =>
          obtain rfl := Panic.ask_iff.mp backs
          rfl
      | queue mode fault policy =>
          rw [(ShutdownJob.queued_of_dialogue backs).ticket]
          cases answer with
          | error panic => rfl
          | ok ticket => cases ticket <;> rfl

theorem calm (backed : Backed heard told) (calm : ∀ exchange ∈ told, exchange.Calm) :
    ∀ exchange ∈ heard, exchange.Calm := by
  induction backed with
  | nil => exact List.forall_mem_nil _
  | @cons call answer heard front back backs later ih =>
      obtain ⟨first, others⟩ := List.forall_mem_append.mp calm
      refine List.forall_mem_cons.mpr ⟨?_, ih others⟩
      cases call with
      | log event =>
          obtain rfl := Panic.ask_iff.mp backs
          exact first _ List.mem_cons_self
      | queue mode fault policy =>
          exact (ShutdownJob.queued_of_dialogue backs).returns first

end Backed

/-- What a coordinator was told that was asked for one shutdown at most: of that shutdown alone. -/
inductive Solo (told : List (Exchange CoordinatorCall.interface)) :
    List (ShutdownMode × ServiceFault × ExitPolicy) → Prop where
  | idle (unrun : told.filterMap CoordinatorCall.inline? = [])
      (unstarted : told.filterMap CoordinatorCall.started? = []) : Solo told []
  | queued {mode : ShutdownMode} {fault : ServiceFault} {policy : ExitPolicy}
      {front : List (Exchange CoordinatorCall.interface)}
      {answer : Except Panic (Option ShutdownJob)}
      (queued : ShutdownJob.Queued mode policy front answer)
      (ran : told.filterMap CoordinatorCall.inline? = front.filterMap CoordinatorCall.inline?)
      (begun : told.filterMap CoordinatorCall.started? = front.filterMap CoordinatorCall.started?)
      (among : ∀ exchange ∈ front, exchange ∈ told) : Solo told [(mode, fault, policy)]

namespace Solo

variable {told : List (Exchange CoordinatorCall.interface)}
  {orders : List (ShutdownMode × ServiceFault × ExitPolicy)}

open CoordinatorCall

theorem of_backed (backed : Backed heard told) (single : (heard.filterMap queue?).length ≤ 1) :
    Solo told (heard.filterMap queue?) := by
  induction backed with
  | nil => exact .idle rfl rfl
  | @cons call answer heard front back backs later ih =>
      cases call with
      | log event =>
          obtain rfl := Panic.ask_iff.mp backs
          have solo : Solo back (heard.filterMap queue?) := ih single
          change Solo ([_] ++ back) (heard.filterMap queue?)
          generalize heard.filterMap queue? = orders at solo ⊢
          cases solo with
          | idle unrun unstarted => exact .idle unrun unstarted
          | queued queued ran begun among =>
              exact .queued queued ran begun fun exchange member =>
                List.mem_append_right _ (among exchange member)
      | queue mode fault policy =>
          have unasked : heard.filterMap queue? = [] :=
            List.eq_nil_of_length_eq_zero (Nat.le_zero.mp (Nat.le_of_succ_le_succ single))
          change Solo (front ++ back) ((mode, fault, policy) :: heard.filterMap queue?)
          have rest : Solo back [] := unasked ▸ ih (unasked ▸ Nat.zero_le 1)
          rw [unasked]
          cases rest with
          | idle unrun unstarted =>
              refine .queued (ShutdownJob.queued_of_dialogue backs) ?_ ?_
                fun exchange => List.mem_append_left back
              · rw [List.filterMap_append, unrun, List.append_nil]
              · rw [List.filterMap_append, unstarted, List.append_nil]

theorem length_started_le (solo : Solo told orders) : (told.filterMap started?).length ≤ 1 := by
  cases solo with
  | idle unrun unstarted =>
      rw [unstarted]
      exact Nat.zero_le 1
  | @queued _ _ _ _ answer queued ran begun among =>
      rw [begun, queued.ticket]
      cases answer with
      | error panic => exact Nat.zero_le 1
      | ok ticket => exact Option.length_toList_le

theorem apart (solo : Solo told orders) :
    told.filterMap inline? = [] ∨ told.filterMap started? = [] := by
  cases solo with
  | idle unrun unstarted => exact .inl unrun
  | queued queued ran begun among =>
      rw [ran, begun]
      exact queued.apart

/-- Where nothing panics, what is left are the traces of the policies that were asked for. -/
theorem traces (solo : Solo told orders) (calm : ∀ exchange ∈ told, exchange.Calm)
    (reply : List (Exchange ShutdownCall.interface) → (call : ShutdownCall) → call.Value) :
    Traces.ofAsked (ShutdownJob.questions reply told) =
      orders.head?.elim .none fun order => .ofPolicy order.1 order.2.2 := by
  cases solo with
  | idle unrun unstarted =>
      rw [ShutdownJob.questions, unrun, unstarted]
      rfl
  | queued queued ran begun among =>
      rw [ShutdownJob.questions, ran, begun]
      exact queued.traces (fun exchange member => calm exchange (among exchange member)) reply

end Solo

/-! ## The shutdown of a handler -/

/-- One shutdown for the first fatal fault that calls bring: what the calls came to, what the
coordinator was asked, and what that came to. -/
structure OneShutdown (default : ExitPolicy) (mode : ShutdownMode) (calls : List (Call α))
    (course : Course α) (heard : List (Exchange HandlerCall.interface))
    (told : List (Exchange CoordinatorCall.interface)) : Prop where
  /-- Unless there was a panic, every call returns. -/
  returns : (∀ exchange ∈ told, exchange.Calm) → course.broken = false
  length_eq : course.broken = false → course.steps.length = calls.length
  tells : List.Forall₂ (Tells default) (calls.take course.steps.length)
    (course.steps.map Prod.fst)
  /-- At every moment the handler knows the first fatal fault until then. -/
  known : ∀ n state, (course.states (fresh default mode))[n]? = some state →
    state.shutdownFault = fatal? default (calls.take n)
  /-- A call that brings no fatal fault, or not the first one, changes nothing. -/
  kept : ∀ n call before after, calls[n]? = some call → call ≠ .take →
    (course.states (fresh default mode))[n]? = some before →
      (course.states (fresh default mode))[n + 1]? = some after →
        before.shutdownFault.isSome ∨ call.fatal? default = none → after = before
  /-- The coordinator queues the shutdown of the first fatal fault, or none if a panic is first. -/
  queued_prefix : heard.filterMap queue? <+:
    ((fatal? default calls).map (fresh default mode).order).toList
  queued : course.broken = false →
    heard.filterMap queue? = ((fatal? default calls).map (fresh default mode).order).toList
  /-- The tickets are those of the threads that were started. -/
  tickets : course.tickets ++ (course.last (fresh default mode)).ticket.toList =
    told.filterMap CoordinatorCall.started?
  single : (told.filterMap CoordinatorCall.started?).length ≤ 1
  /-- The shutdown runs on a thread or in place of it. -/
  apart : told.filterMap CoordinatorCall.inline? = [] ∨
    told.filterMap CoordinatorCall.started? = []
  /-- Where nothing panics, the shutdown leaves the traces of its policy. -/
  traces : (∀ exchange ∈ told, exchange.Calm) →
    ∀ reply, Traces.ofAsked (ShutdownJob.questions reply told) =
      match fatal? default calls with
      | none => .none
      | some fault => .ofPolicy mode (fault.classify default).exitPolicy

theorem oneShutdown_of_servesAll {default : ExitPolicy} {mode : ShutdownMode}
    {told : List (Exchange CoordinatorCall.interface)}
    (run : (fresh default mode).ServesAll calls heard course) (backed : Backed heard told) :
    OneShutdown default mode calls course heard told := by
  have ordered := run.orders
  have returns (calm : ∀ exchange ∈ told, exchange.Calm) : course.broken = false :=
    Bool.eq_false_iff.mpr fun broken => run.not_calm broken (backed.calm calm)
  have solo : Solo told (heard.filterMap queue?) :=
    .of_backed backed (Nat.le_trans ordered.1.length_le Option.length_toList_le)
  refine ⟨returns, run.length_eq, run.tells, fun n state => run.shutdownFault,
    fun n call before after => run.kept, ordered.1, ordered.2, ?tickets,
    solo.length_started_le, solo.apart, ?traces⟩
  case tickets =>
    rw [run.tickets fun _ => rfl, backed.tickets]
    rfl
  case traces =>
    intro calm reply
    rw [ordered.2 (returns calm)] at solo
    change Solo told ((fatal? default calls).map _).toList at solo
    rw [solo.traces calm reply]
    cases fatal? default calls <;> rfl

/-- Whatever a handler is asked and whatever its coordinator meets, there is one shutdown, for the
first fatal fault. -/
theorem one_shutdown (default : ExitPolicy) (mode : ShutdownMode) (calls : List (Call α))
    (behaviour : CoordinatorCall.Behaviour) :
    let program := (fresh default mode).serveAll calls
    OneShutdown default mode calls (program.run (answer behaviour) []).1
      (program.record (answer behaviour) []) (program.run (answer behaviour) []).2 := by
  intro program
  obtain ⟨told, backed, same⟩ := exists_backed behaviour program []
  have run := servesAll_of_dialogue (Dialogue.record (answer behaviour) program [])
  rw [same]
  exact oneShutdown_of_servesAll run backed

/-- Surroundings without a panic, but without a thread either. -/
def threadless : CoordinatorCall.Behaviour
  | _, .serviceName => .ok "rg1-rn1"
  | _, .spawn .. => .ok (.error "out of threads")
  | _, .log _ => .ok ()
  | _, .inline (.stop _) => .ok (.ok ())
  | _, .inline (.writeLine _) | _, .inline (.update _) | _, .inline .flush
  | _, .inline (.exit _) => .ok ()

/-- After two fatal faults the process exits once, as the first of them asks for, also where no
thread can be started for it. -/
theorem one_shutdown_of_two_faults :
    let calls : List (Call Nat) :=
      [.execute "get" (.ok 7), .handle "put" (.internal "first"), .take,
        .execute "put" (.error (.environmentFailure "second" true))]
    let ran := ((fresh .restart .process).serveAll calls).run (answer threadless) []
    ran.1.steps.length = 4 ∧ ran.1.tickets = [] ∧
      ∀ reply,
        Traces.ofAsked (ShutdownJob.questions reply ran.2) = ⟨[.errorRestarting], [], [200]⟩ := by
  intro calls ran
  have once := one_shutdown .restart .process calls threadless
  have calm : ∀ exchange ∈ ran.2, exchange.Calm := by decide
  exact ⟨once.length_eq (once.returns calm), rfl, once.traces calm⟩

end FaultHandler

end ShardControl
