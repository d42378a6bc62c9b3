import Mathlib.Algebra.GroupWithZero.Nat
import ShardControl.Proofs.Telemetry.Repository
import ShardControl.Service.Monitored

/-!
# Histories of services

A service that publishes every change of its status leaves a history in its
repository.  However updates, stops and drains are mixed, the history is what
the status has gone through, and no change of it is lost between the live
measurements and the aggregates.
-/

namespace ShardControl

/-! ## Statuses one after the other -/

namespace ServiceStatus

/-- The statuses that writing some of them, one after the other, moves on to. -/
def moves (current : ServiceStatus) : List ServiceStatus → List ServiceStatus
  | [] => []
  | next :: rest => if current = next then moves next rest else next :: moves next rest

theorem moves_append (current : ServiceStatus) (first second : List ServiceStatus) :
    current.moves (first ++ second) =
      current.moves first ++ (first.getLastD current).moves second := by
  induction first generalizing current with
  | nil => rfl
  | cons next rest ih =>
      rw [List.cons_append, moves, moves, ih, List.getLastD_cons]
      split <;> rfl

theorem getLastD_moves (current : ServiceStatus) (written : List ServiceStatus) :
    (current.moves written).getLastD current = written.getLastD current := by
  induction written generalizing current with
  | nil => rfl
  | cons next rest ih =>
      rw [moves, List.getLastD_cons, ← ih next]
      split
      · rename_i same
        rw [same]
      · rw [List.getLastD_cons]

theorem isChain_moves (current : ServiceStatus) (written : List ServiceStatus) :
    (current :: current.moves written).IsChain (· ≠ ·) := by
  induction written generalizing current with
  | nil => exact .singleton current
  | cons next rest ih =>
      rw [moves]
      split
      · rename_i same
        rw [same]
        exact ih next
      · rename_i differ
        exact .cons_cons differ (ih next)

end ServiceStatus

/-! ## Measurements of statuses -/

def Measurement.status? (measurement : Measurement) : Option ServiceStatus :=
  match measurement.reading with
  | .statusChange status => some status
  | _ => none

theorem Measurement.isSome_status? (measurement : Measurement) :
    measurement.status?.isSome = measurement.isStatusChange := by
  obtain ⟨resource, time, reading⟩ := measurement
  cases reading <;> rfl

/-- The status changes that a snapshot reports, live and in the aggregate. -/
def Snapshot.reported (snapshot : Snapshot) : Nat :=
  snapshot.statusChanges + (snapshot.pruned.map Pruned.statusChanges).getD 0

/-- A snapshot reports every status change that it covers. -/
theorem Snapshot.Covers.reported_eq {capacity : Nat} {batch : List Measurement}
    {snapshot : Snapshot} (covers : snapshot.Covers capacity batch) :
    snapshot.reported = batch.countP Measurement.isStatusChange := by
  have split := congrArg (List.countP Measurement.isStatusChange)
    (List.take_append_drop (batch.length - capacity) batch)
  rw [List.countP_append] at split
  rw [reported, covers.statusChanges, covers.measurements, ← split]
  cases held : snapshot.pruned with
  | none =>
      have fits := covers.absent_iff.mp held
      rw [Nat.sub_eq_zero_of_le fits]
      simp
  | some pruned =>
      rw [Option.map_some, Option.getD_some, (covers.aggregate pruned held).statusChanges,
        Nat.add_comm]

namespace Repository

def statuses (calls : List Call) : List ServiceStatus :=
  (calls.filterMap Call.measurement?).filterMap Measurement.status?

theorem statuses_append (first second : List Call) :
    statuses (first ++ second) = statuses first ++ statuses second := by
  rw [statuses, List.filterMap_append, List.filterMap_append]
  rfl

/-- No status change that was added to a new repository is lost, and none is counted twice. -/
theorem reported_serve (resource : Option ResourceId) (capacity : Nat) (calls : List Call) :
    (((fresh resource capacity).serve calls).1.map Snapshot.reported).sum +
        ((fresh resource capacity).serve calls).2.drain.1.reported =
      (statuses calls).length := by
  obtain ⟨⟨dropped, keeps⟩, taken⟩ := (keeps_fresh resource capacity).serve calls
  have added := flatten_batches [] calls
  have sum := sum_eq_countP_flatten (taken.imp fun _ _ covers => covers.reported_eq)
  rw [sum, keeps.drain.reported_eq, ← List.countP_append, added, List.nil_append,
    statuses, List.length_filterMap_eq_countP]
  exact List.countP_congr fun measurement _ => by rw [measurement.isSome_status?]

end Repository

/-! ## Calls -/

namespace MonitoredService

/-- A call on a service, or on its repository; a stop runs a hook, if there is one. -/
inductive Call where
  | update (status : ServiceStatus)
  | stop (hook : Option StopHook) (force : Bool)
  | drain

/-- Whether the components of a service fail to stop; without a hook there are none. -/
def fails : Option StopHook → Bool → Bool
  | none, _ => false
  | some run, force =>
      match run force with
      | .ok () => false
      | .error _ => true

namespace Call

/-- The statuses that a call writes to a service that has a status, one after the other. -/
def writes (status : ServiceStatus) : Call → List ServiceStatus
  | update next => [next]
  | stop hook force =>
      if status.isTerminal then []
      else if fails hook force && !force then [.stopping]
      else [.stopping, .stopped]
  | drain => []

/-- The service after a call, and the changes of its status that the call publishes. -/
def make (service : MonitoredService) : Call → MonitoredService × List Transition
  | update status => service.update status
  | stop hook force => ((service.stop hook force).service, (service.stop hook force).transitions)
  | drain => (service, [])

/-- What a call asks of the repository, if it publishes changes by some clock. -/
def asks (clock : Transition → UInt64) (published : List Transition) : Call → List Repository.Call
  | drain => [.drain]
  | _ => published.map fun transition => .add (transition.measurement (clock transition))

end Call

abbrev Turn : Type := Call × (Transition → UInt64)

def serve (service : MonitoredService) : List Turn → MonitoredService × List Repository.Call
  | [] => (service, [])
  | (call, clock) :: rest =>
      let later := serve (call.make service).1 rest
      (later.1, call.asks clock (call.make service).2 ++ later.2)

def written (status : ServiceStatus) : List Turn → List ServiceStatus
  | [] => []
  | (call, _) :: rest =>
      call.writes status ++ written ((call.writes status).getLastD status) rest

theorem targets_update (service : MonitoredService) (next : ServiceStatus) :
    (service.update next).2.map Transition.target = service.status.moves [next] := by
  rw [update, ServiceStatus.moves]
  split <;> rfl

/-- A service that has ended is left alone. -/
theorem stop_of_terminal {service : MonitoredService} (ended : service.status.isTerminal = true)
    (hook : Option StopHook) (force : Bool) :
    service.stop hook force = ⟨.ok (), service, [], false⟩ := by
  unfold stop
  rw [if_pos ended]

/-- A stop that fails leaves the service stopping. -/
theorem stop_of_fails {service : MonitoredService} {hook : Option StopHook}
    (running : service.status.isTerminal = false) (failed : fails hook false = true) :
    (service.stop hook false).service = (service.update .stopping).1 ∧
      (service.stop hook false).transitions = (service.update .stopping).2 := by
  unfold stop
  rw [if_neg (by simp [running])]
  cases hook with
  | none => cases failed
  | some run =>
      cases answer : run false with
      | ok => simp [fails, answer] at failed
      | error reason => simp [answer]

/-- A stop that succeeds or is forced goes on to the end. -/
theorem stop_of_stops {service : MonitoredService} {hook : Option StopHook} {force : Bool}
    (running : service.status.isTerminal = false) (stops : (fails hook force && !force) = false) :
    (service.stop hook force).service = { service with status := .stopped } ∧
      (service.stop hook force).transitions =
        (service.update .stopping).2 ++ ((service.update .stopping).1.update .stopped).2 := by
  unfold stop
  rw [if_neg (by simp [running])]
  cases hook with
  | none => exact ⟨rfl, rfl⟩
  | some run =>
      cases answer : run force with
      | ok => exact ⟨by simp [answer, update], by simp [answer]⟩
      | error reason =>
          obtain rfl : force = true := by simpa [fails, answer] using stops
          exact ⟨by simp [update], by simp⟩

/-- A call leaves the status that it writes last, and publishes those that it moves on to. -/
theorem make_writes (service : MonitoredService) (call : Call) :
    (call.make service).1 =
        { service with status := (call.writes service.status).getLastD service.status } ∧
      (call.make service).2.map Transition.target =
        service.status.moves (call.writes service.status) := by
  cases call with
  | update next => exact ⟨rfl, service.targets_update next⟩
  | stop hook force =>
      rw [Call.make, Call.writes]
      cases running : service.status.isTerminal with
      | true =>
          rw [stop_of_terminal running]
          exact ⟨rfl, rfl⟩
      | false =>
          cases stops : fails hook force && !force with
          | true =>
              obtain ⟨failed, unforced⟩ := Bool.and_eq_true_iff.mp stops
              obtain rfl : force = false := by simpa using unforced
              obtain ⟨stopped, transitions⟩ := stop_of_fails running failed
              rw [stopped, transitions]
              exact ⟨rfl, service.targets_update .stopping⟩
          | false =>
              obtain ⟨stopped, transitions⟩ := stop_of_stops running stops
              rw [stopped, transitions, List.map_append, targets_update, targets_update]
              exact ⟨rfl, (service.status.moves_append [.stopping] [.stopped]).symm⟩
  | drain => exact ⟨rfl, rfl⟩

/-! ## Turns -/

/-- What a call asks of the repository adds the changes that it publishes. -/
theorem statuses_asks (service : MonitoredService) (call : Call) (clock : Transition → UInt64) :
    Repository.statuses (call.asks clock (call.make service).2) =
      (call.make service).2.map Transition.target := by
  have added (published : List Transition) : Repository.statuses
      (published.map fun transition => .add (transition.measurement (clock transition))) =
        published.map Transition.target := by
    induction published with
    | nil => rfl
    | cons transition rest ih => exact congrArg _ ih
  cases call with
  | update => exact added _
  | stop => exact added _
  | drain => rfl

theorem serve_written (service : MonitoredService) (turns : List Turn) :
    (service.serve turns).1.status = (written service.status turns).getLastD service.status ∧
      Repository.statuses (service.serve turns).2 =
        service.status.moves (written service.status turns) := by
  induction turns generalizing service with
  | nil => exact ⟨rfl, rfl⟩
  | cons turn rest ih =>
      obtain ⟨call, clock⟩ := turn
      obtain ⟨left, published⟩ := make_writes service call
      obtain ⟨last, later⟩ := ih (call.make service).1
      rw [left] at last later
      rw [serve, written]
      dsimp only
      constructor
      · rw [left, last, List.getLastD_eq_getLast?, List.getLastD_eq_getLast?,
          List.getLastD_eq_getLast?, List.getLast?_append, Option.getD_or]
      · rw [Repository.statuses_append, statuses_asks, published, left, later,
          ServiceStatus.moves_append]

/-- What turns on a new service come to: the service that they leave, with what they have asked of
its repository, and what one more stop does. -/
structure Chronicle (owner : Option ResourceId) (capacity : Nat) (turns : List Turn)
    (service : MonitoredService) (asked : List Repository.Call) : Prop where
  /-- The repository is told the statuses that the service has moved on to, and no others. -/
  statuses : Repository.statuses asked = ServiceStatus.starting.moves (written .starting turns)
  distinct : (.starting :: Repository.statuses asked).IsChain (· ≠ ·)
  last : (Repository.statuses asked).getLastD .starting = service.status
  /-- Every change is reported by one drain, live or in the aggregate, or by the next one. -/
  reported : ((((Repository.fresh owner capacity).serve asked).1.map Snapshot.reported).sum +
    ((Repository.fresh owner capacity).serve asked).2.drain.1.reported) =
      (Repository.statuses asked).length
  ends : ∀ hook, (service.stop hook true).service.status.isTerminal = true
  stops : service.status.isTerminal = false →
    ∀ hook, (service.stop hook true).service.status = .stopped
  remains : service.status.isTerminal = false → ∀ hook, fails hook false = true →
    (service.stop hook false).service.status = .stopping
  /-- A service that has ended is left alone, and its hook is not run. -/
  ended : service.status.isTerminal = true →
    ∀ hook force, service.stop hook force = ⟨.ok (), service, [], false⟩

theorem chronicle_of_turns (resource : ResourceId) (owner : Option ResourceId) (capacity : Nat)
    (turns : List Turn) :
    Chronicle owner capacity turns ((fresh resource).serve turns).1
      ((fresh resource).serve turns).2 := by
  obtain ⟨last, statuses⟩ := (fresh resource).serve_written turns
  change _ = (written .starting turns).getLastD .starting at last
  change _ = ServiceStatus.starting.moves (written .starting turns) at statuses
  generalize (fresh resource).serve turns = served at last statuses
  have stops : served.1.status.isTerminal = false →
      ∀ hook, (served.1.stop hook true).service.status = .stopped := by
    intro running hook
    rw [(stop_of_stops running (Bool.and_false _)).1]
  refine ⟨statuses, ?_, ?_, Repository.reported_serve owner capacity served.2, ?_, stops, ?_,
    stop_of_terminal⟩
  · rw [statuses]
    exact ServiceStatus.isChain_moves _ _
  · rw [statuses, ServiceStatus.getLastD_moves, last]
  · intro hook
    cases running : served.1.status.isTerminal with
    | true => rw [stop_of_terminal running, running]
    | false =>
        rw [stops running hook]
        rfl
  · intro running hook failed
    rw [(stop_of_fails running failed).1]
    rfl

end MonitoredService

end ShardControl
