import ShardControl.Proofs.Telemetry.Conservation

/-!
# Handles of unregistered resources

Once a resource is unregistered, its old repository belongs to the holders of
its handle.  Nobody else can tell whether they still add measurements to it.
-/

namespace ShardControl.Monitor

/-! ## Handles whose resource was unregistered -/

/-- A handle that was given out and is not registered, so that it never will be again. -/
structure Retired (monitor : Monitor) (handle : RepositoryHandle) : Prop where
  given : handle < monitor.issued
  unlisted : ∀ found ∈ monitor.registrations.toList, found.handle ≠ handle

theorem Sound.retired_unregister {monitor : Monitor} (sound : monitor.Sound)
    {resource : ResourceId} {found : Registration}
    (listed : monitor.registration? resource = some found) :
    (monitor.unregister resource).2.Retired found.handle := by
  obtain ⟨member, named⟩ := registration?_eq_some_iff.mp listed
  refine ⟨sound.given found member, fun other kept same => ?_⟩
  obtain ⟨inList, differ⟩ := KeyedMap.mem_erase_iff.mp kept
  obtain rfl := sound.apart other inList found member same
  exact differ named

/-- The monitors differ in the repository of one handle at most. -/
structure AgreesBut (handle : RepositoryHandle) (first second : Monitor) : Prop where
  capacity : second.capacity = first.capacity
  registrations : second.registrations = first.registrations
  issued : second.issued = first.issued
  repository : ∀ other, other ≠ handle → second.repository other = first.repository other

theorem AgreesBut.refl (handle : RepositoryHandle) (monitor : Monitor) :
    AgreesBut handle monitor monitor := ⟨rfl, rfl, rfl, fun _ _ => rfl⟩

theorem Retired.serve {monitor : Monitor} {handle : RepositoryHandle}
    (retired : monitor.Retired handle) (call : Call) :
    (monitor.serve call).2.Retired handle := by
  refine ⟨Nat.lt_of_lt_of_le retired.given (monitor.issued_le_serve call), ?_⟩
  cases call with
  | register host port resource =>
      rw [Monitor.serve, register]
      split
      · rename_i found listed
        intro other member
        rcases KeyedMap.mem_insert_iff.mp member with rfl | ⟨kept, _⟩
        · exact retired.unlisted found (registration?_eq_some_iff.mp listed).1
        · exact retired.unlisted other kept
      · intro other member
        rcases KeyedMap.mem_insert_iff.mp member with rfl | ⟨kept, _⟩
        · exact Nat.ne_of_gt retired.given
        · exact retired.unlisted other kept
  | unregister resource =>
      exact fun found kept => retired.unlisted found (KeyedMap.mem_erase_iff.mp kept).1
  | collect resource =>
      rw [Monitor.serve, collect]
      split <;> exact retired.unlisted
  | collectAll =>
      rw [show (monitor.serve .collectAll).2.registrations = monitor.registrations from
        registrations_collectEach _ _]
      exact retired.unlisted
  | look | add => exact retired.unlisted

namespace AgreesBut

variable {handle : RepositoryHandle} {first second : Monitor}

theorem registration?_eq (agrees : AgreesBut handle first second) (resource : ResourceId) :
    second.registration? resource = first.registration? resource := by
  rw [registration?, agrees.registrations]
  rfl

theorem add_left (agrees : AgreesBut handle first second) (measurement : Measurement) :
    AgreesBut handle (first.add handle measurement) second := by
  refine ⟨agrees.capacity, agrees.registrations, agrees.issued, fun other differ => ?_⟩
  rw [repository_add, if_neg (Ne.symm differ), agrees.repository other differ]

theorem add (agrees : AgreesBut handle first second) (used : RepositoryHandle)
    (measurement : Measurement) :
    AgreesBut handle (first.add used measurement) (second.add used measurement) := by
  refine ⟨agrees.capacity, agrees.registrations, agrees.issued, fun other apart => ?_⟩
  rw [repository_add, repository_add, agrees.repository other apart]

theorem drain (agrees : AgreesBut handle first second) {used : RepositoryHandle}
    (differ : used ≠ handle) :
    (second.drain used).1 = (first.drain used).1 ∧
      AgreesBut handle (first.drain used).2 (second.drain used).2 := by
  refine ⟨?_, agrees.capacity, agrees.registrations, agrees.issued, fun other apart => ?_⟩
  · rw [Monitor.drain, agrees.repository used differ]
    rfl
  · rw [repository_drain, repository_drain, agrees.repository other apart]

theorem collectEach (agrees : AgreesBut handle first second) {listed : List Registration}
    (others : ∀ found ∈ listed, found.handle ≠ handle) :
    (second.collectEach listed).1 = (first.collectEach listed).1 ∧
      AgreesBut handle (first.collectEach listed).2 (second.collectEach listed).2 := by
  induction listed generalizing first second with
  | nil => exact ⟨rfl, agrees⟩
  | cons found rest ih =>
      obtain ⟨differ, others⟩ := List.forall_mem_cons.mp others
      obtain ⟨snapshot, drained⟩ := agrees.drain differ
      obtain ⟨snapshots, agrees⟩ := ih drained others
      exact ⟨congrArg₂ (fun taken rest => (found.resource, taken) :: rest) snapshot snapshots,
        agrees⟩

theorem register (agrees : AgreesBut handle first second) (host : String) (port : UInt16)
    (resource : ResourceId) :
    (second.register host port resource).1 = (first.register host port resource).1 ∧
      AgreesBut handle (first.register host port resource).2
        (second.register host port resource).2 := by
  rw [Monitor.register, Monitor.register, agrees.registration?_eq]
  split
  · exact ⟨rfl, agrees.capacity, by rw [putRegistration, putRegistration, agrees.registrations],
      agrees.issued, agrees.repository⟩
  · refine ⟨agrees.issued, agrees.capacity, ?_, congrArg (· + 1) agrees.issued,
      fun other apart => ?_⟩
    · change second.registrations.insert _ = first.registrations.insert _
      rw [agrees.registrations, agrees.issued]
    · refine (repository_putRepository _ _ _ _).trans
        (Eq.trans ?_ (repository_putRepository _ _ _ _).symm)
      rw [agrees.issued, agrees.capacity, agrees.repository other apart]

/-- Nobody who does not hold the handle sees a difference. -/
theorem serve (agrees : AgreesBut handle first second) (retired : first.Retired handle)
    {call : Call} (unused : handle ∉ call.uses) :
    (second.serve call).1 = (first.serve call).1 ∧
      AgreesBut handle (first.serve call).2 (second.serve call).2 := by
  cases call with
  | register host port resource =>
      obtain ⟨given, agrees⟩ := agrees.register host port resource
      exact ⟨congrArg Answer.handle given, agrees⟩
  | unregister resource =>
      refine ⟨congrArg Answer.registration (agrees.registration?_eq resource), agrees.capacity, ?_,
        agrees.issued, agrees.repository⟩
      change second.registrations.erase resource = first.registrations.erase resource
      rw [agrees.registrations]
  | look resource =>
      exact ⟨congrArg Answer.registration (agrees.registration?_eq resource), agrees⟩
  | add used measurement =>
      exact ⟨rfl, agrees.add used measurement⟩
  | collect resource =>
      rw [Monitor.serve, Monitor.serve, collect, collect, agrees.registration?_eq]
      split
      · exact ⟨rfl, agrees⟩
      · rename_i found listed
        have differ := retired.unlisted found (registration?_eq_some_iff.mp listed).1
        obtain ⟨snapshot, agrees⟩ := agrees.drain differ
        exact ⟨congrArg (fun taken => Answer.snapshot (some taken)) snapshot, agrees⟩
  | collectAll =>
      obtain ⟨snapshots, drained⟩ := agrees.collectEach retired.unlisted
      rw [Monitor.serve, Monitor.serve, collectAll, collectAll, agrees.registrations]
      exact ⟨congrArg Answer.snapshots snapshots, drained⟩

end AgreesBut

theorem backlog_eq_sum (monitor : Monitor) : monitor.backlog =
    (monitor.registrations.toList.map fun found => (monitor.repository found.handle).size).sum := by
  rw [backlog, List.sum_eq_foldl, List.foldl_map]

theorem AgreesBut.backlog {handle : RepositoryHandle} {first second : Monitor}
    (agrees : AgreesBut handle first second) (retired : first.Retired handle) :
    second.backlog = first.backlog := by
  rw [backlog_eq_sum, backlog_eq_sum, agrees.registrations]
  refine congrArg _ (List.map_congr_left fun found member => ?_)
  rw [agrees.repository found.handle (retired.unlisted found member)]

/-- What a step shows to clients that do not use a handle: its answer, and the backlog then. -/
def Step.shown (handle : RepositoryHandle) (step : Step) : List (Answer × Nat) :=
  if handle ∈ step.call.uses then [] else [(step.answer, step.after.backlog)]

def sparing (handle : RepositoryHandle) (calls : List Call) : List Call :=
  calls.filter fun call => handle ∉ call.uses

/-- Additions through a handle that is not registered any more are seen by its holders only. -/
theorem AgreesBut.shown {handle : RepositoryHandle} {first second : Monitor}
    (agrees : AgreesBut handle first second) (retired : first.Retired handle)
    (calls : List Call) :
    (second.steps (sparing handle calls)).flatMap (Step.shown handle) =
      (first.steps calls).flatMap (Step.shown handle) := by
  induction calls generalizing first second with
  | nil => rfl
  | cons call rest ih =>
      by_cases uses : handle ∈ call.uses
      · obtain ⟨measurement, rfl⟩ : ∃ measurement, call = .add handle measurement := by
          cases call with
          | add used measurement =>
              obtain rfl := List.mem_singleton.mp uses
              exact ⟨measurement, rfl⟩
          | register | unregister | look | collect | collectAll => cases uses
        have later := ih (agrees.add_left measurement) (retired.serve (.add handle measurement))
        rw [sparing, List.filter_cons_of_neg (by simpa using uses), steps, List.flatMap_cons,
          Step.shown, if_pos (show handle ∈ (first.step _).call.uses from uses)]
        exact later
      · obtain ⟨answers, left⟩ := agrees.serve retired uses
        have later := ih left (retired.serve call)
        rw [sparing, List.filter_cons_of_pos (by simpa using uses), steps, steps,
          List.flatMap_cons, List.flatMap_cons]
        refine congrArg₂ _ ?_ later
        rw [Step.shown, Step.shown, if_neg (show handle ∉ (second.step _).call.uses from uses),
          if_neg (show handle ∉ (first.step _).call.uses from uses)]
        exact congrArg₂ (fun answer backlog => [(answer, backlog)]) answers
          (left.backlog (retired.serve call))

end ShardControl.Monitor
