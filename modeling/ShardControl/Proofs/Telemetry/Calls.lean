import Mathlib.Logic.Basic
import ShardControl.Proofs.KeyedMap.Lookup
import ShardControl.Telemetry.Monitor

/-!
# Calls on monitors

Clients register resources, add measurements through the handles that they have
been given, and collect.  A call changes the repositories of the handles that it
is about and no others, since no two resources are registered with the same
handle.
-/

namespace ShardControl.Monitor

/-! ## Calls -/

/-- A call on a monitor, or an addition through a handle on one of its repositories. -/
inductive Call where
  | register (host : String) (port : UInt16) (resource : ResourceId)
  | unregister (resource : ResourceId)
  | look (resource : ResourceId)
  | add (handle : RepositoryHandle) (measurement : Measurement)
  | collect (resource : ResourceId)
  | collectAll
  deriving DecidableEq

inductive Answer where
  | handle (given : RepositoryHandle)
  | registration (found : Option Registration)
  | done
  | snapshot (taken : Option Snapshot)
  | snapshots (taken : List (ResourceId × Snapshot))
  deriving DecidableEq

def Call.uses : Call → List RepositoryHandle
  | add handle _ => [handle]
  | register .. | unregister _ | look _ | collect _ | collectAll => []

def Answer.gives : Answer → List RepositoryHandle
  | handle given => [given]
  | registration found => (found.map Registration.handle).toList
  | done | snapshot _ | snapshots _ => []

def serve (monitor : Monitor) : Call → Answer × Monitor
  | .register host port resource =>
      (.handle (monitor.register host port resource).1,
        (monitor.register host port resource).2)
  | .unregister resource =>
      (.registration (monitor.unregister resource).1, (monitor.unregister resource).2)
  | .look resource => (.registration (monitor.registration? resource), monitor)
  | .add handle measurement => (.done, monitor.add handle measurement)
  | .collect resource => (.snapshot (monitor.collect resource).1, (monitor.collect resource).2)
  | .collectAll => (.snapshots monitor.collectAll.1, monitor.collectAll.2)

structure Step where
  before : Monitor
  call : Call
  answer : Answer
  after : Monitor

def step (monitor : Monitor) (call : Call) : Step :=
  ⟨monitor, call, (monitor.serve call).1, (monitor.serve call).2⟩

def steps (monitor : Monitor) : List Call → List Step
  | [] => []
  | call :: rest => monitor.step call :: (monitor.serve call).2.steps rest

def serveAll (monitor : Monitor) (calls : List Call) : Monitor :=
  calls.foldl (fun monitor call => (monitor.serve call).2) monitor

/-- Clients use no other handles than those that they hold or have been given before. -/
def Proper (held : List RepositoryHandle) : List Step → Prop
  | [] => True
  | step :: rest =>
      (∀ handle ∈ step.call.uses, handle ∈ held) ∧ Proper (held ++ step.answer.gives) rest

instance decidableProper : (held : List RepositoryHandle) → (steps : List Step) →
    Decidable (Proper held steps)
  | _, [] => isTrue trivial
  | held, step :: rest =>
      have := decidableProper (held ++ step.answer.gives) rest
      inferInstanceAs (Decidable ((∀ handle ∈ step.call.uses, handle ∈ held) ∧
        Proper (held ++ step.answer.gives) rest))

/-- Whether a resource is registered with the repository of a handle. -/
def leads (monitor : Monitor) (resource : ResourceId) (handle : RepositoryHandle) : Bool :=
  (monitor.registration? resource).any fun found => found.handle = handle

namespace Step

/-- The snapshots that a step hands out, with the resources that they were collected for. -/
def snapshots (step : Step) : List (ResourceId × Snapshot) :=
  match step.call, step.answer with
  | .collect resource, .snapshot taken => taken.toList.map fun snapshot => (resource, snapshot)
  | _, .snapshots taken => taken
  | _, _ => []

/-- The snapshots that are collected for the resource that has the repository of a handle. -/
def taken (handle : RepositoryHandle) (step : Step) : List Snapshot :=
  (step.snapshots.filter fun entry => step.before.leads entry.1 handle).map Prod.snd

end Step

def Call.added (handle : RepositoryHandle) : Call → List Measurement
  | add used measurement => if used = handle then [measurement] else []
  | register .. | unregister _ | look _ | collect _ | collectAll => []

/-! ## Repositories of a monitor -/

theorem repository_putRepository (monitor : Monitor) (handle other : RepositoryHandle)
    (repository : Repository) :
    (monitor.putRepository handle repository).repository other =
      if handle = other then repository else monitor.repository other := by
  have found : (monitor.putRepository handle repository).repositories.find? other =
      if handle = other then some ⟨handle, repository⟩ else monitor.repositories.find? other :=
    KeyedMap.find?_insert _ _ _
  rw [Monitor.repository, found]
  by_cases same : handle = other
  · rw [if_pos same, if_pos same]
  · rw [if_neg same, if_neg same]
    rfl

theorem repository_add (monitor : Monitor) (handle other : RepositoryHandle)
    (measurement : Measurement) :
    (monitor.add handle measurement).repository other =
      if handle = other then (monitor.repository other).add measurement
      else monitor.repository other := by
  rw [add, repository_putRepository]
  split
  · rename_i same
    rw [same]
  · rfl

theorem repository_drain (monitor : Monitor) (handle other : RepositoryHandle) :
    (monitor.drain handle).2.repository other =
      if handle = other then (monitor.repository other).drain.2
      else monitor.repository other := by
  rw [drain, repository_putRepository]
  split
  · rename_i same
    rw [same]
  · rfl

/-- Collecting changes the repositories and nothing else. -/
theorem exists_collectEach (monitor : Monitor) (listed : List Registration) :
    ∃ repositories, (monitor.collectEach listed).2 =
      { monitor with repositories := repositories } := by
  induction listed generalizing monitor with
  | nil => exact ⟨monitor.repositories, rfl⟩
  | cons found rest ih => exact ih (monitor.drain found.handle).2

theorem registrations_collectEach (monitor : Monitor) (listed : List Registration) :
    (monitor.collectEach listed).2.registrations = monitor.registrations := by
  obtain ⟨repositories, left⟩ := monitor.exists_collectEach listed
  rw [left]

theorem issued_collectEach (monitor : Monitor) (listed : List Registration) :
    (monitor.collectEach listed).2.issued = monitor.issued := by
  obtain ⟨repositories, left⟩ := monitor.exists_collectEach listed
  rw [left]

theorem capacity_collectEach (monitor : Monitor) (listed : List Registration) :
    (monitor.collectEach listed).2.capacity = monitor.capacity := by
  obtain ⟨repositories, left⟩ := monitor.exists_collectEach listed
  rw [left]

/-- Registrations with different handles are drained each as if it were alone. -/
theorem collectEach_of_apart (monitor : Monitor) {listed : List Registration}
    (apart : listed.Pairwise fun first second => first.handle ≠ second.handle) :
    (monitor.collectEach listed).1 =
        listed.map (fun found => (found.resource, (monitor.repository found.handle).drain.1)) ∧
      ∀ handle, (monitor.collectEach listed).2.repository handle =
        if listed.any (fun found => found.handle = handle) then
          (monitor.repository handle).drain.2
        else monitor.repository handle := by
  induction listed generalizing monitor with
  | nil => exact ⟨rfl, fun _ => rfl⟩
  | cons found rest ih =>
      obtain ⟨first, others⟩ := List.pairwise_cons.mp apart
      obtain ⟨answers, repositories⟩ := ih (monitor.drain found.handle).2 others
      constructor
      · rw [collectEach, List.map_cons]
        refine congrArg₂ List.cons rfl (answers.trans (List.map_congr_left ?_))
        intro other member
        rw [repository_drain, if_neg (first other member)]
      · intro handle
        refine (repositories handle).trans ?_
        rw [repository_drain, List.any_cons]
        by_cases same : found.handle = handle
        · have absent : rest.any (fun other => other.handle = handle) = false := by
            rw [List.any_eq_false]
            intro other member isSame
            exact first other member (same.trans (of_decide_eq_true isSame).symm)
          simp [same, absent]
        · simp [same]

/-! ## Handles of registrations -/

/-- Registrations have handles that were given out, no two of them the same. -/
structure Sound (monitor : Monitor) : Prop where
  given : ∀ found ∈ monitor.registrations.toList, found.handle < monitor.issued
  apart : ∀ first ∈ monitor.registrations.toList, ∀ second ∈ monitor.registrations.toList,
    first.handle = second.handle → first = second

theorem sound_fresh (capacity : Nat) : (fresh capacity).Sound where
  given found member := by cases member
  apart first member := by cases member

theorem registration?_eq_some_iff {monitor : Monitor} {resource : ResourceId}
    {found : Registration} :
    monitor.registration? resource = some found ↔
      found ∈ monitor.registrations.toList ∧ found.resource = resource :=
  KeyedMap.find?_eq_some_iff

theorem leads_eq_true_iff {monitor : Monitor} {resource : ResourceId}
    {handle : RepositoryHandle} :
    monitor.leads resource handle = true ↔
      ∃ found, monitor.registration? resource = some found ∧ found.handle = handle := by
  rw [leads, Option.any_eq_true]
  simp only [decide_eq_true_eq]

namespace Sound

variable {monitor : Monitor}

theorem pairwise (sound : monitor.Sound) : monitor.registrations.toList.Pairwise
    fun first second => first.handle ≠ second.handle :=
  (monitor.registrations.nodup_toList).imp_of_mem fun inList alsoInList differ same =>
    differ (sound.apart _ inList _ alsoInList same)

/-- Nothing is registered with a handle that was not given out yet. -/
theorem leads_eq_false (sound : monitor.Sound) {handle : RepositoryHandle}
    (unissued : monitor.issued ≤ handle) (resource : ResourceId) :
    monitor.leads resource handle = false := by
  rw [Bool.eq_false_iff]
  intro leads
  obtain ⟨found, listed, rfl⟩ := leads_eq_true_iff.mp leads
  exact Nat.not_lt.mpr unissued (sound.given found (registration?_eq_some_iff.mp listed).1)

theorem of_registrations {other : Monitor} (sound : monitor.Sound)
    (registrations : other.registrations = monitor.registrations)
    (issued : other.issued = monitor.issued) : other.Sound where
  given := by rw [registrations, issued]; exact sound.given
  apart := by rw [registrations]; exact sound.apart

/-- A registration under a handle that no other one has can take the place of the one before. -/
theorem put (sound : monitor.Sound) {registration : Registration} {issued : Nat}
    (grows : monitor.issued ≤ issued) (given : registration.handle < issued)
    (own : ∀ other ∈ monitor.registrations.toList, other.resource ≠ registration.resource →
      other.handle ≠ registration.handle) :
    ({ monitor.putRegistration registration with issued := issued } : Monitor).Sound where
  given other member := by
    rcases KeyedMap.mem_insert_iff.mp member with rfl | ⟨listed, _⟩
    · exact given
    · exact Nat.lt_of_lt_of_le (sound.given other listed) grows
  apart first inFirst second inSecond same := by
    rcases KeyedMap.mem_insert_iff.mp inFirst with rfl | ⟨firstListed, firstOther⟩
    · rcases KeyedMap.mem_insert_iff.mp inSecond with rfl | ⟨secondListed, secondOther⟩
      · rfl
      · exact absurd same.symm (own second secondListed secondOther)
    · rcases KeyedMap.mem_insert_iff.mp inSecond with rfl | ⟨secondListed, _⟩
      · exact absurd same (own first firstListed firstOther)
      · exact sound.apart first firstListed second secondListed same

theorem register (sound : monitor.Sound) (host : String) (port : UInt16)
    (resource : ResourceId) : (monitor.register host port resource).2.Sound := by
  rw [Monitor.register]
  split
  · rename_i found listed
    obtain ⟨member, named⟩ := registration?_eq_some_iff.mp listed
    refine sound.put (Nat.le_refl monitor.issued) (sound.given found member) ?_
    intro other inList differ same
    obtain rfl := sound.apart other inList found member same
    exact differ rfl
  · have made (repository : Repository) :
        (monitor.putRepository monitor.issued repository).Sound := sound.of_registrations rfl rfl
    refine (made _).put (Nat.le_succ _) (Nat.lt_succ_self _) ?_
    intro other member _ same
    exact Nat.ne_of_lt (sound.given other member) same

theorem serve (sound : monitor.Sound) (call : Call) : (monitor.serve call).2.Sound := by
  cases call with
  | register host port resource => exact sound.register host port resource
  | unregister resource =>
      have kept {found : Registration}
          (member : found ∈ (monitor.registrations.erase resource).toList) :
          found ∈ monitor.registrations.toList := (KeyedMap.mem_erase_iff.mp member).1
      exact ⟨fun found member => sound.given found (kept member),
        fun first inFirst second inSecond =>
          sound.apart first (kept inFirst) second (kept inSecond)⟩
  | look resource => exact sound
  | add handle measurement => exact sound.of_registrations rfl rfl
  | collect resource =>
      rw [Monitor.serve, collect]
      split
      · exact sound
      · exact sound.of_registrations rfl rfl
  | collectAll =>
      exact sound.of_registrations (registrations_collectEach _ _) (issued_collectEach _ _)

end Sound

end ShardControl.Monitor
