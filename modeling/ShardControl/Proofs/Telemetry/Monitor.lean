import Mathlib.Algebra.BigOperators.Group.List.Basic
import ShardControl.Proofs.Telemetry.Conservation
import ShardControl.Proofs.Telemetry.Retirement

/-!
# What a monitor keeps

However registrations, additions and collections are mixed, the clients of a
monitor can account for every measurement.  A resource that is registered again
keeps its repository, and one that was unregistered before starts with an empty
one.
-/

namespace ShardControl.Monitor

/-! ## Registering -/

def Call.Registers (resource : ResourceId) : Call → Prop
  | register _ _ registered => registered = resource
  | unregister _ | look _ | add .. | collect _ | collectAll => False

theorem registration?_serve_of_none {monitor : Monitor} {resource : ResourceId}
    (unlisted : monitor.registration? resource = none) {call : Call}
    (other : ¬ call.Registers resource) :
    (monitor.serve call).2.registration? resource = none := by
  have differ {registration : Registration} (apart : registration.resource ≠ resource) :
      (monitor.registrations.insert registration).find? resource = none := by
    rw [KeyedMap.find?_insert]
    exact (if_neg apart).trans unlisted
  cases call with
  | register host port registered =>
      rw [serve, register]
      split
      · rename_i found listed
        have named := (registration?_eq_some_iff.mp listed).2
        exact differ fun same => other (named.symm.trans same)
      · exact differ other
  | unregister dropped =>
      refine (KeyedMap.find?_erase _ _ _).trans ?_
      split
      · rfl
      · exact unlisted
  | collect collected =>
      rw [serve, collect]
      split <;> exact unlisted
  | collectAll =>
      rw [registration?, show (monitor.serve .collectAll).2.registrations = monitor.registrations
        from registrations_collectEach _ _]
      exact unlisted
  | look | add => exact unlisted

theorem registration?_serveAll_of_none {monitor : Monitor} {resource : ResourceId}
    (unlisted : monitor.registration? resource = none) {calls : List Call}
    (others : ∀ call ∈ calls, ¬ call.Registers resource) :
    (monitor.serveAll calls).registration? resource = none := by
  induction calls generalizing monitor with
  | nil => exact unlisted
  | cons call rest ih =>
      obtain ⟨other, others⟩ := List.forall_mem_cons.mp others
      exact ih (registration?_serve_of_none unlisted other) others

/-- A resource that is not registered starts with a new repository, and an empty one. -/
theorem register_of_none {monitor : Monitor} {resource : ResourceId}
    (unlisted : monitor.registration? resource = none) (host : String) (port : UInt16) :
    (monitor.register host port resource).1 = monitor.issued ∧
      (monitor.register host port resource).2.repository monitor.issued =
        .fresh (some resource) monitor.capacity := by
  rw [register, unlisted]
  exact ⟨rfl, (repository_putRepository _ _ _ _).trans (if_pos rfl)⟩

/-! ## What clients can rely on -/

/-- What holds of a monitor after calls that a new one has answered. -/
structure Dependable (capacity : Nat) (calls : List Call) (monitor : Monitor) : Prop where
  /-- Registering again changes the address, and nothing else. -/
  readdressed : ∀ resource found host port, monitor.registration? resource = some found →
    (monitor.register host port resource).1 = found.handle ∧
    (monitor.register host port resource).2.registration? resource =
      some { found with host := host, port := port } ∧
    (∀ other, other ≠ resource →
      (monitor.register host port resource).2.registration? other = monitor.registration? other) ∧
    ∀ handle, (monitor.register host port resource).2.repository handle =
      monitor.repository handle
  given : ∀ resource found, monitor.registration? resource = some found →
    found.handle < monitor.issued
  /-- What was added through a handle was told by what was collected, or is pending. -/
  accounts : ∀ handle, handle < monitor.issued →
    (calls.flatMap (Call.added handle)).length =
      (((fresh capacity).taken handle calls).map Snapshot.told).sum +
        (monitor.repository handle).pending
  /-- All resources are collected in their order, each as if it were collected alone. -/
  each : monitor.collectAll.1.map Prod.fst = monitor.registered
  ordered : monitor.registered.Pairwise (· < ·)
  registered_iff : ∀ resource, resource ∈ monitor.registered ↔
    (monitor.registration? resource).isSome
  alone : ∀ entry ∈ monitor.collectAll.1, (monitor.collect entry.1).1 = some entry.2
  emptied : monitor.collectAll.2.backlog = 0
  untouched : ∀ resource other found, other ≠ resource →
    monitor.registration? other = some found →
    (monitor.collect resource).2.registration? other = some found ∧
    (monitor.collect resource).2.repository found.handle = monitor.repository found.handle
  /-- After a resource is unregistered, its old repository is seen by the holders of its handle
  only, whatever is called later; registered again, the resource has another and empty one. -/
  forgotten : ∀ resource found, monitor.registration? resource = some found →
    ((monitor.unregister resource).2.collect resource).1 = none ∧
    (resource ∉ (monitor.unregister resource).2.collectAll.1.map Prod.fst) ∧
    (∀ later, ((monitor.unregister resource).2.steps later).flatMap (Step.shown found.handle) =
      ((monitor.unregister resource).2.steps (sparing found.handle later)).flatMap
        (Step.shown found.handle)) ∧
    ∀ later, (∀ call ∈ later, ¬ call.Registers resource) → ∀ host port,
      let left := (monitor.unregister resource).2.serveAll later
      (left.register host port resource).1 ≠ found.handle ∧
      (left.register host port resource).2.repository (left.register host port resource).1 =
        .fresh (some resource) capacity

theorem registered_iff (monitor : Monitor) (resource : ResourceId) :
    resource ∈ monitor.registered ↔ (monitor.registration? resource).isSome := by
  rw [registered, KeyedMap.keys, List.mem_map, Option.isSome_iff_exists]
  exact exists_congr fun found => registration?_eq_some_iff.symm

theorem map_fst_collectAll {monitor : Monitor} (sound : monitor.Sound) :
    monitor.collectAll.1.map Prod.fst = monitor.registered := by
  rw [collectAll, (monitor.collectEach_of_apart sound.pairwise).1, List.map_map]
  rfl

theorem collect_of_collectAll {monitor : Monitor} (sound : monitor.Sound)
    {entry : ResourceId × Snapshot} (member : entry ∈ monitor.collectAll.1) :
    (monitor.collect entry.1).1 = some entry.2 := by
  rw [collectAll, (monitor.collectEach_of_apart sound.pairwise).1] at member
  obtain ⟨found, listed, rfl⟩ := List.mem_map.mp member
  rw [collect, registration?_eq_some_iff.mpr ⟨listed, rfl⟩]
  rfl

theorem backlog_collectAll {monitor : Monitor} (sound : monitor.Sound) :
    monitor.collectAll.2.backlog = 0 := by
  obtain ⟨_, repositories⟩ := monitor.collectEach_of_apart sound.pairwise
  rw [backlog_eq_sum, collectAll, registrations_collectEach]
  refine List.sum_eq_zero fun size member => ?_
  obtain ⟨found, listed, rfl⟩ := List.mem_map.mp member
  have own : monitor.registrations.toList.any (fun other => other.handle = found.handle) = true :=
    List.any_eq_true.mpr ⟨found, listed, decide_eq_true rfl⟩
  rw [repositories, if_pos own]
  exact Repository.size_drain _

theorem register_of_some {monitor : Monitor} {resource : ResourceId} {found : Registration}
    (listed : monitor.registration? resource = some found) (host : String) (port : UInt16) :
    (monitor.register host port resource).1 = found.handle ∧
    (monitor.register host port resource).2.registration? resource =
      some { found with host := host, port := port } ∧
    (∀ other, other ≠ resource →
      (monitor.register host port resource).2.registration? other = monitor.registration? other) ∧
    ∀ handle, (monitor.register host port resource).2.repository handle =
      monitor.repository handle := by
  have named := (registration?_eq_some_iff.mp listed).2
  rw [register, listed]
  refine ⟨rfl, ?_, fun other differ => ?_, fun _ => rfl⟩
  · exact (KeyedMap.find?_insert _ _ _).trans (if_pos named)
  · exact (KeyedMap.find?_insert _ _ _).trans (if_neg fun same => differ (same.symm.trans named))

theorem collect_untouched {monitor : Monitor} (sound : monitor.Sound)
    {resource other : ResourceId} {found : Registration} (differ : other ≠ resource)
    (listed : monitor.registration? other = some found) :
    (monitor.collect resource).2.registration? other = some found ∧
    (monitor.collect resource).2.repository found.handle = monitor.repository found.handle := by
  rw [collect]
  split
  · exact ⟨listed, rfl⟩
  · rename_i collected inList
    obtain ⟨member, named⟩ := registration?_eq_some_iff.mp listed
    obtain ⟨collectedMember, collectedNamed⟩ := registration?_eq_some_iff.mp inList
    refine ⟨listed, (repository_drain _ _ _).trans (if_neg fun same => differ ?_)⟩
    rw [← named, ← collectedNamed, sound.apart collected collectedMember found member same]

theorem dependable_of_proper (capacity : Nat) (calls : List Call)
    (proper : Proper [] ((fresh capacity).steps calls)) :
    Dependable capacity calls ((fresh capacity).serveAll calls) := by
  have sound := (sound_fresh capacity).serveAll calls
  have holds : ((fresh capacity).serveAll calls).capacity = capacity := capacity_serveAll _ calls
  have accounts : ∀ handle, handle < ((fresh capacity).serveAll calls).issued →
      (calls.flatMap (Call.added handle)).length =
        (((fresh capacity).taken handle calls).map Snapshot.told).sum +
          (((fresh capacity).serveAll calls).repository handle).pending := by
    intro handle given
    have unissued : (fresh capacity).issued ≤ handle := Nat.zero_le handle
    obtain ⟨resource, served⟩ :=
      (sound_fresh capacity).exists_fresh (List.forall_mem_nil _) proper unissued given
    have told := Repository.told_serve_fresh (some resource) capacity
      ((fresh capacity).asked handle calls)
    rw [measurements_asked] at told
    rw [told, show Repository.fresh (some resource) capacity =
      Repository.fresh (some resource) (fresh capacity).capacity from rfl, served]
  generalize (fresh capacity).serveAll calls = monitor at sound holds accounts
  refine ⟨fun _ _ host port listed => register_of_some listed host port,
    fun _ found listed => sound.given found (registration?_eq_some_iff.mp listed).1, accounts,
    map_fst_collectAll sound, ?ordered, monitor.registered_iff,
    fun _ member => collect_of_collectAll sound member, backlog_collectAll sound,
    fun _ _ _ differ listed => collect_untouched sound differ listed, ?forgotten⟩
  case ordered => exact List.pairwise_map.mpr monitor.registrations.ordered
  case forgotten =>
    intro resource found listed
    have unlisted : (monitor.unregister resource).2.registration? resource = none :=
      (KeyedMap.find?_erase _ _ _).trans (if_pos rfl)
    have retired := sound.retired_unregister listed
    have soundLeft : (monitor.unregister resource).2.Sound := sound.serve (.unregister resource)
    refine ⟨?_, ?_, fun later => ?_, fun later others host port => ?_⟩
    · rw [collect, unlisted]
    · rw [map_fst_collectAll soundLeft, registered_iff, unlisted]
      exact Bool.false_ne_true
    · exact ((AgreesBut.refl found.handle _).shown retired later).symm
    · have stays := registration?_serveAll_of_none unlisted others
      obtain ⟨new, empty⟩ := register_of_none stays host port
      have given := Nat.lt_of_lt_of_le retired.given (issued_le_serveAll _ later)
      dsimp only
      rw [new, empty, capacity_serveAll]
      exact ⟨Nat.ne_of_gt given, congrArg _ holds⟩

/-- A resource that is collected, unregistered and registered again, while the holder of its first
handle adds measurements all the time. -/
def rejoined : List Call :=
  let resource := ResourceId.admin 1
  let measurement := Measurement.mk resource 7 (.planState 1 "RUNNING")
  [.register "host1" 5000 resource, .add 0 measurement, .add 0 measurement, .collect resource,
    .unregister resource, .add 0 measurement, .register "host2" 5001 resource,
    .add 1 measurement, .add 0 measurement, .collectAll]

theorem dependable_of_rejoined :
    Proper [] ((fresh 1).steps rejoined) ∧
    Dependable 1 rejoined ((fresh 1).serveAll rejoined) ∧
    ((fresh 1).taken 0 rejoined).map Snapshot.told = [2] ∧
    ((fresh 1).taken 1 rejoined).map Snapshot.told = [1] :=
  ⟨by decide, dependable_of_proper 1 rejoined (by decide), by decide, by decide⟩

end ShardControl.Monitor
