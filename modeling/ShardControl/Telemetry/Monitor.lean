import ShardControl.Telemetry.Repository

/-!
# Monitor

The monitor gives every registered resource a repository.  A handle on a
repository outlives its registration, so a resource that is registered again
after it was unregistered starts with a new repository, while holders of the
old handle still fill the old one.
-/

namespace ShardControl

instance : KeyOrder Nat := KeyOrder.ofRank id id

abbrev RepositoryHandle := Nat

structure Registration where
  resource : ResourceId
  host : String
  port : UInt16
  handle : RepositoryHandle
  deriving DecidableEq

instance : Keyed Registration ResourceId := ⟨Registration.resource⟩

structure HeldRepository where
  handle : RepositoryHandle
  repository : Repository

instance : Keyed HeldRepository RepositoryHandle := ⟨HeldRepository.handle⟩

/-- The registered resources, and every repository that was ever made. -/
structure Monitor where
  capacity : Nat
  registrations : KeyedMap Registration
  repositories : KeyedMap HeldRepository
  issued : Nat

namespace Monitor

def fresh (capacity : Nat) : Monitor where
  capacity := capacity
  registrations := ∅
  repositories := ∅
  issued := 0

def registration? (monitor : Monitor) (resource : ResourceId) : Option Registration :=
  monitor.registrations.find? resource

/-- The repository of a handle; a handle that was never given out has an empty one. -/
def repository (monitor : Monitor) (handle : RepositoryHandle) : Repository :=
  match monitor.repositories.find? handle with
  | some held => held.repository
  | none => .fresh none monitor.capacity

def putRepository (monitor : Monitor) (handle : RepositoryHandle) (repository : Repository) :
    Monitor :=
  { monitor with repositories := monitor.repositories.insert ⟨handle, repository⟩ }

def putRegistration (monitor : Monitor) (registration : Registration) : Monitor :=
  { monitor with registrations := monitor.registrations.insert registration }

/--
Register a resource and hand out its repository.  A resource that is already
registered keeps its repository and gets the new address.
-/
def register (monitor : Monitor) (host : String) (port : UInt16) (resource : ResourceId) :
    RepositoryHandle × Monitor :=
  match monitor.registration? resource with
  | some found =>
      (found.handle, monitor.putRegistration { found with host := host, port := port })
  | none =>
      let handle := monitor.issued
      let made :=
        monitor.putRepository handle (.fresh (some resource) monitor.capacity)
      (handle,
       { made.putRegistration ⟨resource, host, port, handle⟩ with issued := handle + 1 })

/-- Forget a registration; its repository stays with the holders of its handle. -/
def unregister (monitor : Monitor) (resource : ResourceId) : Option Registration × Monitor :=
  (monitor.registration? resource,
   { monitor with registrations := monitor.registrations.erase resource })

def registered (monitor : Monitor) : List ResourceId := monitor.registrations.keys

def add (monitor : Monitor) (handle : RepositoryHandle) (measurement : Measurement) : Monitor :=
  monitor.putRepository handle ((monitor.repository handle).add measurement)

def drain (monitor : Monitor) (handle : RepositoryHandle) : Snapshot × Monitor :=
  let drained := (monitor.repository handle).drain
  (drained.1, monitor.putRepository handle drained.2)

def collect (monitor : Monitor) (resource : ResourceId) : Option Snapshot × Monitor :=
  match monitor.registration? resource with
  | none => (none, monitor)
  | some found =>
      let drained := monitor.drain found.handle
      (some drained.1, drained.2)

def collectEach (monitor : Monitor) :
    List Registration → List (ResourceId × Snapshot) × Monitor
  | [] => ([], monitor)
  | registration :: rest =>
      let drained := monitor.drain registration.handle
      let others := drained.2.collectEach rest
      ((registration.resource, drained.1) :: others.1, others.2)

def collectAll (monitor : Monitor) : List (ResourceId × Snapshot) × Monitor :=
  monitor.collectEach monitor.registrations.toList

/-- How many measurements wait in the repositories of registered resources. -/
def backlog (monitor : Monitor) : Nat :=
  monitor.registrations.toList.foldl
    (fun total registration => total + (monitor.repository registration.handle).size) 0

end Monitor

end ShardControl
