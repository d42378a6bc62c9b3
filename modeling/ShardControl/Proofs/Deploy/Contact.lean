import ShardControl.Proofs.Deploy.Past

/-!
# Contact with the agent

Once a task is prepared it finds the agent, has it create the replica and makes
the replica known to the monitor, each of these only after the one before it
went well.  None of its questions goes to the store.
-/

namespace ShardControl

namespace DeployTask

section

variable (task : DeployTask) (draft : Draft) (scene : Scene)

def pastFound (first : Store) (found : Except RemoteError Unit) : List Moment :=
  ⟨first, .findAgent draft.topology task.storageNode, found⟩ :: scene.past

def pastCreated (first second : Store) (created : Except RemoteError Bool) : List Moment :=
  ⟨second, .createReplica task.storageNode draft.params.settings draft.topology, created⟩ ::
    task.pastFound draft scene first (.ok ())

def pastLogged (first second third : Store) (created : Bool) : List Moment :=
  ⟨third, .log (.deployCreated task.plan.number draft.params.id task.host created), ()⟩ ::
    task.pastCreated draft scene first second (.ok created)

/-- The questions of a task that is prepared, each with the past that it follows. -/
inductive Contacts (world : World) : List Moment → Moment → Prop where
  | find {first : Store} {found : Except RemoteError Unit} (reached : world.may scene.store first) :
      Contacts world scene.past ⟨first, .findAgent draft.topology task.storageNode, found⟩
  | create {first second : Store} {created : Except RemoteError Bool}
      (reached : world.may scene.store second) :
      Contacts world (task.pastFound draft scene first (.ok ()))
        ⟨second, .createReplica task.storageNode draft.params.settings draft.topology, created⟩
  | log {first second third : Store} {created : Bool} (event : Event) :
      Contacts world (task.pastCreated draft scene first second (.ok created))
        ⟨third, .log event, ()⟩
  | register {first second third fourth : Store} {created : Bool} {host : StorageNode}
      (present : draft.topology.storageNode? task.storageNode = some host) :
      Contacts world (task.pastLogged draft scene first second third created)
        ⟨fourth, .register host.hostname host.registryPort (.replica draft.params.id), ()⟩

inductive Contacted : Except DeployError TaskState → Scene → Prop where
  | lost {first : Store} (reason : RemoteError) :
      Contacted (.error (.ofRemote reason))
        ⟨first, task.pastFound draft scene first (.error reason)⟩
  | refused {first second : Store} (reason : RemoteError) :
      Contacted (.error (.ofRemote reason))
        ⟨second, task.pastCreated draft scene first second (.error reason)⟩
  | unlisted {first second third : Store} {created : Bool}
      (absent : draft.topology.storageNode? task.storageNode = none) :
      Contacted (.error (.unknownStorageNode task.storageNode))
        ⟨third, task.pastLogged draft scene first second third created⟩
  | registered {first second third fourth : Store} {created : Bool} {host : StorageNode}
      (present : draft.topology.storageNode? task.storageNode = some host) :
      Contacted (.ok .succeeded) ⟨fourth,
        ⟨fourth, .register host.hostname host.registryPort (.replica draft.params.id), ()⟩ ::
          task.pastLogged draft scene first second third created⟩

end

variable {task : DeployTask} {draft : Draft} {scene : Scene} {world : World}

theorem contact_obeys :
    Obeys world (task.Contacts draft scene world)
      (fun result last =>
        world.may scene.store last.store ∧ task.Contacted draft scene result last)
      (task.contact draft).run scene := by
  rw [contact]
  apply Obeys.bindExcept
  apply Obeys.ask
  intro first toFirst _ found _
  refine ⟨.find toFirst, ?_⟩
  apply Obeys.bindExcept
  cases found with
  | error reason => exact ⟨toFirst, .lost reason⟩
  | ok =>
      apply Obeys.bindExcept
      apply Obeys.ask
      intro second onward _ answer _
      have toSecond := world.trans toFirst onward
      refine ⟨.create toSecond, ?_⟩
      apply Obeys.bindExcept
      cases answer with
      | error reason => exact ⟨toSecond, .refused reason⟩
      | ok created =>
          apply Obeys.bindExcept
          apply Obeys.log (fun _ _ => .log _)
          intro third onward
          have toThird := world.trans toSecond onward
          rw [announce]
          cases present : draft.topology.storageNode? task.storageNode with
          | none => exact ⟨toThird, .unlisted present⟩
          | some host =>
              apply Obeys.bindExcept
              apply Obeys.ask
              intro fourth onward _ _ _
              exact ⟨.register present, world.trans toThird onward, .registered present⟩

end DeployTask

end ShardControl
