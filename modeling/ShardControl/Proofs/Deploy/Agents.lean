import ShardControl.Proofs.Deploy.Contact
import ShardControl.Proofs.Deploy.Solo

/-!
# Agents that answer as they do

An agent answers for its storage node, whatever it was asked before and
whatever topology it is shown.  How the contact with it ends, and what it is
sent, follows from its answers and from the parameters of the replica.
-/

namespace ShardControl

structure Agents where
  found : StorageNodeId → Except RemoteError Unit
  created : StorageNodeId → ParameterMap → Except RemoteError Bool

namespace Agents

variable (agents : Agents) (node : StorageNodeId)

/-- Agents answer as they do, whatever topology they are shown. -/
def Answer (_ : List Moment) : Moment → Prop
  | ⟨_, .findAgent _ node, answer⟩ => answer = agents.found node
  | ⟨_, .createReplica node settings _, answer⟩ => answer = agents.created node settings
  | _ => True

def sends (params : ReplicaParams) : List (StorageNodeId × ParameterMap) :=
  match agents.found node with
  | .error _ => []
  | .ok () => [(node, params.settings)]

def ends (host : Option StorageNode) (params : ReplicaParams) : Except DeployError TaskState :=
  match agents.found node, agents.created node params.settings with
  | .error reason, _ => .error (.ofRemote reason)
  | .ok (), .error reason => .error (.ofRemote reason)
  | .ok (), .ok _ => if host.isSome then .ok .succeeded else .error (.unknownStorageNode node)

/-- Agents answer every question. -/
theorem exists_answer (slots : ShardSlots) (past : List Moment) (store : Store)
    (call : ControlCall) :
    ∃ answer, (World.alone slots).Allows call store answer ∧
      agents.Answer past ⟨store, call, answer⟩ := by
  obtain ⟨answer, allowed⟩ := exists_allowed slots store call
  cases call with
  | findAgent topology node => exact ⟨agents.found node, trivial, rfl⟩
  | createReplica node settings topology => exact ⟨agents.created node settings, trivial, rfl⟩
  | _ => exact ⟨answer, allowed, trivial⟩

end Agents

def Moment.sends? : Moment → Option (StorageNodeId × ParameterMap)
  | ⟨_, .createReplica node settings _, _⟩ => some (node, settings)
  | _ => none

/-- What agents were sent, the latest first. -/
def sent (past : List Moment) : List (StorageNodeId × ParameterMap) :=
  past.filterMap Moment.sends?

namespace DeployTask

structure Reaches (task : DeployTask) (store : Store) (resolved : Option ReplicaId)
    (sends : List (StorageNodeId × ParameterMap)) (scene : Scene) : Prop where
  store_eq : scene.store = store
  resolved_eq : resolved? scene.past task.key = resolved
  sent_eq : sent scene.past = sends

variable {task : DeployTask} {slots : ShardSlots} {store : Store} {scene : Scene}
  {agents : Agents} {resolved : Option ReplicaId} {sends : List (StorageNodeId × ParameterMap)}

theorem Reaches.cons (reaches : task.Reaches store resolved sends scene) {moment : Moment}
    (other : moment.resolves? task.key = none) (unsent : moment.sends? = none) :
    task.Reaches store resolved sends ⟨scene.store, moment :: scene.past⟩ where
  store_eq := reaches.store_eq
  resolved_eq := by
    rw [resolved?, List.findSome?_cons, other]
    exact reaches.resolved_eq
  sent_eq := (List.filterMap_cons_none unsent).trans reaches.sent_eq

theorem Reaches.resolve (reaches : task.Reaches store resolved sends scene) (id : ReplicaId) :
    task.Reaches store (some id) sends
      ⟨scene.store, ⟨scene.store, .resolve task.key id, ()⟩ :: scene.past⟩ where
  store_eq := reaches.store_eq
  resolved_eq := resolved?_resolve _ _ _ _
  sent_eq := reaches.sent_eq

theorem contact_ends (draft : Draft) (reaches : task.Reaches store resolved [] scene) :
    Ensures slots agents.Answer
      (fun result last =>
        result = agents.ends task.storageNode (draft.topology.storageNode? task.storageNode)
          draft.params ∧
        task.Reaches store resolved (agents.sends task.storageNode draft.params) last)
      (task.contact draft).run scene := by
  obtain rfl := reaches.store_eq
  rw [contact, Agents.ends, Agents.sends]
  apply Ensures.bindExcept
  apply Ensures.ask
  intro found _ asked
  obtain rfl : found = agents.found task.storageNode := asked
  apply Ensures.bindExcept
  cases agents.found task.storageNode with
  | error reason => exact .done ⟨rfl, reaches.cons rfl rfl⟩
  | ok =>
      apply Ensures.done
      apply Ensures.bindExcept
      apply Ensures.ask
      intro answer _ asked
      obtain rfl : answer = agents.created task.storageNode draft.params.settings := asked
      have reached : task.Reaches scene.store resolved
          [(task.storageNode, draft.params.settings)] ⟨scene.store,
            task.pastCreated draft scene scene.store scene.store
              (agents.created task.storageNode draft.params.settings)⟩ :=
        ⟨rfl, reaches.resolved_eq, congrArg (List.cons _) reaches.sent_eq⟩
      apply Ensures.bindExcept
      cases answered : agents.created task.storageNode draft.params.settings with
      | error reason =>
          rw [answered] at reached
          exact .done ⟨rfl, reached⟩
      | ok created =>
          rw [answered] at reached
          apply Ensures.done
          apply Ensures.bindExcept
          apply Ensures.ask
          intro _ _ _
          rw [announce]
          cases draft.topology.storageNode? task.storageNode with
          | none => exact .done ⟨rfl, reached.cons rfl rfl⟩
          | some host =>
              apply Ensures.bindExcept
              apply Ensures.ask
              intro _ _ _
              exact .done ⟨rfl, (reached.cons rfl rfl).cons rfl rfl⟩

end DeployTask

end ShardControl
