import ShardControl.Proofs.Contention.Conduct
import ShardControl.Repair.Cleanup

/-!
# Remedies among rivals

A cleanup attempt checks one replica and applies the remedy that the check
names, with up to four readings before its commit.  In a coherent store a
replica that is bound to a storage node is either placed there and described,
or gone altogether, so an accepted removal leaves neither half of it behind.
-/

namespace ShardControl

/-! ## Removals from a coherent store -/

namespace Topology

theorem places_iff {topology : Topology} (orderly : topology.Orderly) {id : ReplicaId}
    {node : StorageNodeId} (binds : topology.Binds id node) :
    topology.places id node = true ↔ ∃ replica ∈ topology.replicas, replica.id = id := by
  rw [places]
  constructor
  · intro placed
    cases found : topology.replica? id with
    | none => rw [found] at placed; cases placed
    | some replica =>
        obtain ⟨shard, inTopology, inShard, _, named⟩ := replica?_eq_some found
        exact ⟨replica, mem_replicas_iff.mpr ⟨shard, inTopology, inShard⟩, named⟩
  · rintro ⟨replica, member, rfl⟩
    rw [orderly.replica?_eq_some member]
    exact decide_eq_true (binds.placed replica member rfl)

end Topology

namespace Store

/-- A bound replica is placed on its storage node exactly when it is described. -/
theorem Coherent.places_eq {store : Store} (coherent : store.Coherent) {id : ReplicaId}
    {node : StorageNodeId} (binds : store.topology.Binds id node) :
    store.topology.places id node = (store.parameters.replica? id).isSome := by
  rw [Bool.eq_iff_iff, Topology.places_iff coherent.orderly binds, Option.isSome_iff_exists]
  exact (coherent.stored id).symm

end Store

theorem Remedy.expected_removal {remedy : Remedy} {topology : Topology} {placed stored : Bool}
    {update : Update} (made : remedy.removal topology placed stored = .ok update) :
    update.expected = topology.sequence := by
  simp only [removal, bind, Except.bind, pure, Except.pure] at made
  cases placed with
  | false =>
      cases made
      rfl
  | true =>
      rw [if_pos rfl] at made
      cases removed : topology.removeReplica remedy.node with
      | error reason =>
          rw [removed] at made
          cases made
      | ok taken =>
          rw [removed] at made
          cases made
          rfl

theorem Remedy.justifies_removal {remedy : Remedy} {store : Store} {update : Update}
    (coherent : store.Coherent)
    (binds : store.topology.Binds remedy.node remedy.storageNode)
    (present : (store.parameters.replica? remedy.node).isSome = true)
    (made : remedy.removal store.topology
      (store.topology.places remedy.node remedy.storageNode)
      (store.parameters.replica? remedy.node).isSome = .ok update) :
    store.Justifies update := by
  rw [coherent.places_eq binds, present] at made
  simp only [removal, if_true, bind, Except.bind, pure, Except.pure] at made
  cases removed : store.topology.removeReplica remedy.node with
  | error reason =>
      rw [removed] at made
      cases made
  | ok taken =>
      obtain ⟨replica, left⟩ := taken
      rw [removed] at made
      cases made
      obtain ⟨shard, found, rfl⟩ := Topology.removeReplica_eq_ok removed
      exact .remove found

/-! ## Conduct of an attempt -/

variable {base : Nat} {home : TaskKey → StorageNodeId} {scene : Scene}

theorem Obeys.checkStore {world : World} {rule : List Moment → Moment → Prop} {call : StoreCall}
    {post : Except CheckError call.Value → Scene → Prop}
    (obeys : ∀ store, world.may scene.store store → world.holds store →
      let moment : Moment := ⟨store, .store call, (store.respond call).1⟩
      rule scene.past moment ∧
        post ((store.respond call).1.mapError .metadata) ⟨moment.left, moment :: scene.past⟩) :
    Obeys world rule post (Checking.askStore call).run scene := by
  intro store reached holds answer allowed
  obtain rfl : answer = (store.respond call).1 := allowed
  exact obeys store reached holds

namespace Remedy

/-- A commit that is justified whenever it is accepted. -/
theorem commit_sound {remedy : Remedy} {update : Update}
    (justified : ∀ store, (World.coherent base).may scene.store store →
      (World.coherent base).holds store → update.expected = store.sequence →
        store.Justifies update) :
    Obeys (.coherent base) (Sound home) (fun _ _ => True) (remedy.commit update).run scene := by
  apply Obeys.bind
  intro store reached holds answer _
  refine ⟨justified store reached holds, ?_⟩
  cases answer with
  | ok sequence =>
      apply Obeys.bind
      intro _ _ _ _ _
      exact ⟨trivial, trivial⟩
  | error reason =>
      change Obeys _ _ _ (if reason.isConflict then
        (do Control.log (.remedyConflict remedy reason); return .ok false)
        else return .error (.metadata reason) : Program Control (Except CheckError Bool)) _
      split
      · apply Obeys.bind
        intro _ _ _ _ _
        exact ⟨trivial, trivial⟩
      · trivial

theorem removeStray_sound {remedy : Remedy}
    (binds : scene.store.topology.Binds remedy.node remedy.storageNode) :
    Obeys (.coherent base) (Sound home) (fun _ _ => True) remedy.removeStray.run scene := by
  rw [removeStray]
  apply Obeys.bindExcept
  apply Obeys.checkStore
  intro first toFirst holds
  refine ⟨trivial, ?_⟩
  apply Obeys.bindExcept
  apply Obeys.checkStore
  intro second toSecond _
  refine ⟨trivial, ?_⟩
  change Obeys _ _ _
    (remedy.clear first.topology (second.parameters.replica? remedy.node)).run _
  rw [clear]
  split
  · trivial
  · rename_i something
    split
    · trivial
    · rename_i update made
      apply commit_sound
      intro third toThird now accepted
      rw [expected_removal made] at accepted
      -- Both readings are of the store that the removal is accepted on.
      obtain ⟨rfl, rfl⟩ := World.coherent_eq holds toSecond toThird now accepted
      have bound := toFirst.2 _ _ binds
      refine justifies_removal holds.1 bound ?_ made
      cases stored : second.parameters.replica? remedy.node with
      | none =>
          rw [holds.1.places_eq bound, stored] at something
          exact absurd rfl something
      | some params => rfl

theorem repairParams_sound {remedy : Remedy} :
    Obeys (.coherent base) (Sound home) (fun _ _ => True) remedy.repairParams.run scene := by
  rw [repairParams]
  apply Obeys.bindExcept
  apply Obeys.checkStore
  intro first toFirst holds
  refine ⟨trivial, ?_⟩
  apply Obeys.bindExcept
  apply Obeys.checkStore
  intro second toSecond _
  refine ⟨trivial, ?_⟩
  change Obeys _ _ _ (remedy.align first.topology second.parameters).run _
  rw [align]
  split
  · rename_i placed current inTopology inParameters
    apply commit_sound
    intro third toThird now accepted
    obtain ⟨rfl, rfl⟩ := World.coherent_eq holds toSecond toThird now accepted
    exact .mend inTopology inParameters
  · trivial

theorem apply_sound {remedy : Remedy}
    (binds : scene.store.topology.Binds remedy.node remedy.storageNode) :
    Obeys (.coherent base) (Sound home) (fun _ _ => True) remedy.apply.run scene := by
  rw [apply]
  cases remedy.kind with
  | noOp => trivial
  | removeStrayMetadata => exact removeStray_sound binds
  | repairParams => exact repairParams_sound
  | markDisabled =>
      change Obeys _ _ _ remedy.disable.run scene
      rw [disable]
      apply Obeys.bindExcept
      intro _ _ _ disabled _
      refine ⟨trivial, ?_⟩
      cases disabled with
      | error reason => trivial
      | ok =>
          apply Obeys.bindExcept
          intro _ _ _ _ _
          exact ⟨trivial, trivial⟩

end Remedy

/-- The remedy that a check names is for the replica that was checked. -/
theorem checkLocation_sound {node : StorageNodeId} {replica : ReplicaId}
    (binds : scene.store.topology.Binds replica node) :
    Obeys (.coherent base) (Sound home)
      (fun result last => ∀ remedy, result = .ok remedy →
        last.store.topology.Binds remedy.node remedy.storageNode)
      (checkLocation node replica).run scene := by
  rw [checkLocation]
  apply Obeys.bindExcept
  apply Obeys.checkStore
  intro first toFirst _
  refine ⟨trivial, ?_⟩
  apply Obeys.bindExcept
  apply Obeys.checkStore
  intro second toSecond _
  refine ⟨trivial, ?_⟩
  apply Obeys.bindExcept
  intro third toThird _ deployed _
  refine ⟨trivial, ?_⟩
  have bound := toThird.2 _ _ (toSecond.2 _ _ (toFirst.2 _ _ binds))
  cases deployed with
  | error reason =>
      intro remedy named
      cases named
  | ok deployed =>
      intro remedy named
      cases named
      exact bound

/-- An attempt on a replica that is bound commits nothing but what is justified. -/
theorem CleanupJob.attempt_sound {job : CleanupJob} {replica : ReplicaId}
    (binds : scene.store.topology.Binds replica job.storageNode) :
    Obeys (.coherent base) (Sound home) (fun _ _ => True)
      ((job.attempt replica).interpret job.meaning) scene := by
  apply Obeys.bind
  refine (checkLocation_sound binds).mono (fun _ _ _ => id) ?_
  rintro (reason | remedy) checked bound
  · trivial
  · -- The attempt logs the remedy before it applies it.
    intro store reached _ logged _
    refine ⟨trivial, ?_⟩
    change Obeys _ _ _ (Program.bind remedy.apply.run .done) _
    rw [Program.bind_done]
    exact Remedy.apply_sound (reached.2 _ _ (bound remedy rfl))

end ShardControl
