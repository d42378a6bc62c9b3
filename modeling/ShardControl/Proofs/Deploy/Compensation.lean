import ShardControl.Proofs.Deploy.Renumbering
import ShardControl.Proofs.Deploy.Setback

/-!
# Deployments that are undone

The cleanup job of a deployment that its agent failed takes back what the
deployment committed.  All that remains of it are two commits and a number of
the shard that is given out, so the next deployment commits the same replica
under the next number.
-/

namespace ShardControl

namespace Store

/-- Members carry numbers that their shards have given out, and nobody else is described. -/
structure Tidy (store : Store) : Prop where
  /-- Replicas carry the id of their shard and a number that it has given out. -/
  members : ∀ shard ∈ store.topology.shards.toList, shard.Below shard.nextNum
  room : store.topology.HasRoom
  described : ∀ params ∈ store.parameters.replicas.toList,
    ∃ replica ∈ store.topology.replicas, replica.id = params.id

/-- The store as it was, after two commits and with one more number of the shard given out. -/
structure Restores (store : Store) (shard : Shard) (last : Store) : Prop where
  parameters : last.parameters = store.parameters
  topology : last.topology =
    (store.topology.putShard (shard.numbered (shard.nextNum + 1))).withSequence (store.sequence + 2)

namespace Tidy

variable {store : Store} {shard : Shard}

theorem toNat_next (tidy : store.Tidy)
    (present : store.topology.shard? shard.id = some shard) :
    (shard.nextNum + 1).toNat = shard.nextNum.toNat + 1 := by
  have room := tidy.room shard (Topology.shard?_eq_some_iff.mp present).1
  rw [UInt32.toNat_add]
  exact Nat.mod_eq_of_lt (Nat.add_lt_of_lt_sub room)

theorem succSat_next (tidy : store.Tidy)
    (present : store.topology.shard? shard.id = some shard) :
    Word.succSat shard.nextNum = shard.nextNum + 1 := by
  have room := tidy.room shard (Topology.shard?_eq_some_iff.mp present).1
  rw [← UInt32.toNat_inj, tidy.toNat_next present, Topology.succ_nextNum room]

/-- Numbers that the shard has not given out are described nowhere. -/
theorem replica?_eq_none (tidy : store.Tidy)
    (present : store.topology.shard? shard.id = some shard) {num : UInt32}
    (later : shard.nextNum ≤ num) : store.parameters.replica? ⟨shard.id, num⟩ = none := by
  refine KeyedMap.find?_eq_none_iff.mpr fun params stored same => ?_
  obtain ⟨replica, member, named⟩ := tidy.described params stored
  exact Topology.id_ne_of_issued tidy.members present later member (named.trans same)

theorem find?_nextReplica (tidy : store.Tidy)
    (present : store.topology.shard? shard.id = some shard) :
    shard.replicas.find? shard.nextReplica = none := by
  refine KeyedMap.find?_eq_none_iff.mpr fun replica inShard same => ?_
  have inTopology := (Topology.shard?_eq_some_iff.mp present).1
  have member := Topology.mem_replicas_iff.mpr ⟨shard, inTopology, inShard⟩
  exact Topology.id_ne_of_issued tidy.members present (UInt32.le_refl _) member same

/-! ### The removal of a replica that was just added -/

theorem without_addReplica (tidy : store.Tidy)
    (present : store.topology.shard? shard.id = some shard) (node : StorageNodeId) :
    (shard.addReplica node).2.without shard.nextReplica = shard.numbered (shard.nextNum + 1) := by
  have erased : (shard.replicas.insert ⟨shard.nextReplica, node⟩).erase shard.nextReplica =
      shard.replicas := KeyedMap.erase_insert (tidy.find?_nextReplica present)
  rw [Shard.numbered, ← tidy.succSat_next present, ← erased]
  rfl

/-- Only the number that was given out tells the topology from the one before. -/
theorem putShard_without (tidy : store.Tidy)
    (present : store.topology.shard? shard.id = some shard) (node : StorageNodeId) :
    (store.topology.putShard (shard.addReplica node).2).putShard
        ((shard.addReplica node).2.without shard.nextReplica) =
      store.topology.putShard (shard.numbered (shard.nextNum + 1)) := by
  rw [tidy.without_addReplica present]
  exact Topology.putShard_putShard store.topology rfl

theorem removeReplica_putReplica (tidy : store.Tidy)
    (present : store.topology.shard? shard.id = some shard) {params : ReplicaParams}
    (named : params.id = shard.nextReplica) :
    (store.parameters.putReplica params).removeReplica params.id = store.parameters := by
  have undescribed : store.parameters.replicas.find? params.id = none := by
    rw [named]
    exact tidy.replica?_eq_none present (UInt32.le_refl _)
  exact congrArg (fun replicas => { store.parameters with replicas := replicas })
    (KeyedMap.erase_insert undescribed)

end Tidy

end Store

namespace DeployTask

variable {task : DeployTask} {slots : ShardSlots} {store last : Store} {shard : Shard}
  {draft : Draft}

theorem Fresh.grows (fresh : task.Fresh slots store shard draft) :
    draft.Grows store.topology store.parameters shard task.storageNode :=
  Draft.grows_of_ofNewReplica fresh.present fresh.made

theorem Fresh.places_found (fresh : task.Fresh slots store shard draft) (expected : UInt64) :
    (store.found expected draft).topology.places draft.params.id task.storageNode = true := by
  have added : (store.topology.putShard (shard.addReplica task.storageNode).2).replica?
      shard.nextReplica = some ⟨shard.nextReplica, task.storageNode⟩ := by
    have grown := Topology.shard?_putShard_self store.topology
      (shard.addReplica task.storageNode).2
    change (((store.topology.putShard _).shard? (shard.addReplica task.storageNode).2.id).bind _) =
      _
    rw [grown]
    exact (KeyedMap.find?_insert _ _ _).trans (if_pos rfl)
  rw [Store.topology_found fresh.grows, fresh.grows.id_eq]
  change (store.topology.putShard (shard.addReplica task.storageNode).2).places _ _ = true
  rw [Topology.places, added]
  exact decide_eq_true rfl

theorem Fresh.restores (fresh : task.Fresh slots store shard draft) (tidy : store.Tidy)
    {remedy : Remedy} (named : remedy.node = draft.params.id)
    (here : remedy.storageNode = task.storageNode)
    (strips : remedy.Strips (store.found store.sequence draft) last) :
    store.Restores shard last := by
  have grows := fresh.grows
  have placed := fresh.places_found store.sequence
  rw [← named, ← here] at placed
  cases strips with
  | nothing unplaced _ => rw [placed] at unplaced; cases unplaced
  | params unplaced => rw [placed] at unplaced; cases unplaced
  | @replica grown _ present =>
      have id : remedy.node = shard.nextReplica := named.trans grows.id_eq
      have found : grown = (shard.addReplica task.storageNode).2 := by
        rw [Store.topology_found grows, id] at present
        have stored := Topology.shard?_putShard_self store.topology
          (shard.addReplica task.storageNode).2
        exact Option.some.inj (present.symm.trans stored)
      have described : remedy.removals (store.found store.sequence draft) = [remedy.node] := by
        rw [Remedy.removals, Store.replica?_found grows, if_pos id.symm]
        rfl
      refine ⟨?_, ?_⟩
      · rw [described, named]
        exact tidy.removeReplica_putReplica fresh.present grows.id_eq
      · have twice : store.sequence + 1 + 1 = store.sequence + 2 := UInt64.add_assoc _ 1 1
        rw [found, id, Store.topology_found grows, ← twice,
          ← tidy.putShard_without fresh.present task.storageNode]
        rfl

/-- A task for the shard and the storage node finds the restored store fresh again. -/
theorem Fresh.again (fresh : task.Fresh slots store shard draft) (tidy : store.Tidy)
    (restores : store.Restores shard last) {again : DeployTask} {later : ShardSlots}
    (here : again.storageNode = task.storageNode)
    (target : again.target.shardIn later = some shard.id) :
    again.Fresh later last (shard.numbered (shard.nextNum + 1))
      ⟨(store.topology.grown shard task.storageNode (shard.nextNum + 1)).withSequence
          (store.sequence + 2),
        { draft.params with
          id := ⟨shard.id, shard.nextNum + 1⟩
          directory := again.directory }⟩ where
  target := target
  present := by
    rw [restores.topology]
    exact Topology.shard?_putShard_self _ _
  absent := by
    rw [here]
    exact fresh.absent
  made := by
    have inTopology := (Topology.shard?_eq_some_iff.mp fresh.present).1
    have below := tidy.members shard inTopology
    have next : shard.nextNum < shard.nextNum + 1 := by
      rw [UInt32.lt_iff_toNat_lt, tidy.toNat_next fresh.present]
      exact Nat.lt_succ_self _
    rw [restores.topology, restores.parameters, here]
    exact Draft.ofNewReplica_numbered fresh.present fresh.made below
      (fun replica member =>
        ⟨(below replica member).1, UInt32.lt_trans (below replica member).2 next⟩)
      (tidy.replica?_eq_none fresh.present (UInt32.le_refl _))
      (tidy.replica?_eq_none fresh.present (UInt32.le_of_lt next)) _ _

/-- Every question can be answered so that the deployment fails. -/
theorem exists_setback (slots : ShardSlots) (past : List Moment) (store : Store)
    (call : ControlCall) :
    ∃ answer, (World.alone slots).Allows call store answer ∧
      Setback past ⟨store, call, answer⟩ := by
  obtain ⟨answer, allowed⟩ := exists_allowed slots store call
  cases call with
  | resolved key => exact ⟨resolved? past key, trivial, fun _ resolved => resolved⟩
  | isCancelled => exact ⟨false, trivial, rfl⟩
  | createReplica node settings topology =>
      exact ⟨.error (.unreachable node "connection refused"), trivial, _, rfl⟩
  | isDeployed node id => exact ⟨.ok false, trivial, rfl⟩
  | spawn _ _ => exact ⟨.ok (), trivial, rfl⟩
  | _ => exact ⟨answer, allowed, trivial⟩

/-- Whatever a later run for the shard and the storage node meets, it commits parameters that
differ from those of the draft in number and directory alone. -/
def Recommits (task : DeployTask) (draft : Draft) (shard : Shard) (store : Store) : Prop :=
  ∀ (again : DeployTask) (slots : ShardSlots) (plan : Plan) (outcome : TaskOutcome) (final : Scene),
    again.storageNode = task.storageNode → again.target.shardIn slots = some shard.id →
      Runs (.alone slots) (plan.run again.toTask) ⟨store, []⟩ outcome final →
        Follows Uncancelled final.past →
          ∃ redraft, founding store redraft ∈ final.past ∧
            redraft.params = { draft.params with
              id := ⟨shard.id, shard.nextNum + 1⟩
              directory := again.directory }

/-- The cleanup job of a deployment that its agent failed restores the store, and the next
deployment commits the same replica under the next number. -/
theorem compensates {plan : Plan} {outcome : TaskOutcome} {middle : Scene} (tidy : store.Tidy)
    (fresh : task.Fresh slots store shard draft)
    (run : Runs (.alone slots) (plan.run task.toTask) ⟨store, []⟩ outcome middle)
    (setback : Follows Setback middle.past) :
    founding store draft ∈ middle.past ∧ ∃ job, outcome.cleanup = some job ∧
      (∃ cleaned last, Runs (.alone slots) job.inPlan middle cleaned last ∧
        Follows Setback last.past) ∧
      ∀ cleaned last, Runs (.alone slots) job.inPlan middle cleaned last →
        Follows Setback last.past →
          cleaned = .completed ∧ store.Restores shard last.store ∧
            task.Recommits draft shard last.store := by
  obtain ⟨⟨job, started, followed⟩, founded⟩ := (run_handsOver fresh []).of_runs run setback
  have ends := exists_run_assumed (exists_setback slots) job.inPlan middle setback
  refine ⟨founded.committed, job, started, ends, fun cleaned last cleans assumed => ?_⟩
  have resolved : resolved? middle.past job.key = some draft.params.id :=
    followed.key ▸ founded.resolved
  have placed : middle.store.topology.places draft.params.id job.storageNode = true := by
    rw [founded.store_eq, followed.storageNode]
    exact fresh.places_found store.sequence
  obtain ⟨completed, strips⟩ := (CleanupJob.inPlan_strips resolved placed).of_runs cleans assumed
  rw [founded.store_eq] at strips
  have restores := fresh.restores tidy rfl followed.storageNode strips
  refine ⟨completed, restores, ?_⟩
  intro again later plan ended final here target reruns uncancelled
  have anew := fresh.again tidy restores here target
  exact ⟨_, (run_founds anew []).of_runs reruns uncancelled, rfl⟩

/-- The replica of the small store is taken back and comes again under its next number. -/
theorem compensates_small :
    ∃ outcome middle job last final,
      Runs (.alone .empty) (small.plan.run small.toTask) ⟨.small, []⟩ outcome middle ∧
      outcome.cleanup = some job ∧
      Runs (.alone .empty) job.inPlan middle .completed last ∧
      Store.small.Restores (Shard.fresh ⟨1⟩) last.store ∧
      ∃ ended redraft, Runs (.alone .empty) (small.plan.run small.toTask) ⟨last.store, []⟩ ended
          final ∧
        founding last.store redraft ∈ final.past ∧ redraft.params.id = ⟨⟨1⟩, 2⟩ ∧
        redraft.params.haPort = 5010 := by
  have tidy : Store.small.Tidy := ⟨by decide, by decide, by decide⟩
  have ported : (Draft.ofNewReplica Store.small.topology Store.small.parameters (Shard.fresh ⟨1⟩)
      ⟨1⟩ none).toOption.map (fun draft => draft.params.haPort) = some 5010 := by decide
  cases made : Draft.ofNewReplica Store.small.topology Store.small.parameters (Shard.fresh ⟨1⟩)
      ⟨1⟩ none with
  | error reason => rw [made] at ported; cases ported
  | ok draft =>
      rw [made] at ported
      have fresh : small.Fresh .empty .small (Shard.fresh ⟨1⟩) draft := ⟨rfl, rfl, rfl, made⟩
      obtain ⟨outcome, middle, run, setback⟩ := exists_run_assumed (exists_setback .empty)
        (small.plan.run small.toTask) ⟨.small, []⟩ trivial
      obtain ⟨_, job, started, ⟨cleaned, last, cleaning, further⟩, cleans⟩ :=
        compensates tidy fresh run setback
      obtain ⟨rfl, restores, recommits⟩ := cleans cleaned last cleaning further
      obtain ⟨ended, final, rerun, again⟩ := exists_run_assumed (exists_setback .empty)
        (small.plan.run small.toTask) ⟨last.store, []⟩ trivial
      obtain ⟨redraft, committed, same⟩ := recommits small .empty small.plan ended final rfl rfl
        rerun (again.mono fun _ _ => uncancelled_of_setback)
      refine ⟨outcome, middle, job, last, final, run, started, cleaning, restores, ended, redraft,
        rerun, committed, ?_, ?_⟩
      · rw [same]
        rfl
      · rw [same]
        exact Option.some.inj ported

end DeployTask

end ShardControl
