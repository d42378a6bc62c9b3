import ShardControl.Proofs.Contention.Remedies
import ShardControl.Proofs.Repair.Outcome

/-!
# Attempts that are overtaken

A check and its remedy read the store up to four times before they commit.  A
remedy that takes no effect saw two different stores: what it was to mend is
gone, or the sequence has moved on.  So rivals committed since the first
reading, and the attempt changed nothing itself.
-/

namespace ShardControl

/-- Rivals committed since the first question, a reading of the topology, and all changes of the
store are theirs. -/
structure Overtaken (past : List Moment) (store : Store) : Prop where
  idle : ∀ moment ∈ past, moment.left = moment.found
  since : ∃ newer first, past = newer ++ [⟨first, .store .topology, .ok first.topology⟩] ∧
    first.Leads store ∧ first.commits < store.commits

/-- A store that differs from an earlier one came by more commits. -/
theorem Store.Leads.commits_lt {first seen last : Store} (since : first.Leads seen)
    (onward : seen.Leads last) (differ : last ≠ seen) : first.commits < last.commits := by
  refine Nat.lt_of_le_of_lt since.commits_le (Nat.lt_of_le_of_ne onward.commits_le ?_)
  intro same
  exact differ (onward.eq_of_commits_eq same.symm)

/-- An attempt that first read the topology of a store has changed nothing so far. -/
structure Idles (first : Store) (scene : Scene) : Prop where
  begun : ∃ newer, scene.past = newer ++ [⟨first, .store .topology, .ok first.topology⟩]
  idle : ∀ moment ∈ scene.past, moment.left = moment.found
  leads : first.Leads scene.store

namespace Idles

variable {first store : Store} {scene : Scene}

theorem cons (idles : Idles first scene) (call : ControlCall) (answer : call.Answer)
    (reached : scene.store.Leads store) (kept : (Moment.mk store call answer).left = store) :
    Idles first ⟨store, ⟨store, call, answer⟩ :: scene.past⟩ where
  begun := by
    obtain ⟨newer, past⟩ := idles.begun
    exact ⟨⟨store, call, answer⟩ :: newer, congrArg (List.cons _) past⟩
  idle := List.forall_mem_cons.mpr ⟨kept, idles.idle⟩
  leads := idles.leads.trans reached

/-- A reading changes nothing. -/
theorem read (idles : Idles first scene) (call : StoreCall) (reached : scene.store.Leads store)
    (kept : (store.respond call).2 = store) :
    Idles first ⟨store, ⟨store, .store call, (store.respond call).1⟩ :: scene.past⟩ :=
  idles.cons _ _ reached kept

theorem overtaken (idles : Idles first scene) (more : first.commits < scene.store.commits) :
    Overtaken scene.past scene.store where
  idle := idles.idle
  since := by
    obtain ⟨newer, past⟩ := idles.begun
    exact ⟨newer, first, past, idles.leads, more⟩

end Idles

variable {first seen : Store} {scene : Scene}

def Free (_ : List Moment) (_ : Moment) : Prop := True

/-- An attempt that takes no effect was overtaken. -/
def EndsOvertaken (result : Except CheckError Bool) (last : Scene) : Prop :=
  result = .ok false → Overtaken last.past last.store

/-- Neither an effect nor a failure is the lack of an effect. -/
theorem EndsOvertaken.of_ne {result : Except CheckError Bool} {last : Scene}
    (other : result ≠ .ok false) : EndsOvertaken result last :=
  fun none => absurd none other

namespace Remedy

variable {remedy : Remedy}

/-- A commit that comes too late finds another store than the one that was read. -/
theorem commit_overtaken {update : Update} (idles : Idles first scene) (since : first.Leads seen)
    (onward : seen.Leads scene.store) (expected : update.expected = seen.sequence) :
    Obeys .crowd Free EndsOvertaken (remedy.commit update).run scene := by
  apply Obeys.bind
  intro store reached _ answer allowed
  obtain rfl : answer = (store.respond (.commit update)).1 := allowed
  refine ⟨trivial, ?_⟩
  by_cases same : update.expected = store.sequence
  · rw [Store.respond_commit_of_eq same]
    apply Obeys.bind
    intro _ _ _ _ _
    exact ⟨trivial, .of_ne (by simp)⟩
  · have refused := Store.respond_commit_of_ne same
    have kept : (Moment.mk store (.store (.commit update))
        (store.respond (.commit update)).1).left = store := congrArg Prod.snd refused
    have more : first.commits < store.commits := by
      refine since.commits_lt (onward.trans reached) ?_
      rintro rfl
      exact same expected
    have idles := idles.cons _ _ reached kept
    rw [kept]
    rw [refused] at idles ⊢
    apply Obeys.bind
    intro later toLater _ _ _
    refine ⟨trivial, fun _ => (idles.cons _ _ toLater rfl).overtaken ?_⟩
    exact Nat.lt_of_lt_of_le more toLater.commits_le

theorem removeStray_overtaken (idles : Idles first scene) :
    Obeys .crowd Free EndsOvertaken remedy.removeStray.run scene := by
  rw [removeStray]
  apply Obeys.bindExcept
  apply Obeys.checkStore
  intro third toThird _
  refine ⟨trivial, ?_⟩
  have idles := idles.read .topology toThird rfl
  apply Obeys.bindExcept
  apply Obeys.checkStore
  intro fourth toFourth _
  refine ⟨trivial, ?_⟩
  change Obeys _ _ _
    (remedy.clear third.topology (fourth.parameters.replica? remedy.node)).run _
  rw [clear]
  split
  · exact .of_ne (by simp)
  · split
    · exact .of_ne (by simp)
    · rename_i update made
      exact commit_overtaken (idles.read _ toFourth rfl) idles.leads toFourth
        (expected_removal made)

theorem repairParams_overtaken {second : Store} (idles : Idles first scene)
    (toSecond : first.Leads second) (onward : second.Leads scene.store)
    (placed : (first.topology.replica? remedy.node).isSome = true)
    (stored : (second.parameters.replica? remedy.node).isSome = true) :
    Obeys .crowd Free EndsOvertaken remedy.repairParams.run scene := by
  rw [repairParams]
  apply Obeys.bindExcept
  apply Obeys.checkStore
  intro third toThird _
  refine ⟨trivial, ?_⟩
  have idles := idles.read .topology toThird rfl
  apply Obeys.bindExcept
  apply Obeys.checkStore
  intro fourth toFourth _
  refine ⟨trivial, ?_⟩
  have idlesFourth := idles.read .parameters toFourth rfl
  change Obeys _ _ _ (remedy.align third.topology fourth.parameters).run _
  rw [align]
  split
  · exact commit_overtaken idlesFourth idles.leads toFourth rfl
  · rename_i missing
    intro _
    refine idlesFourth.overtaken ?_
    cases present : third.topology.replica? remedy.node with
    | none =>
        have differ : third ≠ first := by
          rintro rfl
          rw [present] at placed
          cases placed
        exact Nat.lt_of_lt_of_le ((Store.Leads.refl first).commits_lt idles.leads differ)
          toFourth.commits_le
    | some replica =>
        have differ : fourth ≠ second := by
          rintro rfl
          obtain ⟨params, described⟩ := Option.isSome_iff_exists.mp stored
          exact missing replica params present described
        exact toSecond.commits_lt ((onward.trans toThird).trans toFourth) differ

theorem disable_overtaken :
    Obeys .crowd Free EndsOvertaken remedy.disable.run scene := by
  rw [disable]
  apply Obeys.bindExcept
  intro _ _ _ disabled _
  refine ⟨trivial, ?_⟩
  cases disabled with
  | error reason => exact .of_ne (by simp)
  | ok =>
      apply Obeys.bindExcept
      intro _ _ _ _ _
      exact ⟨trivial, .of_ne (by simp)⟩

end Remedy

/-- An attempt among rivals takes effect or fails, unless they commit in between. -/
theorem attempt_overtaken {start : Store} {node : StorageNodeId} {id : ReplicaId} :
    Obeys .crowd Free EndsOvertaken (checkLocation node id >>= Remedy.apply).run ⟨start, []⟩ := by
  apply Obeys.bindExcept
  rw [checkLocation]
  apply Obeys.bindExcept
  apply Obeys.checkStore
  intro first _ _
  have begun : Idles first ⟨first, [⟨first, .store .topology, .ok first.topology⟩]⟩ :=
    ⟨⟨[], rfl⟩, fun moment member => List.mem_singleton.mp member ▸ rfl, .refl first⟩
  refine ⟨trivial, ?_⟩
  apply Obeys.bindExcept
  apply Obeys.checkStore
  intro second toSecond _
  have idles := begun.read (.replicaParams id) toSecond rfl
  refine ⟨trivial, ?_⟩
  apply Obeys.bindExcept
  intro third toThird _ answer _
  have idles := idles.cons (.isDeployed node id) answer toThird rfl
  refine ⟨trivial, ?_⟩
  cases answer with
  | error reason => exact .of_ne (by simp)
  | ok deployed =>
      change Obeys _ _ _ (Remedy.apply ⟨node, id, .choose (first.topology.places id node) deployed
        (second.parameters.replica? id) node⟩).run _
      rw [Remedy.apply]
      cases kind : RemedyKind.choose (first.topology.places id node) deployed
          (second.parameters.replica? id) node with
      | noOp => exact .of_ne (by simp)
      | removeStrayMetadata => exact Remedy.removeStray_overtaken idles
      | repairParams =>
          obtain ⟨placed, _, stored, _⟩ := RemedyKind.choose_eq_repair_iff.mp kind
          obtain ⟨replica, found, _⟩ := Topology.places_eq_true_iff.mp placed
          have listed : (first.topology.replica? id).isSome = true := by
            rw [found]
            rfl
          exact Remedy.repairParams_overtaken idles toSecond toThird listed stored
      | markDisabled => exact Remedy.disable_overtaken

end ShardControl
