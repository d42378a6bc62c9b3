import ShardControl.Proofs.KeyedMap.Lookup
import ShardControl.Store.Interface
import Mathlib.Logic.Relation

/-!
# Commits

A commit is accepted exactly when it names the present sequence.  An accepted
one moves the sequence on by one, so a store that is led to others by fewer
commits than there are sequences never comes back to a sequence that it had.
-/

namespace ShardControl

/-! ## Parameters after an update -/

namespace Parameters

theorem replica?_putReplica (parameters : Parameters) (params : ReplicaParams) (id : ReplicaId) :
    (parameters.putReplica params).replica? id =
      if params.id = id then some params else parameters.replica? id :=
  KeyedMap.find?_insert parameters.replicas params id

theorem replica?_putReplica_of_ne {parameters : Parameters} {params : ReplicaParams}
    {id : ReplicaId} (other : id ≠ params.id) :
    (parameters.putReplica params).replica? id = parameters.replica? id :=
  (replica?_putReplica parameters params id).trans (if_neg other.symm)

theorem replica?_removeReplica (parameters : Parameters) (removed id : ReplicaId) :
    (parameters.removeReplica removed).replica? id =
      if id = removed then none else parameters.replica? id :=
  KeyedMap.find?_erase parameters.replicas removed id

/-- The last parameters that are put for a replica stay. -/
theorem replica?_foldl_putReplica (parameters : Parameters) (upserts : List ReplicaParams)
    (id : ReplicaId) :
    (upserts.foldl putReplica parameters).replica? id =
      ((upserts.filter fun params => params.id = id).getLast?).or (parameters.replica? id) := by
  induction upserts generalizing parameters with
  | nil => rfl
  | cons head tail ih =>
      rw [List.foldl_cons, ih, replica?_putReplica]
      by_cases same : head.id = id
      · rw [if_pos same, List.filter_cons_of_pos (by simpa using same), List.getLast?_cons]
        cases (tail.filter fun params => params.id = id).getLast? <;> rfl
      · rw [if_neg same, List.filter_cons_of_neg (by simpa using same)]

theorem replica?_foldl_removeReplica (parameters : Parameters) (removals : List ReplicaId)
    (id : ReplicaId) :
    (removals.foldl removeReplica parameters).replica? id =
      if id ∈ removals then none else parameters.replica? id := by
  induction removals generalizing parameters with
  | nil => simp
  | cons head tail ih =>
      rw [List.foldl_cons, ih, replica?_removeReplica]
      by_cases same : id = head
      · simp [same]
      · simp [same]

theorem policies_foldl_putReplica (parameters : Parameters) (upserts : List ReplicaParams) :
    (upserts.foldl putReplica parameters).policies = parameters.policies ∧
      (upserts.foldl putReplica parameters).storageNodes = parameters.storageNodes := by
  induction upserts generalizing parameters with
  | nil => exact ⟨rfl, rfl⟩
  | cons head tail ih => exact ih (parameters.putReplica head)

theorem policies_foldl_removeReplica (parameters : Parameters) (removals : List ReplicaId) :
    (removals.foldl removeReplica parameters).policies = parameters.policies ∧
      (removals.foldl removeReplica parameters).storageNodes = parameters.storageNodes := by
  induction removals generalizing parameters with
  | nil => exact ⟨rfl, rfl⟩
  | cons head tail ih => exact ih (parameters.removeReplica head)

end Parameters

namespace Store

/-! ## One commit -/

@[simp] theorem sequence_apply (store : Store) (update : Update) :
    (store.apply update).sequence = store.sequence + 1 := rfl

@[simp] theorem commits_apply (store : Store) (update : Update) :
    (store.apply update).commits = store.commits + 1 := rfl

/-- An upsert wins over a removal, and the last upsert of a replica over those before it. -/
theorem replica?_apply (store : Store) (update : Update) (id : ReplicaId) :
    (store.apply update).parameters.replica? id =
      ((update.upserts.filter fun params => params.id = id).getLast?).or
        (if id ∈ update.removals then none else store.parameters.replica? id) := by
  rw [apply, Parameters.replica?_foldl_putReplica, Parameters.replica?_foldl_removeReplica]

theorem policies_apply (store : Store) (update : Update) :
    (store.apply update).parameters.policies = store.parameters.policies :=
  (Parameters.policies_foldl_putReplica _ _).1.trans
    (Parameters.policies_foldl_removeReplica _ _).1

theorem storageNodes_apply (store : Store) (update : Update) :
    (store.apply update).parameters.storageNodes = store.parameters.storageNodes :=
  (Parameters.policies_foldl_putReplica _ _).2.trans
    (Parameters.policies_foldl_removeReplica _ _).2

theorem commit_eq_ok_iff {store changed : Store} {update : Update} :
    store.commit update = .ok changed ↔
      update.expected = store.sequence ∧ changed = store.apply update := by
  rw [commit]
  split
  · rename_i same
    constructor
    · intro accepted
      exact ⟨same, (Except.ok.inj accepted).symm⟩
    · rintro ⟨_, rfl⟩
      rfl
  · rename_i differ
    constructor
    · intro accepted
      cases accepted
    · rintro ⟨same, _⟩
      exact absurd same differ

theorem respond_commit_of_eq {store : Store} {update : Update}
    (same : update.expected = store.sequence) :
    store.respond (.commit update) = (.ok (store.sequence + 1), store.apply update) := by
  have accepted : store.commit update = .ok (store.apply update) :=
    commit_eq_ok_iff.mpr ⟨same, rfl⟩
  simp only [respond, accepted]
  rfl

theorem respond_commit_of_ne {store : Store} {update : Update}
    (differ : update.expected ≠ store.sequence) :
    store.respond (.commit update) =
      (.error (.conflict update.expected store.sequence), store) := by
  simp only [respond, commit, if_neg differ]

/-! ## Commits one after the other -/

/-- Any number of accepted commits lead from one store to another. -/
def Leads : Store → Store → Prop :=
  Relation.ReflTransGen fun store changed => ∃ update, store.commit update = .ok changed

namespace Leads

theorem refl (store : Store) : store.Leads store := Relation.ReflTransGen.refl

theorem trans {first middle last : Store} (start : first.Leads middle) (rest : middle.Leads last) :
    first.Leads last := Relation.ReflTransGen.trans start rest

/-- Every accepted commit counts, and moves the sequence on. -/
theorem steps {first last : Store} (leads : first.Leads last) :
    ∃ count, last.commits = first.commits + count ∧
      last.sequence = first.sequence + UInt64.ofNat count := by
  induction leads with
  | refl => exact ⟨0, rfl, (UInt64.add_zero _).symm⟩
  | tail _ commit ih =>
      obtain ⟨count, commits, sequence⟩ := ih
      obtain ⟨update, accepted⟩ := commit
      obtain ⟨_, rfl⟩ := commit_eq_ok_iff.mp accepted
      refine ⟨count + 1, ?_, ?_⟩
      · rw [commits_apply, commits, Nat.add_assoc]
      · rw [sequence_apply, sequence, UInt64.ofNat_add, UInt64.add_assoc]
        rfl

theorem commits_le {first last : Store} (leads : first.Leads last) :
    first.commits ≤ last.commits := by
  obtain ⟨count, commits, _⟩ := leads.steps
  omega

theorem eq_of_commits_eq {first last : Store} (leads : first.Leads last)
    (same : last.commits = first.commits) : last = first := by
  cases leads with
  | refl => rfl
  | tail before commit =>
      obtain ⟨update, accepted⟩ := commit
      obtain ⟨_, rfl⟩ := commit_eq_ok_iff.mp accepted
      have earlier : first.commits ≤ _ := commits_le before
      rw [commits_apply] at same
      omega

/-- A store that has not seen all sequences is known by its sequence. -/
theorem eq_of_sequence_eq {first last : Store} (leads : first.Leads last)
    (few : last.commits < first.commits + UInt64.size) (same : last.sequence = first.sequence) :
    last = first := by
  obtain ⟨count, commits, sequence⟩ := leads.steps
  have small : count < UInt64.size := by omega
  have none : UInt64.ofNat count = 0 := by
    rw [same] at sequence
    exact (UInt64.left_eq_add.mp sequence)
  have zero : count = 0 := by
    have asNat := congrArg UInt64.toNat none
    rwa [UInt64.toNat_ofNat_of_lt' small] at asNat
  exact leads.eq_of_commits_eq (by omega)

/-- Between two equal stores nothing was committed. -/
theorem eq_of_leads_back {first middle : Store} (leads : first.Leads middle)
    (back : middle.Leads first) : middle = first :=
  leads.eq_of_commits_eq (Nat.le_antisymm back.commits_le leads.commits_le)

end Leads

/-- Whatever is asked, the store is led on by at most one commit. -/
theorem leads_respond (store : Store) (call : StoreCall) :
    store.Leads (store.respond call).2 := by
  cases call with
  | topology => exact Leads.refl store
  | parameters => exact Leads.refl store
  | replicaParams id => exact Leads.refl store
  | commit update =>
      by_cases same : update.expected = store.sequence
      · rw [respond_commit_of_eq same]
        exact Relation.ReflTransGen.single ⟨update, commit_eq_ok_iff.mpr ⟨same, rfl⟩⟩
      · rw [respond_commit_of_ne same]
        exact Leads.refl store

end Store

end ShardControl
