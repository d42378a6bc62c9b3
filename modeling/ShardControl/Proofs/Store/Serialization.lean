import ShardControl.Proofs.Store.Commit

/-!
# Commits in one order

The questions of all planners reach the store one after the other.  However
they are mixed, the commits that it accepts have one order, the order of the
sequences that they are answered with, and what is stored in the end is what
these commits make of the first store in that order.
-/

namespace ShardControl

def Update.lastUpsert? (update : Update) (id : ReplicaId) : Option ReplicaParams :=
  (update.upserts.filter fun params => params.id = id).getLast?

namespace Store

/-! ## Runs of questions -/

def after (store : Store) (calls : List StoreCall) : Store :=
  calls.foldl (fun current call => (current.respond call).2) store

def answer (store : Store) (answered : List StoreCall) (call : StoreCall) : call.Answer :=
  ((store.after answered).respond call).1

def stages (store : Store) : List StoreCall → List Store
  | [] => []
  | call :: rest => store :: stages (store.respond call).2 rest

/-- The updates that are accepted among questions, with the sequences they are answered with. -/
def accepted (store : Store) : List StoreCall → List (Update × UInt64)
  | [] => []
  | .commit update :: rest =>
      match store.respond (.commit update) with
      | (.ok sequence, changed) => (update, sequence) :: accepted changed rest
      | (.error _, changed) => accepted changed rest
  | .topology :: rest => accepted store rest
  | .parameters :: rest => accepted store rest
  | .replicaParams _ :: rest => accepted store rest

theorem after_append (store : Store) (first second : List StoreCall) :
    store.after (first ++ second) = (store.after first).after second :=
  List.foldl_append

theorem accepted_commit_of_eq {store : Store} {update : Update} (rest : List StoreCall)
    (same : update.expected = store.sequence) :
    store.accepted (.commit update :: rest) =
      (update, store.sequence + 1) :: (store.apply update).accepted rest := by
  simp only [accepted, respond_commit_of_eq same]
  rfl

theorem accepted_commit_of_ne {store : Store} {update : Update} (rest : List StoreCall)
    (differ : update.expected ≠ store.sequence) :
    store.accepted (.commit update :: rest) = store.accepted rest := by
  simp only [accepted, respond_commit_of_ne differ]

/-- A question is an accepted commit, or the store and what is accepted stay as they are. -/
theorem accepted_cons (store : Store) (call : StoreCall) (rest : List StoreCall) :
    (∃ update, (store.respond call).2 = store.apply update ∧
      store.accepted (call :: rest) =
        (update, store.sequence + 1) :: (store.apply update).accepted rest) ∨
      (store.respond call).2 = store ∧ store.accepted (call :: rest) = store.accepted rest := by
  cases call with
  | topology => exact .inr ⟨rfl, rfl⟩
  | parameters => exact .inr ⟨rfl, rfl⟩
  | replicaParams id => exact .inr ⟨rfl, rfl⟩
  | commit update =>
      rcases Decidable.em (update.expected = store.sequence) with same | differ
      · refine .inl ⟨update, ?_, accepted_commit_of_eq rest same⟩
        rw [respond_commit_of_eq same]
      · refine .inr ⟨?_, accepted_commit_of_ne rest differ⟩
        rw [respond_commit_of_ne differ]

theorem after_cons (store : Store) (call : StoreCall) (rest : List StoreCall) :
    store.after (call :: rest) = (store.respond call).2.after rest :=
  rfl

theorem stages_append (store : Store) (first second : List StoreCall) :
    store.stages (first ++ second) = store.stages first ++ (store.after first).stages second := by
  induction first generalizing store with
  | nil => rfl
  | cons call rest ih => exact congrArg (store :: ·) (ih (store.respond call).2)

/-- What an accepted update leaves: removals come before upserts, and nothing else changes. -/
structure Carries (before : Store) (update : Update) (sequence : UInt64) (left : Store) : Prop where
  next : sequence.toNat = before.sequence.toNat + 1
  sequence_eq : left.sequence = sequence
  commits : left.commits = before.commits + 1
  topology : left.topology = (update.topology.getD before.topology).withSequence sequence
  policies : left.parameters.policies = before.parameters.policies
  storageNodes : left.parameters.storageNodes = before.parameters.storageNodes
  replica? : ∀ id, left.parameters.replica? id =
    (update.lastUpsert? id).or
      (if id ∈ update.removals then none else before.parameters.replica? id)

/-! ## Order and replay -/

/-- The store has room for a further sequence at every question. -/
def HasSequences (store : Store) (calls : List StoreCall) : Prop :=
  ∀ found ∈ store.stages calls, found.sequence.toNat < UInt64.size - 1

instance (store : Store) (calls : List StoreCall) : Decidable (store.HasSequences calls) :=
  inferInstanceAs (Decidable (∀ found ∈ store.stages calls, _))

namespace HasSequences

theorem tail {store : Store} {call : StoreCall} {rest : List StoreCall}
    (room : store.HasSequences (call :: rest)) : (store.respond call).2.HasSequences rest :=
  fun found member => room found (List.mem_cons_of_mem _ member)

theorem left {store : Store} {first second : List StoreCall}
    (room : store.HasSequences (first ++ second)) : store.HasSequences first := by
  intro found member
  apply room found
  rw [stages_append]
  exact List.mem_append_left _ member

theorem right {store : Store} {first second : List StoreCall}
    (room : store.HasSequences (first ++ second)) : (store.after first).HasSequences second := by
  intro found member
  apply room found
  rw [stages_append]
  exact List.mem_append_right _ member

theorem toNat_next {store : Store} {call : StoreCall} {rest : List StoreCall}
    (room : store.HasSequences (call :: rest)) :
    (store.sequence + 1).toNat = store.sequence.toNat + 1 := by
  have below : store.sequence.toNat < UInt64.size - 1 := room store List.mem_cons_self
  rw [UInt64.toNat_add]
  exact Nat.mod_eq_of_lt (by simp only [UInt64.size] at below; simp; omega)

end HasSequences

/-- The stored metadata are what the accepted updates make of the first ones, in turn. -/
theorem after_eq_replay (store : Store) (calls : List StoreCall) :
    store.after calls = ((store.accepted calls).map Prod.fst).foldl apply store := by
  induction calls generalizing store with
  | nil => rfl
  | cons call rest ih =>
      rw [after_cons]
      rcases accepted_cons store call rest with ⟨update, changed, entries⟩ | ⟨same, entries⟩
      · rw [changed, entries]
        exact ih (store.apply update)
      · rw [same, entries]
        exact ih store

/-- Every accepted update is counted. -/
theorem commits_after (store : Store) (calls : List StoreCall) :
    (store.after calls).commits = store.commits + (store.accepted calls).length := by
  rw [after_eq_replay]
  generalize store.accepted calls = entries
  induction entries generalizing store with
  | nil => rfl
  | cons entry rest ih =>
      rw [List.map_cons, List.foldl_cons, ih, commits_apply, List.length_cons]
      omega

/-- The accepted updates are answered with the sequences that follow the first one. -/
theorem accepted_sequences {store : Store} {calls : List StoreCall}
    (room : store.HasSequences calls) :
    (store.accepted calls).map (fun entry => entry.2.toNat) =
      List.range' (store.sequence.toNat + 1) (store.accepted calls).length := by
  induction calls generalizing store with
  | nil => rfl
  | cons call rest ih =>
      have later := ih room.tail
      rcases accepted_cons store call rest with ⟨update, changed, entries⟩ | ⟨same, entries⟩
      · rw [changed] at later
        rw [entries, List.map_cons, later, List.length_cons, List.range'_succ, sequence_apply,
          room.toNat_next]
      · rw [same] at later
        rw [entries]
        exact later

theorem sequence_after {store : Store} {calls : List StoreCall}
    (room : store.HasSequences calls) :
    (store.after calls).sequence.toNat =
      store.sequence.toNat + (store.accepted calls).length := by
  induction calls generalizing store with
  | nil => rfl
  | cons call rest ih =>
      have later := ih room.tail
      rw [after_cons]
      rcases accepted_cons store call rest with ⟨update, changed, entries⟩ | ⟨same, entries⟩
      · rw [changed] at later ⊢
        rw [later, entries, sequence_apply, room.toNat_next, List.length_cons]
        omega
      · rw [same] at later ⊢
        rw [entries]
        exact later

/-! ## Single commits -/

theorem after_commit (store : Store) (answered : List StoreCall) (update : Update) :
    store.after (answered ++ [.commit update]) =
      ((store.after answered).respond (.commit update)).2 :=
  after_append store answered [.commit update]

theorem answer_ok_iff (store : Store) (answered : List StoreCall) (update : Update) :
    (∃ sequence, store.answer answered (.commit update) = .ok sequence) ↔
      update.expected = (store.after answered).sequence := by
  rw [answer]
  rcases Decidable.em (update.expected = (store.after answered).sequence) with same | differ
  · rw [respond_commit_of_eq same]
    exact ⟨fun _ => same, fun _ => ⟨_, rfl⟩⟩
  · rw [respond_commit_of_ne differ]
    constructor
    · rintro ⟨sequence, impossible⟩
      cases impossible
    · intro same
      exact absurd same differ

theorem carries_of_answer_ok {store : Store} {answered asked : List StoreCall} {update : Update}
    {sequence : UInt64} (room : store.HasSequences (answered ++ .commit update :: asked))
    (accepted : store.answer answered (.commit update) = .ok sequence) :
    Carries (store.after answered) update sequence
      (store.after (answered ++ [.commit update])) := by
  have same := (answer_ok_iff store answered update).mp ⟨sequence, accepted⟩
  rw [answer, respond_commit_of_eq same] at accepted
  have sequenceEq : (store.after answered).sequence + 1 = sequence := Except.ok.inj accepted
  rw [after_commit, respond_commit_of_eq same]
  subst sequenceEq
  exact {
    next := room.right.toNat_next
    sequence_eq := rfl
    commits := rfl
    topology := rfl
    policies := policies_apply (store.after answered) update
    storageNodes := storageNodes_apply (store.after answered) update
    replica? := replica?_apply (store.after answered) update }

theorem after_of_answer_error {store : Store} {answered : List StoreCall} {update : Update}
    {reason : MetadataError}
    (refused : store.answer answered (.commit update) = .error reason) :
    store.after (answered ++ [.commit update]) = store.after answered := by
  rcases Decidable.em (update.expected = (store.after answered).sequence) with same | differ
  · rw [answer, respond_commit_of_eq same] at refused
    cases refused
  · rw [after_commit, respond_commit_of_ne differ]

/-- A commit that is based on what was read is refused only if others were accepted since. -/
theorem accepted_since_reading {store : Store} {earlier between : List StoreCall}
    {update : Update} {topology : Topology} {reason : MetadataError}
    (read : store.answer earlier .topology = .ok topology)
    (based : update.expected = topology.sequence)
    (refused : store.answer (earlier ++ .topology :: between) (.commit update) = .error reason) :
    (store.after earlier).accepted between ≠ [] := by
  -- Had none been accepted, the store would still be the one that was read.
  intro none
  have unchanged : store.after (earlier ++ .topology :: between) = store.after earlier := by
    rw [after_append]
    refine (after_eq_replay (store.after earlier) (.topology :: between)).trans ?_
    rw [accepted, none]
    rfl
  have present : (store.after earlier).topology = topology := Except.ok.inj read
  obtain ⟨sequence, accepted⟩ :=
    (answer_ok_iff store (earlier ++ .topology :: between) update).mpr (by
      rw [unchanged, based, ← present]
      rfl)
  rw [accepted] at refused
  cases refused

/-- Of two commits with one base at most one is accepted. -/
theorem not_both_accepted {store : Store} {earlier between later : List StoreCall}
    {first second : Update} {sequence other : UInt64}
    (room : store.HasSequences (earlier ++ .commit first :: between ++ .commit second :: later))
    (same : first.expected = second.expected)
    (accepted : store.answer earlier (.commit first) = .ok sequence) :
    store.answer (earlier ++ .commit first :: between) (.commit second) ≠ .ok other := by
  intro acceptedToo
  have base := (answer_ok_iff store earlier first).mp ⟨_, accepted⟩
  have baseToo := (answer_ok_iff store _ second).mp ⟨_, acceptedToo⟩
  have moved := sequence_after room.left.right
  rw [← after_append, accepted_commit_of_eq between base, List.length_cons, ← baseToo, ← same,
    base] at moved
  omega

/-! ## Runs as a whole -/

/-- What holds of the commits among the questions of any number of planners. -/
structure Serializes (start : Store) (calls : List StoreCall) : Prop where
  /-- A commit is accepted exactly when it names the present sequence. -/
  accepted_iff : ∀ answered update asked, calls = answered ++ .commit update :: asked →
    ((∃ sequence, start.answer answered (.commit update) = .ok sequence) ↔
      update.expected = (start.after answered).sequence)
  /-- An accepted commit carries out its update and nothing else. -/
  carries : ∀ answered update asked sequence, calls = answered ++ .commit update :: asked →
    start.answer answered (.commit update) = .ok sequence →
      Carries (start.after answered) update sequence (start.after (answered ++ [.commit update]))
  /-- A refused commit changes nothing. -/
  refused : ∀ answered update asked reason, calls = answered ++ .commit update :: asked →
    start.answer answered (.commit update) = .error reason →
      start.after (answered ++ [.commit update]) = start.after answered
  /-- A planner that goes by what it read is refused only if it was overtaken since. -/
  overtaken : ∀ earlier between later update topology reason,
    calls = earlier ++ .topology :: between ++ .commit update :: later →
      start.answer earlier .topology = .ok topology → update.expected = topology.sequence →
        start.answer (earlier ++ .topology :: between) (.commit update) = .error reason →
          (start.after earlier).accepted between ≠ []
  /-- Of two commits with one base at most one is accepted. -/
  exclusive : ∀ earlier between later first second sequence other,
    calls = earlier ++ .commit first :: between ++ .commit second :: later →
      first.expected = second.expected → start.answer earlier (.commit first) = .ok sequence →
        start.answer (earlier ++ .commit first :: between) (.commit second) ≠ .ok other
  /-- The count of commits and the sequence move on together. -/
  counted : (start.after calls).commits = start.commits + (start.accepted calls).length ∧
    (start.after calls).sequence.toNat = start.sequence.toNat + (start.accepted calls).length
  /-- The accepted updates are in the order of the sequences they are answered with. -/
  ordered : (start.accepted calls).map (fun entry => entry.2.toNat) =
    List.range' (start.sequence.toNat + 1) (start.accepted calls).length
  /-- In that order they make what is stored in the end of what was stored first. -/
  replayed : start.after calls = ((start.accepted calls).map Prod.fst).foldl apply start

theorem serializes {start : Store} {calls : List StoreCall} (room : start.HasSequences calls) :
    start.Serializes calls where
  accepted_iff answered update _ _ := answer_ok_iff start answered update
  carries answered update asked sequence split accepted := by
    subst split
    exact carries_of_answer_ok room accepted
  refused _ _ _ _ _ refused := after_of_answer_error refused
  overtaken _ _ _ _ _ _ _ read based refused := accepted_since_reading read based refused
  exclusive earlier between later first second sequence other split same accepted := by
    subst split
    exact not_both_accepted room same accepted
  counted := ⟨commits_after start calls, sequence_after room⟩
  ordered := accepted_sequences room
  replayed := after_eq_replay start calls

/-- Two planners go by one reading; the second is refused, reads again and is accepted. -/
theorem serializes_race :
    let first : Update := ⟨7, none, [], [⟨⟨1⟩, 1⟩]⟩
    let again : Update := ⟨8, some (.named "other"), [], []⟩
    let start : Store := .start ((Topology.named "store").withSequence 7) default
    let calls : List StoreCall :=
      [.topology, .topology, .commit first, .commit first, .topology, .commit again]
    start.HasSequences calls ∧ start.Serializes calls :=
  ⟨by decide, serializes (by decide)⟩

end Store

end ShardControl
