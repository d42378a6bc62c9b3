import ShardControl.Proofs.Document.RoundTrip
import ShardControl.Proofs.Store.Commit

/-!
# Documents adopted between a reading and a commit

Besides the commits of planners, a store takes over documents that are not older
than what it has.  A commit is stopped if the store has gone on to another
sequence since the reading that it is based on.  A document with the very
sequence of the reading replaces the metadata and stops no commit: these are
exactly the updates that get lost.
-/

namespace ShardControl.Store

/-! ## Runs of questions and documents -/

/-- A planner's question, or a document to take over. -/
inductive Request where
  | ask (call : StoreCall)
  | adopt (document : Document)

def holding (store : Store) (document : Document) : Store :=
  { store with topology := document.topology, parameters := document.parameters }

/-- The store after a request. A document that is refused changes nothing. -/
def serve (store : Store) : Request → Store
  | .ask call => (store.respond call).2
  | .adopt document =>
      match store.adopt document with
      | .ok adopted => adopted
      | .error _ => store

def served (store : Store) (requests : List Request) : Store :=
  requests.foldl serve store

inductive Effect where
  | committed (update : Update)
  | adopted (document : Document)

/-- How a request changes the store, unless it is a reading or refused. -/
def effect? (store : Store) : Request → Option Effect
  | .ask (.commit update) =>
      if update.expected = store.sequence then some (.committed update) else none
  | .ask _ => none
  | .adopt document =>
      match store.adopt document with
      | .ok _ => some (.adopted document)
      | .error _ => none

def effects (store : Store) : List Request → List Effect
  | [] => []
  | request :: rest => (store.effect? request).toList ++ (store.serve request).effects rest

/-- There is a next sequence for every commit that is accepted. -/
def HasNext (store : Store) : List Request → Prop
  | [] => True
  | request :: rest =>
      (∀ update, store.effect? request = some (.committed update) →
        store.sequence.toNat < UInt64.size - 1) ∧ (store.serve request).HasNext rest

/-- The change leaves metadata of this sequence without a commit. -/
def Effect.Restates (sequence : UInt64) : Effect → Prop
  | committed _ => False
  | adopted document => document.topology.sequence = sequence

def Effect.document? : Effect → Option Document
  | committed _ => none
  | adopted document => some document

theorem adopt_eq_ok_iff {store adopted : Store} {document : Document} :
    store.adopt document = .ok adopted ↔
      document.verify = .ok () ∧ ¬ document.sequence < store.sequence ∧
        adopted = store.holding document := by
  rw [adopt, holding]
  cases document.verify with
  | error reason => simp
  | ok value =>
      dsimp only
      split
      · next older => simp [older]
      · next present => simp [present, eq_comm]

/-- The header of a document that agrees with itself names the sequence of its topology. -/
theorem sequence_eq_of_verify {document : Document} (verified : document.verify = .ok ()) :
    document.topology.sequence = document.sequence := by
  rw [Document.verify] at verified
  split at verified
  · cases verified
  · next same => exact (Decidable.not_not.mp same).symm

/-- Everything that a request can do. -/
theorem effect?_cases (store : Store) (request : Request) :
    (store.effect? request = none ∧ store.serve request = store) ∨
    (∃ update, store.effect? request = some (.committed update) ∧
      store.serve request = store.apply update) ∨
    ∃ document, store.effect? request = some (.adopted document) ∧
      ¬ document.topology.sequence < store.sequence ∧
      store.serve request = store.holding document := by
  cases request with
  | ask call =>
      cases call with
      | topology => exact .inl ⟨rfl, rfl⟩
      | parameters => exact .inl ⟨rfl, rfl⟩
      | replicaParams id => exact .inl ⟨rfl, rfl⟩
      | commit update =>
          rw [effect?, serve]
          split
          · next same => exact .inr (.inl ⟨update, rfl, by rw [respond_commit_of_eq same]⟩)
          · next differ => exact .inl ⟨rfl, by rw [respond_commit_of_ne differ]⟩
  | adopt document =>
      rw [effect?, serve]
      cases taken : store.adopt document with
      | error reason => exact .inl ⟨rfl, rfl⟩
      | ok adopted =>
          obtain ⟨verified, present, rfl⟩ := adopt_eq_ok_iff.mp taken
          rw [← sequence_eq_of_verify verified] at present
          exact .inr (.inr ⟨document, rfl, present, rfl⟩)

/-! ## The sequence as a version -/

theorem toNat_sequence_apply {store : Store} (room : store.sequence.toNat < UInt64.size - 1)
    (update : Update) :
    (store.apply update).sequence.toNat = store.sequence.toNat + 1 := by
  rw [sequence_apply, UInt64.toNat_add]
  exact Nat.mod_eq_of_lt (by simp only [UInt64.size] at room; simp; omega)

/-- The sequence never goes back. -/
theorem sequence_le_served {store : Store} {requests : List Request}
    (next : store.HasNext requests) :
    store.sequence.toNat ≤ (store.served requests).sequence.toNat := by
  induction requests generalizing store with
  | nil => exact Nat.le_refl _
  | cons request rest ih =>
      refine Nat.le_trans ?_ (ih next.2)
      rcases store.effect?_cases request with ⟨-, same⟩ | ⟨update, accepted, changed⟩ |
        ⟨document, -, present, changed⟩
      · rw [same]
      · rw [changed, toNat_sequence_apply (next.1 update accepted)]
        exact Nat.le_succ _
      · rw [changed]
        exact Nat.not_lt.mp fun older => present (UInt64.lt_iff_toNat_lt.mpr older)

/-- The sequence is the same again only after documents that repeat it. -/
theorem sequence_served_eq_iff {store : Store} {requests : List Request}
    (next : store.HasNext requests) :
    (store.served requests).sequence = store.sequence ↔
      ∀ effect ∈ store.effects requests, effect.Restates store.sequence := by
  induction requests generalizing store with
  | nil => exact iff_of_true rfl fun _ member => absurd member List.not_mem_nil
  | cons request rest ih =>
      have later := ih next.2
      have beyond := sequence_le_served next.2
      change ((store.serve request).served rest).sequence = _ ↔ _
      rw [effects]
      rcases store.effect?_cases request with ⟨none, same⟩ | ⟨update, accepted, changed⟩ |
        ⟨document, adopted, present, changed⟩
      · rw [none, same]
        rw [same] at later
        exact later
      · -- A commit moves the sequence on, and nothing brings it back.
        rw [changed, toNat_sequence_apply (next.1 update accepted)] at beyond
        refine iff_of_false ?_ fun all => ?_
        · rw [changed]
          intro back
          rw [back] at beyond
          omega
        · rw [accepted] at all
          exact all (.committed update) List.mem_cons_self
      · rw [adopted, changed]
        rw [changed] at later beyond
        change _ ↔ ∀ effect ∈ Effect.adopted document :: _, _
        rw [List.forall_mem_cons]
        change document.topology.sequence.toNat ≤ _ at beyond
        by_cases repeats : document.topology.sequence = store.sequence
        · have found : (store.holding document).sequence = store.sequence := repeats
          rw [found] at later
          rw [later]
          exact (and_iff_right repeats).symm
        · refine iff_of_false ?_ fun all => repeats all.1
          intro back
          rw [back] at beyond
          have older : ¬ document.topology.sequence.toNat < store.sequence.toNat :=
            fun less => present (UInt64.lt_iff_toNat_lt.mpr less)
          exact repeats (UInt64.toNat_inj.mp (by omega))

/-- What is stored is what the last document left, if all changes were documents. -/
theorem served_of_restated {store : Store} {requests : List Request} {sequence : UInt64}
    (restated : ∀ effect ∈ store.effects requests, effect.Restates sequence) :
    store.served requests =
      ((store.effects requests).filterMap Effect.document?).getLast?.elim store store.holding := by
  induction requests generalizing store with
  | nil => rfl
  | cons request rest ih =>
      change (store.serve request).served rest = _
      rw [effects] at restated ⊢
      rcases store.effect?_cases request with ⟨none, same⟩ | ⟨update, accepted, changed⟩ |
        ⟨document, adopted, present, changed⟩
      · rw [none, same] at restated ⊢
        exact ih restated
      · rw [accepted] at restated
        exact absurd (restated (.committed update) List.mem_cons_self) id
      · rw [adopted, changed] at restated ⊢
        rw [ih fun effect member => restated effect (List.mem_cons_of_mem _ member)]
        generalize (store.holding document).effects rest = others
        change _ = ((document :: others.filterMap Effect.document?).getLast?).elim store _
        rw [List.getLast?_cons]
        cases (others.filterMap Effect.document?).getLast? <;> rfl

namespace HasNext

theorem append_iff {store : Store} {first second : List Request} :
    store.HasNext (first ++ second) ↔
      store.HasNext first ∧ (store.served first).HasNext second := by
  induction first generalizing store with
  | nil => exact (and_iff_right trivial).symm
  | cons request rest ih =>
      change (_ ∧ (store.serve request).HasNext (rest ++ second)) ↔ (_ ∧ _) ∧ _
      rw [ih, and_assoc]
      rfl

end HasNext

/-! ## Commits that go by a reading -/

/-- How far a reading protects an update that is based on it, whatever is requested between. -/
structure Guards (read : Store) (between : List Request) (update : Update) : Prop where
  /-- Only documents of the very sequence of the reading let the commit through. -/
  accepted_iff : (∃ changed, (read.served between).commit update = .ok changed) ↔
    ∀ effect ∈ read.effects between, effect.Restates read.sequence
  /-- What an accepted commit finds is what the last of these documents left. -/
  found : (∃ changed, (read.served between).commit update = .ok changed) →
    read.served between =
      ((read.effects between).filterMap Effect.document?).getLast?.elim read read.holding
  /-- Without such a document, an accepted commit finds what was read. -/
  kept : (∀ document, .adopted document ∈ read.effects between →
      document.topology.sequence ≠ read.sequence) →
    (∃ changed, (read.served between).commit update = .ok changed) →
      read.served between = read
  /-- A commit that is stopped leaves everything as it finds it. -/
  refused : ¬ (∃ changed, (read.served between).commit update = .ok changed) →
    (read.served between).respond (.commit update) =
      (.error (.conflict update.expected (read.served between).sequence), read.served between)

/-- The sequence guards a commit against everything but documents that repeat the sequence. -/
theorem guards_of_based {start : Store} {earlier between later : List Request} {update : Update}
    (next : start.HasNext (earlier ++ between ++ .ask (.commit update) :: later))
    (based : update.expected = (start.served earlier).sequence) :
    (start.served earlier).Guards between update := by
  rw [List.append_assoc, HasNext.append_iff, HasNext.append_iff] at next
  generalize start.served earlier = read at next based
  have accepted : (∃ changed, (read.served between).commit update = .ok changed) ↔
      ∀ effect ∈ read.effects between, effect.Restates read.sequence := by
    rw [← sequence_served_eq_iff next.2.1, eq_comm, ← based]
    exact ⟨fun ⟨_, taken⟩ => (commit_eq_ok_iff.mp taken).1,
      fun same => ⟨_, commit_eq_ok_iff.mpr ⟨same, rfl⟩⟩⟩
  refine ⟨accepted, fun taken => served_of_restated (accepted.mp taken), ?_, ?_⟩
  · intro others taken
    have restated := accepted.mp taken
    have none : read.effects between = [] := by
      rw [List.eq_nil_iff_forall_not_mem]
      intro effect member
      have repeats := restated effect member
      cases effect with
      | committed update => exact repeats
      | adopted document => exact others document member repeats
    rw [served_of_restated restated, none]
    rfl
  · intro stopped
    apply respond_commit_of_ne
    intro same
    exact stopped ⟨_, commit_eq_ok_iff.mpr ⟨same, rfl⟩⟩

/-! ## A lost update -/

theorem served_adopt {store : Store} {document : Document} (verified : document.verify = .ok ())
    (present : ¬ document.sequence < store.sequence) :
    store.served [.adopt document] = store.holding document := by
  change store.serve (.adopt document) = _
  rw [serve, adopt_eq_ok_iff.mpr ⟨verified, present, rfl⟩]

/-- One document between a reading and a commit leaves a next sequence if it has one. -/
theorem hasNext_of_adopt {store : Store} {document : Document}
    (verified : document.verify = .ok ()) (present : ¬ document.sequence < store.sequence)
    (room : document.topology.sequence.toNat < UInt64.size - 1) (update : Update) :
    store.HasNext ([.ask .topology] ++ [.adopt document] ++ [.ask (.commit update)]) := by
  refine ⟨fun update read => ?_, fun update adopted => ?_, fun _ _ => ?_, trivial⟩
  · cases read
  · change (match store.adopt document with | .ok _ => _ | .error _ => _) = _ at adopted
    rw [adopt_eq_ok_iff.mpr ⟨verified, present, rfl⟩] at adopted
    cases adopted
  · change (store.served [.adopt document]).sequence.toNat < _
    rw [served_adopt verified present]
    exact room

def early : Store := .start ((Topology.named "early").withSequence 7) default

/-- A document of the sequence of the early store, with another topology. -/
def late : Document := .make ((Topology.named "late").withSequence 7) default

/-- A commit that goes by a reading before the document. -/
theorem guards_of_based_early :
    let update : Update := ⟨7, some early.topology, [], []⟩
    early.HasNext ([.ask .topology] ++ [.adopt late] ++ [.ask (.commit update)]) ∧
      update.expected = (early.served [.ask .topology]).sequence ∧
      (early.served [.ask .topology]).Guards [.adopt late] update := by
  intro update
  have next :=
    @hasNext_of_adopt early late (Document.verify_make _ _) (by decide) (by decide) update
  exact ⟨next, rfl, guards_of_based next rfl⟩

/-- The document is accepted, and so is the commit that knows nothing of it. -/
theorem not_kept_of_late :
    let update : Update := ⟨7, some early.topology, [], []⟩
    update.expected = early.sequence ∧
      (early.served [.adopt late]).topology = late.topology ∧
      late.topology ≠ early.topology ∧
      ∃ changed, (early.served [.adopt late]).commit update = .ok changed ∧
        changed.topology = early.topology.withSequence 8 := by
  intro update
  have found : early.served [.adopt late] = early.holding late :=
    served_adopt (Document.verify_make _ _) (by decide)
  rw [found]
  refine ⟨rfl, rfl, by decide, (early.holding late).apply update, ?_, rfl⟩
  exact commit_eq_ok_iff.mpr ⟨rfl, rfl⟩

end ShardControl.Store
