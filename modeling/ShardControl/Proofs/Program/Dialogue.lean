import ShardControl.Program.Basic
import Mathlib.Data.List.Basic

/-!
# Dialogues

A dialogue is a whole run of a program, told by its questions with the answers
that it got.  Any answers are possible here, so what is true of all dialogues
is true in all surroundings.
-/

namespace ShardControl

structure Exchange (I : Interface) where
  question : I.Call
  answer : I.Answer question

/-- The program ends with the value after these exchanges, the first one first. -/
inductive Dialogue {I : Interface} {α : Type} :
    Program I α → List (Exchange I) → α → Prop where
  | done (value : α) : Dialogue (.done value) [] value
  | ask {question : I.Call} {next : I.Answer question → Program I α}
      {answer : I.Answer question} {rest : List (Exchange I)} {value : α}
      (further : Dialogue (next answer) rest value) :
      Dialogue (.call question next) (⟨question, answer⟩ :: rest) value

variable {I : Interface} {α β ε σ : Type}

/-- The exchanges of a run in surroundings that answer every question from their state. -/
def Program.record (answer : (question : I.Call) → σ → I.Answer question × σ) :
    Program I α → σ → List (Exchange I)
  | .done _, _ => []
  | .call question next, state =>
      let (found, changed) := answer question state
      ⟨question, found⟩ :: (next found).record answer changed

namespace Dialogue

variable {told : List (Exchange I)} {value : α}

theorem done_iff {other : α} :
    Dialogue (I := I) (.done value) told other ↔ told = [] ∧ other = value := by
  constructor
  · rintro ⟨⟩
    exact ⟨rfl, rfl⟩
  · rintro ⟨rfl, rfl⟩
    exact .done _

theorem call_iff {question : I.Call} {next : I.Answer question → Program I α} :
    Dialogue (.call question next) told value ↔
      ∃ answer rest, told = ⟨question, answer⟩ :: rest ∧ Dialogue (next answer) rest value := by
  constructor
  · rintro (_ | further)
    exact ⟨_, _, rfl, further⟩
  · rintro ⟨answer, rest, rfl, further⟩
    exact .ask further

theorem ask_iff {question : I.Call} {answer : I.Answer question} :
    Dialogue (Program.ask question) told answer ↔ told = [⟨question, answer⟩] := by
  rw [Program.ask, call_iff]
  constructor
  · rintro ⟨_, _, rfl, ended⟩
    obtain ⟨rfl, rfl⟩ := done_iff.mp ended
    rfl
  · rintro rfl
    exact ⟨answer, [], rfl, .done _⟩

theorem ask_bind_iff {question : I.Call} {next : I.Answer question → Program I α} :
    Dialogue (Program.ask question >>= next) told value ↔
      ∃ answer rest, told = ⟨question, answer⟩ :: rest ∧ Dialogue (next answer) rest value :=
  call_iff

/-- A sequence is told by the dialogues of its parts, one after the other. -/
theorem bind_iff {program : Program I α} {next : α → Program I β} {result : β} :
    Dialogue (program >>= next) told result ↔
      ∃ front back value, told = front ++ back ∧ Dialogue program front value ∧
        Dialogue (next value) back result := by
  change Dialogue (program.bind next) told result ↔ _
  induction program generalizing told with
  | done value =>
      rw [Program.done_bind]
      constructor
      · intro further
        exact ⟨[], told, value, rfl, .done _, further⟩
      · rintro ⟨front, back, _, rfl, first, further⟩
        obtain ⟨rfl, rfl⟩ := done_iff.mp first
        exact further
  | call question rest ih =>
      simp only [Program.call_bind, call_iff, ih]
      constructor
      · rintro ⟨answer, _, rfl, front, back, value, rfl, first, further⟩
        exact ⟨_, back, value, rfl, ⟨answer, front, rfl, first⟩, further⟩
      · rintro ⟨_, back, value, rfl, ⟨answer, front, rfl, first⟩, further⟩
        exact ⟨answer, front ++ back, rfl, front, back, value, rfl, first, further⟩

/-- A run in any surroundings is told by its exchanges. -/
theorem record (answer : (question : I.Call) → σ → I.Answer question × σ)
    (program : Program I α) (state : σ) :
    Dialogue program (program.record answer state) (program.run answer state).1 := by
  induction program generalizing state with
  | done value => exact .done value
  | call question next ih => exact .ask (ih _ _)

/-- Where the first part fails the second one does not come. -/
theorem bindExcept_iff {first : ExceptT ε (Program I) α}
    {next : α → ExceptT ε (Program I) β} {result : Except ε β} :
    Dialogue (first >>= next).run told result ↔
      (∃ reason, result = .error reason ∧ Dialogue first.run told (.error reason)) ∨
      ∃ front back value, told = front ++ back ∧ Dialogue first.run front (.ok value) ∧
        Dialogue (next value).run back result := by
  refine (show Dialogue (first.run >>= _) told result ↔ _ from bind_iff).trans ?_
  constructor
  · rintro ⟨front, back, reason | value, rfl, opening, further⟩
    · obtain ⟨rfl, rfl⟩ := done_iff.mp further
      exact .inl ⟨reason, rfl, by rwa [List.append_nil]⟩
    · exact .inr ⟨front, back, value, rfl, opening, further⟩
  · rintro (⟨reason, rfl, opening⟩ | ⟨front, back, value, rfl, opening, further⟩)
    · exact ⟨told, [], .error reason, (List.append_nil _).symm, opening, .done _⟩
    · exact ⟨front, back, .ok value, rfl, opening, further⟩

theorem mapExcept_iff {program : ExceptT ε (Program I) α} {map : α → β} {result : Except ε β} :
    Dialogue (map <$> program).run told result ↔
      ∃ found, Dialogue program.run told found ∧ result = found.map map := by
  refine (show Dialogue (program.run >>= _) told result ↔ _ from bind_iff).trans ?_
  constructor
  · rintro ⟨front, back, found | value, rfl, first, further⟩
    all_goals
      obtain ⟨rfl, rfl⟩ := done_iff.mp further
      exact ⟨_, by rwa [List.append_nil], rfl⟩
  · rintro ⟨reason | value, first, rfl⟩
    all_goals exact ⟨told, [], _, (List.append_nil told).symm, first, .done _⟩

end Dialogue

/-- What only some exchanges can change is the same at the end of a run without these. -/
theorem Program.run_untouched {γ : Type} {answer : (question : I.Call) → σ → I.Answer question × σ}
    {view : σ → γ} (touches : Exchange I → Prop)
    (kept : ∀ question state, ¬ touches ⟨question, (answer question state).1⟩ →
      view (answer question state).2 = view state)
    (program : Program I α) (state : σ)
    (untouched : ∀ exchange ∈ program.record answer state, ¬ touches exchange) :
    view (program.run answer state).2 = view state := by
  induction program generalizing state with
  | done value => rfl
  | call question next ih =>
      obtain ⟨first, further⟩ := List.forall_mem_cons.mp untouched
      exact (ih _ _ further).trans (kept question state first)

/-- All exchanges of the program are of one kind, whatever is answered. -/
def Program.Keeps (kind : Exchange I → Prop) (program : Program I α) : Prop :=
  ∀ told value, Dialogue program told value → ∀ exchange ∈ told, kind exchange

namespace Program.Keeps

variable {kind : Exchange I → Prop}

theorem done (value : α) : Keeps kind (.done value) := by
  intro told _ dialogue exchange member
  rw [(Dialogue.done_iff.mp dialogue).1] at member
  cases member

theorem ask {question : I.Call} (kept : ∀ answer, kind ⟨question, answer⟩) :
    Keeps kind (Program.ask question) := by
  intro told answer dialogue exchange member
  rw [Dialogue.ask_iff.mp dialogue, List.mem_singleton] at member
  exact member ▸ kept answer

theorem bind {program : Program I α} {next : α → Program I β} (first : program.Keeps kind)
    (further : ∀ value, (next value).Keeps kind) : Keeps kind (program >>= next) := by
  intro told result dialogue exchange member
  obtain ⟨front, back, value, rfl, opening, onward⟩ := Dialogue.bind_iff.mp dialogue
  rcases List.mem_append.mp member with early | late
  · exact first _ _ opening _ early
  · exact further value _ _ onward _ late

theorem bindExcept {first : ExceptT ε (Program I) α} {next : α → ExceptT ε (Program I) β}
    (opening : Keeps kind first.run) (further : ∀ value, Keeps kind (next value).run) :
    Keeps kind (first >>= next).run := by
  change Keeps kind (first.run >>= _)
  refine opening.bind fun result => ?_
  cases result with
  | error reason => exact .done _
  | ok value => exact further value

end Program.Keeps

end ShardControl
