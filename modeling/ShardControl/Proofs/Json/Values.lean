import ShardControl.Proofs.Json.Scalars

/-!
# Reading values back

Whatever the layout, as long as it adds nothing but blanks, a value is read
back from the text that is written for it.
-/

namespace ShardControl.Json

open Glyph (ofChars)

/-! ## Blanks -/

def Blank (text : List Char) : Prop := ∀ c ∈ text, isBlank (some c) = true

/-- A layout that adds nothing but blanks. -/
structure Layout.Spaces (layout : Layout) : Prop where
  line : ∀ depth, Blank (layout.line depth)
  colon : ∃ blanks, layout.colon = ':' :: blanks ∧ Blank blanks

theorem Layout.spaces_indented : Layout.indented.Spaces where
  line depth c member := by
    rcases List.mem_cons.mp member with rfl | space
    · rfl
    · rw [(List.mem_replicate.mp space).2]
      rfl
  colon := ⟨[' '], rfl, fun _ member => by cases List.mem_singleton.mp member; rfl⟩

theorem Layout.spaces_compact : Layout.compact.Spaces where
  line _ _ member := by cases member
  colon := ⟨[], rfl, fun _ member => by cases member⟩

theorem skipBlanks_append {blanks : List Char} (blank : Blank blanks) (rest : List Glyph) :
    skipBlanks (ofChars blanks ++ rest) = skipBlanks rest := by
  refine List.dropWhile_append_of_pos ?_
  intro glyph member
  obtain ⟨c, inBlanks, rfl⟩ := List.mem_map.mp member
  exact blank c inBlanks

theorem skipBlanks_cons {c : Char} (plain : isBlank (some c) = false) (rest : List Glyph) :
    skipBlanks (some c :: rest) = some c :: rest :=
  List.dropWhile_cons_of_neg (by simp [plain])

theorem Delimited.append {blanks : List Char} (blank : Blank blanks) {glyph : Glyph}
    (delimiter : delimits glyph = true) (rest : List Glyph) :
    Delimited (ofChars blanks ++ glyph :: rest) := by
  cases blanks with
  | nil => exact .cons delimiter rest
  | cons c more =>
      apply Delimited.cons
      have first := blank c List.mem_cons_self
      unfold delimits
      split
      · rfl
      · rfl
      · rfl
      · exact first

/-! ## Values -/

theorem readValue_blanks (fuel : Nat) {blanks : List Char} (blank : Blank blanks)
    (input : List Glyph) : readValue fuel (ofChars blanks ++ input) = readValue fuel input := by
  cases fuel with
  | zero => rw [readValue, readValue]
  | succ fuel => rw [readValue, readValue, skipBlanks_append blank]

theorem readItems_blanks (fuel : Nat) {blanks : List Char} (blank : Blank blanks)
    (input : List Glyph) : readItems fuel (ofChars blanks ++ input) = readItems fuel input := by
  cases fuel with
  | zero => rw [readItems, readItems]
  | succ fuel => rw [readItems, readItems, readValue_blanks fuel blank]

theorem readMembers_blanks (fuel : Nat) {blanks : List Char} (blank : Blank blanks)
    (input : List Glyph) : readMembers fuel (ofChars blanks ++ input) = readMembers fuel input := by
  cases fuel with
  | zero => rw [readMembers, readMembers]
  | succ fuel => rw [readMembers, readMembers, skipBlanks_append blank]

/-- A number starts with a digit or a minus sign. -/
theorem numeral_cases (value : Option Int) : ∃ c rest,
    numeral value = c :: rest ∧ (c.isDigit = true ∨ c = '-') := by
  cases value with
  | none => exact ⟨'-', ['0'], rfl, .inr rfl⟩
  | some value =>
      cases value with
      | ofNat n =>
          cases written : Decimal.numeral n with
          | nil => exact absurd written (Decimal.numeral_ne_nil n)
          | cons c others =>
              exact ⟨c, others, written,
                .inl (Decimal.isDigit_of_mem_numeral (written ▸ List.mem_cons_self))⟩
      | negSucc less => exact ⟨'-', Decimal.numeral (less + 1), rfl, .inr rfl⟩

theorem isBlank_cases {c : Char} (blank : isBlank (some c) = true) :
    c = ' ' ∨ c = '\t' ∨ c = '\n' ∨ c = '\r' := by
  unfold isBlank at blank
  split at blank <;> simp_all

theorem isBlank_of_start {c : Char} (start : c.isDigit = true ∨ c = '-') :
    isBlank (some c) = false ∧ c ≠ ']' := by
  refine ⟨Bool.eq_false_iff.mpr fun blank => ?_, ?_⟩
  · rcases isBlank_cases blank with rfl | rfl | rfl | rfl <;> simp at start
  · rintro rfl
    simp at start

/-- Every value starts with a character that is neither a blank nor a closing bracket. -/
theorem chars_cases (layout : Layout) (depth : Nat) (value : Json) : ∃ c rest,
    chars layout depth value = c :: rest ∧ isBlank (some c) = false ∧ c ≠ ']' := by
  cases value with
  | null => exact ⟨_, _, by rw [chars], rfl, by decide⟩
  | bool value =>
      cases value with
      | true => exact ⟨_, _, by rw [chars], rfl, by decide⟩
      | false => exact ⟨_, _, by rw [chars], rfl, by decide⟩
  | num value =>
      obtain ⟨c, rest, written, start⟩ := numeral_cases value
      exact ⟨c, rest, by rw [chars, written], isBlank_of_start start⟩
  | str content => exact ⟨_, _, by rw [chars, quoted_eq], rfl, by decide⟩
  | arr items =>
      cases items with
      | nil => exact ⟨_, _, by rw [chars], rfl, by decide⟩
      | cons first rest => exact ⟨_, _, by rw [chars], rfl, by decide⟩
  | obj members =>
      cases members with
      | nil => exact ⟨_, _, by rw [chars], rfl, by decide⟩
      | cons first rest => exact ⟨_, _, by rw [chars], rfl, by decide⟩

/-- What starts like a number is read as a number. -/
theorem readValue_number {fuel : Nat} {c : Char} {rest : List Glyph}
    (start : c.isDigit = true ∨ c = '-') :
    readValue (fuel + 1) (some c :: rest) =
      (readNumber (some c :: rest)).map fun found => (.num found.1, found.2) := by
  rw [readValue, skipBlanks_cons (isBlank_of_start start).1]
  split
  · simp_all
  · simp_all
  · simp_all
  · simp_all
  · simp_all
  · simp_all
  · rfl

theorem readValue_quote (fuel : Nat) (content : JsonText) (rest : List Glyph) :
    readValue (fuel + 1) (some '"' :: (ofChars (unopened content) ++ rest)) =
      some (.str content, rest) := by
  rw [readValue, skipBlanks_cons rfl]
  change (readString (ofChars (unopened content) ++ rest)).map _ = _
  rw [readString_unopened]
  rfl

/-- After an opening bracket come items, unless the list ends at once. -/
theorem readValue_bracket {fuel : Nat} {c : Char} {blanks : List Char} {rest : List Glyph}
    (blank : Blank blanks) (plain : isBlank (some c) = false) (open' : c ≠ ']') :
    readValue (fuel + 1) (some '[' :: (ofChars blanks ++ some c :: rest)) =
      (readItems fuel (some c :: rest)).map fun found => (.arr found.1, found.2) := by
  rw [readValue, skipBlanks_cons rfl]
  conv => lhs; whnf
  rw [skipBlanks_append blank, skipBlanks_cons plain, readItems_blanks fuel blank]
  split
  · simp_all
  · rfl

theorem readValue_brace {fuel : Nat} {blanks : List Char} {rest : List Glyph}
    (blank : Blank blanks) :
    readValue (fuel + 1) (some '{' :: (ofChars blanks ++ some '"' :: rest)) =
      (readMembers fuel (some '"' :: rest)).map fun found => (.obj found.1, found.2) := by
  rw [readValue, skipBlanks_cons rfl]
  conv => lhs; whnf
  rw [skipBlanks_append blank, skipBlanks_cons rfl, readMembers_blanks fuel blank]
  rfl

/-! ## Items and members -/

theorem readItems_last {fuel : Nat} {input rest : List Glyph} {item : Json} {blanks : List Char}
    (blank : Blank blanks)
    (read : readValue fuel input = some (item, ofChars blanks ++ some ']' :: rest)) :
    readItems (fuel + 1) input = some ([item], rest) := by
  rw [readItems, read]
  dsimp only
  rw [skipBlanks_append blank, skipBlanks_cons rfl]
  rfl

theorem readItems_next {fuel : Nat} {input rest : List Glyph} {item : Json}
    (read : readValue fuel input = some (item, some ',' :: rest)) :
    readItems (fuel + 1) input =
      (readItems fuel rest).map fun found => (item :: found.1, found.2) := by
  rw [readItems, read]
  dsimp only
  rw [skipBlanks_cons rfl]
  rfl

section

variable {fuel : Nat} {nameInput valueInput after rest : List Glyph} {name : JsonText}
  {value : Json} (readName : readString nameInput = some (name, some ':' :: valueInput))
  (read : readValue fuel valueInput = some (value, after))

include readName read

theorem readMembers_last (ends : skipBlanks after = some '}' :: rest) :
    readMembers (fuel + 1) (some '"' :: nameInput) = some ([(name, value)], rest) := by
  rw [readMembers, skipBlanks_cons rfl]
  conv => lhs; whnf
  rw [readName]
  conv => lhs; whnf
  rewrite [read]
  dsimp only
  rewrite [ends]
  rfl

theorem readMembers_next (goesOn : skipBlanks after = some ',' :: rest) :
    readMembers (fuel + 1) (some '"' :: nameInput) =
      (readMembers fuel rest).map fun found => ((name, value) :: found.1, found.2) := by
  rw [readMembers, skipBlanks_cons rfl]
  conv => lhs; whnf
  rw [readName]
  conv => lhs; whnf
  rewrite [read]
  dsimp only
  rewrite [goesOn]
  rfl

end

/-! ## The text of a value -/

section

variable (layout : Layout)

/-- With fuel for its text, the value is read from it, whatever comes next. -/
def IsRead (depth : Nat) (value : Json) : Prop :=
  ∀ (fuel : Nat) (rest : List Glyph), Delimited rest → (chars layout depth value).length < fuel →
    readValue fuel (ofChars (chars layout depth value) ++ rest) = some (value, rest)

def memberText (depth : Nat) (name : JsonText) (value : Json) : List Char :=
  quoted name ++ layout.colon ++ chars layout depth value

theorem memberText_eq (depth : Nat) (name : JsonText) (value : Json) :
    memberText layout depth name value =
      '"' :: (unopened name ++ (layout.colon ++ chars layout depth value)) := by
  simp only [memberText, quoted_eq, List.append_assoc, List.cons_append]

theorem memberChars_cons (depth : Nat) (name : JsonText) (value : Json)
    (more : List (JsonText × Json)) :
    memberChars layout depth ((name, value) :: more) =
      ',' :: (layout.line depth ++ (memberText layout depth name value ++
        memberChars layout depth more)) := by
  simp only [memberChars, memberText, List.append_assoc]

theorem chars_obj (depth : Nat) (name : JsonText) (value : Json)
    (more : List (JsonText × Json)) :
    chars layout depth (.obj ((name, value) :: more)) =
      '{' :: (layout.line (depth + 1) ++ (memberText layout (depth + 1) name value ++
        (memberChars layout (depth + 1) more ++ (layout.line depth ++ ['}'])))) := by
  simp only [chars, memberText, List.append_assoc]

theorem length_memberText (depth : Nat) (name : JsonText) (value : Json) :
    (chars layout depth value).length < (memberText layout depth name value).length := by
  simp only [memberText_eq, List.length_cons, List.length_append]
  omega

variable {layout} (spaces : layout.Spaces)

include spaces

/-- A name and its colon are read up to the value. -/
theorem exists_readString_memberText (depth : Nat) (name : JsonText) (value : Json)
    (tail : List Glyph) :
    ∃ nameInput valueInput, ofChars (memberText layout depth name value) ++ tail =
        some '"' :: nameInput ∧
      readString nameInput = some (name, some ':' :: valueInput) ∧
      ∀ fuel, readValue fuel valueInput =
        readValue fuel (ofChars (chars layout depth value) ++ tail) := by
  obtain ⟨after, colon, blank⟩ := spaces.colon
  simp only [memberText_eq, colon, ofChars_cons, ofChars_append, List.append_assoc,
    List.cons_append]
  exact ⟨_, _, rfl, readString_unopened name _, fun fuel => readValue_blanks fuel blank _⟩

mutual

theorem isRead : (value : Json) → (depth : Nat) → IsRead layout depth value
  | .null, depth, fuel + 1, rest, delimited, enough => by
      rw [chars]
      rfl
  | .bool true, depth, fuel + 1, rest, delimited, enough => by
      rw [chars]
      rfl
  | .bool false, depth, fuel + 1, rest, delimited, enough => by
      rw [chars]
      rfl
  | .num value, depth, fuel + 1, rest, delimited, enough => by
      obtain ⟨c, others, written, start⟩ := numeral_cases value
      have whole := readNumber_numeral value delimited
      rw [chars]
      rw [written, ofChars_cons, List.cons_append] at whole ⊢
      rw [readValue_number start, whole]
      rfl
  | .str content, depth, fuel + 1, rest, delimited, enough => by
      rw [chars, quoted_eq, ofChars_cons, List.cons_append, readValue_quote]
  | .arr [], depth, fuel + 1, rest, delimited, enough => by
      rw [chars]
      rfl
  | .arr (first :: more), depth, fuel + 1, rest, delimited, enough => by
      have items := readItems_chars more (depth + 1) (isRead first (depth + 1)) fuel rest
        (spaces.line depth)
      obtain ⟨c, others, written, plain, unclosed⟩ := chars_cases layout (depth + 1) first
      simp only [chars, written, ofChars_cons, ofChars_append, List.append_assoc, List.cons_append,
        List.length_cons, List.length_append] at enough items ⊢
      rw [readValue_bracket (spaces.line (depth + 1)) plain unclosed]
      exact congrArg (Option.map fun found => (Json.arr found.1, found.2)) (items (by omega))
  | .obj [], depth, fuel + 1, rest, delimited, enough => by
      rw [chars]
      rfl
  | .obj ((name, value) :: more), depth, fuel + 1, rest, delimited, enough => by
      have members := readMembers_chars more (depth + 1) name (isRead value (depth + 1)) fuel rest
        (spaces.line depth)
      simp only [chars_obj, memberText_eq, ofChars_cons, ofChars_append, List.append_assoc,
        List.cons_append, List.length_cons, List.length_append] at enough members ⊢
      rw [readValue_brace (spaces.line (depth + 1))]
      exact congrArg (Option.map fun found => (Json.obj found.1, found.2)) (members (by omega))

theorem readItems_chars : (more : List Json) → (depth : Nat) → ∀ {first : Json},
    IsRead layout depth first → ∀ (fuel : Nat) (rest : List Glyph) {blanks : List Char},
    Blank blanks →
    (chars layout depth first).length + (itemChars layout depth more).length + 1 < fuel →
    readItems fuel (ofChars (chars layout depth first) ++ (ofChars (itemChars layout depth more) ++
      (ofChars blanks ++ some ']' :: rest))) = some (first :: more, rest)
  | [], depth, first, read, fuel + 1, rest, blanks, blank, enough => by
      rw [itemChars]
      exact readItems_last blank (read fuel _ (.append blank rfl rest) (by omega))
  | item :: more, depth, first, read, fuel + 1, rest, blanks, blank, enough => by
      have others := readItems_chars more depth (isRead item depth) fuel rest blank
      simp only [itemChars, ofChars_cons, ofChars_append, List.append_assoc, List.cons_append,
        List.length_cons, List.length_append] at enough ⊢
      rw [readItems_next (read fuel _ (.cons rfl _) (by omega)),
        readItems_blanks fuel (spaces.line depth), others (by omega)]
      rfl

theorem readMembers_chars : (more : List (JsonText × Json)) → (depth : Nat) →
    ∀ (name : JsonText) {value : Json}, IsRead layout depth value →
    ∀ (fuel : Nat) (rest : List Glyph) {blanks : List Char}, Blank blanks →
    (memberText layout depth name value).length + (memberChars layout depth more).length < fuel →
    readMembers fuel (ofChars (memberText layout depth name value) ++
      (ofChars (memberChars layout depth more) ++ (ofChars blanks ++ some '}' :: rest))) =
        some ((name, value) :: more, rest)
  | [], depth, name, value, read, fuel + 1, rest, blanks, blank, enough => by
      have short := length_memberText layout depth name value
      obtain ⟨nameInput, valueInput, starts, readName, same⟩ :=
        exists_readString_memberText spaces depth name value (ofChars blanks ++ some '}' :: rest)
      have readHere := (same fuel).trans (read fuel _ (.append blank rfl rest) (by omega))
      rw [memberChars]
      change readMembers (fuel + 1) (_ ++ (ofChars blanks ++ some '}' :: rest)) = _
      rw [starts]
      exact readMembers_last readName readHere
        ((skipBlanks_append blank _).trans (skipBlanks_cons rfl _))
  | (next, item) :: more, depth, name, value, read, fuel + 1, rest, blanks, blank, enough => by
      have short := length_memberText layout depth name value
      have others := readMembers_chars more depth next (isRead item depth) fuel rest blank
      simp only [memberChars_cons, ofChars_cons, ofChars_append, List.append_assoc,
        List.cons_append, List.length_cons, List.length_append] at enough ⊢
      obtain ⟨nameInput, valueInput, starts, readName, same⟩ :=
        exists_readString_memberText spaces depth name value (some ',' ::
          (ofChars (layout.line depth) ++ (ofChars (memberText layout depth next item) ++
            (ofChars (memberChars layout depth more) ++ (ofChars blanks ++ some '}' :: rest)))))
      have readHere := (same fuel).trans (read fuel _ (.cons rfl _) (by omega))
      rw [starts, readMembers_next readName readHere (skipBlanks_cons rfl _),
        readMembers_blanks fuel (spaces.line depth), others (by omega)]
      rfl

end

/-- A whole text is read as the value that it was written for. -/
theorem ofBytes?_chars (value : Json) :
    ofBytes? (String.ofList (chars layout 0 value)).toUTF8 = some value := by
  have whole := isRead spaces value 0 (2 * (ofChars (chars layout 0 value)).length + 2) [] .nil
    (by simp only [ofChars, List.length_map]; omega)
  rw [List.append_nil] at whole
  rw [ofBytes?, Glyph.ofBytes_toUTF8, String.toList_ofList, ofGlyphs?, whole]
  rfl

end

/-- The indented text of a value is read as this value. -/
theorem ofBytes?_indented (value : Json) : ofBytes? value.indented.toUTF8 = some value :=
  ofBytes?_chars Layout.spaces_indented value

/-- So is the compact one. -/
theorem ofBytes?_compact (value : Json) : ofBytes? value.compact.toUTF8 = some value :=
  ofBytes?_chars Layout.spaces_compact value

end ShardControl.Json
