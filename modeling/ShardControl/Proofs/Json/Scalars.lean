import ShardControl.Json.Printer
import ShardControl.Json.Reader
import ShardControl.Proofs.Text.Decimal

/-!
# Reading scalars back

A string is read back from its quoted text, every escape included, and a
number from its numeral, if what follows the numeral is no part of it.
-/

namespace ShardControl.Json

open Glyph (ofChars)

theorem ofChars_append (first second : List Char) :
    ofChars (first ++ second) = ofChars first ++ ofChars second :=
  List.map_append

theorem ofChars_cons (c : Char) (rest : List Char) : ofChars (c :: rest) = some c :: ofChars rest :=
  rfl

/-! ## Strings -/

theorem digitIn?_hexDigit : ∀ d, d < 16 → Decimal.digitIn? 16 (hexDigit d) = some d := by decide

theorem ofUnit_of_small {value : Nat} (small : value < 32) :
    Piece.ofUnit value = .char (Char.ofNat value) :=
  if_neg (by omega)

/-- A control character is read back from its four digits. -/
theorem hex4?_hexDigits {value : Nat} (small : value < 32) :
    hex4? (some '0') (some '0') (some (hexDigit (value / 16))) (some (hexDigit (value % 16))) =
      some value := by
  have zero : Decimal.digitIn? 16 '0' = some 0 := rfl
  have high := digitIn?_hexDigit (value / 16) (by omega)
  have low := digitIn?_hexDigit (value % 16) (by omega)
  simp only [hex4?, Decimal.readOnto, zero, high, low]
  congr 1
  omega

def Piece.before (piece : Piece) (found : List Piece × List Glyph) : List Piece × List Glyph :=
  (piece :: found.1, found.2)

theorem pieces_letter {letter c : Char} (other : letter ≠ 'u') (means : escaped? letter = some c)
    (rest : List Glyph) :
    pieces (some '\\' :: some letter :: rest) = (pieces rest).map (Piece.char c).before := by
  rw [pieces, means]
  · cases pieces rest <;> rfl
  · exact fun _ _ _ _ _ _ => other

theorem pieces_digits {value : Nat} (small : value < 32) (rest : List Glyph) :
    pieces (some '\\' :: some 'u' :: some '0' :: some '0' :: some (hexDigit (value / 16)) ::
      some (hexDigit (value % 16)) :: rest) =
        (pieces rest).map (Piece.char (Char.ofNat value)).before := by
  rw [pieces, hex4?_hexDigits small, ← ofUnit_of_small small]
  cases pieces rest <;> rfl

theorem pieces_plain {c : Char} (unquoted : c ≠ '"') (unescaped : c ≠ '\\')
    (printable : ¬ c.toNat < 32) (rest : List Glyph) :
    pieces (some c :: rest) = (pieces rest).map (Piece.char c).before := by
  rw [pieces, if_neg printable]
  · cases pieces rest <;> rfl
  · exact unquoted
  · exact fun _ _ _ _ _ _ => unescaped
  · exact fun _ _ _ => unescaped
  · exact unescaped

/-- What is written for a character is read as this character. -/
theorem pieces_escape (c : Char) (rest : List Glyph) :
    pieces (ofChars (escape c) ++ rest) = (pieces rest).map (Piece.char c).before := by
  rw [escape]
  -- The seven characters with a letter of their own come first.
  iterate 7
    split
    · rename_i same
      subst same
      exact pieces_letter (by decide) rfl rest
  split
  · rename_i control
    have read := pieces_digits control rest
    rwa [Char.ofNat_toNat] at read
  · exact pieces_plain ‹_› ‹_› ‹_› rest

theorem pieces_escaped (content : List Char) (rest : List Glyph) :
    pieces (ofChars (content.flatMap escape) ++ some '"' :: rest) =
      some (content.map .char, rest) := by
  induction content with
  | nil => rfl
  | cons c more ih =>
      rw [List.flatMap_cons, ofChars_append, List.append_assoc, pieces_escape, ih]
      rfl

theorem joined_chars (content : List Char) : joined (content.map .char) = some content := by
  induction content with
  | nil => rfl
  | cons c rest ih => rw [List.map_cons, joined, ih]; rfl

/-- The text of a string after its opening quote. -/
def unopened : JsonText → List Char
  | some content => content.toList.flatMap escape ++ ['"']
  | none => ['\\', 'u', 'd', '8', '0', '0', '"']

theorem quoted_eq (content : JsonText) : quoted content = '"' :: unopened content := by
  cases content <;> rfl

/-- A string is read back, be it Unicode text or not. -/
theorem readString_unopened (content : JsonText) (rest : List Glyph) :
    readString (ofChars (unopened content) ++ rest) = some (content, rest) := by
  cases content with
  | none => rfl
  | some content =>
      have parts : pieces (ofChars (unopened (some content)) ++ rest) =
          some (content.toList.map .char, rest) := by
        rw [unopened, ofChars_append, List.append_assoc]
        exact pieces_escaped content.toList rest
      rw [readString, parts]
      simp only [Option.map_some, joined_chars, String.ofList_toList]

/-! ## Numbers -/

/-- What may follow a value: a blank, a comma or a closing bracket. -/
def delimits : Glyph → Bool
  | some ',' => true
  | some ']' => true
  | some '}' => true
  | glyph => isBlank glyph

/-- Whatever stood before the rest of a text ends there. -/
def Delimited (rest : List Glyph) : Prop := ∀ glyph ∈ rest.head?, delimits glyph = true

theorem Delimited.nil : Delimited [] := by
  intro glyph first
  cases first

theorem Delimited.cons {glyph : Glyph} (delimiter : delimits glyph = true) (rest : List Glyph) :
    Delimited (glyph :: rest) := by
  intro first same
  cases same
  exact delimiter

theorem isDigit_of_delimits {glyph : Glyph} (delimiter : delimits glyph = true) :
    isDigit glyph = false := by
  unfold delimits isBlank at delimiter
  split at delimiter
  · rfl
  · rfl
  · rfl
  · split at delimiter
    · rfl
    · rfl
    · rfl
    · rfl
    · cases delimiter

theorem takeWhile_isDigit {rest : List Glyph} (delimited : Delimited rest) :
    rest.takeWhile isDigit = [] ∧ rest.dropWhile isDigit = rest := by
  cases rest with
  | nil => exact ⟨rfl, rfl⟩
  | cons glyph more =>
      have other := isDigit_of_delimits (delimited glyph rfl)
      exact ⟨List.takeWhile_cons_of_neg (by simp [other]),
        List.dropWhile_cons_of_neg (by simp [other])⟩

theorem digits_numeral (n : Nat) {rest : List Glyph} (delimited : Delimited rest) :
    digits (ofChars (Decimal.numeral n) ++ rest) = (ofChars (Decimal.numeral n), rest) := by
  have all : ∀ glyph ∈ ofChars (Decimal.numeral n), isDigit glyph = true := by
    intro glyph member
    obtain ⟨c, inNumeral, rfl⟩ := List.mem_map.mp member
    simp [isDigit, Decimal.digit?_of_isDigit (Decimal.isDigit_of_mem_numeral inNumeral)]
  obtain ⟨taken, dropped⟩ := takeWhile_isDigit delimited
  rw [digits, List.takeWhile_append_of_pos all, List.dropWhile_append_of_pos all, taken, dropped,
    List.append_nil]

theorem readWhole_numeral (n : Nat) {rest : List Glyph} (delimited : Delimited rest) :
    readWhole (ofChars (Decimal.numeral n) ++ rest) = some (ofChars (Decimal.numeral n), rest) := by
  rw [readWhole, digits_numeral n delimited]
  split
  · rename_i none
    exact absurd (List.map_eq_nil_iff.mp (congrArg Prod.fst none)) (Decimal.numeral_ne_nil n)
  · rename_i other more rest' same
    have zero : ofChars (Decimal.numeral n) = some '0' :: other :: more := congrArg Prod.fst same
    cases written : Decimal.numeral n with
    | nil => exact absurd written (Decimal.numeral_ne_nil n)
    | cons c others =>
        rw [written] at zero
        obtain ⟨first, next⟩ := List.cons.inj zero
        cases others with
        | nil => cases next
        | cons d others => exact absurd (Option.some.inj first) (Decimal.head_numeral written)
  · rfl

theorem readFraction_of_delimited {rest : List Glyph} (delimited : Delimited rest) :
    readFraction rest = some (false, rest) := by
  unfold readFraction
  split
  · cases delimited _ rfl
  · rfl

theorem readExponent_of_delimited {rest : List Glyph} (delimited : Delimited rest) :
    readExponent rest = some (false, rest) := by
  unfold readExponent
  split
  · cases delimited _ rfl
  · cases delimited _ rfl
  · rfl

theorem readUnsigned_numeral (n : Nat) {rest : List Glyph} (delimited : Delimited rest) :
    readUnsigned (ofChars (Decimal.numeral n) ++ rest) = some (some n, rest) := by
  have digitsOnly : (ofChars (Decimal.numeral n)).filterMap id = Decimal.numeral n := by
    simp [ofChars, List.filterMap_map]
  simp only [readUnsigned, readWhole_numeral n delimited, readFraction_of_delimited delimited,
    readExponent_of_delimited delimited, digitsOnly, Decimal.read?_numeral, bind, Option.bind,
    pure]
  rfl

/-- A numeral is read back, be it an integer or not. -/
theorem readNumber_numeral (value : Option Int) {rest : List Glyph} (delimited : Delimited rest) :
    readNumber (ofChars (numeral value) ++ rest) = some (value, rest) := by
  cases value with
  | none =>
      change (readUnsigned (ofChars (Decimal.numeral 0) ++ rest)).map _ = _
      rw [readUnsigned_numeral 0 delimited]
      rfl
  | some value =>
      cases value with
      | ofNat n =>
          have unsigned : readNumber (ofChars (Decimal.numeral n) ++ rest) =
              (readUnsigned (ofChars (Decimal.numeral n) ++ rest)).map
                fun found => (found.1.map Int.ofNat, found.2) := by
            cases written : Decimal.numeral n with
            | nil => exact absurd written (Decimal.numeral_ne_nil n)
            | cons c others =>
                have digit := Decimal.isDigit_of_mem_numeral (written ▸ List.mem_cons_self)
                change readNumber (some c :: (ofChars others ++ rest)) = _
                rw [readNumber]
                · rfl
                · intro _ same
                  cases same
                  cases digit
          change readNumber (ofChars (Decimal.numeral n) ++ rest) = _
          rw [unsigned, readUnsigned_numeral n delimited]
          rfl
      | negSucc less =>
          change (readUnsigned (ofChars (Decimal.numeral (less + 1)) ++ rest)).map _ = _
          rw [readUnsigned_numeral (less + 1) delimited]
          rfl

end ShardControl.Json
