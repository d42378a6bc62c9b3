import ShardControl.Text.Decimal

/-!
# Reading numerals back

A numeral is made of digits without a zero in front, so that it is read back as
the number it was written for.
-/

namespace ShardControl.Decimal

theorem isDigit_of_mem_numeral {n : Nat} {c : Char} (member : c ∈ numeral n) :
    c.isDigit = true :=
  Nat.isDigit_of_mem_toDigits (by decide) (by decide) member

theorem numeral_ne_nil (n : Nat) : numeral n ≠ [] := Nat.toDigits_ne_nil

theorem isDigit_iff {c : Char} : c.isDigit = true ↔ '0' ≤ c ∧ c ≤ '9' := by
  simp only [Char.isDigit, Bool.and_eq_true, decide_eq_true_eq]
  exact Iff.rfl

theorem digit?_of_isDigit {c : Char} (digit : c.isDigit = true) :
    digit? c = some (c.toNat - '0'.toNat) :=
  if_pos (isDigit_iff.mp digit)

theorem toNat_sub_lt {c : Char} (digit : c.isDigit = true) : c.toNat - '0'.toNat < 10 := by
  have above : c.toNat ≤ '9'.toNat := (isDigit_iff.mp digit).2
  have zero : '0'.toNat = 48 := rfl
  have nine : '9'.toNat = 57 := rfl
  omega

theorem digitIn?_of_isDigit {c : Char} (digit : c.isDigit = true) :
    digitIn? 10 c = some (c.toNat - '0'.toNat) := by
  simp only [digitIn?, if_pos (isDigit_iff.mp digit), if_pos (toNat_sub_lt digit)]

theorem readOnto_of_digits {digits : List Char} (all : ∀ c ∈ digits, c.isDigit = true)
    (value : Nat) : readOnto 10 value digits = some (Nat.ofDigitChars 10 digits value) := by
  induction digits generalizing value with
  | nil => rw [readOnto, Nat.ofDigitChars_nil]
  | cons c rest ih =>
      obtain ⟨digit, others⟩ := List.forall_mem_cons.mp all
      rw [readOnto, digitIn?_of_isDigit digit, Nat.ofDigitChars_cons, Nat.mul_comm 10 value]
      exact ih others _

/-- A numeral is read back as its number. -/
theorem read?_numeral (n : Nat) : read? 10 (numeral n) = some n := by
  have whole : readOnto 10 0 (numeral n) = some n := by
    rw [readOnto_of_digits fun c => isDigit_of_mem_numeral]
    exact congrArg some Nat.ofDigitChars_ten_toDigits
  cases written : numeral n with
  | nil => exact absurd written (numeral_ne_nil n)
  | cons c rest => rwa [written] at whole

theorem digitChar_ne_zero : ∀ d, d < 10 → 0 < d → d.digitChar ≠ '0' := by decide

/-- No numeral has a zero in front of other digits. -/
theorem head_numeral {n : Nat} {c d : Char} {rest : List Char}
    (written : numeral n = c :: d :: rest) : c ≠ '0' := by
  induction n using Nat.strongRecOn generalizing c d rest with
  | ind n ih =>
      rw [numeral, Nat.toDigits_eq_if (by decide)] at written
      split at written
      · cases written
      · rename_i large
        cases front : Nat.toDigits 10 (n / 10) with
        | nil => exact absurd front Nat.toDigits_ne_nil
        | cons first others =>
            rw [front] at written
            obtain rfl : first = c := (List.cons.inj written).1
            cases others with
            | cons second more => exact ih (n / 10) (by omega) front
            | nil =>
                -- One digit is left in front, that of a number between one and nine.
                have small : n / 10 < 10 := by
                  have short : (Nat.toDigits 10 (n / 10)).length ≤ 1 := by simp [front]
                  exact (Nat.length_toDigits_le_iff (by decide) (by decide)).mp short
                rw [Nat.toDigits_of_lt_base small] at front
                obtain rfl := (List.cons.inj front).1
                exact digitChar_ne_zero (n / 10) small (by omega)

end ShardControl.Decimal
