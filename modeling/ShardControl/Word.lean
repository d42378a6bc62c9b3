import ShardControl.Text.Decimal

/-!
# Machine words

Sizes and counters are words of 64, 32 or 16 bits.  Products and differences
that would leave the range stop at its end.
-/

namespace ShardControl.Word

/-- The word next to a number: the number itself, or the largest word. -/
def saturate (n : Nat) : UInt64 := UInt64.ofNat (min n (UInt64.size - 1))

def mulSat (a b : UInt64) : UInt64 := saturate (a.toNat * b.toNat)

def subSat (a b : UInt64) : UInt64 := UInt64.ofNat (a.toNat - b.toNat)

def succSat (a : UInt32) : UInt32 := UInt32.ofNat (min (a.toNat + 1) (UInt32.size - 1))

def ofNat64? (n : Nat) : Option UInt64 :=
  if n < UInt64.size then some (UInt64.ofNat n) else none

def ofNat32? (n : Nat) : Option UInt32 :=
  if n < UInt32.size then some (UInt32.ofNat n) else none

def ofNat16? (n : Nat) : Option UInt16 :=
  if n < UInt16.size then some (UInt16.ofNat n) else none

/-- Read a word from decimal digits after one optional plus sign. -/
def read64? (text : String) : Option UInt64 :=
  (Decimal.readSigned? text.toList).bind ofNat64?

def text64 (a : UInt64) : String := Decimal.text a.toNat

def text32 (a : UInt32) : String := Decimal.text a.toNat

def text16 (a : UInt16) : String := Decimal.text a.toNat

theorem toNat_saturate (n : Nat) : (saturate n).toNat = min n (UInt64.size - 1) := by
  rw [saturate, UInt64.toNat_ofNat']
  exact Nat.mod_eq_of_lt (by simp only [UInt64.size]; omega)

theorem toNat_mulSat (a b : UInt64) :
    (mulSat a b).toNat = min (a.toNat * b.toNat) (UInt64.size - 1) :=
  toNat_saturate _

theorem toNat_subSat (a b : UInt64) : (subSat a b).toNat = a.toNat - b.toNat := by
  rw [subSat, UInt64.toNat_ofNat']
  exact Nat.mod_eq_of_lt (Nat.lt_of_le_of_lt (Nat.sub_le _ _) a.toNat_lt)

theorem toNat_succSat (a : UInt32) :
    (succSat a).toNat = min (a.toNat + 1) (UInt32.size - 1) := by
  rw [succSat, UInt32.toNat_ofNat']
  exact Nat.mod_eq_of_lt (by simp only [UInt32.size]; omega)

theorem ofNat64?_toNat (a : UInt64) : ofNat64? a.toNat = some a := by
  have small : a.toNat < UInt64.size := a.toNat_lt
  simp [ofNat64?, small]

theorem ofNat32?_toNat (a : UInt32) : ofNat32? a.toNat = some a := by
  have small : a.toNat < UInt32.size := a.toNat_lt
  simp [ofNat32?, small]

theorem ofNat16?_toNat (a : UInt16) : ofNat16? a.toNat = some a := by
  have small : a.toNat < UInt16.size := a.toNat_lt
  simp [ofNat16?, small]

/-! ## Pairs of words -/

/-- Two words fit into one of twice the size. -/
theorem pair_lt (high low : UInt32) :
    high.toNat * UInt32.size + low.toNat < UInt64.size := by
  have highSmall := high.toNat_lt
  have lowSmall := low.toNat_lt
  simp only [UInt32.size, UInt64.size]
  omega

/-- The number that two words make tells both of them. -/
theorem pair_inj {high low high' low' : UInt32}
    (same : high.toNat * UInt32.size + low.toNat = high'.toNat * UInt32.size + low'.toNat) :
    high = high' ∧ low = low' := by
  have lowSmall := low.toNat_lt
  have lowSmall' := low'.toNat_lt
  simp only [UInt32.size] at same
  have highs : high.toNat = high'.toNat := by omega
  have lows : low.toNat = low'.toNat := by omega
  exact ⟨UInt32.toNat_inj.mp highs, UInt32.toNat_inj.mp lows⟩

end ShardControl.Word
