/-!
# Decimal numerals

Whole numbers are written in decimal without leading zeros and read back
digit by digit.  Only the ten ASCII digits count as digits.
-/

namespace ShardControl.Decimal

def digit? (c : Char) : Option Nat :=
  if '0' ≤ c ∧ c ≤ '9' then some (c.toNat - '0'.toNat) else none

/-- The value of a digit in a base up to sixteen, letters of either case. -/
def digitIn? (base : Nat) (c : Char) : Option Nat :=
  let value :=
    if '0' ≤ c ∧ c ≤ '9' then c.toNat - '0'.toNat
    else if 'a' ≤ c ∧ c ≤ 'f' then c.toNat - 'a'.toNat + 10
    else if 'A' ≤ c ∧ c ≤ 'F' then c.toNat - 'A'.toNat + 10
    else base
  if value < base then some value else none

/-- Read digits onto a number that is already there. -/
def readOnto (base : Nat) : Nat → List Char → Option Nat
  | value, [] => some value
  | value, c :: rest =>
      match digitIn? base c with
      | none => none
      | some d => readOnto base (value * base + d) rest

def read? (base : Nat) : List Char → Option Nat
  | [] => none
  | digits => readOnto base 0 digits

/-- Read digits after one optional plus sign. -/
def readSigned? : List Char → Option Nat
  | '+' :: digits => read? 10 digits
  | digits => read? 10 digits

def numeral (n : Nat) : List Char := Nat.toDigits 10 n

def text (n : Nat) : String := String.ofList (numeral n)

end ShardControl.Decimal
