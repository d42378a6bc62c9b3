/-!
# Linearly ordered keys

Keys of a map are compared by one strict linear order.  A key type usually
gets its order from an injective rank into the natural numbers; strings are
compared character by character.
-/

namespace ShardControl

/-- A decidable strict linear order. -/
class KeyOrder (κ : Type) extends LT κ where
  decide_lt : DecidableRel (fun a b : κ => a < b)
  irrefl : ∀ a : κ, ¬ a < a
  trans : ∀ {a b c : κ}, a < b → b < c → a < c
  trichotomy : ∀ a b : κ, a < b ∨ a = b ∨ b < a

namespace KeyOrder

variable {κ : Type}

instance [KeyOrder κ] (a b : κ) : Decidable (a < b) := decide_lt a b

@[reducible]
def ofRank (rank : κ → Nat) (injective : ∀ {a b : κ}, rank a = rank b → a = b) :
    KeyOrder κ where
  lt a b := rank a < rank b
  decide_lt a b := inferInstanceAs (Decidable (rank a < rank b))
  irrefl a := Nat.lt_irrefl (rank a)
  trans := Nat.lt_trans
  trichotomy a b := by
    rcases Nat.lt_trichotomy (rank a) (rank b) with below | same | above
    · exact .inl below
    · exact .inr (.inl (injective same))
    · exact .inr (.inr above)

theorem asymm [KeyOrder κ] {a b : κ} (below : a < b) : ¬ b < a :=
  fun above => irrefl a (trans below above)

theorem ne_of_lt [KeyOrder κ] {a b : κ} (below : a < b) : a ≠ b := by
  intro same
  exact irrefl b (same ▸ below)

instance : KeyOrder UInt16 :=
  ofRank UInt16.toNat fun same => UInt16.toNat_inj.mp same

instance : KeyOrder String where
  lt a b := a < b
  decide_lt a b := inferInstanceAs (Decidable (a < b))
  irrefl a := String.lt_irrefl a
  trans := String.lt_trans
  trichotomy a b := by
    by_cases below : a < b
    · exact .inl below
    · by_cases above : b < a
      · exact .inr (.inr above)
      · exact .inr (.inl (String.le_antisymm above below))

end KeyOrder

end ShardControl
