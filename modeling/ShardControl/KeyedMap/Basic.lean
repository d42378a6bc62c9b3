import ShardControl.KeyOrder

/-!
# Maps of values that carry their key

A `KeyedMap` lists its values by strictly increasing key, so two maps with the
same contents are the same value and are written in the same order.  The key
of an entry is always the one its value carries.
-/

namespace ShardControl

/-- Values that carry the key they are stored under. -/
class Keyed (ν : Type) (κ : outParam Type) where
  key : ν → κ

export Keyed (key)

variable {ν κ : Type}

/-- A finite map from keys to the values that carry them. -/
structure KeyedMap (ν : Type) {κ : Type} [Keyed ν κ] [KeyOrder κ] where
  entries : List ν
  ordered : entries.Pairwise fun a b => key a < key b

namespace KeyedMap

variable [Keyed ν κ] [KeyOrder κ]

/-- Put a value at its place in an ordered list, over one with its key. -/
def place (value : ν) : List ν → List ν
  | [] => [value]
  | head :: tail =>
      if key value < key head then value :: head :: tail
      else if key head < key value then head :: place value tail
      else value :: tail

theorem mem_place {value other : ν} {values : List ν} (member : other ∈ place value values) :
    other = value ∨ other ∈ values := by
  induction values with
  | nil => simpa [place] using member
  | cons head tail ih =>
      simp only [place] at member
      split at member
      · simpa using member
      · split at member
        · rcases List.mem_cons.mp member with rfl | inTail
          · simp
          · rcases ih inTail with rfl | inTail
            · simp
            · simp [inTail]
        · rcases List.mem_cons.mp member with rfl | inTail
          · simp
          · simp [inTail]

theorem place_ordered {value : ν} {values : List ν}
    (ordered : values.Pairwise fun a b => key a < key b) :
    (place value values).Pairwise fun a b => key a < key b := by
  induction values with
  | nil => simp [place]
  | cons head tail ih =>
      obtain ⟨before, tailOrdered⟩ := List.pairwise_cons.mp ordered
      simp only [place]
      split
      · rename_i below
        refine List.pairwise_cons.mpr ⟨?_, ordered⟩
        intro other member
        rcases List.mem_cons.mp member with rfl | inTail
        · exact below
        · exact KeyOrder.trans below (before other inTail)
      · split
        · rename_i above
          refine List.pairwise_cons.mpr ⟨?_, ih tailOrdered⟩
          intro other member
          rcases mem_place member with rfl | inTail
          · exact above
          · exact before other inTail
        · rename_i notBelow notAbove
          have same : key value = key head := by
            rcases KeyOrder.trichotomy (key value) (key head) with below | same | above
            · exact absurd below notBelow
            · exact same
            · exact absurd above notAbove
          refine List.pairwise_cons.mpr ⟨?_, tailOrdered⟩
          intro other member
          exact same ▸ before other member

def empty : KeyedMap ν where
  entries := []
  ordered := List.Pairwise.nil

instance : Inhabited (KeyedMap ν) := ⟨empty⟩

instance : EmptyCollection (KeyedMap ν) := ⟨empty⟩

/-- Two maps are equal exactly when they list the same values. -/
instance [DecidableEq ν] : DecidableEq (KeyedMap ν) := fun first second =>
  match decEq first.entries second.entries with
  | isTrue same => isTrue (by cases first; cases second; cases same; rfl)
  | isFalse differ => isFalse fun same => differ (congrArg entries same)

/-- The values by increasing key. -/
def toList (map : KeyedMap ν) : List ν := map.entries

def keys (map : KeyedMap ν) : List κ := map.entries.map key

def size (map : KeyedMap ν) : Nat := map.entries.length

def insert (map : KeyedMap ν) (value : ν) : KeyedMap ν where
  entries := place value map.entries
  ordered := place_ordered map.ordered

variable [DecidableEq κ]

def find? (map : KeyedMap ν) (k : κ) : Option ν :=
  map.entries.find? fun value => key value = k

def contains (map : KeyedMap ν) (k : κ) : Bool := (map.find? k).isSome

def erase (map : KeyedMap ν) (k : κ) : KeyedMap ν where
  entries := map.entries.filter fun value => key value ≠ k
  ordered := map.ordered.filter _

omit [DecidableEq κ] in
/-- Store values one after the other; the last one of a key stays. -/
def insertAll (map : KeyedMap ν) (values : List ν) : KeyedMap ν :=
  values.foldl insert map

omit [DecidableEq κ] in
/-- The map of a list, where the last value of a key counts. -/
def ofList (values : List ν) : KeyedMap ν := insertAll empty values

end KeyedMap

end ShardControl
