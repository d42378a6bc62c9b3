/-!
# Rings

A ring has a fixed number of places, which are filled one after the other.
Once all of them are taken, the head stands at the oldest item, and each new
item takes its place.  The view `toList` lists the items, the oldest first.
-/

namespace ShardControl

structure Ring (α : Type) (capacity : Nat) where
  slots : Array α
  /-- The place of the oldest item. -/
  head : Nat
  size_le : slots.size ≤ capacity
  head_lt : head < capacity
  /-- The head stays at the first place until all places are taken. -/
  waits : slots.size < capacity → head = 0

namespace Ring

variable {α : Type} {capacity : Nat}

def empty (positive : 0 < capacity) : Ring α capacity where
  slots := #[]
  head := 0
  size_le := Nat.zero_le capacity
  head_lt := positive
  waits _ := rfl

def size (ring : Ring α capacity) : Nat := ring.slots.size

/-- The items, the oldest first. -/
def toList (ring : Ring α capacity) : List α :=
  ring.slots.toList.drop ring.head ++ ring.slots.toList.take ring.head

theorem head_lt_size {ring : Ring α capacity} (full : ¬ ring.slots.size < capacity) :
    ring.head < ring.slots.size :=
  Nat.lt_of_lt_of_le ring.head_lt (Nat.not_lt.mp full)

/-- Put the newest item, over the oldest one if all places are taken, and hand that one out. -/
def push (ring : Ring α capacity) (item : α) : Option α × Ring α capacity :=
  if room : ring.slots.size < capacity then
    (none,
     { ring with
       slots := ring.slots.push item
       size_le := by rw [Array.size_push]; exact room
       waits := fun _ => ring.waits room })
  else
    have inside := head_lt_size room
    (some ring.slots[ring.head],
     { slots := ring.slots.set ring.head item
       head := (ring.head + 1) % capacity
       size_le := by rw [Array.size_set]; exact ring.size_le
       head_lt := Nat.mod_lt _ (Nat.zero_lt_of_lt ring.head_lt)
       waits := fun short => absurd (by rwa [Array.size_set] at short) room })

@[simp] theorem toList_empty (positive : 0 < capacity) :
    (empty positive : Ring α capacity).toList = [] := rfl

theorem size_eq_length (ring : Ring α capacity) : ring.size = ring.toList.length := by
  rw [toList, List.length_append, List.length_drop, List.length_take, Array.length_toList, size]
  have inside := ring.waits
  have bound := ring.head_lt
  have fits := ring.size_le
  omega

/-- While there is a place left, nothing is handed out. -/
theorem push_of_lt {ring : Ring α capacity} (room : ring.size < capacity) (item : α) :
    (ring.push item).1 = none ∧ (ring.push item).2.toList = ring.toList ++ [item] := by
  have start : ring.head = 0 := ring.waits room
  have taken : ring.slots.size < capacity := room
  simp [push, taken, toList, start]

/-- A full ring hands the oldest item out, wherever its head stands. -/
theorem push_of_full {ring : Ring α capacity} (full : ring.size = capacity) (item : α) :
    ∃ oldest rest, ring.toList = oldest :: rest ∧ (ring.push item).1 = some oldest ∧
      (ring.push item).2.toList = rest ++ [item] := by
  have taken : ¬ ring.slots.size < capacity := Nat.not_lt.mpr (Nat.le_of_eq full.symm)
  have inside : ring.head < ring.slots.toList.length := head_lt_size taken
  have split : ∃ front back, ring.slots.toList = front ++ ring.slots.toList[ring.head] :: back ∧
      front.length = ring.head ∧ ring.slots.toList.set ring.head item = front ++ item :: back :=
    List.exists_of_set inside
  obtain ⟨front, back, items, place, replaced⟩ := split
  have count : ring.slots.size = front.length + (back.length + 1) := by
    rw [← Array.length_toList, items, List.length_append, List.length_cons]
  have oldest : (ring.push item).1 = some ring.slots.toList[ring.head] := by
    simp [push, taken]
  generalize ring.slots.toList[ring.head] = first at items oldest
  refine ⟨first, back ++ front, ?_, oldest, ?_⟩
  · rw [toList, items, List.drop_left' place, List.take_left' place, List.cons_append]
  · simp only [push, taken, dite_false, toList, Array.toList_set, replaced]
    have bound := ring.head_lt
    rcases Nat.lt_or_eq_of_le bound with before | last
    · -- The head goes on to the next place.
      have cut : (front ++ [item]).length = ring.head + 1 := by
        rw [List.length_append, place]
        rfl
      rw [Nat.mod_eq_of_lt before, List.append_cons, List.drop_left' cut, List.take_left' cut,
        List.append_assoc]
    · -- The head was at the last place and comes back to the first one.
      have none : back = [] := by
        apply List.eq_nil_of_length_eq_zero
        rw [size] at full
        omega
      rw [show ring.head + 1 = capacity from last, Nat.mod_self, none]
      simp

end Ring

end ShardControl
