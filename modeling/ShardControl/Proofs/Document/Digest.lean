import ShardControl.Proofs.Document.RoundTrip

/-!
# Digests

The text that is hashed for a digest can be read back, so it belongs to one
topology and to one set of parameters.  A document whose content was replaced
is therefore refused, unless two different texts have the same hash.
-/

namespace ShardControl

/-! ## Hashes in hexadecimal -/

namespace Sha256

theorem digitChar_injective :
    ∀ first < 16, ∀ second < 16, first.digitChar = second.digitChar → first = second := by
  decide

/-- The digit of a word that stands above a number of bits. -/
theorem toNat_shiftRight_and (word : UInt32) {shift : Nat} (small : shift < 32) :
    ((word >>> UInt32.ofNat shift) &&& 15).toNat = (word.toNat >>> shift) % 16 := by
  have amount : (UInt32.ofNat shift).toNat % 32 = shift := by
    rw [UInt32.toNat_ofNat']
    omega
  rw [UInt32.toNat_and, UInt32.toNat_shiftRight, amount]
  exact Nat.and_two_pow_sub_one_eq_mod _ 4

/-- Words that are written alike have the same digit above any number of bits. -/
theorem digit_eq_of_digitChar_eq {first second : UInt32} {shift : Nat} (small : shift < 32)
    (same : ((first >>> UInt32.ofNat shift) &&& 15).toNat.digitChar =
      ((second >>> UInt32.ofNat shift) &&& 15).toNat.digitChar) :
    (first.toNat >>> shift) % 16 = (second.toNat >>> shift) % 16 := by
  rw [toNat_shiftRight_and first small, toNat_shiftRight_and second small] at same
  exact digitChar_injective _ (Nat.mod_lt _ (by decide)) _ (Nat.mod_lt _ (by decide)) same

/-- A number is known above some bits from what is above four more, and the digit between. -/
theorem shiftRight_eq_of_digit_eq {first second shift : Nat}
    (above : first >>> (shift + 4) = second >>> (shift + 4))
    (digit : (first >>> shift) % 16 = (second >>> shift) % 16) :
    first >>> shift = second >>> shift := by
  have higher (num : Nat) : num >>> (shift + 4) = num >>> shift / 16 :=
    (Nat.shiftRight_add num shift 4).trans (Nat.shiftRight_eq_div_pow _ 4)
  rw [higher, higher] at above
  omega

theorem hexWord_injective : Function.Injective hexWord := by
  intro first second same
  have listed : ∀ digits < 8, UInt32.ofNat (28 - 4 * digits) ∈
      ([28, 24, 20, 16, 12, 8, 4, 0] : List UInt32) := by decide
  -- From the highest digit on, the words agree in what has been read of them.
  have read : ∀ digits ≤ 8,
      first.toNat >>> (32 - 4 * digits) = second.toNat >>> (32 - 4 * digits) := by
    intro digits
    induction digits with
    | zero =>
        intro _
        rw [Nat.shiftRight_eq_zero _ _ first.toNat_lt, Nat.shiftRight_eq_zero _ _ second.toNat_lt]
    | succ digits ih =>
        intro enough
        have written := List.map_inj_left.mp same _ (listed digits (by omega))
        have digit := digit_eq_of_digitChar_eq (by omega) written
        have above := ih (by omega)
        rw [show 32 - 4 * digits = 28 - 4 * digits + 4 by omega] at above
        rw [show 32 - 4 * (digits + 1) = 28 - 4 * digits by omega]
        exact shiftRight_eq_of_digit_eq above digit
  apply UInt32.toNat_inj.mp
  simpa using read 8 (by decide)

/-- Words that are written one after the other alike are the same words. -/
theorem flatMap_hexWord_injective {first second : List UInt32}
    (lengths : first.length = second.length)
    (same : first.flatMap hexWord = second.flatMap hexWord) : first = second := by
  induction first generalizing second with
  | nil => exact (List.length_eq_zero_iff.mp lengths.symm).symm
  | cons word rest ih =>
      cases second with
      | nil => cases lengths
      | cons other others =>
          rw [List.flatMap_cons, List.flatMap_cons] at same
          obtain ⟨words, rests⟩ := List.append_inj same rfl
          rw [hexWord_injective words, ih (Nat.succ.inj lengths) rests]

def State.words (state : State) : List UInt32 :=
  [state.a, state.b, state.c, state.d, state.e, state.f, state.g, state.h]

theorem State.words_injective : Function.Injective State.words := by
  rintro ⟨⟩ ⟨⟩ same
  simpa [State.words] using same

/-- Byte strings whose hashes are written alike have the same hash. -/
theorem hash_eq_of_hex_eq {first second : ByteArray} (same : hex first = hex second) :
    hash first.toList = hash second.toList := by
  change String.ofList ((hash first.toList).words.flatMap hexWord) =
    String.ofList ((hash second.toList).words.flatMap hexWord) at same
  exact State.words_injective (flatMap_hexWord_injective rfl (String.ofList_injective same))

/-- Two byte strings are no collision: if they differ, their hashes differ. -/
def Separates (first second : ByteArray) : Prop :=
  hash first.toList = hash second.toList → first = second

end Sha256

/-! ## Texts that are hashed -/

namespace Document

open Json

/-- The text that is hashed belongs to one topology and to one set of parameters. -/
theorem payload_inj {topology other : Topology} {parameters others : Parameters}
    (same : (payload topology parameters).toUTF8 = (payload other others).toUTF8) :
    topology = other ∧ parameters = others := by
  have read := congrArg Json.ofBytes? same
  rw [payload, payload, ofBytes?_compact, ofBytes?_compact] at read
  simp only [record, Option.some.injEq, Json.obj.injEq, List.map_cons, List.cons.injEq,
    Prod.mk.injEq] at read
  obtain ⟨⟨_, topologies⟩, ⟨_, sets⟩, _⟩ := read
  exact ⟨toJson_injective topologies, toJson_injective sets⟩

/-- The document with other content under the header that it has. -/
def replacing (document : Document) (topology : Topology) (parameters : Parameters) : Document :=
  { document with topology := topology, parameters := parameters }

/-- A digest is that of other content only if the hash of both texts is the same. -/
theorem verify_replacing {topology other : Topology} {parameters others : Parameters}
    (sequence : other.sequence = topology.sequence)
    (apart : Sha256.hash (payload topology parameters).toUTF8.toList ≠
      Sha256.hash (payload other others).toUTF8.toList) :
    ((make topology parameters).replacing other others).verify =
      .error (.digestMismatch (digestOf topology parameters) (digestOf other others)) := by
  have differ : digestOf other others ≠ digestOf topology parameters :=
    fun same => apart (Sha256.hash_eq_of_hex_eq same).symm
  have agree : ((make topology parameters).replacing other others).sequence =
      ((make topology parameters).replacing other others).topology.sequence := sequence.symm
  rw [verify, if_neg (not_not_intro agree)]
  exact if_pos differ

/-- The text that is hashed tells any two contents apart, and so does the check of a document
whose header was made for the one and whose content is the other, unless their hashes collide. -/
theorem digest_pins_payload (topology other : Topology) (parameters others : Parameters) :
    ((payload topology parameters).toUTF8 = (payload other others).toUTF8 →
      topology = other ∧ parameters = others) ∧
    (other.sequence = topology.sequence → (other ≠ topology ∨ others ≠ parameters) →
      Sha256.Separates (payload topology parameters).toUTF8 (payload other others).toUTF8 →
      ((make topology parameters).replacing other others).verify =
        .error (.digestMismatch (digestOf topology parameters) (digestOf other others))) := by
  refine ⟨payload_inj, fun sequence replaced separates => verify_replacing sequence ?_⟩
  intro collide
  obtain ⟨rfl, rfl⟩ := payload_inj (separates collide)
  exact replaced.elim (absurd rfl) (absurd rfl)

set_option maxRecDepth 100000 in
/-- A document whose store was renamed afterwards is refused. -/
theorem verify_renamed :
    ((make (.named "east") (.ofPolicies .standard)).replacing
        (.named "west") (.ofPolicies .standard)).verify =
      .error (.digestMismatch (digestOf (.named "east") (.ofPolicies .standard))
        (digestOf (.named "west") (.ofPolicies .standard))) :=
  (digest_pins_payload (.named "east") (.named "west") (.ofPolicies .standard)
      (.ofPolicies .standard)).2 rfl (.inl (by decide)) fun same =>
    absurd same (by decide +kernel)

end Document

end ShardControl
