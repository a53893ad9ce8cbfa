import Knowbee.Authorization.Verifier

/-!
# What `decode_hex_proof` reads

The text is cut every two bytes, also inside a character, and a pair is parsed
by `u8::from_str_radix`, which takes a plus sign.  So a text of the right length
is read for what it is exactly if it has digits only or a pair that is no number
comes before any character that is cut (`decodeHexProof_exact_iff`).
-/

namespace Knowbee

open List

/-- Pairs of hexadecimal digits, and the bytes they denote. -/
inductive Denotes : List UInt8 → List UInt8 → Prop where
  | nil : Denotes [] []
  | pair {high low upper lower : UInt8} {text bytes : List UInt8} :
      hexDigitValue high = some upper → hexDigitValue low = some lower → Denotes text bytes →
      Denotes (high :: low :: text) ((upper * 16 + lower) :: bytes)

/-- A text is decoded exactly if it is 64 digits, to the bytes they denote. -/
def DecodesExactly (value : String) : Prop :=
  decodeHexProof value ≠ .panics ∧ ∀ bytes, decodeHexProof value = .decoded bytes ↔
    value.utf8ByteSize = 64 ∧ Denotes value.toUTF8.data.toList bytes

/-- Of the pairs of bytes one is no number, and no character is cut up to its end. -/
inductive Refused : List UInt8 → Prop where
  | here {high low : UInt8} {rest : List UInt8} : continues rest = false →
      fromHexPair high low = none → Refused (high :: low :: rest)
  | later {high low byte : UInt8} {rest : List UInt8} : continues rest = false →
      fromHexPair high low = some byte → Refused rest → Refused (high :: low :: rest)

variable {text bytes : List UInt8}

lemma fromHexPair_digits {high low upper lower : UInt8} (first : hexDigitValue high = some upper)
    (second : hexDigitValue low = some lower) :
    fromHexPair high low = some (upper * 16 + lower) := by
  have unsigned : high ≠ 43 := by
    rintro rfl
    cases first
  rw [fromHexPair, if_neg unsigned, first, second]
  rfl

lemma Denotes.continues_eq (denotes : Denotes text bytes) : continues text = false := by
  have small byte (digit : (hexDigitValue byte).isSome) :
      continues [byte] = false := by
    have all : ∀ n < 256, (hexDigitValue (.ofNat n)).isSome → continues [.ofNat n] = false := by
      decide +kernel
    have here := all byte.toNat byte.toNat_lt
    rw [UInt8.ofNat_toNat] at here
    exact here digit
  cases denotes with
  | nil => rfl
  | pair first => exact small _ (by rw [first]; rfl)

attribute [local simp] decodeHexPairs

lemma Denotes.decoded (denotes : Denotes text bytes) : decodeHexPairs text = .decoded bytes := by
  induction denotes with
  | nil => rfl
  | pair first second rest ih =>
    rw [decodeHexPairs, rest.continues_eq, if_neg Bool.false_ne_true,
      fromHexPair_digits first second, ih]

lemma Denotes.isSome (denotes : Denotes text bytes) :
    ∀ byte ∈ text, (hexDigitValue byte).isSome := by
  induction denotes with
  | nil => exact nofun
  | pair first second rest ih =>
    simp only [forall_mem_cons, first, second]
    exact ⟨rfl, rfl, ih⟩

lemma decodeHexPairs_eq_invalid : decodeHexPairs text = .invalid ↔ Refused text := by
  constructor
  · intro invalid
    induction text using decodeHexPairs.induct with
    | case1 high low rest cut =>
      rw [decodeHexPairs, if_pos cut] at invalid
      cases invalid
    | case2 high low rest whole none => exact .here (Bool.eq_false_iff.mpr whole) none
    | case3 high low rest whole byte read bytes decoded ih =>
      rw [decodeHexPairs, if_neg whole, read, decoded] at invalid
      cases invalid
    | case4 high low rest whole byte read undecoded ih =>
      rw [decodeHexPairs, if_neg whole, read] at invalid
      refine .later (Bool.eq_false_iff.mpr whole) read (ih ?_)
      cases outcome : decodeHexPairs rest with
      | decoded bytes => exact absurd outcome (undecoded bytes)
      | invalid => rfl
      | panics =>
        rw [outcome] at invalid
        cases invalid
    | case5 text short =>
      rw [decodeHexPairs] at invalid
      · cases invalid
      · exact short
  · intro refused
    induction refused with
    | here whole none => rw [decodeHexPairs, whole, if_neg Bool.false_ne_true, none]
    | later whole read rest ih =>
      rw [decodeHexPairs, whole, if_neg Bool.false_ne_true, read, ih]

lemma exists_denotes : ∀ {text : List UInt8}, 2 ∣ text.length →
    (∀ byte ∈ text, (hexDigitValue byte).isSome) → ∃ bytes, Denotes text bytes
  | [], _, _ => ⟨[], .nil⟩
  | [_], odd, _ => absurd odd (show ¬2 ∣ 1 by decide)
  | high :: low :: rest, even, digits => by
    simp only [forall_mem_cons] at digits
    obtain ⟨first, second, others⟩ := digits
    obtain ⟨upper, first⟩ := Option.isSome_iff_exists.mp first
    obtain ⟨lower, second⟩ := Option.isSome_iff_exists.mp second
    obtain ⟨bytes, denotes⟩ := exists_denotes ((Nat.dvd_add_left (Nat.dvd_refl 2)).mp even) others
    exact ⟨_, .pair first second denotes⟩

/-- A text is decoded for what it is exactly if it does not have 64 bytes, has digits
only, or has a pair that is refused before a character is cut. -/
theorem decodeHexProof_exact_iff (value : String) : DecodesExactly value ↔
    value.utf8ByteSize ≠ 64 ∨ (∀ byte ∈ value.toUTF8.data.toList, (hexDigitValue byte).isSome) ∨
      Refused value.toUTF8.data.toList := by
  have length : value.toUTF8.data.toList.length = value.utf8ByteSize := rfl
  unfold DecodesExactly decodeHexProof
  generalize value.toUTF8.data.toList = text at length
  by_cases sized : value.utf8ByteSize = 64
  · simp only [sized, ne_eq, not_true_eq_false, if_false, true_and, false_or]
    constructor
    · rintro ⟨whole, exact⟩
      cases outcome : decodeHexPairs text with
      | decoded bytes => exact .inl ((exact bytes).mp outcome).isSome
      | invalid => exact .inr (decodeHexPairs_eq_invalid.mp outcome)
      | panics => exact absurd outcome whole
    · rintro (digits | refused)
      · obtain ⟨bytes, denotes⟩ := exists_denotes (by rw [length, sized]; decide) digits
        rw [denotes.decoded]
        refine ⟨nofun, fun other => ⟨?_, fun same => denotes.decoded.symm.trans same.decoded⟩⟩
        rintro ⟨⟩
        exact denotes
      · rw [decodeHexPairs_eq_invalid.mpr refused]
        refine ⟨nofun, fun bytes => ⟨nofun, fun denotes => ?_⟩⟩
        cases (decodeHexPairs_eq_invalid.mpr refused).symm.trans denotes.decoded
  · simp only [sized, ne_eq, not_false_eq_true, if_true, false_and, true_or, iff_true]
    exact ⟨nofun, fun bytes => iff_of_false nofun id⟩

/-- Signed pairs are decoded, and a character of two bytes in two pairs panics. -/
theorem signed_proof_decoded :
    ¬DecodesExactly (String.ofList (replicate 32 ['+', 'f']).flatten) ∧
      ¬DecodesExactly (String.ofList ('0' :: 'é' :: replicate 61 '0')) := by
  constructor
  · intro exact
    obtain ⟨-, denotes⟩ := (exact.2 (replicate 32 15)).mp (by rfl)
    exact absurd (denotes.isSome 43 (by decide)) (by decide)
  · exact fun exact => exact.1 (by rfl)

end Knowbee
