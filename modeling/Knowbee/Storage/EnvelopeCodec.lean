import Knowbee.Storage.LocalRuns

/-!
# Envelopes that are read and written again

The digest of an envelope is that of its entries as they are spelled.  Both cases
of a digit are read and only the lower one is written, so an envelope keeps its
digest when it is written again if it is spelled as it was written
(`envelope_round_trip`).
-/

namespace Knowbee

open List

namespace AtomicLocalStorage

def LowerCase (value : String) : Prop :=
  ∀ digit ∈ value.toList, ¬(65 ≤ digit.toNat ∧ digit.toNat ≤ 70)

lemma hexDigit_hexValue {digit : Char} (hexadecimal : isAsciiHexdigit digit = true)
    (small : ¬(65 ≤ digit.toNat ∧ digit.toNat ≤ 70)) :
    hexValue digit < 16 ∧ hexDigit (hexValue digit) = digit := by
  have all : ∀ n < 103, isAsciiHexdigit (.ofNat n) = true → ¬(65 ≤ n ∧ n ≤ 70) →
      hexValue (.ofNat n) < 16 ∧ hexDigit (hexValue (.ofNat n)) = .ofNat n := by
    decide +kernel
  have below : digit.toNat < 103 := by
    simp only [isAsciiHexdigit, Bool.or_eq_true, Bool.and_eq_true, decide_eq_true_eq] at hexadecimal
    omega
  have here := all digit.toNat below
  rw [Char.ofNat_toNat] at here
  exact here hexadecimal small

lemma encodeHex_decodeHex {value : String} {bytes : Entry} (lower : LowerCase value)
    (decoded : decodeHex value = some bytes) : encodeHex bytes = value := by
  have pairs : ∀ {text : List Char} {bytes : Entry},
      (∀ digit ∈ text, ¬(65 ≤ digit.toNat ∧ digit.toNat ≤ 70)) →
      decodeHexPairs text = some bytes → bytes.flatMap (fun byte =>
        [hexDigit (byte.toNat / 16), hexDigit (byte.toNat % 16)]) = text := by
    intro text
    induction text using decodeHexPairs.induct with
    | case1 =>
      rintro bytes - ⟨⟩
      rfl
    | case2 => exact nofun
    | case3 high low rest digits ih =>
      intro bytes lower decoded
      rw [decodeHexPairs, if_pos digits] at decoded
      obtain ⟨others, read, rfl⟩ := Option.map_eq_some_iff.mp decoded
      simp only [forall_mem_cons] at lower
      obtain ⟨first, second⟩ := Bool.and_eq_true_iff.mp digits
      obtain ⟨high_small, high_back⟩ := hexDigit_hexValue first lower.1
      obtain ⟨low_small, low_back⟩ := hexDigit_hexValue second lower.2.1
      have word : (UInt8.ofNat (hexValue high * 16 + hexValue low)).toNat =
          hexValue high * 16 + hexValue low :=
        UInt8.toNat_ofNat_of_lt' (show _ < 256 by omega)
      have quotient : (hexValue high * 16 + hexValue low) / 16 = hexValue high := by omega
      have remainder : (hexValue high * 16 + hexValue low) % 16 = hexValue low := by omega
      rw [flatMap_cons, word, quotient, remainder, high_back, low_back, ih lower.2.2 read]
      rfl
    | case4 high low rest digits =>
      intro bytes lower decoded
      rw [decodeHexPairs, if_neg digits] at decoded
      cases decoded
  rw [encodeHex, pairs lower decoded, String.ofList_toList]

lemma map_encodeHex {values : List String} {entries : List Entry}
    (lower : ∀ value ∈ values, LowerCase value) (decoded : values.mapM decodeHex = some entries) :
    entries.map encodeHex = values := by
  induction values generalizing entries with
  | nil =>
    cases decoded
    rfl
  | cons value rest ih =>
    simp only [mapM_cons, Option.bind_eq_bind, Option.bind_eq_some_iff, Option.pure_def] at decoded
    obtain ⟨entry, first, others, read, same⟩ := decoded
    cases same
    rw [map_cons, encodeHex_decodeHex (lower value mem_cons_self) first,
      ih (fun value member => lower value (mem_cons_of_mem _ member)) read]

section Codec

variable {Raw : Type} {codec : EnvelopeCodec Raw} {sha256 : Sha256} {maxFileBytes revision : Nat}
  {entries : List Entry} {bytes encoded : Raw}

lemma encodeEnvelope_eq_ok
    (written : encodeEnvelope codec sha256 revision entries = .ok encoded) :
    codec.print ⟨localStorageSchemaVersion, revision, entries.map encodeHex,
      envelopeDigest sha256 revision (entries.map encodeHex)⟩ = some encoded := by
  simp only [encodeEnvelope] at written
  split at written
  · cases written
  · next printed =>
    cases written
    exact printed

lemma validateEnvelopeBytes_eq_ok
    (valid : validateEnvelopeBytes codec sha256 maxFileBytes bytes = .ok (revision, entries)) :
    ∃ envelope, codec.parse bytes = some envelope ∧ envelope.revision = revision ∧ revision ≠ 0 ∧
      envelope.digest = envelopeDigest sha256 revision envelope.entries ∧
      envelope.entries.mapM decodeHex = some entries := by
  unfold validateEnvelopeBytes at valid
  split_ifs at valid
  split at valid
  · cases valid
  split_ifs at valid
  split at valid
  · cases valid
  · next envelope parsed =>
    split_ifs at valid with broken
    obtain ⟨positive, digest⟩ := not_or.mp broken
    split at valid
    · cases valid
    · next read =>
      cases valid
      exact ⟨envelope, parsed, rfl, positive, not_not.mp digest, read⟩

/-- An envelope that is written is read back unless its revision is 0, and one that is
read and in lower case has the same digest when it is written again. -/
theorem envelope_round_trip (codec : EnvelopeCodec Raw) (sha256 : Sha256) (maxFileBytes : Nat) :
    (∀ (revision : Nat) (entries : List Entry) (encoded : Raw),
      encodeEnvelope codec sha256 revision entries = .ok encoded →
      codec.length encoded ≤ maxFileBytes →
      (validateEnvelopeBytes codec sha256 maxFileBytes encoded = .ok (revision, entries) ↔
        revision ≠ 0)) ∧
    ∀ (bytes again : Raw) (revision : Nat) (entries : List Entry),
      validateEnvelopeBytes codec sha256 maxFileBytes bytes = .ok (revision, entries) →
      encodeEnvelope codec sha256 revision entries = .ok again →
      ∃ envelope envelope', codec.parse bytes = some envelope ∧ codec.parse again = some envelope' ∧
        ((∀ value ∈ envelope.entries, LowerCase value) → envelope'.digest = envelope.digest) := by
  refine ⟨fun revision entries encoded written fits => ⟨fun valid => ?_, fun positive =>
    validate_encodeEnvelope positive written fits⟩, fun bytes again revision entries valid written =>
    ?_⟩
  · obtain ⟨-, -, -, positive, -⟩ := validateEnvelopeBytes_eq_ok valid
    exact positive
  · obtain ⟨envelope, parsed, -, -, digest, read⟩ := validateEnvelopeBytes_eq_ok valid
    refine ⟨envelope, _, parsed, codec.parse_print (encodeEnvelope_eq_ok written), fun lower => ?_⟩
    rw [digest, map_encodeHex lower read]

end Codec

/-- SHA-256 where it is needed, of the entry `AB` and of the same in lower case. -/
def spelledSha256 : Sha256 := fun bytes =>
  if bytes.data.back? = some 66 then
    ⟨"60293ea6f877bae954deca6ee4077366a08b3adba05c8c34915c95bc33a07d37", by decide, by decide⟩
  else
    ⟨"260783bd511a3d98ef81bb1d1044aabf12254f15bd143c25a1afec5e827fb112", by decide, by decide⟩

/-- An envelope with one entry, at the first revision. -/
def spelled (value : String) : LocalStorageEnvelope :=
  ⟨1, 1, [value], envelopeDigest spelledSha256 1 [value]⟩

theorem envelope_round_trip_spelled :
    validateEnvelopeBytes sampleCodec spelledSha256 64 (spelled "ab") = .ok (1, [[171]]) ∧
      ∃ envelope envelope', sampleCodec.parse (spelled "ab") = some envelope ∧
        sampleCodec.parse (spelled "ab") = some envelope' ∧
        ((∀ value ∈ envelope.entries, LowerCase value) → envelope'.digest = envelope.digest) := by
  obtain ⟨written, read⟩ := envelope_round_trip sampleCodec spelledSha256 64
  have valid := (written 1 [[171]] (spelled "ab") rfl (by decide)).mpr (by decide)
  exact ⟨valid, read (spelled "ab") (spelled "ab") 1 [[171]] valid rfl⟩

/-- An envelope in capitals is read and has another digest when it is written again,
and one with the revision 0 is written and not read. -/
theorem capital_entry_respelled :
    validateEnvelopeBytes sampleCodec spelledSha256 64 (spelled "AB") = .ok (1, [[171]]) ∧
      encodeEnvelope sampleCodec spelledSha256 1 [[171]] = .ok (spelled "ab") ∧
      (spelled "ab").digest ≠ (spelled "AB").digest ∧
      ∃ encoded, encodeEnvelope sampleCodec spelledSha256 0 [] = .ok encoded ∧
        validateEnvelopeBytes sampleCodec spelledSha256 64 encoded ≠ .ok (0, []) :=
  ⟨rfl, rfl, by decide, _, rfl, nofun⟩

end AtomicLocalStorage

end Knowbee
