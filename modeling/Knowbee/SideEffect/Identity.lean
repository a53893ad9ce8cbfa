import Knowbee.Lib.Framing
import Knowbee.SideEffect.CallRuns

/-!
# Identities of side effects

`buildSideEffectOperationIdentity` of `side-effect-operation.ts`.  The scope of
an operation is one text: the run, the step, the encoded adapter and the last
digits of the target, with a colon before each.  The adapter cannot contain the
colon and the digits are always sixteen, so where the run has no colon of its
own the scope tells its parts (`scopes_separate`).
-/

namespace Knowbee

open List

def hexValue (c : Char) : Nat := if c.toNat < 0x3A then c.toNat - 0x30 else c.toNat - 0x37

/-- The byte at the front of an encoded component. -/
def decodeUriByte : List Char → Option (UInt8 × List Char)
  | '%' :: high :: low :: rest => some (UInt8.ofNat (hexValue high * 16 + hexValue low), rest)
  | c :: rest => some (UInt8.ofNat c.toNat, rest)
  | [] => none

lemma unescaped_byte : ∀ byte : Fin 256, isUriUnescaped byte.val = true →
    Char.ofNat byte.val ≠ '%' ∧ (Char.ofNat byte.val).toNat = byte.val := by
  decide +kernel

lemma escaped_byte : ∀ byte : Fin 256,
    hexValue (hexDigit (byte.val / 16)) * 16 + hexValue (hexDigit (byte.val % 16)) = byte.val := by
  decide +kernel

lemma encodeUriByte_colon (byte : UInt8) : ':' ∉ encodeUriByte byte := by
  have bytes : ∀ byte : Fin 256, ':' ∉ encodeUriByte (UInt8.ofNat byte.val) := by
    decide +kernel
  have here := bytes ⟨byte.toNat, byte.toNat_lt⟩
  rwa [UInt8.ofNat_toNat] at here

/-- Encoded bytes can be read back. -/
def uriCode : Framing.Code UInt8 Char where
  word := encodeUriByte
  read := decodeUriByte
  read_nil := rfl
  read_word byte rest := by
    unfold encodeUriByte
    split_ifs with unescaped
    · obtain ⟨plain, value⟩ := unescaped_byte ⟨byte.toNat, byte.toNat_lt⟩ unescaped
      simp only [List.singleton_append]
      rw [decodeUriByte]
      · simp [value, UInt8.ofNat_toNat]
      · rintro high low rest' percent -
        exact plain percent
    · have value := escaped_byte ⟨byte.toNat, byte.toNat_lt⟩
      simp [List.cons_append, List.nil_append, decodeUriByte, value, UInt8.ofNat_toNat]

lemma encodeURIComponent_injective : Function.Injective encodeURIComponent := by
  intro value value' same
  have bytes := uriCode.write_injective (String.ofList_injective same)
  rw [← String.toByteArray_inj]
  exact ByteArray.ext (Array.toList_inj.mp bytes)

lemma encodeURIComponent_colon (value : String) : ':' ∉ (encodeURIComponent value).toList := by
  rw [encodeURIComponent, String.toList_ofList]
  intro member
  obtain ⟨byte, -, here⟩ := mem_flatMap.mp member
  exact encodeUriByte_colon byte here

/-- Four fields with colons between them can be told apart when the first and
the third have no colon and the last is of known length. -/
lemma colon_fields_inj {first second third last first' second' third' last' : List Char}
    (plain : ':' ∉ first) (plain' : ':' ∉ first') (encoded : ':' ∉ third) (encoded' : ':' ∉ third')
    (length : last.length = last'.length)
    (same : first ++ ':' :: (second ++ ':' :: (third ++ ':' :: last)) =
      first' ++ ':' :: (second' ++ ':' :: (third' ++ ':' :: last'))) :
    first = first' ∧ second = second' ∧ third = third' ∧ last = last' := by
  obtain ⟨rfl, rests⟩ := Framing.delimited_inj plain plain' same
  -- The last field is cut off by its length, the third by its colon from behind.
  have cut : (second ++ ':' :: (third ++ [':'])) ++ last =
      (second' ++ ':' :: (third' ++ [':'])) ++ last' := by
    simpa only [append_assoc, cons_append, nil_append] using rests
  obtain ⟨fronts, rfl⟩ := append_inj' cut length
  have behind := congrArg reverse fronts
  simp only [reverse_append, reverse_cons, reverse_nil, nil_append,
    append_assoc, cons_append, List.cons.injEq, true_and] at behind
  obtain ⟨thirds, seconds⟩ := Framing.delimited_inj (by rwa [mem_reverse])
    (by rwa [mem_reverse]) behind
  exact ⟨rfl, reverse_injective seconds, reverse_injective thirds, rfl⟩

lemma length_sliceLast {value : String} (reference : isHashReference value = true) :
    (sliceLast 16 value).toList.length = 16 := by
  simp only [isHashReference, Bool.and_eq_true, beq_iff_eq, length_drop] at reference
  rw [sliceLast, String.toList_ofList, length_drop]
  omega

lemma build_ok {input : SideEffectOperationIdentityInput} {identity : SideEffectOperationIdentity}
    (built : buildSideEffectOperationIdentity input = .ok identity) :
    isHashReference identity.targetFingerprint = true ∧
      identity.scopeId.toList = "operation-scope:".toList ++ (identity.runId.toList ++ ':' ::
        (identity.stepKey.toList ++ ':' :: ((encodeURIComponent identity.adapterId).toList ++
          ':' :: (sliceLast 16 identity.targetFingerprint).toList))) := by
  unfold buildSideEffectOperationIdentity at built
  simp only [bind, Except.bind] at built
  split at built
  · cases built
  split at built
  · cases built
  split at built
  · cases built
  split at built
  · cases built
  split_ifs at built with refused
  cases built
  simp only [Bool.or_eq_true, Bool.not_eq_true', not_or, Bool.not_eq_false] at refused
  refine ⟨refused.1, ?_⟩
  simp only [String.toList_append, append_assoc]
  rfl

/-- The scopes of two identities whose runs have no colon are equal when their
runs, steps, adapters and the last digits of their targets are, and only then. -/
lemma scope_eq_iff {input input' : SideEffectOperationIdentityInput}
    {identity identity' : SideEffectOperationIdentity}
    (built : buildSideEffectOperationIdentity input = .ok identity)
    (built' : buildSideEffectOperationIdentity input' = .ok identity')
    (plain : ':' ∉ identity.runId.toList) (plain' : ':' ∉ identity'.runId.toList) :
    identity.scopeId = identity'.scopeId ↔
      identity.runId = identity'.runId ∧ identity.stepKey = identity'.stepKey ∧
        identity.adapterId = identity'.adapterId ∧
        sliceLast 16 identity.targetFingerprint = sliceLast 16 identity'.targetFingerprint := by
  obtain ⟨reference, scope⟩ := build_ok built
  obtain ⟨reference', scope'⟩ := build_ok built'
  constructor
  · intro same
    have texts := congrArg String.toList same
    rw [scope, scope'] at texts
    obtain ⟨runs, steps, adapters, digits⟩ := colon_fields_inj plain plain'
      (encodeURIComponent_colon _) (encodeURIComponent_colon _)
      ((length_sliceLast reference).trans (length_sliceLast reference').symm)
      (append_cancel_left texts)
    exact ⟨String.toList_injective runs, String.toList_injective steps,
      encodeURIComponent_injective (String.toList_injective adapters),
      String.toList_injective digits⟩
  · rintro ⟨runs, steps, adapters, digits⟩
    apply String.toList_injective
    rw [scope, scope', runs, steps, adapters, digits]

open SideEffectCalls

/-- Two accepted identities whose runs have no colon have different scopes
unless their runs, steps, adapters and the last digits of their targets are
equal, and in no run of calls are reservations of one scope granted for two
identities. -/
theorem scopes_separate {Tid : Type} [DecidableEq Tid]
    {input input' : SideEffectOperationIdentityInput}
    {identity identity' : SideEffectOperationIdentity}
    (built : buildSideEffectOperationIdentity input = .ok identity)
    (built' : buildSideEffectOperationIdentity input' = .ok identity') :
    (':' ∉ identity.runId.toList → ':' ∉ identity'.runId.toList →
      (identity.scopeId = identity'.scopeId ↔
        identity.runId = identity'.runId ∧ identity.stepKey = identity'.stepKey ∧
          identity.adapterId = identity'.adapterId ∧
          sliceLast 16 identity.targetFingerprint = sliceLast 16 identity'.targetFingerprint)) ∧
      ∀ (events : List (Process.Event Tid Call (SideEffectExecutors.Ports Unit) Unit))
        (outcome outcome' : Outcome) (aggregate aggregate' : SideEffectOperationAggregate),
        (.reserve identity, outcome) ∈ (calls.run (idle : CallPool Tid) events).returned →
        (.reserve identity', outcome') ∈ (calls.run (idle : CallPool Tid) events).returned →
        Grants outcome aggregate → Grants outcome' aggregate' →
        identity.scopeId = identity'.scopeId → identity = identity' :=
  ⟨scope_eq_iff built built', fun _ _ _ _ _ first second grants grants' same => by
    rw [← build_tidy built, ← build_tidy built']
    exact reservations_agree first second grants grants' same⟩

/-- A target whose first digits are given. -/
def sampleTarget (digit : Char) : String :=
  "sha256:" ++ String.ofList (List.replicate 48 digit ++ List.replicate 16 '0')

def sampleIdentityInput (digit : Char) : SideEffectOperationIdentityInput where
  runId := "run-1"
  workId := "work-1"
  stepKey := "executing"
  adapterId := "tool:file_write"
  targetFingerprint := sampleTarget digit
  paramsFingerprint := SideEffectExecutors.sampleFingerprint 'b'

def sampleBuilt (digit : Char) : SideEffectOperationIdentity :=
  { sampleIdentityInput digit with
    operationId := "operation:run-1:executing:tool%3Afile_write:0000000000000000:bbbbbbbbbbbbbbbb"
    scopeId := "operation-scope:run-1:executing:tool%3Afile_write:0000000000000000" }

/-- Targets that differ in their first digits only have one scope. -/
theorem truncated_targets_share_scope :
    sampleTarget 'a' ≠ sampleTarget 'c' ∧
      buildSideEffectOperationIdentity (sampleIdentityInput 'a') = .ok (sampleBuilt 'a') ∧
      buildSideEffectOperationIdentity (sampleIdentityInput 'c') = .ok (sampleBuilt 'c') ∧
      (sampleBuilt 'a').scopeId = (sampleBuilt 'c').scopeId := by
  refine ⟨by decide, by decide +kernel, by decide +kernel, rfl⟩

theorem scopes_separate_sample :
    (sampleBuilt 'a').scopeId = (sampleBuilt 'c').scopeId ↔
      (sampleBuilt 'a').runId = (sampleBuilt 'c').runId ∧
        (sampleBuilt 'a').stepKey = (sampleBuilt 'c').stepKey ∧
        (sampleBuilt 'a').adapterId = (sampleBuilt 'c').adapterId ∧
        sliceLast 16 (sampleBuilt 'a').targetFingerprint =
          sliceLast 16 (sampleBuilt 'c').targetFingerprint :=
  (@scopes_separate Nat _ (sampleIdentityInput 'a') (sampleIdentityInput 'c') _ _
    (by decide +kernel) (by decide +kernel)).1 (by decide) (by decide)

end Knowbee
