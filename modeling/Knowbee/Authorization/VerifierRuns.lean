import Knowbee.Authorization.Verifier
import Knowbee.Lib.Digits
import Knowbee.Lib.Framing
import Knowbee.Lib.Machine

/-!
# What authorizations guarantee

Over any run of the replay guard under a clock that does not go back, an id is
consumed at most once while it is unexpired, and is held until it expires.  The
text that a proof signs determines every field, so a receipt is authorized only
for the fields that were signed (`authorization_guard`).
-/

namespace Knowbee

open List ReplayGuard

def lengthHeader (length : Nat) : List Char := Nat.toDigits 10 length ++ [':']

lemma colon_not_mem_toDigits (n : Nat) : ':' ∉ Nat.toDigits 10 n := by
  intro member
  have digit := Nat.isDigit_of_mem_toDigits (by decide) (by decide) member
  simp at digit

lemma lengthHeader_separates : Framing.Separates lengthHeader where
  present n := by simp [lengthHeader]
  apart {m n rest rest'} same := by
    simp only [lengthHeader, append_assoc, singleton_append] at same
    have parts := congrArg (splitOn ':') same
    rw [splitOn_append_cons_self_of_not_mem (colon_not_mem_toDigits m),
      splitOn_append_cons_self_of_not_mem (colon_not_mem_toDigits n)] at parts
    have numbers : m = n := toDigits_injective (List.cons.inj parts).1
    subst numbers
    exact ⟨rfl, (List.cons.inj (append_cancel_left same)).2⟩

lemma lengthPrefixed_toList (value : String) :
    (lengthPrefixed value).toList = lengthHeader (utf8Len value.toList) ++ value.toList := by
  simp [lengthPrefixed, lengthHeader, String.toList_append, utf8ByteSize_eq]

lemma fields_injective {fields fields' : List String}
    (same : String.join (fields.map lengthPrefixed) = String.join (fields'.map lengthPrefixed)) :
    fields = fields' := by
  have framed (fields : List String) : (String.join (fields.map lengthPrefixed)).toList =
      Framing.frames Char.utf8Size lengthHeader (fields.map String.toList) := by
    rw [String.toList_join, Framing.frames, flatMap_map, flatMap_map]
    exact flatMap_congr fun value _ => lengthPrefixed_toList value
  have chars := congrArg String.toList same
  rw [framed, framed] at chars
  have read := Framing.frames_injective Char.utf8Size_pos lengthHeader_separates chars
  exact map_injective_iff.mpr (fun _ _ => String.toList_inj.mp) read

lemma toString_int_injective {a b : Int} (same : toString a = toString b) : a = b := by
  simp only [Int.toString_eq_repr, Int.repr_eq_if] at same
  have numbers {m n : Nat} (same : m.repr.toList = n.repr.toList) : m = n := by
    rw [Nat.toList_repr, Nat.toList_repr] at same
    exact toDigits_injective same
  -- A minus sign is not a digit.
  have signed {m n : Nat} (same : m.repr = "-" ++ n.repr) : False := by
    have chars := congrArg String.toList same
    rw [Nat.toList_repr, String.toList_append] at chars
    have member : '-' ∈ Nat.toDigits 10 m := by rw [chars]; simp
    have digit := Nat.isDigit_of_mem_toDigits (by decide) (by decide) member
    simp at digit
  split_ifs at same with first second second
  · have same := numbers (congrArg String.toList same)
    omega
  · exact (signed same).elim
  · exact (signed same.symm).elim
  · have chars := congrArg String.toList same
    rw [String.toList_append, String.toList_append] at chars
    have same := numbers (append_cancel_left chars)
    omega

def AuthorizationReceipt.unsigned (receipt : AuthorizationReceipt) : AuthorizationReceipt :=
  { receipt with proof := "" }

lemma canonicalPayload_injective {receipt other : AuthorizationReceipt}
    (same : canonicalPayload receipt = canonicalPayload other) :
    receipt.unsigned = other.unsigned := by
  have fields := fields_injective same
  cases receipt
  cases other
  simp only [AuthorizationReceipt.fields, List.cons.injEq, and_true] at fields
  obtain ⟨version, rfl, rfl, rfl, rfl, rfl, rfl, rfl, rfl, rfl, rfl, rfl, expiry⟩ := fields
  cases toString_nat_injective version
  cases toString_int_injective expiry
  rfl

namespace ReplayGuard

structure Clocked where
  guard : ReplayGuard
  nowMs : Int

structure Consume where
  authorizationId : String
  expiresAt : Int
  elapsedMs : Nat

/-- What a consumption was asked and answered, and when. -/
structure Consumed where
  authorizationId : String
  (expiresAt nowMs : Int)
  result : ReplayGuardResult

/-- One consumption under a clock that does not go back. -/
def step (clocked : Clocked) (call : Consume) : Clocked × Consumed :=
  let nowMs := clocked.nowMs + call.elapsedMs
  match clocked.guard.consume call.authorizationId call.expiresAt nowMs with
  | (result, guard) => (⟨guard, nowMs⟩, ⟨call.authorizationId, call.expiresAt, nowMs, result⟩)

/-- The id is held with the expiry while it is unexpired. -/
def Holds (authorizationId : String) (expiresAt : Int) (clocked : Clocked) : Prop :=
  clocked.nowMs ≤ expiresAt → clocked.guard.entries.get? authorizationId = some expiresAt

variable {guard : ReplayGuard} {authorizationId : String} {expiresAt nowMs : Int}

/-- What a consumption can do: nothing, or the expired are dropped and the id is
held already, there is no room for it, or it is entered. -/
inductive ConsumeStep (guard : ReplayGuard) (authorizationId : String) (expiresAt nowMs : Int) :
    ReplayGuardResult → ReplayGuard → Prop where
  | unavailable : ConsumeStep guard authorizationId expiresAt nowMs .unavailable guard
  | replayed {entries : SortedMap String Int} :
      entries = guard.entries.retain (fun _ entryExpiry => nowMs ≤ entryExpiry) →
      ConsumeStep guard authorizationId expiresAt nowMs .replayed { guard with entries }
  | saturated {entries : SortedMap String Int} :
      entries = guard.entries.retain (fun _ entryExpiry => nowMs ≤ entryExpiry) →
      ConsumeStep guard authorizationId expiresAt nowMs .saturated { guard with entries }
  | consumed {entries : SortedMap String Int} :
      entries = guard.entries.retain (fun _ entryExpiry => nowMs ≤ entryExpiry) →
      entries.get? (trim authorizationId) = none →
      ConsumeStep guard authorizationId expiresAt nowMs .consumed
        { guard with entries := entries.insert (trim authorizationId) expiresAt }

lemma consume_step {result : ReplayGuardResult} {after : ReplayGuard}
    (consumed : guard.consume authorizationId expiresAt nowMs = (result, after)) :
    ConsumeStep guard authorizationId expiresAt nowMs result after := by
  unfold consume at consumed
  simp only at consumed
  split_ifs at consumed with bad held full
  · cases consumed
    exact .unavailable
  · cases consumed
    exact .replayed rfl
  · cases consumed
    exact .saturated rfl
  · cases consumed
    exact .consumed rfl (Option.not_isSome_iff_eq_none.mp held)

lemma Holds.step {clocked : Clocked} (holds : Holds authorizationId expiresAt clocked)
    (call : Consume) : Holds authorizationId expiresAt (ReplayGuard.step clocked call).1 := by
  intro unexpired
  rcases consumed : clocked.guard.consume call.authorizationId call.expiresAt
    (clocked.nowMs + call.elapsedMs) with ⟨result, after⟩
  simp only [ReplayGuard.step, consumed] at unexpired ⊢
  have before := holds (by omega)
  have retained : (clocked.guard.entries.retain fun _ entryExpiry =>
      clocked.nowMs + call.elapsedMs ≤ entryExpiry).get? authorizationId = some expiresAt := by
    simp [before, unexpired]
  cases consume_step consumed with
  | unavailable => exact before
  | replayed kept => simpa [kept] using retained
  | saturated kept => simpa [kept] using retained
  | consumed kept fresh =>
    subst kept
    have other : authorizationId ≠ trim call.authorizationId := by
      intro same
      rw [← same, retained] at fresh
      cases fresh
    rw [SortedMap.get?_insert, if_neg other]
    exact retained

/-- No two consumptions of a run accept an id while it is unexpired. -/
def OncePerId (first second : Consumed) : Prop :=
  first.result = .consumed → trim second.authorizationId = trim first.authorizationId →
    second.nowMs ≤ first.expiresAt → second.result ≠ .consumed

lemma consumed_once (clocked : Clocked) (calls : List Consume) :
    (Machine.trace step clocked calls).Pairwise OncePerId := by
  refine Machine.trace_pairwise (fun _ => True)
    (fun first clocked => first.result = .consumed →
      Holds (trim first.authorizationId) first.expiresAt clocked)
    (fun _ _ _ => trivial) ?_ ?_ ?_ trivial calls
  · intro clocked call _ accepted _
    rcases consumed : clocked.guard.consume call.authorizationId call.expiresAt
      (clocked.nowMs + call.elapsedMs) with ⟨result, after⟩
    simp only [step, consumed] at accepted ⊢
    subst accepted
    cases consume_step consumed with
    | consumed kept fresh => simp
  · exact fun first clocked call _ holds accepted => (holds accepted).step call
  · intro first clocked call _ holds accepted same unexpired again
    rcases consumed : clocked.guard.consume call.authorizationId call.expiresAt
      (clocked.nowMs + call.elapsedMs) with ⟨result, after⟩
    simp only [step, consumed] at same unexpired again
    have held := holds accepted (by omega)
    subst again
    cases consume_step consumed with
    | consumed kept fresh =>
      subst kept
      rw [same, SortedMap.get?_retain, held] at fresh
      simp at fresh
      omega

end ReplayGuard

lemma verify_authorized {hmac : Hmac} {verifier : AuthorizationVerifier}
    {receipt : AuthorizationReceipt} {context : AuthorizationContext} {nowMs consumedMs : Int}
    {guard after : ReplayGuard}
    (authorized : verifier.verify hmac receipt context nowMs consumedMs guard =
      (some .authorized, after)) :
    ∃ mac proof, hmac verifier.secret = some mac ∧
      decodeHexProof receipt.proof = .decoded proof ∧
      mac (canonicalPayload receipt).toUTF8 = proof ∧
      guard.consume receipt.authorizationId receipt.expiresAt consumedMs = (.consumed, after) := by
  unfold AuthorizationVerifier.verify at authorized
  split_ifs at authorized with scope expired
  · cases authorized
  · cases authorized
  · cases decoded : decodeHexProof receipt.proof with
    | panics => simp [decoded] at authorized
    | invalid => simp [decoded] at authorized
    | decoded proof =>
      cases keyed : hmac verifier.secret with
      | none => simp [decoded, keyed] at authorized
      | some mac =>
        simp only [decoded, keyed] at authorized
        split_ifs at authorized with wrong
        · cases authorized
        · rcases consumed : guard.consume receipt.authorizationId receipt.expiresAt consumedMs with
            ⟨result, later⟩
          rw [consumed] at authorized
          cases result <;> cases authorized
          exact ⟨mac, proof, rfl, rfl, not_not.mp wrong, rfl⟩

/-- Of the receipts that are presented, only those verify whose text was issued:
what is assumed of the keyed hash and of whoever does not know the secret. -/
def Unforgeable (hmac : Hmac) (secret : List UInt8)
    (issued presented : AuthorizationReceipt → Prop) : Prop :=
  ∀ receipt mac proof, presented receipt → hmac secret = some mac →
    decodeHexProof receipt.proof = .decoded proof → mac (canonicalPayload receipt).toUTF8 = proof →
    ∃ other, issued other ∧ canonicalPayload other = canonicalPayload receipt

/-- No id is consumed twice while it is unexpired, none is given up before it
expires, the signed text determines every field, and a receipt is authorized
only for fields that were issued. -/
theorem authorization_guard (hmac : Hmac) (verifier : AuthorizationVerifier)
    (issued presented : AuthorizationReceipt → Prop)
    (unforgeable : Unforgeable hmac verifier.secret issued presented) :
    (∀ clocked calls, (Machine.trace step clocked calls).Pairwise
      OncePerId) ∧
    (∀ clocked calls authorizationId expiresAt,
      clocked.guard.entries.get? authorizationId = some expiresAt →
      (Machine.run step clocked calls).nowMs ≤ expiresAt →
      (Machine.run step clocked calls).guard.entries.get? authorizationId =
        some expiresAt) ∧
    (∀ receipt other, canonicalPayload receipt = canonicalPayload other →
      receipt.unsigned = other.unsigned) ∧
    ∀ receipt context nowMs consumedMs guard after, presented receipt →
      verifier.verify hmac receipt context nowMs consumedMs guard = (some .authorized, after) →
      ∃ other, issued other ∧ other.unsigned = receipt.unsigned := by
  refine ⟨consumed_once, fun clocked calls authorizationId expiresAt held => ?_,
    fun receipt other => canonicalPayload_injective,
    fun receipt context nowMs consumedMs guard after shown authorized => ?_⟩
  · have holds : Holds authorizationId expiresAt clocked := fun _ => held
    exact Machine.run_invariant (fun _ call holds => holds.step call) holds calls
  · obtain ⟨mac, proof, keyed, decoded, tagged, -⟩ := verify_authorized authorized
    obtain ⟨other, given, same⟩ := unforgeable receipt mac proof shown keyed decoded tagged
    exact ⟨other, given, canonicalPayload_injective same⟩

def sampleAuthorization : AuthorizationReceipt where
  schemaVersion := 1
  authorizationId := "authorization-1"
  issuer := "issuer-1"
  issuerKeyId := "key-1"
  audience := "node-1"
  method := "camera.capture"
  resourceScope := "camera"
  commandId := "command-1"
  operationId := "operation-1"
  targetSessionId := "session-1"
  targetFingerprint := "fingerprint-1"
  idempotencyKey := "idempotency-1"
  expiresAt := 1700000060000
  proof := "4a43972d3290842a67f9438b40880d8f3179c3b85e6fe2e34ce93b4b8c7dcc2e"

def sampleContext : AuthorizationContext := { sampleAuthorization with }

/-- The verifier under the secret `0123456789abcdef`. -/
def sampleVerifier : AuthorizationVerifier where
  secret := "0123456789abcdef".toUTF8.data.toList
  issuer := "issuer-1"
  issuerKeyId := "key-1"
  audience := "node-1"

/-- HMAC where it is needed, on the text of the sample under its secret. -/
def sampleHmac : Hmac := fun _ => some fun _ =>
  [74, 67, 151, 45, 50, 144, 132, 42, 103, 249, 67, 139, 64, 136, 13, 143,
    49, 121, 195, 184, 94, 111, 226, 227, 76, 233, 59, 75, 140, 125, 204, 46]

/-- The sample is authorized, and was issued. -/
theorem authorization_guard_sample :
    ∃ other, other = sampleAuthorization ∧ other.unsigned = sampleAuthorization.unsigned := by
  have unforgeable : Unforgeable sampleHmac sampleVerifier.secret (· = sampleAuthorization)
      (· = sampleAuthorization) :=
    fun receipt mac proof shown _ _ _ => ⟨receipt, shown, rfl⟩
  have authorized : sampleVerifier.verify sampleHmac sampleAuthorization sampleContext 1700000000000
      1700000000000 ⟨1024, .empty⟩ =
        (some .authorized, ⟨1024, SortedMap.empty.insert "authorization-1" 1700000060000⟩) := by
    decide +kernel
  exact (authorization_guard sampleHmac sampleVerifier _ _ unforgeable).2.2.2 sampleAuthorization
    sampleContext _ _ _ _ rfl authorized

end Knowbee
