import Knowbee.Authorization.Issuer
import Knowbee.Authorization.VerifierRuns

/-!
# The issuer and the verifier agree on receipts

A receipt that the issuer returns signs the text that the verifier computes, and
its proof is read back as the tag.  What is left is the guard, which counts the
bytes of an id where the issuer counts code units (`issued_receipt_authorized_iff`).
-/

namespace Knowbee

open List ExecutionAuthorizationIssuer ReplayGuard String

/-! ## Proofs are read back -/

lemma hexPair_lt (byte : UInt8) : byte.toNat / 16 < 16 ∧ byte.toNat % 16 < 16 := by
  have := byte.toNat_lt
  omega

lemma fromHexPair_hexPair (byte : UInt8) :
    fromHexPair (Nat.digitChar (byte.toNat / 16)).val.toUInt8
      (Nat.digitChar (byte.toNat % 16)).val.toUInt8 = some byte := by
  have digit : ∀ n < 16, hexDigitValue (Nat.digitChar n).val.toUInt8 = some (UInt8.ofNat n) ∧
      (Nat.digitChar n).val.toUInt8 ≠ 43 := by
    decide
  obtain ⟨high, low⟩ := hexPair_lt byte
  obtain ⟨upper, unsigned⟩ := digit _ high
  rw [fromHexPair, if_neg unsigned, upper, (digit _ low).1]
  have joined : UInt8.ofNat (byte.toNat / 16) * 16 + UInt8.ofNat (byte.toNat % 16) = byte := by
    apply UInt8.toNat_inj.mp
    simp
    omega
  exact congrArg some joined

lemma utf8Size_digitChar {n : Nat} (small : n < 16) : (Nat.digitChar n).utf8Size = 1 := by
  have all : ∀ n < 16, (Nat.digitChar n).utf8Size = 1 := by decide
  exact all n small

variable (bytes : List UInt8)

def hexBytes : List UInt8 := bytes.flatMap fun byte => (hexPair byte).map (·.val.toUInt8)

lemma encode_hexPair (byte : UInt8) :
    (hexPair byte).flatMap utf8EncodeChar = (hexPair byte).map (·.val.toUInt8) := by
  obtain ⟨high, low⟩ := hexPair_lt byte
  simp only [hexPair, flatMap_cons, flatMap_nil, map_cons, map_nil,
    utf8EncodeChar_eq_singleton (utf8Size_digitChar high),
    utf8EncodeChar_eq_singleton (utf8Size_digitChar low), cons_append, nil_append]

lemma toUTF8_lowerHex : (lowerHex bytes).toUTF8.data.toList = hexBytes bytes := by
  have chars : (lowerHex bytes).toUTF8.data.toList =
      (bytes.flatMap hexPair).flatMap utf8EncodeChar := by
    simp [lowerHex, toUTF8, utf8Encode]
  rw [chars, flatMap_assoc, hexBytes]
  exact flatMap_congr fun byte _ => encode_hexPair byte

lemma utf8ByteSize_lowerHex : (lowerHex bytes).utf8ByteSize = 2 * bytes.length := by
  rw [utf8ByteSize_eq, lowerHex, toList_ofList]
  induction bytes with
  | nil => rfl
  | cons byte rest ih =>
    obtain ⟨high, low⟩ := hexPair_lt byte
    simp only [utf8Len] at ih
    simp only [utf8Len, flatMap_cons, map_append, sum_append, ih, hexPair,
      map_cons, map_nil, sum_cons, sum_nil, utf8Size_digitChar high,
      utf8Size_digitChar low, length_cons]
    omega

lemma continues_hexBytes : continues (hexBytes bytes) = false := by
  cases bytes with
  | nil => rfl
  | cons byte rest =>
    have all : ∀ n < 16, continues [(Nat.digitChar n).val.toUInt8] = false := by decide
    exact all _ (hexPair_lt byte).1

lemma decodeHexPairs_hexBytes : decodeHexPairs (hexBytes bytes) = .decoded bytes := by
  induction bytes with
  | nil => rfl
  | cons byte rest ih =>
    have step : hexBytes (byte :: rest) = (Nat.digitChar (byte.toNat / 16)).val.toUInt8 ::
        (Nat.digitChar (byte.toNat % 16)).val.toUInt8 :: hexBytes rest := rfl
    rw [step, decodeHexPairs, continues_hexBytes, if_neg Bool.false_ne_true,
      fromHexPair_hexPair, ih]

lemma decodeHexProof_lowerHex {tag : List UInt8} (sized : tag.length = 32) :
    decodeHexProof (lowerHex tag) = .decoded tag := by
  unfold decodeHexProof
  rw [utf8ByteSize_lowerHex, sized, if_neg (fun bad => bad rfl), toUTF8_lowerHex,
    decodeHexPairs_hexBytes]

/-! ## Receipts that are issued -/

lemma canonicalize_eq (receipt : AuthorizationReceipt) :
    canonicalizeAuthorizationReceipt receipt = canonicalPayload receipt := by
  unfold canonicalizeAuthorizationReceipt canonicalPayload
  congr 1
  refine map_congr_left fun value _ => ?_
  rw [lengthPrefixed, byteLength, ← utf8ByteSize_eq]

lemma canonicalPayload_proof (receipt : AuthorizationReceipt) (proof : String) :
    canonicalPayload { receipt with proof } = canonicalPayload receipt :=
  rfl

variable {issuer : ExecutionAuthorizationIssuer} {request : ExecutionAuthorizationRequest}
  {nonce : String} {issuedMs : Int} {receipt : AuthorizationReceipt}

lemma append_of_isPrefixOf {start text : String}
    (starts : start.toList.isPrefixOf text.toList = true) :
    text = start ++ ofList (text.toList.drop start.toList.length) := by
  obtain ⟨rest, same⟩ := isPrefixOf_iff_prefix.mp starts
  apply toList_inj.mp
  rw [toList_append, toList_ofList, ← same, drop_left]

lemma issue_ok (issued : issuer.issue request nonce issuedMs = .ok receipt) :
    ∃ handle proof, request.isIssuable issuer.issuer nonce = true ∧
      issuedMs < request.expiresAt ∧
      issuer.keyPort (jsTrim request.extensionId) (jsTrim request.targetSessionId) = some handle ∧
      handle.sign (canonicalPayload receipt) = "hmac-sha256:" ++ proof ∧
      receipt = { request.unsignedReceipt issuer.issuer nonce handle.keyId with proof } := by
  unfold issue at issued
  split_ifs at issued with refused expired
  dsimp only at issued
  cases resolved : issuer.keyPort (jsTrim request.extensionId) (jsTrim request.targetSessionId) with
  | none =>
    rw [resolved] at issued
    cases issued
  | some handle =>
    rw [resolved] at issued
    dsimp only at issued
    split_ifs at issued with unusable signed bad bad
    · cases issued
      refine ⟨handle, _, by simpa using refused, not_le.mp expired, rfl, ?_, rfl⟩
      rw [canonicalPayload_proof, ← canonicalize_eq]
      exact append_of_isPrefixOf signed
    · exact absurd rfl bad

/-- The handles of the port sign under the secret. -/
def SignsUnder (issuer : ExecutionAuthorizationIssuer) (mac : ByteArray → List UInt8) : Prop :=
  ∀ extensionId sessionId handle, issuer.keyPort extensionId sessionId = some handle →
    ∀ payload, handle.sign payload = "hmac-sha256:" ++ lowerHex (mac payload.toUTF8)

variable {mac : ByteArray → List UInt8}

lemma issue_proof (signs : SignsUnder issuer mac)
    (issued : issuer.issue request nonce issuedMs = .ok receipt) :
    receipt.proof = lowerHex (mac (canonicalPayload receipt).toUTF8) := by
  obtain ⟨handle, proof, -, -, resolved, signed, same⟩ := issue_ok issued
  rw [signs _ _ handle resolved] at signed
  have proofs : receipt.proof = proof := by rw [same]
  rw [proofs]
  have chars := congrArg toList signed
  rw [toList_append, toList_append] at chars
  exact (toList_inj.mp (append_cancel_left chars)).symm

lemma issue_authorizationId (issued : issuer.issue request nonce issuedMs = .ok receipt) :
    receipt.authorizationId = request.authorizationId nonce := by
  obtain ⟨handle, proof, -, -, -, -, same⟩ := issue_ok issued
  rw [same]
  rfl

lemma issue_schemaVersion (issued : issuer.issue request nonce issuedMs = .ok receipt) :
    receipt.schemaVersion = 1 := by
  obtain ⟨handle, proof, -, -, -, -, same⟩ := issue_ok issued
  rw [same]
  rfl

/-- Receipts that are issued under one key and sign one text are one. -/
lemma issue_injective {issuer' : ExecutionAuthorizationIssuer}
    {request' : ExecutionAuthorizationRequest} {nonce' : String} {issuedMs' : Int}
    {receipt' : AuthorizationReceipt} (signs : SignsUnder issuer mac)
    (signs' : SignsUnder issuer' mac) (issued : issuer.issue request nonce issuedMs = .ok receipt)
    (issued' : issuer'.issue request' nonce' issuedMs' = .ok receipt')
    (same : canonicalPayload receipt = canonicalPayload receipt') : receipt = receipt' := by
  have proofs : receipt.proof = receipt'.proof := by
    rw [issue_proof signs issued, issue_proof signs' issued', same]
  have fields := canonicalPayload_injective same
  have restored (receipt : AuthorizationReceipt) :
      receipt = { receipt.unsigned with proof := receipt.proof } := rfl
  rw [restored receipt, restored receipt', fields, proofs]

/-! ## The guard -/

lemma mem_trim {c : Char} {value : String} (member : c ∈ value.toList)
    (visible : isWhiteSpace c = false) : c ∈ (trim value).toList := by
  have keep (chars : List Char) (member : c ∈ chars) : c ∈ chars.dropWhile isWhiteSpace := by
    rw [← takeWhile_append_dropWhile (p := isWhiteSpace) (l := chars)] at member
    rcases mem_append.mp member with front | back
    · rw [mem_takeWhile_imp front] at visible
      cases visible
    · exact back
  rw [trim, toList_ofList, mem_reverse]
  exact keep _ (mem_reverse.mpr (keep _ member))

lemma authorizationId_visible (request : ExecutionAuthorizationRequest) (nonce : String) :
    (trim (request.authorizationId nonce)).isEmpty = false := by
  have colon : ':' ∈ (request.authorizationId nonce).toList := by
    simp [ExecutionAuthorizationRequest.authorizationId, String.toList_append]
  have member := mem_trim colon (by decide)
  rw [Bool.eq_false_iff]
  intro empty
  rw [String.isEmpty_iff.mp empty] at member
  cases member

/-- The id is not held by a guard of this time. -/
def ReplayGuard.Unused (guard : ReplayGuard) (authorizationId : String) (nowMs : Int) : Prop :=
  ∀ entryExpiry, guard.entries.get? (trim authorizationId) = some entryExpiry → entryExpiry < nowMs

/-- The guard is not full of ids that are unexpired. -/
def ReplayGuard.HasRoom (guard : ReplayGuard) (nowMs : Int) : Prop :=
  (guard.entries.retain fun _ entryExpiry => nowMs ≤ entryExpiry).size < guard.capacity

lemma consume_consumed_iff {guard : ReplayGuard} {authorizationId : String}
    {expiresAt nowMs : Int} (visible : (trim authorizationId).isEmpty = false)
    (room : guard.HasRoom nowMs) :
    (guard.consume authorizationId expiresAt nowMs).1 = .consumed ↔
      (trim authorizationId).utf8ByteSize ≤ 256 ∧ guard.Unused authorizationId nowMs := by
  unfold consume Unused
  simp only [visible, Bool.false_or]
  rw [SortedMap.get?_retain]
  unfold HasRoom at room
  by_cases long : 256 < (trim authorizationId).utf8ByteSize
  · rw [if_pos (decide_eq_true long)]
    exact iff_of_false nofun fun both => absurd both.1 (not_le.mpr long)
  · rw [if_neg (by simpa using long)]
    cases held : guard.entries.get? (trim authorizationId) with
    | none => simp [not_le.mpr room, not_lt.mp long]
    | some entryExpiry =>
      by_cases expired : entryExpiry < nowMs
      · simp [not_le.mpr expired, expired, not_le.mpr room, not_lt.mp long]
      · simp [not_lt.mp expired, expired]

lemma unused_of_first {authorizationId : String} {clocked : Clocked}
    (fresh : clocked.guard.entries.get? (trim authorizationId) = none)
    (calls : List Consume)
    (first : ∀ call ∈ calls, trim call.authorizationId ≠ trim authorizationId) :
    (Machine.run step clocked calls).guard.entries.get? (trim authorizationId) =
      none := by
  have kept : ∀ clocked call,
      trim call.authorizationId ≠ trim authorizationId →
      clocked.guard.entries.get? (trim authorizationId) = none →
      (step clocked call).1.guard.entries.get? (trim authorizationId) = none := by
    intro clocked call other fresh
    rcases consumed : clocked.guard.consume call.authorizationId call.expiresAt
      (clocked.nowMs + call.elapsedMs) with ⟨result, after⟩
    have retained : (clocked.guard.entries.retain fun _ entryExpiry =>
        clocked.nowMs + call.elapsedMs ≤ entryExpiry).get? (trim authorizationId) = none := by
      rw [SortedMap.get?_retain, fresh]
      rfl
    simp only [step, consumed]
    cases consume_step consumed with
    | unavailable => exact fresh
    | replayed same =>
      rw [same]
      exact retained
    | saturated same =>
      rw [same]
      exact retained
    | consumed same =>
      rw [SortedMap.get?_insert, if_neg other.symm, same]
      exact retained
  induction calls generalizing clocked with
  | nil => exact fresh
  | cons call rest ih =>
    have next := kept clocked call (first call mem_cons_self) fresh
    rw [Machine.run]
    exact ih next fun call member => first call (mem_cons_of_mem _ member)

/-! ## Agreement -/

/-- The verifier for the issuer, key id and audience of a receipt. -/
def AuthorizationReceipt.verifier (receipt : AuthorizationReceipt) (secret : List UInt8) :
    AuthorizationVerifier :=
  ⟨secret, receipt.issuer, receipt.issuerKeyId, receipt.audience⟩

def AuthorizationReceipt.context (receipt : AuthorizationReceipt) : AuthorizationContext where
  __ := receipt

lemma inScope_self {receipt : AuthorizationReceipt} (version : receipt.schemaVersion = 1)
    (secret : List UInt8) : (receipt.verifier secret).inScope receipt receipt.context = true := by
  simp [AuthorizationVerifier.inScope, AuthorizationReceipt.verifier, AuthorizationReceipt.context,
    version]

lemma verify_issued {hmac : Hmac} {secret : List UInt8} (keyed : hmac secret = some mac)
    (sized : ∀ bytes, (mac bytes).length = 32) (signs : SignsUnder issuer mac)
    (issued : issuer.issue request nonce issuedMs = .ok receipt) {nowMs : Int}
    (unexpired : nowMs < receipt.expiresAt) (consumedMs : Int) (guard : ReplayGuard) :
    (receipt.verifier secret).verify hmac receipt receipt.context nowMs consumedMs guard =
      match guard.consume receipt.authorizationId receipt.expiresAt consumedMs with
      | (.consumed, guard) => (some .authorized, guard)
      | (.replayed, guard) => (some (.rejected .replayed), guard)
      | (_, guard) => (some (.rejected .verifierUnavailable), guard) := by
  have keyed' : hmac (receipt.verifier secret).secret = some mac := keyed
  unfold AuthorizationVerifier.verify
  rw [inScope_self (issue_schemaVersion issued), Bool.not_true, if_neg Bool.false_ne_true,
    if_neg (not_lt.mpr unexpired.le), issue_proof signs issued,
    decodeHexProof_lowerHex (sized _)]
  dsimp only
  rw [keyed']
  dsimp only
  refine Eq.trans (if_neg (fun bad => bad rfl)) ?_
  rcases guard.consume receipt.authorizationId receipt.expiresAt consumedMs with ⟨result, after⟩
  cases result <;> rfl

/-- A receipt of the issuer signs what the verifier computes, no other fields sign
the same, and it is authorized until it expires, by a guard that has room and does
not hold its id, if and only if its id as the guard trims it is of at most 256
bytes. -/
theorem issued_receipt_authorized_iff (hmac : Hmac) (secret : List UInt8)
    (mac : ByteArray → List UInt8) (keyed : hmac secret = some mac)
    (sized : ∀ bytes, (mac bytes).length = 32) (issuer : ExecutionAuthorizationIssuer)
    (signs : SignsUnder issuer mac) (request : ExecutionAuthorizationRequest) (nonce : String)
    (issuedMs : Int) (receipt : AuthorizationReceipt)
    (issued : issuer.issue request nonce issuedMs = .ok receipt) :
    canonicalizeAuthorizationReceipt receipt = canonicalPayload receipt ∧
    (∀ nowMs consumedMs guard, nowMs < receipt.expiresAt → guard.HasRoom consumedMs →
      (((receipt.verifier secret).verify hmac receipt receipt.context nowMs consumedMs guard).1 =
          some .authorized ↔
        (trim (request.authorizationId nonce)).utf8ByteSize ≤ 256 ∧
          guard.Unused (request.authorizationId nonce) consumedMs)) ∧
    (∀ capacity startMs calls consumedMs,
      (∀ call ∈ calls, trim call.authorizationId ≠ trim (request.authorizationId nonce)) →
      (Machine.run step ⟨⟨capacity, .empty⟩, startMs⟩ calls).guard.Unused
        (request.authorizationId nonce) consumedMs) ∧
    (∀ other, canonicalPayload receipt = canonicalPayload other →
      receipt.unsigned = other.unsigned) ∧
    ∀ issuer' request' nonce' issuedMs' receipt', SignsUnder issuer' mac →
      issuer'.issue request' nonce' issuedMs' = .ok receipt' →
      canonicalPayload receipt = canonicalPayload receipt' → receipt = receipt' := by
  refine ⟨canonicalize_eq receipt, fun nowMs consumedMs guard unexpired room => ?_,
    fun capacity startMs calls consumedMs first entryExpiry held => ?_,
    fun other => canonicalPayload_injective,
    fun issuer' request' nonce' issuedMs' receipt' signs' issued' =>
      issue_injective signs signs' issued issued'⟩
  · rw [verify_issued keyed sized signs issued unexpired, issue_authorizationId issued,
      ← consume_consumed_iff (authorizationId_visible request nonce) room]
    rcases guard.consume (request.authorizationId nonce) receipt.expiresAt consumedMs with
      ⟨result, after⟩
    cases result <;> simp
  · rw [unused_of_first rfl calls first] at held
    cases held

/-! ## Two receipts -/

def sampleRequest (approvalId : String) : ExecutionAuthorizationRequest where
  extensionId := "node-1"
  targetFingerprint := "sha256:aaaaaaaaaaaaaaaaaaaaaaaaaaaaaaaaaaaaaaaaaaaaaaaaaaaaaaaaaaaaaaaa"
  grant := ⟨approvalId, "camera", .allowOnce⟩
  __ := sampleContext

/-- The tag that HMAC gives the receipt of the approval `승인-1` under the secret. -/
def shortTag : List UInt8 :=
  [148, 5, 230, 43, 210, 139, 27, 205, 100, 167, 195, 123, 30, 91, 16, 0,
    24, 148, 131, 161, 158, 88, 184, 226, 151, 18, 215, 24, 212, 216, 190, 204]

/-- The tag of the receipt of an approval of 100 characters. -/
def longTag : List UInt8 :=
  [238, 12, 227, 170, 216, 130, 254, 184, 174, 39, 113, 87, 31, 204, 246, 83,
    209, 225, 255, 162, 27, 208, 199, 128, 14, 207, 176, 189, 153, 216, 153, 188]

/-- The handle of a key that signs every text with one tag, which is HMAC where a
single text is signed. -/
def sampleHandle (tag : List UInt8) : ExecutionAdmissionKeyHandle where
  keyId := "key-1"
  extensionId := "node-1"
  sessionId := none
  sign := fun _ => "hmac-sha256:" ++ lowerHex tag

def sampleIssuer (tag : List UInt8) : ExecutionAuthorizationIssuer where
  issuer := "issuer-1"
  keyPort := fun _ _ => some (sampleHandle tag)

lemma sampleIssuer_signs (tag : List UInt8) : SignsUnder (sampleIssuer tag) fun _ => tag := by
  intro extensionId sessionId handle resolved payload
  cases resolved
  rfl

def sampleReceipt (approvalId : String) (tag : List UInt8) : AuthorizationReceipt :=
  { (sampleRequest approvalId).unsignedReceipt "issuer-1" "nonce-1" "key-1" with
    proof := lowerHex tag }

lemma sample_issuable {approvalId : String} (visible : (jsTrim approvalId).isEmpty = false)
    (fits : utf16Length ((sampleRequest approvalId).authorizationId "nonce-1") ≤ 256) :
    (sampleRequest approvalId).isIssuable "issuer-1" "nonce-1" = true := by
  have rest : (sampleRequest "-").isIssuable "issuer-1" "nonce-1" = true := by decide +kernel
  have dash : (jsTrim (sampleRequest "-").grant.approvalId).isEmpty = false := by decide
  have short : ¬256 < utf16Length ((sampleRequest "-").authorizationId "nonce-1") := by decide
  have same : (jsTrim (sampleRequest approvalId).grant.approvalId).isEmpty = false := visible
  unfold ExecutionAuthorizationRequest.isIssuable at rest ⊢
  rw [dash, decide_eq_false short] at rest
  rw [same, decide_eq_false fits.not_gt]
  exact rest

lemma sample_issued {approvalId : String} {tag : List UInt8}
    (issuable : (sampleRequest approvalId).isIssuable "issuer-1" "nonce-1" = true)
    (digits : isLowerHexProof (lowerHex tag) = true) :
    (sampleIssuer tag).issue (sampleRequest approvalId) "nonce-1" 1700000000000 =
      .ok (sampleReceipt approvalId tag) := by
  have usable : isUsable (sampleHandle tag) (jsTrim "node-1") (jsTrim "session-1") = true := by
    have plain : jsTrim "node-1" = "node-1" ∧ (jsTrim "key-1").isEmpty = false := by decide
    simp [isUsable, sampleHandle, plain]
  have sign payload : (sampleHandle tag).sign payload = "hmac-sha256:" ++ lowerHex tag := rfl
  have text : ("hmac-sha256:" ++ lowerHex tag).toList =
      "hmac-sha256:".toList ++ (lowerHex tag).toList := String.toList_append
  have start : "hmac-sha256:".toList.isPrefixOf ("hmac-sha256:" ++ lowerHex tag).toList := by
    rw [text, isPrefixOf_iff_prefix]
    exact prefix_append _ _
  have proof : String.ofList (("hmac-sha256:" ++ lowerHex tag).toList.drop
      "hmac-sha256:".toList.length) = lowerHex tag := by
    rw [text, drop_left, String.ofList_toList]
  have unexpired : ¬(sampleRequest approvalId).expiresAt ≤ 1700000000000 :=
    (by decide : ¬(1700000060000 : Int) ≤ 1700000000000)
  unfold issue
  change (if !(sampleRequest approvalId).isIssuable "issuer-1" "nonce-1" then _ else _) = _
  rw [issuable, if_neg (by decide), if_neg unexpired]
  change (if !isUsable (sampleHandle tag) (jsTrim "node-1") (jsTrim "session-1") then _
    else _) = _
  simp only [usable, sign, if_pos start, proof, digits, Bool.not_true, Bool.false_eq_true, if_false]
  rfl

def longApprovalId : String := String.ofList (List.replicate 100 '승')

lemma longApproval_trimmed : jsTrim longApprovalId = longApprovalId := by
  have kept n : (List.replicate n '승').dropWhile isTrimmed = List.replicate n '승' := by
    cases n with
    | zero => rfl
    | succ n => rw [replicate_succ, dropWhile_cons_of_neg (by decide)]
  unfold jsTrim longApprovalId
  rw [String.toList_ofList, kept]
  dsimp only
  rw [reverse_replicate, kept, reverse_replicate]

lemma longApproval_id : (sampleRequest longApprovalId).authorizationId "nonce-1" =
    String.ofList (List.replicate 100 '승' ++ ":nonce-1".toList) := by
  have trimmed : jsTrim (sampleRequest longApprovalId).grant.approvalId = longApprovalId :=
    longApproval_trimmed
  have nonce : jsTrim "nonce-1" = "nonce-1" := by decide
  have text : ":nonce-1" = ":" ++ "nonce-1" := rfl
  rw [ExecutionAuthorizationRequest.authorizationId, trimmed, nonce, String.append_assoc, ← text,
    String.ofList_append, String.ofList_toList]
  rfl

/-- A receipt under a short id is authorized. -/
theorem issued_receipt_authorized_iff_short :
    (((sampleReceipt "승인-1" shortTag).verifier sampleVerifier.secret).verify
        (fun _ => some fun _ => shortTag) (sampleReceipt "승인-1" shortTag)
        (sampleReceipt "승인-1" shortTag).context 1700000000000 1700000000000 ⟨1024, .empty⟩).1 =
      some .authorized := by
  have issued := @sample_issued "승인-1" shortTag (sample_issuable (by decide) (by decide))
    (by decide)
  have room : HasRoom ⟨1024, .empty⟩ 1700000000000 := by
    unfold HasRoom
    decide
  have agree := issued_receipt_authorized_iff (fun _ => some fun _ => shortTag)
    sampleVerifier.secret (fun _ => shortTag) rfl (fun _ => rfl) (sampleIssuer shortTag)
    (sampleIssuer_signs shortTag) _ _ _ _ issued
  exact (agree.2.1 1700000000000 1700000000000 ⟨1024, .empty⟩ (by decide) room).mpr
    ⟨by decide, nofun⟩

/-- A receipt is issued under the approval of 100 characters, and the guard refuses
its id of 308 bytes. -/
theorem issued_receipt_refused :
    (sampleIssuer longTag).issue (sampleRequest longApprovalId) "nonce-1" 1700000000000 =
        .ok (sampleReceipt longApprovalId longTag) ∧
      (((sampleReceipt longApprovalId longTag).verifier sampleVerifier.secret).verify
        (fun _ => some fun _ => longTag) (sampleReceipt longApprovalId longTag)
        (sampleReceipt longApprovalId longTag).context 1700000000000 1700000000000
        ⟨1024, .empty⟩).1 = some (.rejected .verifierUnavailable) := by
  have visible : (jsTrim longApprovalId).isEmpty = false := by
    rw [longApproval_trimmed]
    decide +kernel
  have fits : utf16Length ((sampleRequest longApprovalId).authorizationId "nonce-1") ≤ 256 := by
    rw [longApproval_id, utf16Length, utf16Units, String.toList_ofList]
    decide +kernel
  have issued := @sample_issued longApprovalId longTag (sample_issuable visible fits) (by decide)
  refine ⟨issued, ?_⟩
  rw [verify_issued rfl (fun _ => rfl) (sampleIssuer_signs longTag) issued (by decide)]
  have id : (sampleReceipt longApprovalId longTag).authorizationId =
      String.ofList (List.replicate 100 '승' ++ ":nonce-1".toList) := longApproval_id
  have long : 256 < (trim (sampleReceipt longApprovalId longTag).authorizationId).utf8ByteSize := by
    rw [id, trim, String.toList_ofList]
    decide +kernel
  have refused : consume ⟨1024, .empty⟩
      (sampleReceipt longApprovalId longTag).authorizationId
      (sampleReceipt longApprovalId longTag).expiresAt 1700000000000 =
        (.unavailable, ⟨1024, .empty⟩) := by
    unfold consume
    dsimp only
    rw [if_pos (by rw [decide_eq_true long, Bool.or_true])]
  rw [refused]

end Knowbee
