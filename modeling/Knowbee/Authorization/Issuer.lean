import Knowbee.Authorization.Verifier
import Knowbee.JavaScript

/-!
# The issuer of authorization receipts

`execution-authorization-receipt.ts`: a grant of an approval becomes a receipt
whose fields are trimmed, checked and signed by the handle of a key, and
`execution-admission-key-port.ts`, where such a handle comes from.
-/

namespace Knowbee

/-- `length`: the number of UTF-16 code units. -/
def utf16Length (value : String) : Nat := (utf16Units value).length

/-- `Buffer.byteLength(value, "utf8")`. -/
def byteLength (value : String) : Nat := utf8Len value.toList

def hexPair (byte : UInt8) : List Char :=
  [Nat.digitChar (byte.toNat / 16), Nat.digitChar (byte.toNat % 16)]

def lowerHex (bytes : List UInt8) : String := String.ofList (bytes.flatMap hexPair)

/-- `/^[a-f0-9]{64}$/u`. -/
def isLowerHexProof (proof : String) : Bool :=
  proof.toList.length == 64 &&
    proof.toList.all fun c => (97 ≤ c.toNat && c.toNat ≤ 102) || (48 ≤ c.toNat && c.toNat ≤ 57)

/-- `YeonjangExecutionAdmissionKeyHandle`. -/
structure ExecutionAdmissionKeyHandle where
  (keyId extensionId : String)
  sessionId : Option String
  sign : String → String

/-- `YeonjangExecutionAdmissionKeyPort.resolve`, by extension and session. -/
abbrev ExecutionAdmissionKeyPort : Type := String → String → Option ExecutionAdmissionKeyHandle

/-- `decision`; `other` is what its type excludes and the issuer refuses. -/
inductive AuthorizationGrantDecision where
  | allowOnce | allowRun | other
  deriving DecidableEq

/-- `YeonjangExecutionAuthorizationGrant`. -/
structure ExecutionAuthorizationGrant where
  (approvalId permissionScope : String)
  decision : AuthorizationGrantDecision

/-- What `issue` is called with. -/
structure ExecutionAuthorizationRequest where
  (extensionId targetSessionId method resourceScope commandId operationId : String)
  (targetFingerprint idempotencyKey : String)
  expiresAt : Int
  grant : ExecutionAuthorizationGrant

inductive AuthorizationIssueError where
  | inputInvalid | keyUnavailable | expired | proofInvalid
  deriving DecidableEq

def canonicalizeAuthorizationReceipt (receipt : AuthorizationReceipt) : String :=
  String.join (([toString receipt.schemaVersion, receipt.authorizationId, receipt.issuer,
    receipt.issuerKeyId, receipt.audience, receipt.method, receipt.resourceScope,
    receipt.commandId, receipt.operationId, receipt.targetSessionId, receipt.targetFingerprint,
    receipt.idempotencyKey, toString receipt.expiresAt]).map fun value =>
      toString (byteLength value) ++ ":" ++ value)

namespace ExecutionAuthorizationRequest

variable (request : ExecutionAuthorizationRequest)

def authorizationId (nonce : String) : String :=
  jsTrim request.grant.approvalId ++ ":" ++ jsTrim nonce

/-- `targetFingerprint.trim().toLowerCase()`, exact where a digest may result. -/
def loweredFingerprint : String := (jsTrim request.targetFingerprint).map Char.toLower

/-- The request passes the checks that come before the clock is read. -/
def isIssuable (issuer nonce : String) : Bool :=
  !((jsTrim issuer).isEmpty || (jsTrim request.extensionId).isEmpty ||
    (jsTrim request.targetSessionId).isEmpty || (jsTrim request.method).isEmpty ||
    (jsTrim request.resourceScope).isEmpty || (jsTrim request.commandId).isEmpty ||
    (jsTrim request.operationId).isEmpty || !isHashReference request.loweredFingerprint ||
    (jsTrim request.idempotencyKey).isEmpty || (jsTrim request.grant.approvalId).isEmpty ||
    (jsTrim request.grant.permissionScope).isEmpty || (jsTrim nonce).isEmpty ||
    256 < utf16Length (request.authorizationId nonce) ||
    256 < utf16Length (jsTrim request.grant.permissionScope) ||
    (request.grant.decision != .allowOnce && request.grant.decision != .allowRun) ||
    !isSafeInteger request.expiresAt)

def unsignedReceipt (issuer nonce keyId : String) : AuthorizationReceipt where
  schemaVersion := 1
  authorizationId := request.authorizationId nonce
  issuer := jsTrim issuer
  issuerKeyId := jsTrim keyId
  audience := jsTrim request.extensionId
  method := jsTrim request.method
  resourceScope := jsTrim request.resourceScope
  commandId := jsTrim request.commandId
  operationId := jsTrim request.operationId
  targetSessionId := jsTrim request.targetSessionId
  targetFingerprint := request.loweredFingerprint
  idempotencyKey := jsTrim request.idempotencyKey
  expiresAt := request.expiresAt
  proof := ""

end ExecutionAuthorizationRequest

/-- `createYeonjangExecutionAuthorizationIssuer`, with its ports. -/
structure ExecutionAuthorizationIssuer where
  issuer : String
  keyPort : ExecutionAdmissionKeyPort

namespace ExecutionAuthorizationIssuer

def isUsable (handle : ExecutionAdmissionKeyHandle) (extensionId targetSessionId : String) : Bool :=
  jsTrim handle.extensionId == extensionId &&
    !(handle.sessionId.any fun sessionId =>
      !(jsTrim sessionId).isEmpty && jsTrim sessionId != targetSessionId) &&
    !(jsTrim handle.keyId).isEmpty

/-- Issues a receipt with the nonce that `createAuthorizationId` returned, at the
time that `now` returned. -/
def issue (issuer : ExecutionAuthorizationIssuer) (request : ExecutionAuthorizationRequest)
    (nonce : String) (nowMs : Int) : Except AuthorizationIssueError AuthorizationReceipt :=
  if !request.isIssuable issuer.issuer nonce then .error .inputInvalid
  else if request.expiresAt ≤ nowMs then .error .expired
  else
    let extensionId := jsTrim request.extensionId
    let targetSessionId := jsTrim request.targetSessionId
    match issuer.keyPort extensionId targetSessionId with
    | none => .error .keyUnavailable
    | some handle =>
      if !isUsable handle extensionId targetSessionId then .error .keyUnavailable
      else
        let unsigned := request.unsignedReceipt issuer.issuer nonce handle.keyId
        let signed := handle.sign (canonicalizeAuthorizationReceipt unsigned)
        let start := "hmac-sha256:".toList
        let proof :=
          if start.isPrefixOf signed.toList then String.ofList (signed.toList.drop start.length)
          else ""
        if !isLowerHexProof proof then .error .proofInvalid
        else .ok { unsigned with proof }

end ExecutionAuthorizationIssuer

end Knowbee
