import Knowbee.Lib.SortedMap
import Knowbee.Rust

/-!
# Authorization receipts

`authorization.rs`: a receipt is verified against the context it is used in, its proof against the
text that its fields make, and its id is consumed at a guard that remembers ids until they expire.
-/

namespace Knowbee

structure AuthorizationReceipt where
  schemaVersion : Nat
  (authorizationId issuer issuerKeyId audience method resourceScope commandId operationId : String)
  (targetSessionId targetFingerprint idempotencyKey : String)
  expiresAt : Int
  proof : String
  deriving DecidableEq

structure AuthorizationContext where
  (method resourceScope commandId operationId targetSessionId targetFingerprint : String)
  idempotencyKey : String
  expiresAt : Int

inductive AuthorizationRejection where
  | denied | invalid | expired | replayed | scopeMismatch | verifierUnavailable
  deriving DecidableEq

inductive AuthorizationDecision where
  | authorized
  | rejected (rejection : AuthorizationRejection)
  deriving DecidableEq

def lengthPrefixed (value : String) : String := toString value.utf8ByteSize ++ ":" ++ value

/-- The fields that a proof signs, as text. -/
def AuthorizationReceipt.fields (receipt : AuthorizationReceipt) : List String :=
  [toString receipt.schemaVersion, receipt.authorizationId, receipt.issuer, receipt.issuerKeyId,
    receipt.audience, receipt.method, receipt.resourceScope, receipt.commandId, receipt.operationId,
    receipt.targetSessionId, receipt.targetFingerprint, receipt.idempotencyKey,
    toString receipt.expiresAt]

def canonicalPayload (receipt : AuthorizationReceipt) : String :=
  String.join (receipt.fields.map lengthPrefixed)

/-- What reading a proof comes to: slicing a string inside a character panics. -/
inductive HexProof where
  | decoded (bytes : List UInt8)
  | invalid
  | panics

def hexDigitValue (byte : UInt8) : Option UInt8 :=
  if 48 ≤ byte ∧ byte ≤ 57 then some (byte - 48)
  else if 65 ≤ byte ∧ byte ≤ 70 then some (byte - 55)
  else if 97 ≤ byte ∧ byte ≤ 102 then some (byte - 87)
  else none

/-- `u8::from_str_radix` of two bytes in base 16, which takes a leading plus. -/
def fromHexPair (high low : UInt8) : Option UInt8 :=
  if high = 43 then hexDigitValue low
  else do return (← hexDigitValue high) * 16 + (← hexDigitValue low)

/-- The next byte continues a character, so that a slice may not end before it. -/
def continues : List UInt8 → Bool
  | [] => false
  | byte :: _ => 128 ≤ byte && byte < 192

def decodeHexPairs : List UInt8 → HexProof
  | high :: low :: rest =>
    if continues rest then .panics
    else
      match fromHexPair high low with
      | none => .invalid
      | some byte =>
        match decodeHexPairs rest with
        | .decoded bytes => .decoded (byte :: bytes)
        | other => other
  | _ => .decoded []

def decodeHexProof (value : String) : HexProof :=
  if value.utf8ByteSize ≠ 64 then .invalid else decodeHexPairs value.toUTF8.data.toList

inductive ReplayGuardResult where
  | consumed | replayed | saturated | unavailable

/-- `InMemoryAuthorizationReplayGuard`: ids with their expiries. -/
structure ReplayGuard where
  capacity : Nat
  entries : SortedMap String Int
  deriving DecidableEq

namespace ReplayGuard

def consume (guard : ReplayGuard) (authorizationId : String) (expiresAt nowMs : Int) :
    ReplayGuardResult × ReplayGuard :=
  let authorizationId := trim authorizationId
  if authorizationId.isEmpty || 256 < authorizationId.utf8ByteSize then (.unavailable, guard)
  else
    let entries := guard.entries.retain fun _ entryExpiry => nowMs ≤ entryExpiry
    if (entries.get? authorizationId).isSome then (.replayed, { guard with entries })
    else if guard.capacity ≤ entries.size then (.saturated, { guard with entries })
    else (.consumed, { guard with entries := entries.insert authorizationId expiresAt })

end ReplayGuard

/-- HMAC with SHA-256: a key, where it is accepted, gives a function from
messages to tags. -/
abbrev Hmac : Type := List UInt8 → Option (ByteArray → List UInt8)

/-- `HmacAuthorizationVerifier`, as its constructor admits it. -/
structure AuthorizationVerifier where
  secret : List UInt8
  (issuer issuerKeyId audience : String)

namespace AuthorizationVerifier

def inScope (verifier : AuthorizationVerifier) (receipt : AuthorizationReceipt)
    (context : AuthorizationContext) : Bool :=
  receipt.schemaVersion == 1 && receipt.issuer == verifier.issuer &&
    receipt.issuerKeyId == verifier.issuerKeyId && receipt.audience == verifier.audience &&
    receipt.method == context.method && receipt.resourceScope == context.resourceScope &&
    receipt.commandId == context.commandId && receipt.operationId == context.operationId &&
    receipt.targetSessionId == context.targetSessionId &&
    receipt.targetFingerprint == context.targetFingerprint &&
    receipt.idempotencyKey == context.idempotencyKey && receipt.expiresAt == context.expiresAt

/-- Verifies a receipt at the time of its expiry check and the time of its
consumption; `none` is a panic. -/
def verify (hmac : Hmac) (verifier : AuthorizationVerifier) (receipt : AuthorizationReceipt)
    (context : AuthorizationContext) (nowMs consumedMs : Int) (guard : ReplayGuard) :
    Option AuthorizationDecision × ReplayGuard :=
  if !verifier.inScope receipt context then (some (.rejected .scopeMismatch), guard)
  else if receipt.expiresAt < nowMs then (some (.rejected .expired), guard)
  else
    match decodeHexProof receipt.proof with
    | .panics => (none, guard)
    | .invalid => (some (.rejected .invalid), guard)
    | .decoded proof =>
      match hmac verifier.secret with
      | none => (some (.rejected .verifierUnavailable), guard)
      | some mac =>
        if mac (canonicalPayload receipt).toUTF8 ≠ proof then (some (.rejected .invalid), guard)
        else
          match guard.consume receipt.authorizationId receipt.expiresAt consumedMs with
          | (.consumed, guard) => (some .authorized, guard)
          | (.replayed, guard) => (some (.rejected .replayed), guard)
          | (_, guard) => (some (.rejected .verifierUnavailable), guard)

end AuthorizationVerifier

end Knowbee
