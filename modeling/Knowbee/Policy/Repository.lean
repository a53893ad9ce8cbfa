import Knowbee.Lib.RecordStore
import Knowbee.Policy.Permission

/-!
# The policy repository

`policy_repository.rs`: the durable single writer of the local capture policy of one target.
-/

namespace Knowbee

open CasStore

def policyRecordSchemaVersion : Nat := 1

def maxPolicyRecordBytes : Nat := 8 * 1024

inductive PolicyRepositoryBootstrapError where
  | invalidCapacity | corrupt | unsupportedVersion | wrongTarget | invalidHistory | saturated
  | unavailable

inductive PolicyRepositoryResult where
  | applied (revision : Nat)
  | unchanged (revision : Nat)
  | revisionConflict (expectedRevision currentRevision : Nat)
  | rejected (reason : PolicyRejectReason)
  | historyNotFound
  | saturated
  | storageConflict
  | unavailable

inductive PolicyAdminWriteResult where
  | policy (result : PolicyRepositoryResult)
  | replayed

/-! ## Audit records -/

structure PolicyAdminBindings where
  (authorizationDigest requesterDigest targetDigest sessionDigest targetFingerprint : String)
  nonceDigest : String
  expiresAt : Int

/-- The part of `PolicyAdminAuditRecord::validate` that concerns the bindings. -/
def PolicyAdminBindings.validate (bindings : PolicyAdminBindings) : Bool :=
  [bindings.authorizationDigest, bindings.requesterDigest, bindings.targetDigest,
    bindings.sessionDigest, bindings.targetFingerprint, bindings.nonceDigest].all isSha256Digest &&
    0 < bindings.expiresAt

/-- Evidence as its constructor builds it, with digests throughout. -/
structure PolicyAdminAuditEvidence extends PolicyAdminBindings where
  valid : toPolicyAdminBindings.validate = true

def PolicyAdminAuditEvidence.new (sha256 : Sha256)
    (authorizationId requesterId targetInstanceId targetSessionId targetFingerprint nonce : String)
    (expiresAt : Int) : Option PolicyAdminAuditEvidence :=
  if checked : [authorizationId, requesterId, targetInstanceId, targetSessionId, nonce].all
        isBoundedIdentity = true ∧ isSha256Digest targetFingerprint = true ∧ 0 < expiresAt then
    some {
      authorizationDigest := sha256.ofText authorizationId
      requesterDigest := sha256.ofText requesterId
      targetDigest := sha256.ofText targetInstanceId
      sessionDigest := sha256.ofText targetSessionId
      targetFingerprint
      nonceDigest := sha256.ofText nonce
      expiresAt
      valid := by
        simp [PolicyAdminBindings.validate, Sha256.ofText, checked.2.1, checked.2.2]
    }
  else none

inductive PolicyAdminAuditAction where
  | update | rollback | localSetup

inductive PolicyAdminAuditOutcome where
  | applied | unchanged | revisionConflict | rejected
  deriving DecidableEq

def PolicyAdminAuditOutcome.fromRepositoryResult :
    PolicyRepositoryResult → PolicyAdminAuditOutcome
  | .applied _ => .applied
  | .unchanged _ => .unchanged
  | .revisionConflict _ _ => .revisionConflict
  | .rejected _ => .rejected
  | .historyNotFound => .rejected
  | .saturated => .rejected
  | .storageConflict => .rejected
  | .unavailable => .rejected

structure PolicyAdminAuditRecord extends PolicyAdminBindings where
  action : PolicyAdminAuditAction
  outcome : PolicyAdminAuditOutcome
  (previousRevision resultingRevision : Nat)

def u64SaturatingAdd (left right : Nat) : Nat := min (left + right) u64Max

def PolicyAdminAuditRecord.validate (audit : PolicyAdminAuditRecord) : Bool :=
  audit.toPolicyAdminBindings.validate && audit.previousRevision ≤ audit.resultingRevision &&
    (audit.outcome ≠ .applied ||
      audit.resultingRevision = u64SaturatingAdd audit.previousRevision 1)

/-! ## Records -/

/-- The JSON object of a snapshot.  The wire forms of an entry name the cases of
the values themselves. -/
structure PolicySnapshotWire where
  (schemaVersion policySchemaVersion : Nat)
  targetInstanceId : String
  revision : Nat
  (camera screen : PolicyEntry)

structure PolicyAdminAuditWire extends PolicyAdminAuditRecord where
  schemaVersion : Nat
  recordKind : String

inductive PolicyWire where
  | snapshot (wire : PolicySnapshotWire)
  | adminAudit (wire : PolicyAdminAuditWire)

def PolicyWire.recordKind : PolicyWire → Option String
  | .snapshot _ => none
  | .adminAudit wire => some wire.recordKind

def PolicyWire.schemaVersion : PolicyWire → Nat
  | .snapshot wire => wire.schemaVersion
  | .adminAudit wire => wire.schemaVersion

/-- The JSON of a record, with the kind probe and the version probe. -/
structure PolicyCodec (Raw : Type) extends
    ProbedCodec PolicyWire Raw Nat PolicyWire.schemaVersion where
  kind : Raw → Option (Option String)
  kind_print {wire : PolicyWire} {raw : Raw} : print wire = some raw →
    kind raw = some wire.recordKind

/-- The codec that keeps the wire value itself. -/
def PolicyCodec.plain : PolicyCodec PolicyWire where
  toProbedCodec := .plain PolicyWire.schemaVersion
  kind := fun wire => some wire.recordKind
  kind_print := fun same => Option.some.inj same ▸ rfl

inductive DecodedRecord where
  | snapshot (snapshot : PermissionPolicySnapshot)
  | adminAudit (audit : PolicyAdminAuditRecord)

abbrev PolicyHistory : Type := SortedMap Nat PermissionPolicySnapshot

abbrev PolicyAudits : Type := SortedMap String PolicyAdminAuditRecord

/-- The `RepositoryState` besides the storage revision. -/
structure PolicyRecords where
  current : PermissionPolicySnapshot
  history : PolicyHistory
  audits : PolicyAudits

namespace DurablePermissionPolicyRepository

variable {Raw : Type}

def adminAuditKind : String := "admin_audit"

variable (codec : PolicyCodec Raw)

def encodeWire (wire : PolicyWire) : Option Raw := do
  let encoded ← codec.print wire
  if codec.length encoded ≤ maxPolicyRecordBytes then some encoded else none

def encodeSnapshot (snapshot : PermissionPolicySnapshot) : Option Raw :=
  encodeWire codec (.snapshot {
    schemaVersion := policyRecordSchemaVersion
    policySchemaVersion := snapshot.schemaVersion
    targetInstanceId := snapshot.targetInstanceId
    revision := snapshot.revision
    camera := snapshot.entry .cameraCapture
    screen := snapshot.entry .screenCapture
  })

def encodeAudit (audit : PolicyAdminAuditRecord) : Option Raw :=
  encodeWire codec (.adminAudit {
    toPolicyAdminAuditRecord := audit
    schemaVersion := policyRecordSchemaVersion
    recordKind := adminAuditKind
  })

def encodeRecords (codec : PolicyCodec Raw) (records : PolicyRecords) : Option (List Raw) := do
  let snapshots ← RecordStore.encodeRecords (encodeSnapshot codec) records.history
  let audits ← RecordStore.encodeRecords (encodeAudit codec) records.audits
  return snapshots ++ audits

def decodeSnapshot (encoded : Raw) :
    Except PolicyRepositoryBootstrapError PermissionPolicySnapshot :=
  if maxPolicyRecordBytes < codec.length encoded then .error .corrupt
  else
    match codec.probe encoded with
    | none => .error .corrupt
    | some schemaVersion =>
      if schemaVersion ≠ policyRecordSchemaVersion then .error .unsupportedVersion
      else
        match codec.parse encoded with
        | some (.snapshot wire) =>
          if wire.policySchemaVersion ≠ permissionPolicySchemaVersion then
            .error .unsupportedVersion
          else
            (PermissionPolicySnapshot.restore wire.targetInstanceId wire.revision wire.camera
              wire.screen).mapError fun _ => .corrupt
        | _ => .error .corrupt

def decodeAudit (encoded : Raw) : Except PolicyRepositoryBootstrapError PolicyAdminAuditRecord :=
  match codec.probe encoded with
  | none => .error .corrupt
  | some schemaVersion =>
    if schemaVersion ≠ policyRecordSchemaVersion then .error .unsupportedVersion
    else
      match codec.parse encoded with
      | some (.adminAudit wire) =>
        if wire.recordKind ≠ adminAuditKind then .error .corrupt
        else
          if wire.toPolicyAdminAuditRecord.validate = true then .ok wire.toPolicyAdminAuditRecord
          else .error .corrupt
      | _ => .error .corrupt

def decodeRecord (encoded : Raw) : Except PolicyRepositoryBootstrapError DecodedRecord :=
  if maxPolicyRecordBytes < codec.length encoded then .error .corrupt
  else
    match codec.kind encoded with
    | none => .error .corrupt
    | some none => (decodeSnapshot codec encoded).map .snapshot
    | some (some kind) =>
      if kind = adminAuditKind then (decodeAudit codec encoded).map .adminAudit
      else .error .corrupt

/-! ## Bootstrap -/

variable (sha256 : Sha256) (target : String) (history : PolicyHistory)

/-- One round of the loop of `bootstrap`. -/
def placeRecord (audits : PolicyAudits) :
    DecodedRecord → Except PolicyRepositoryBootstrapError (PolicyHistory × PolicyAudits)
  | .snapshot snapshot =>
    if snapshot.targetInstanceId ≠ target then .error .wrongTarget
    else if (history.get? snapshot.revision).isSome then .error .invalidHistory
    else .ok (history.insert snapshot.revision snapshot, audits)
  | .adminAudit audit =>
    if audit.targetDigest ≠ sha256.ofText target then .error .wrongTarget
    else if (audits.get? audit.nonceDigest).isSome then .error .invalidHistory
    else .ok (history, audits.insert audit.nonceDigest audit)

def loadRecords (codec : PolicyCodec Raw) (sha256 : Sha256) (target : String) :
    List Raw → PolicyHistory → PolicyAudits →
      Except PolicyRepositoryBootstrapError (PolicyHistory × PolicyAudits)
  | [], history, audits => .ok (history, audits)
  | raw :: rest, history, audits => do
    let record ← decodeRecord codec raw
    let (history, audits) ← placeRecord sha256 target history audits record
    loadRecords codec sha256 target rest history audits

def validateHistory :
    List (Nat × PermissionPolicySnapshot) → Nat → Except PolicyRepositoryBootstrapError Unit
  | [], _ => .ok ()
  | (revision, snapshot) :: rest, expected =>
    if revision ≠ expected ∨ snapshot.revision ≠ revision then .error .invalidHistory
    else
      match u64CheckedAdd expected 1 with
      | none => .error .invalidHistory
      | some expected => validateHistory rest expected

/-- `last_key_value`, as its snapshot. -/
def lastSnapshot : Option PermissionPolicySnapshot :=
  history.entries.getLast?.map Prod.snd

def currentOf : Except PolicyRepositoryBootstrapError PermissionPolicySnapshot :=
  if history.entries.isEmpty then
    (PermissionPolicySnapshot.new target).mapError fun _ => .wrongTarget
  else do
    validateHistory history.entries 0
    match lastSnapshot history with
    | some snapshot => .ok snapshot
    | none => .error .invalidHistory

def bootErrors : RecordStore.BootErrors PolicyRepositoryBootstrapError :=
  ⟨.invalidCapacity, .invalidHistory, .saturated, .unavailable⟩

def bootstrap (capacity : Nat) (read : Read Raw) :
    Except PolicyRepositoryBootstrapError (Cache PolicyRecords) := do
  if capacity < 2 ∨ u32Max < capacity then throw .invalidCapacity
  else
    let (revision, raws) ← RecordStore.contents bootErrors read
    if capacity < raws.length then throw .saturated
    else
      let (history, audits) ← loadRecords codec sha256 target raws .empty .empty
      let current ← currentOf target history
      return ⟨revision, ⟨current, history, audits⟩⟩

/-! ## Calls -/

def withCurrent (records : PolicyRecords) : PolicyHistory :=
  match records.history.get? records.current.revision with
  | some _ => records.history
  | none => records.history.insert records.current.revision records.current

def answer (written : PolicyRepositoryResult) : Committed → PolicyRepositoryResult
  | .written => written
  | .conflict => .storageConflict
  | .unavailable => .unavailable

variable (capacity : Nat)

def commitTransition (records : PolicyRecords) :
    PolicyTransition → Plan PolicyRecords PolicyRepositoryResult
  | .unchanged revision => .reply (.unchanged revision)
  | .revisionConflict expectedRevision currentRevision =>
    .reply (.revisionConflict expectedRevision currentRevision)
  | .rejected reason => .reply (.rejected reason)
  | .applied snapshot previousRevision =>
    let nextHistory := withCurrent records
    if capacity ≤ nextHistory.size + records.audits.size then .reply .saturated
    else if previousRevision ≠ records.current.revision ∨
        (nextHistory.get? snapshot.revision).isSome then
      .reply .unavailable
    else
      .commit { records with
        current := snapshot, history := nextHistory.insert snapshot.revision snapshot }
        (answer (.applied snapshot.revision))

def update (command : PolicyUpdateCommand) (records : PolicyRecords) :
    Plan PolicyRecords PolicyRepositoryResult :=
  commitTransition capacity records (applyPolicyUpdate records.current command)

def rollback (expectedCurrentRevision restoreRevision : Nat) (records : PolicyRecords) :
    Plan PolicyRecords PolicyRepositoryResult :=
  match records.history.get? restoreRevision with
  | none => .reply .historyNotFound
  | some historical =>
    commitTransition capacity records
      (rollbackPolicy records.current historical expectedCurrentRevision)

/-- The history and the current snapshot a request leaves, unless what it
applies does not follow. -/
def advance (records : PolicyRecords) :
    Option (PermissionPolicySnapshot × Nat) → Option (PolicyHistory × PermissionPolicySnapshot)
  | none => some (withCurrent records, records.current)
  | some (snapshot, previousRevision) =>
    if previousRevision ≠ records.current.revision ∨
        ((withCurrent records).get? snapshot.revision).isSome then
      none
    else some ((withCurrent records).insert snapshot.revision snapshot, snapshot)

def commitAdminResult (records : PolicyRecords) (result : PolicyRepositoryResult)
    (applied : Option (PermissionPolicySnapshot × Nat)) (evidence : PolicyAdminAuditEvidence)
    (action : PolicyAdminAuditAction) : Plan PolicyRecords PolicyAdminWriteResult :=
  match advance records applied with
  | none => .reply (.policy .unavailable)
  | some (nextHistory, nextCurrent) =>
    let audit : PolicyAdminAuditRecord := {
      toPolicyAdminBindings := evidence.toPolicyAdminBindings
      action
      outcome := .fromRepositoryResult result
      previousRevision := records.current.revision
      resultingRevision := nextCurrent.revision
    }
    if (records.audits.get? evidence.nonceDigest).isSome then .reply .replayed
    else
      let nextAudits := records.audits.insert evidence.nonceDigest audit
      if capacity < nextHistory.size + nextAudits.size then .reply (.policy .saturated)
      else
        .commit ⟨nextCurrent, nextHistory, nextAudits⟩
          (fun committed => .policy (answer result committed))

def commitAdminTransition (records : PolicyRecords) (evidence : PolicyAdminAuditEvidence)
    (action : PolicyAdminAuditAction) : PolicyTransition → Plan PolicyRecords PolicyAdminWriteResult
  | .applied snapshot previousRevision =>
    commitAdminResult capacity records (.applied snapshot.revision)
      (some (snapshot, previousRevision)) evidence action
  | .unchanged revision =>
    commitAdminResult capacity records (.unchanged revision) none evidence action
  | .revisionConflict expectedRevision currentRevision =>
    commitAdminResult capacity records (.revisionConflict expectedRevision currentRevision) none
      evidence action
  | .rejected reason => commitAdminResult capacity records (.rejected reason) none evidence action

def updateAdmin (command : PolicyUpdateCommand) (evidence : PolicyAdminAuditEvidence)
    (records : PolicyRecords) : Plan PolicyRecords PolicyAdminWriteResult :=
  if (records.audits.get? evidence.nonceDigest).isSome then .reply .replayed
  else
    commitAdminTransition capacity records evidence .update
      (applyPolicyUpdate records.current command)

def rollbackAdmin (expectedCurrentRevision restoreRevision : Nat)
    (evidence : PolicyAdminAuditEvidence) (records : PolicyRecords) :
    Plan PolicyRecords PolicyAdminWriteResult :=
  if (records.audits.get? evidence.nonceDigest).isSome then .reply .replayed
  else
    match records.history.get? restoreRevision with
    | none => commitAdminResult capacity records .historyNotFound none evidence .rollback
    | some historical =>
      commitAdminTransition capacity records evidence .rollback
        (rollbackPolicy records.current historical expectedCurrentRevision)

def i64Max : Int := 2 ^ 63 - 1

/-- The evidence `setup_capture` makes up for a local change. -/
def setupEvidence (command : CapturePolicySetupCommand) (changeId : String) :
    Option PolicyAdminAuditEvidence :=
  PolicyAdminAuditEvidence.new sha256 "local-policy-setup" "local-ui" command.targetInstanceId "local-session"
    (sha256.ofText command.targetInstanceId) changeId i64Max

def setupCapture (capacity : Nat) (command : CapturePolicySetupCommand) (changeId : String)
    (records : PolicyRecords) : Plan PolicyRecords PolicyAdminWriteResult :=
  match setupEvidence sha256 command changeId with
  | none => .reply (.policy .unavailable)
  | some evidence =>
    if (records.audits.get? evidence.nonceDigest).isSome then .reply .replayed
    else
      match applyCapturePolicySetup records.current command with
      | .unchanged revision => .reply (.policy (.unchanged revision))
      | transition => commitAdminTransition capacity records evidence .localSetup transition

inductive Call where
  | snapshot
  | update (command : PolicyUpdateCommand)
  | rollback (expectedCurrentRevision restoreRevision : Nat)
  | updateAdmin (command : PolicyUpdateCommand) (evidence : PolicyAdminAuditEvidence)
  | rollbackAdmin (expectedCurrentRevision restoreRevision : Nat)
      (evidence : PolicyAdminAuditEvidence)
  | setupCapture (command : CapturePolicySetupCommand) (changeId : String)

inductive Answer where
  | snapshot (current : PermissionPolicySnapshot)
  | result (result : PolicyRepositoryResult)
  | adminResult (result : PolicyAdminWriteResult)

def plan (capacity : Nat) (call : Call) (records : PolicyRecords) : Plan PolicyRecords Answer :=
  match call with
  | .snapshot => .reply (.snapshot records.current)
  | .update command => (update capacity command records).map .result
  | .rollback expectedCurrentRevision restoreRevision =>
    (rollback capacity expectedCurrentRevision restoreRevision records).map .result
  | .updateAdmin command evidence =>
    (updateAdmin capacity command evidence records).map .adminResult
  | .rollbackAdmin expectedCurrentRevision restoreRevision evidence =>
    (rollbackAdmin capacity expectedCurrentRevision restoreRevision evidence records).map
      .adminResult
  | .setupCapture command changeId =>
    (setupCapture sha256 capacity command changeId records).map .adminResult

/-- `DurablePermissionPolicyRepository` of one target over a storage of raw
records. -/
def repository (capacity : Nat) :
    Repository Raw PolicyRecords Call Answer PolicyRepositoryBootstrapError where
  bootstrap := bootstrap codec sha256 target capacity
  recovery := fun _ => none
  encode := encodeRecords codec
  plan := plan sha256 capacity

end DurablePermissionPolicyRepository

end Knowbee
