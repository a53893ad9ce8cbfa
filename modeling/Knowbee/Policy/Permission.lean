import Knowbee.Rust

/-!
# Local capture policy

`permission_policy.rs`: the snapshots of the local policy of one target and the
pure transitions between them.  A snapshot carries the checks of its
constructors, so every transition leads to a snapshot that can be restored.
-/

namespace Knowbee

def permissionPolicySchemaVersion : Nat := 1

def maxPolicyIdentityBytes : Nat := 128

def isExactIdentity (value : String) : Bool :=
  !value.isEmpty && value.utf8ByteSize ≤ maxPolicyIdentityBytes &&
    value.toList.all fun c => isLowercaseAlphanumeric c || c == '-' || c == '_'

/-- `is_bounded_non_blank` of the policy module, which refuses control
characters too. -/
def isPolicyResourceId (value : String) : Bool :=
  isBoundedNonBlank value maxPolicyIdentityBytes && !value.toList.any isControl

inductive PolicyCapability where
  | cameraCapture
  | screenCapture

inductive PolicyDecision where
  | allowed
  | denied
  deriving DecidableEq

inductive PolicyResourceConstraint where
  | any
  | exactCamera (resourceId : String)
  | exactDisplay (resourceId : String)
  deriving DecidableEq

def PolicyResourceConstraint.isValidFor (resource : PolicyResourceConstraint)
    (capability : PolicyCapability) : Bool :=
  match capability, resource with
  | _, .any => true
  | .cameraCapture, .exactCamera resourceId => isPolicyResourceId resourceId
  | .screenCapture, .exactDisplay resourceId => isPolicyResourceId resourceId
  | _, _ => false

structure PolicyEntry where
  decision : PolicyDecision
  resource : PolicyResourceConstraint
  deriving DecidableEq

/-- A snapshot as its constructors build it: an entry for each of the two
capabilities, each with a resource that fits. -/
structure PermissionPolicySnapshot where
  schemaVersion : Nat
  targetInstanceId : String
  revision : Nat
  (camera screen : PolicyEntry)
  version : schemaVersion = permissionPolicySchemaVersion
  target : isExactIdentity targetInstanceId = true
  fits : camera.resource.isValidFor .cameraCapture = true ∧
    screen.resource.isValidFor .screenCapture = true

inductive PolicyStateError where
  | invalidTarget
  | invalidResourceConstraint

def defaultEntry : PolicyEntry where
  decision := .denied
  resource := .any

namespace PermissionPolicySnapshot

def new (targetInstanceId : String) : Except PolicyStateError PermissionPolicySnapshot :=
  if target : isExactIdentity targetInstanceId = true then
    .ok {
      schemaVersion := permissionPolicySchemaVersion
      targetInstanceId
      revision := 0
      camera := defaultEntry
      screen := defaultEntry
      version := rfl
      target
      fits := ⟨rfl, rfl⟩
    }
  else .error .invalidTarget

def entry (snapshot : PermissionPolicySnapshot) : PolicyCapability → PolicyEntry
  | .cameraCapture => snapshot.camera
  | .screenCapture => snapshot.screen

def restore (targetInstanceId : String) (revision : Nat) (camera screen : PolicyEntry) :
    Except PolicyStateError PermissionPolicySnapshot :=
  if target : isExactIdentity targetInstanceId = true then
    if fits : camera.resource.isValidFor .cameraCapture = true ∧
        screen.resource.isValidFor .screenCapture = true then
      .ok {
        schemaVersion := permissionPolicySchemaVersion
        targetInstanceId, revision, camera, screen, version := rfl, target, fits
      }
    else .error .invalidResourceConstraint
  else .error .invalidTarget

lemma restore_self (snapshot : PermissionPolicySnapshot) :
    restore snapshot.targetInstanceId snapshot.revision snapshot.camera snapshot.screen =
      .ok snapshot := by
  obtain ⟨schemaVersion, targetInstanceId, revision, camera, screen, version, target, fits⟩ :=
    snapshot
  subst version
  simp only [restore, dif_pos target, dif_pos fits]

def setEntry (snapshot : PermissionPolicySnapshot) (capability : PolicyCapability)
    (entry : PolicyEntry) (valid : entry.resource.isValidFor capability = true) :
    PermissionPolicySnapshot :=
  match capability, valid with
  | .cameraCapture, valid => { snapshot with camera := entry, fits := ⟨valid, snapshot.fits.2⟩ }
  | .screenCapture, valid => { snapshot with screen := entry, fits := ⟨snapshot.fits.1, valid⟩ }

section

variable (snapshot : PermissionPolicySnapshot) (capability : PolicyCapability)
  (entry : PolicyEntry) (valid : entry.resource.isValidFor capability = true)

@[simp] lemma setEntry_targetInstanceId :
    (snapshot.setEntry capability entry valid).targetInstanceId = snapshot.targetInstanceId := by
  cases capability <;> rfl

@[simp] lemma setEntry_revision :
    (snapshot.setEntry capability entry valid).revision = snapshot.revision := by
  cases capability <;> rfl

end

end PermissionPolicySnapshot

/-- A command as `PolicyUpdateCommand::new` builds it. -/
structure PolicyUpdateCommand where
  targetInstanceId : String
  expectedRevision : Nat
  capability : PolicyCapability
  decision : PolicyDecision
  resource : PolicyResourceConstraint
  target : isExactIdentity targetInstanceId = true
  fits : resource.isValidFor capability = true

/-- A command as `CapturePolicySetupCommand::new` builds it. -/
structure CapturePolicySetupCommand where
  targetInstanceId : String
  expectedRevision : Nat
  (camera screen : PolicyEntry)
  target : isExactIdentity targetInstanceId = true
  fits : camera.resource.isValidFor .cameraCapture = true ∧
    screen.resource.isValidFor .screenCapture = true

inductive PolicyRejectReason where
  | wrongTarget | notHistorical | revisionOverflow | invalidState

inductive PolicyTransition where
  | applied (snapshot : PermissionPolicySnapshot) (previousRevision : Nat)
  | unchanged (revision : Nat)
  | revisionConflict (expectedRevision currentRevision : Nat)
  | rejected (reason : PolicyRejectReason)

def applyPolicyUpdate (current : PermissionPolicySnapshot) (command : PolicyUpdateCommand) :
    PolicyTransition :=
  if current.targetInstanceId ≠ command.targetInstanceId then .rejected .wrongTarget
  else if current.revision ≠ command.expectedRevision then
    .revisionConflict command.expectedRevision current.revision
  else if fits : current.schemaVersion = permissionPolicySchemaVersion ∧
      command.resource.isValidFor command.capability = true then
    let existing := current.entry command.capability
    if existing.decision = command.decision ∧ existing.resource = command.resource then
      .unchanged current.revision
    else
      match u64CheckedAdd current.revision 1 with
      | none => .rejected .revisionOverflow
      | some nextRevision =>
        let next := { current with revision := nextRevision }
        .applied (next.setEntry command.capability ⟨command.decision, command.resource⟩ fits.2)
          current.revision
  else .rejected .invalidState

def applyCapturePolicySetup (current : PermissionPolicySnapshot)
    (command : CapturePolicySetupCommand) : PolicyTransition :=
  if current.targetInstanceId ≠ command.targetInstanceId then .rejected .wrongTarget
  else if current.revision ≠ command.expectedRevision then
    .revisionConflict command.expectedRevision current.revision
  else if current.schemaVersion ≠ permissionPolicySchemaVersion then .rejected .invalidState
  else if current.entry .cameraCapture = command.camera ∧
      current.entry .screenCapture = command.screen then
    .unchanged current.revision
  else
    match u64CheckedAdd current.revision 1 with
    | none => .rejected .revisionOverflow
    | some revision =>
      .applied { current with
        revision, camera := command.camera, screen := command.screen, fits := command.fits }
        current.revision

def rollbackPolicy (current historical : PermissionPolicySnapshot)
    (expectedCurrentRevision : Nat) : PolicyTransition :=
  if current.targetInstanceId ≠ historical.targetInstanceId then .rejected .wrongTarget
  else if current.revision ≠ expectedCurrentRevision then
    .revisionConflict expectedCurrentRevision current.revision
  else if current.revision ≤ historical.revision then .rejected .notHistorical
  else if current.schemaVersion ≠ permissionPolicySchemaVersion ∨
      historical.schemaVersion ≠ permissionPolicySchemaVersion then
    .rejected .invalidState
  else
    match u64CheckedAdd current.revision 1 with
    | none => .rejected .revisionOverflow
    | some nextRevision => .applied { historical with revision := nextRevision } current.revision

/-- What an applied transition owes: the next revision of the same target. -/
structure Follows (current snapshot : PermissionPolicySnapshot) (previousRevision : Nat) :
    Prop where
  target : snapshot.targetInstanceId = current.targetInstanceId
  revision : snapshot.revision = current.revision + 1
  previous : previousRevision = current.revision
  word : current.revision + 1 ≤ u64Max

variable {current snapshot : PermissionPolicySnapshot} {previousRevision : Nat}

lemma applyPolicyUpdate_follows {command : PolicyUpdateCommand}
    (applied : applyPolicyUpdate current command = .applied snapshot previousRevision) :
    Follows current snapshot previousRevision := by
  unfold applyPolicyUpdate u64CheckedAdd at applied
  by_cases word : current.revision + 1 ≤ u64Max
  · simp only [if_pos word] at applied
    split_ifs at applied
    cases applied
    refine ⟨?_, ?_, rfl, word⟩
    · rw [PermissionPolicySnapshot.setEntry_targetInstanceId]
    · rw [PermissionPolicySnapshot.setEntry_revision]
  · simp only [if_neg word] at applied
    split_ifs at applied

lemma applyCapturePolicySetup_follows {command : CapturePolicySetupCommand}
    (applied : applyCapturePolicySetup current command = .applied snapshot previousRevision) :
    Follows current snapshot previousRevision := by
  unfold applyCapturePolicySetup u64CheckedAdd at applied
  by_cases word : current.revision + 1 ≤ u64Max
  · simp only [if_pos word] at applied
    split_ifs at applied
    cases applied
    exact ⟨rfl, rfl, rfl, word⟩
  · simp only [if_neg word] at applied
    split_ifs at applied

lemma rollbackPolicy_follows {historical : PermissionPolicySnapshot}
    {expectedCurrentRevision : Nat}
    (applied : rollbackPolicy current historical expectedCurrentRevision =
      .applied snapshot previousRevision) : Follows current snapshot previousRevision := by
  unfold rollbackPolicy u64CheckedAdd at applied
  by_cases word : current.revision + 1 ≤ u64Max
  · simp only [if_pos word] at applied
    split_ifs at applied with target
    cases applied
    exact ⟨(not_not.mp target).symm, rfl, rfl, word⟩
  · simp only [if_neg word] at applied
    split_ifs at applied

end Knowbee
