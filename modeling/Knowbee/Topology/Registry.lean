import Knowbee.Lib.Table
import Knowbee.Topology.Compiler
import Knowbee.Topology.Repair

/-!
# The registry of topologies

Five tables: the topologies with their active versions, the versions, the validations and the
compiled snapshots of the versions, and the history.  An operation reads, then writes in one
transaction, then reads its result back.
-/

namespace Knowbee.Topology

inductive RegistryStatus where
  | draft | active | inactive | archived

inductive HistoryEventType where
  | imported | versionAppended | activated | archived | rolledBack | activationBlocked
  | rollbackBlocked
  deriving DecidableEq

def HistoryEventType.text : HistoryEventType → String
  | .imported => "imported"
  | .versionAppended => "version_appended"
  | .activated => "activated"
  | .archived => "archived"
  | .rolledBack => "rolled_back"
  | .activationBlocked => "activation_blocked"
  | .rollbackBlocked => "rollback_blocked"

inductive ActivationReason where
  | topologyVersionNotFound | topologyValidationSnapshotMissing | topologyValidationBlocked
  | compiledSnapshotMissing | compiledSnapshotSourceMismatch

def ActivationReason.text : ActivationReason → String
  | .topologyVersionNotFound => "topology_version_not_found"
  | .topologyValidationSnapshotMissing => "topology_validation_snapshot_missing"
  | .topologyValidationBlocked => "topology_validation_blocked"
  | .compiledSnapshotMissing => "compiled_snapshot_missing"
  | .compiledSnapshotSourceMismatch => "compiled_snapshot_source_mismatch"

inductive ActivationIssue where
  | reason (code : ActivationReason)
  | validation (code : IssueCode)
  | compiledTopologyIdMismatch
  | compiledSourceVersionMismatch
  | compiledSourceHashMismatch

/-- The details of a history record, by what they are about. -/
inductive HistoryDetail where
  | appended (sourceHash : String) (executable : Bool) (issueCounts : List (Severity × Nat))
    (repairIssues : List TopologyRepairIssue) (importSource : Option String)
  | activated (previousActiveVersion : Option Int) (activeVersion : Int)
  | blocked (reasonCode : ActivationReason) (issues : List ActivationIssue)
  | archived (previousStatus : RegistryStatus)

variable {Clock : Type}

structure TopologyRow (Clock : Type) where
  (topologyId name : String)
  status : RegistryStatus
  activeVersion : Option Int
  activeVersionId : Option String
  metadata : Metadata
  (createdAt updatedAt : Clock)
  archivedAt : Option Clock

structure VersionRow (Clock : Type) where
  (versionId topologyId : String)
  version : Int
  topology : EnterpriseTopology
  (sourceHash validationSnapshotId : String)
  (compiledSnapshotId createdBy importSource : Option String)
  createdAt : Clock

structure ValidationRow (Clock : Type) where
  (snapshotId topologyId versionId : String)
  version : Int
  validation : TopologyValidationResult
  createdAt : Clock

structure CompiledRow (Clock : Type) where
  (snapshotId topologyId versionId : String)
  version : Int
  snapshot : CompiledTopologySnapshot
  createdAt : Clock

structure HistoryRow (Clock : Type) where
  (historyId topologyId : String)
  versionId : Option String := none
  eventType : HistoryEventType
  fromVersion : Option Int := none
  toVersion : Option Int := none
  validationSnapshotId : Option String := none
  compiledSnapshotId : Option String := none
  summary : String
  detail : HistoryDetail
  createdAt : Clock

/-- The primary key and the unique pair of a topology and a version. -/
def VersionRow.clash (row old : VersionRow Clock) : Bool :=
  row.versionId = old.versionId || (row.topologyId = old.topologyId && row.version = old.version)

def ValidationRow.clash (row old : ValidationRow Clock) : Bool :=
  row.snapshotId = old.snapshotId || (row.topologyId = old.topologyId && row.version = old.version)

def CompiledRow.clash (row old : CompiledRow Clock) : Bool :=
  row.snapshotId = old.snapshotId || (row.topologyId = old.topologyId && row.version = old.version)

def HistoryRow.clash (row old : HistoryRow Clock) : Bool := row.historyId = old.historyId

structure RegistryDb (Clock : Type) where
  topologies : List (TopologyRow Clock) := []
  versions : List (VersionRow Clock) := []
  validations : List (ValidationRow Clock) := []
  compiled : List (CompiledRow Clock) := []
  history : List (HistoryRow Clock) := []

/-- Hashes, and the profiles that a repair makes. -/
structure RegistryPlatform extends CompilerPlatform where
  hashText : String → String
  profile : NodeContract → MetadataValue

/-- What an operation finds around it: whether the migrations let it write, the
clock (nothing where its value is stored as null), and the time and the random id
of a history id. -/
structure Moment (Clock : Type) where
  writeAllowed : Bool
  now : Option Clock
  millis : Int
  uuid : String

inductive RegistryError where
  | migrationWriteRefused | notNull | unique | notFound

section Read

variable (db : RegistryDb Clock) (topologyId : String)

def getTopology : Option (TopologyRow Clock) := db.topologies.find? (·.topologyId = topologyId)

def getVersion (version : Int) : Option (VersionRow Clock) :=
  db.versions.find? fun row => row.topologyId = topologyId && row.version = version

def getValidationSnapshot (version : Int) : Option (ValidationRow Clock) :=
  db.validations.find? fun row => row.topologyId = topologyId && row.version = version

def getCompiledSnapshot (version : Int) : Option (CompiledRow Clock) :=
  db.compiled.find? fun row => row.topologyId = topologyId && row.version = version

def versionNumbers : List Int := (db.versions.filter (·.topologyId = topologyId)).map (·.version)

def nextVersion : Int := Table.nextNumber (versionNumbers db topologyId)

variable [LinearOrder Clock]

/-- Later records first, of the same time those with the greater id. -/
def HistoryRow.Precedes (first second : HistoryRow Clock) : Prop :=
  second.createdAt < first.createdAt ∨
    (second.createdAt = first.createdAt ∧ second.historyId ≤ first.historyId)

instance : DecidableRel (@HistoryRow.Precedes Clock _) := fun first second => by
  unfold HistoryRow.Precedes
  infer_instance

def listHistory : List (HistoryRow Clock) :=
  (db.history.filter (·.topologyId = topologyId)).insertionSort HistoryRow.Precedes

def required {α : Type} (found : Option α) : Except RegistryError α :=
  match found with
  | none => .error .notFound
  | some value => .ok value

end Read

def insertRow {Row : Type} (clash : Row → Row → Bool) (rows : List Row) (row : Row) :
    Except RegistryError (List Row) :=
  match Table.insert clash rows row with
  | none => .error .unique
  | some stored => .ok stored

def upsertTopologyRecord (db : RegistryDb Clock) (topology : EnterpriseTopology) (time : Clock) :
    RegistryDb Clock :=
  if (getTopology db topology.id).isNone then
    { db with topologies := db.topologies ++ [{
        topologyId := topology.id
        name := topology.name
        status := .draft
        activeVersion := none
        activeVersionId := none
        metadata := topology.metadata
        createdAt := time
        updatedAt := time
        archivedAt := none }] }
  else
    { db with topologies := db.topologies.map fun row =>
        if row.topologyId = topology.id then
          { row with name := topology.name, metadata := topology.metadata, updatedAt := time }
        else row }

def insertHistory (db : RegistryDb Clock) (row : HistoryRow Clock) :
    Except RegistryError (RegistryDb Clock) := do
  return { db with history := ← insertRow HistoryRow.clash db.history row }

section Ids

variable (platform : RegistryPlatform)

/-- `slice(0, length)`. -/
def sliceTo (text : String) (length : Nat) : String := String.ofList (text.toList.take length)

def buildTopologyVersionId (topologyId : String) (version : Int) : String :=
  s!"topology-version:{topologyId}:{version}"

def buildTopologyValidationSnapshotId (topologyId : String) (version : Int) (sourceHash : String) :
    String :=
  "topology-validation:" ++
    sliceTo (platform.hashText s!"{topologyId}|{version}|{sourceHash}") 16

def versionText : Option Int → String
  | none => "none"
  | some version => toString version

def buildTopologyHistoryId (eventType : HistoryEventType) (topologyId : String)
    (version : Option Int) (moment : Moment Clock) : String :=
  "topology-history:" ++ eventType.text ++ ":" ++ sliceTo (platform.hashText
    (topologyId ++ "|" ++ versionText version ++ "|" ++ toString moment.millis ++ "|" ++
      moment.uuid)) 18

def buildHistoryRecord (moment : Moment Clock) (row : HistoryRow Clock) : HistoryRow Clock :=
  { row with
    historyId := buildTopologyHistoryId platform row.eventType row.topologyId
      (row.toVersion <|> row.fromVersion) moment }

end Ids

structure AppendTopologyVersionInput where
  topology : EnterpriseTopology
  createdBy : Option String := none
  importSource : Option String := none

structure AppendTopologyVersionResult (Clock : Type) where
  topologyRecord : TopologyRow Clock
  version : VersionRow Clock
  validationSnapshot : ValidationRow Clock
  compiledSnapshot : Option (CompiledRow Clock)
  history : HistoryRow Clock

structure AppendedRows (Clock : Type) where
  topology : EnterpriseTopology
  version : VersionRow Clock
  validation : ValidationRow Clock
  compiled : Option (CompiledRow Clock)
  history : HistoryRow Clock

def issueCounts (validation : TopologyValidationResult) : List (Severity × Nat) :=
  [Severity.invalid, .blocked, .warning, .info].map fun severity =>
    (severity, validation.issues.countP (·.severity = severity))

def appendedRows (platform : RegistryPlatform) (db : RegistryDb Clock)
    (input : AppendTopologyVersionInput) (moment : Moment Clock) (time : Clock) :
    AppendedRows Clock :=
  let (topology, repairIssues) := repairTopologyForPersistence platform.profile input.topology
  let validation := validateTopology platform.toPlatform topology
  let version := nextVersion db topology.id
  let versionId := buildTopologyVersionId topology.id version
  let sourceHash := platform.computeTopologySourceHash topology
  let validationSnapshotId :=
    buildTopologyValidationSnapshotId platform topology.id version sourceHash
  let compiledSnapshot := if validation.executable then
      (compileTopology platform.toCompilerPlatform topology
        { sourceTopologyVersion := some (toString version) }).toOption
    else none
  let compiledSnapshotId := compiledSnapshot.map (·.compiledTopologySnapshotId)
  let eventType : HistoryEventType :=
    if input.importSource.isSome then .imported else .versionAppended
  { topology
    version :=
      { versionId
        topologyId := topology.id
        version
        topology
        sourceHash
        validationSnapshotId
        compiledSnapshotId
        createdBy := input.createdBy
        importSource := input.importSource
        createdAt := time }
    validation :=
      { snapshotId := validationSnapshotId
        topologyId := topology.id
        versionId
        version
        validation
        createdAt := time }
    compiled := compiledSnapshot.map fun snapshot =>
      { snapshotId := snapshot.compiledTopologySnapshotId
        topologyId := topology.id
        versionId
        version
        snapshot
        createdAt := time }
    history :=
      { historyId := buildTopologyHistoryId platform eventType topology.id (some version) moment
        topologyId := topology.id
        versionId := some versionId
        eventType
        toVersion := some version
        validationSnapshotId := some validationSnapshotId
        compiledSnapshotId
        summary := if eventType = .imported then s!"Imported topology version {version}."
          else s!"Appended topology version {version}."
        detail := .appended sourceHash validation.executable (issueCounts validation) repairIssues
          input.importSource
        createdAt := time } }

def insertCompiledSnapshot (rows : List (CompiledRow Clock)) :
    Option (CompiledRow Clock) → Except RegistryError (List (CompiledRow Clock))
  | none => .ok rows
  | some row => insertRow CompiledRow.clash rows row

/-- The transaction: all rows are stored, or none. -/
def storeVersion (db : RegistryDb Clock) (rows : AppendedRows Clock) (time : Clock) :
    Except RegistryError (RegistryDb Clock) := do
  let db := upsertTopologyRecord db rows.topology time
  let versions ← insertRow VersionRow.clash db.versions rows.version
  let validations ← insertRow ValidationRow.clash db.validations rows.validation
  let compiled ← insertCompiledSnapshot db.compiled rows.compiled
  insertHistory { db with versions, validations, compiled } rows.history

variable [LinearOrder Clock]

/-- What an append reads back: the first record of the history. -/
def readAppended (db : RegistryDb Clock) (rows : AppendedRows Clock) :
    Except RegistryError (AppendTopologyVersionResult Clock) := do
  let topologyId := rows.version.topologyId
  let version := rows.version.version
  return {
    topologyRecord := ← required (getTopology db topologyId)
    version := ← required (getVersion db topologyId version)
    validationSnapshot := ← required (getValidationSnapshot db topologyId version)
    compiledSnapshot := rows.compiled.bind fun _ => getCompiledSnapshot db topologyId version
    history := ← required (listHistory db topologyId).head? }

def appendTopologyVersion (platform : RegistryPlatform) (db : RegistryDb Clock)
    (input : AppendTopologyVersionInput) (moment : Moment Clock) :
    Except RegistryError (AppendTopologyVersionResult Clock) × RegistryDb Clock :=
  if moment.writeAllowed = false then (.error .migrationWriteRefused, db)
  else
    match moment.now with
    | none => (.error .notNull, db)
    | some time =>
      let rows := appendedRows platform db input moment time
      match storeVersion db rows time with
      | .error error => (.error error, db)
      | .ok stored => (readAppended stored rows, stored)

structure TopologyActivationBlocked (Clock : Type) where
  reasonCode : ActivationReason
  topologyId : String
  version : Int
  issues : List ActivationIssue
  history : Option (HistoryRow Clock) := none

structure TopologyActivationSuccess (Clock : Type) where
  topologyRecord : TopologyRow Clock
  version : VersionRow Clock
  validationSnapshot : ValidationRow Clock
  compiledSnapshot : CompiledRow Clock
  history : HistoryRow Clock

inductive TopologyActivationResult (Clock : Type) where
  | success (result : TopologyActivationSuccess Clock)
  | blocked (result : TopologyActivationBlocked Clock)

def describeCompiledSnapshotMismatch (snapshot : CompiledTopologySnapshot) (topologyId : String)
    (version : Int) (sourceHash : String) : List ActivationIssue :=
  (if snapshot.topologyId ≠ topologyId then [.compiledTopologyIdMismatch] else []) ++
    (if snapshot.sourceTopologyVersion ≠ toString version then [.compiledSourceVersionMismatch]
      else []) ++
    (if snapshot.sourceTopologyHash ≠ sourceHash then [.compiledSourceHashMismatch] else [])

def compiledSnapshotMatchesTopologyVersion (snapshot : CompiledTopologySnapshot)
    (topologyId : String) (version : Int) (sourceHash : String) : Bool :=
  snapshot.topologyId = topologyId && snapshot.sourceTopologyVersion = toString version &&
    snapshot.sourceTopologyHash = sourceHash

section Activate

variable (platform : RegistryPlatform) (db : RegistryDb Clock) (moment : Moment Clock)

def recordBlockedActivation (topologyId : String) (versionRecord : VersionRow Clock)
    (rollback : Bool) (reasonCode : ActivationReason) (issues : List ActivationIssue) :
    Except RegistryError (HistoryRow Clock) × RegistryDb Clock :=
  match moment.now with
  | none => (.error .notNull, db)
  | some time =>
    let history := buildHistoryRecord platform moment
      { historyId := ""
        topologyId
        versionId := some versionRecord.versionId
        eventType := if rollback then .rollbackBlocked else .activationBlocked
        fromVersion := (getTopology db topologyId).bind (·.activeVersion)
        toVersion := some versionRecord.version
        validationSnapshotId := some versionRecord.validationSnapshotId
        compiledSnapshotId := versionRecord.compiledSnapshotId
        summary := (if rollback then "Rollback" else "Activation") ++ " blocked: " ++
          reasonCode.text ++ "."
        detail := .blocked reasonCode issues
        createdAt := time }
    match insertHistory db history with
    | .error error => (.error error, db)
    | .ok stored => (.ok history, stored)

def blockedActivation (topologyId : String) (version : Int) (versionRecord : VersionRow Clock)
    (rollback : Bool) (reasonCode : ActivationReason) (issues : List ActivationIssue) :
    Except RegistryError (TopologyActivationResult Clock) × RegistryDb Clock :=
  (recordBlockedActivation platform db moment topologyId versionRecord rollback reasonCode
    issues).map (·.map fun history =>
      .blocked ⟨reasonCode, topologyId, version, issues, some history⟩) id

/-- The transaction of an activation that nothing blocks. -/
def storeActivation (topologyId : String) (version : Int) (versionRecord : VersionRow Clock)
    (history : HistoryRow Clock) (time : Clock) : Except RegistryError (RegistryDb Clock) :=
  insertHistory { db with topologies := db.topologies.map fun row =>
    if row.topologyId = topologyId then
      { row with
        status := .active
        activeVersion := some version
        activeVersionId := some versionRecord.versionId
        updatedAt := time
        archivedAt := none }
    else row } history

def passedActivation (topologyId : String) (version : Int) (versionRecord : VersionRow Clock)
    (validationSnapshot : ValidationRow Clock) (compiledSnapshot : CompiledRow Clock)
    (rollback : Bool) : Except RegistryError (TopologyActivationResult Clock) × RegistryDb Clock :=
  match moment.now with
  | none => (.error .notNull, db)
  | some time =>
    let previous := (getTopology db topologyId).bind (·.activeVersion)
    let history := buildHistoryRecord platform moment
      { historyId := ""
        topologyId
        versionId := some versionRecord.versionId
        eventType := if rollback then .rolledBack else .activated
        fromVersion := previous
        toVersion := some version
        validationSnapshotId := some validationSnapshot.snapshotId
        compiledSnapshotId := some compiledSnapshot.snapshotId
        summary := if rollback then s!"Rolled back topology to version {version}."
          else s!"Activated topology version {version}."
        detail := .activated previous version
        createdAt := time }
    match storeActivation db topologyId version versionRecord history time with
    | .error error => (.error error, db)
    | .ok stored => ((required (getTopology stored topologyId)).map fun topologyRecord =>
        .success
          { topologyRecord
            version := versionRecord
            validationSnapshot
            compiledSnapshot
            history }, stored)

def activateVersion (topologyId : String) (version : Int) (rollback : Bool) :
    Except RegistryError (TopologyActivationResult Clock) × RegistryDb Clock :=
  if moment.writeAllowed = false then (.error .migrationWriteRefused, db)
  else
    match getVersion db topologyId version with
    | none => (.ok (.blocked ⟨.topologyVersionNotFound, topologyId, version,
        [.reason .topologyVersionNotFound], none⟩), db)
    | some versionRecord =>
      match getValidationSnapshot db topologyId version with
      | none => blockedActivation platform db moment topologyId version versionRecord rollback
          .topologyValidationSnapshotMissing [.reason .topologyValidationSnapshotMissing]
      | some validationSnapshot =>
        if validationSnapshot.validation.executable = false then
          blockedActivation platform db moment topologyId version versionRecord rollback
            .topologyValidationBlocked
            ((validationSnapshot.validation.issues.filter fun issue =>
              isBlockingSeverity issue.severity).map fun issue => .validation issue.code)
        else
          match getCompiledSnapshot db topologyId version with
          | none => blockedActivation platform db moment topologyId version versionRecord rollback
              .compiledSnapshotMissing [.reason .compiledSnapshotMissing]
          | some compiledSnapshot =>
            if compiledSnapshotMatchesTopologyVersion compiledSnapshot.snapshot topologyId version
                versionRecord.sourceHash then
              passedActivation platform db moment topologyId version versionRecord
                validationSnapshot compiledSnapshot rollback
            else
              blockedActivation platform db moment topologyId version versionRecord rollback
                .compiledSnapshotSourceMismatch
                (describeCompiledSnapshotMismatch compiledSnapshot.snapshot topologyId version
                  versionRecord.sourceHash)

def storeArchive (topologyId : String) (history : HistoryRow Clock) (time : Clock) :
    Except RegistryError (RegistryDb Clock) :=
  insertHistory { db with topologies := db.topologies.map fun row =>
    if row.topologyId = topologyId then
      { row with status := .archived, updatedAt := time, archivedAt := some time }
    else row } history

def archiveTopology (topologyId : String) :
    Except RegistryError (Option (HistoryRow Clock)) × RegistryDb Clock :=
  if moment.writeAllowed = false then (.error .migrationWriteRefused, db)
  else
    match getTopology db topologyId with
    | none => (.ok none, db)
    | some current =>
      match moment.now with
      | none => (.error .notNull, db)
      | some time =>
        let history := buildHistoryRecord platform moment
          { historyId := ""
            topologyId
            versionId := current.activeVersionId
            eventType := .archived
            fromVersion := current.activeVersion
            summary := "Archived enterprise topology."
            detail := .archived current.status
            createdAt := time }
        match storeArchive db topologyId history time with
        | .error error => (.error error, db)
        | .ok stored => (.ok (some history), stored)

end Activate

inductive RegistryOperation where
  | append (input : AppendTopologyVersionInput)
  | activate (topologyId : String) (version : Int)
  | rollback (topologyId : String) (targetVersion : Int)
  | archive (topologyId : String)

inductive RegistryResult (Clock : Type) where
  | appended (result : AppendTopologyVersionResult Clock)
  | activation (result : TopologyActivationResult Clock)
  | archived (history : Option (HistoryRow Clock))

def RegistryResult.history : RegistryResult Clock → Option (HistoryRow Clock)
  | .appended result => some result.history
  | .activation (.success result) => some result.history
  | .activation (.blocked result) => result.history
  | .archived history => history

def perform (platform : RegistryPlatform) (db : RegistryDb Clock) (moment : Moment Clock) :
    RegistryOperation → Except RegistryError (RegistryResult Clock) × RegistryDb Clock
  | .append input => (appendTopologyVersion platform db input moment).map (·.map .appended) id
  | .activate topologyId version =>
    (activateVersion platform db moment topologyId version false).map (·.map .activation) id
  | .rollback topologyId targetVersion =>
    (activateVersion platform db moment topologyId targetVersion true).map (·.map .activation) id
  | .archive topologyId => (archiveTopology platform db moment topologyId).map (·.map .archived) id

/-- The tables after a sequence of operations. -/
inductive RegistryRun (platform : RegistryPlatform) : RegistryDb Clock → Prop
  | opened : RegistryRun platform {}
  | operation {db : RegistryDb Clock} (run : RegistryRun platform db) (moment : Moment Clock)
    (operation : RegistryOperation) : RegistryRun platform (perform platform db moment operation).2

end Knowbee.Topology
