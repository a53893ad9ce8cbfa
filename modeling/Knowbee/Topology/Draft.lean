import Knowbee.Topology.Gui

/-!
# The draft with its layout

The whole draft of `gui-operations.ts`: beside the topology it keeps where the nodes
are placed, the deletions that are pending and its revisions.  What it keeps beside the
log and the undone operations is made again from the log after each list of commands;
the validation only if an operation that moved between the two changes the structure.
-/

namespace Knowbee.Topology.Editor

structure GuiPosition where
  (x y : JsNumber)

structure GuiNodeLayout extends GuiPosition where
  collapsed : Option Bool

structure GuiViewport where
  (x y zoom : JsNumber)

/-- The places of the nodes.  A place that is given to `__proto__` becomes what the
record of the places inherits from. -/
structure GuiLayout where
  nodes : List (String × GuiNodeLayout)
  inherited : Option GuiNodeLayout
  viewport : Option GuiViewport

/-- A clone keeps what a record has of its own. -/
def cloneLayout (layout : GuiLayout) : GuiLayout := { layout with inherited := none }

def GuiLayout.place (layout : GuiLayout) (nodeId : String) (value : GuiNodeLayout) : GuiLayout :=
  if nodeId ∈ layout.nodes.map Prod.fst then
    { layout with
      nodes := layout.nodes.map fun entry => if entry.1 = nodeId then (nodeId, value) else entry }
  else if nodeId = "__proto__" then { layout with inherited := some value }
  else { layout with nodes := layout.nodes ++ [(nodeId, value)] }

/-- An operation with where it places its node; a move always does. -/
structure PlacedOperation where
  operation : GuiOperation
  position : Option GuiPosition
  collapsed : Option Bool
  placed : operation.isLayout = true → position.isSome = true

def PlacedOperation.arrange (placed : PlacedOperation) (layout : GuiLayout) : GuiLayout :=
  match placed.operation.action with
  | .createNode nodeId _ _ _ =>
    placed.position.elim layout fun position => layout.place nodeId ⟨position, none⟩
  | .moveNode nodeId =>
    placed.position.elim layout fun position => layout.place nodeId ⟨position, placed.collapsed⟩
  | _ => layout

def applyOperation (state : EnterpriseTopology × GuiLayout) (placed : PlacedOperation) :
    Except GuiOperationIssue (EnterpriseTopology × GuiLayout) := do
  let topology ← Topology.applyOperation state.1 placed.operation
  return (topology, placed.arrange state.2)

structure PendingDeletes where
  (nodeIds relationIds : List String)

/-- A status that is given and is not that of what is deleted. -/
def revives (status : Option EntityStatus) : Bool := status.any (· ≠ .archived)

/-- A turn of the loop of `collectPendingDeletes`. -/
def PendingDeletes.note (pending : PendingDeletes) (placed : PlacedOperation) : PendingDeletes :=
  match placed.operation.action with
  | .deleteNode nodeId => { pending with nodeIds := setAdd pending.nodeIds [nodeId] }
  | .deleteRelation relationId =>
    { pending with relationIds := setAdd pending.relationIds [relationId] }
  | .updateNode nodeId patch =>
    if revives patch.status then { pending with nodeIds := pending.nodeIds.filter (· ≠ nodeId) }
    else pending
  | .updateRelation relationId patch =>
    if revives patch.status then
      { pending with relationIds := pending.relationIds.filter (· ≠ relationId) }
    else pending
  | _ => pending

def collectPendingDeletes (topology : EnterpriseTopology) (operationLog : List PlacedOperation) :
    PendingDeletes :=
  let deleted := operationLog.foldl PendingDeletes.note ⟨[], []⟩
  { nodeIds := sortStrings (deleted.nodeIds.filter fun nodeId =>
      (findNode topology nodeId).any (·.status = .archived))
    relationIds := sortStrings (deleted.relationIds.filter fun relationId =>
      (findRelation topology relationId).any (·.status = .archived)) }

structure EnterpriseTopologyGuiDraft where
  (draftId topologyId : String)
  baseTopology : EnterpriseTopology
  baseLayout : GuiLayout
  topology : EnterpriseTopology
  layout : GuiLayout
  (operationLog redoStack : List PlacedOperation)
  pendingDeletes : PendingDeletes
  validation : TopologyValidationResult
  (revision structuralRevision layoutRevision : Nat)
  (createdAt updatedAt : Timestamp)

inductive GuiCommand where
  | operation (placed : PlacedOperation)
  | undo (time : Timestamp)
  | redo (time : Timestamp)

def GuiCommand.time : GuiCommand → Timestamp
  | .operation placed => placed.operation.time
  | .undo time => time
  | .redo time => time

structure EditLog where
  (operationLog redoStack : List PlacedOperation)

/-- What a command does to the log and the undone operations, with the operation that
it moves. -/
def EditLog.command (edits : EditLog) : GuiCommand → Except GuiOperationIssue (EditLog × PlacedOperation)
  | .undo _ =>
    match edits.operationLog.getLast? with
    | none => .error ⟨"$.op", .emptyUndoStack, "There is no GUI operation to undo."⟩
    | some last => .ok (⟨edits.operationLog.dropLast, edits.redoStack ++ [last]⟩, last)
  | .redo _ =>
    match edits.redoStack.getLast? with
    | none => .error ⟨"$.op", .emptyRedoStack, "There is no GUI operation to redo."⟩
    | some last => .ok (⟨edits.operationLog ++ [last], edits.redoStack.dropLast⟩, last)
  | .operation placed => .ok (⟨edits.operationLog ++ [placed], []⟩, placed)

/-- The variables of the loop over the commands. -/
structure CommandLog extends EditLog where
  (structuralChanged layoutChanged : Bool)

def CommandLog.command (log : CommandLog) (command : GuiCommand) :
    Except GuiOperationIssue CommandLog := do
  let (edits, moved) ← log.toEditLog.command command
  return {
    toEditLog := edits
    structuralChanged := log.structuralChanged || !moved.operation.isLayout
    layoutChanged := log.layoutChanged || moved.operation.isLayout }

variable (platform : Platform)

def replay (state : EnterpriseTopology × GuiLayout) (operationLog : List PlacedOperation) :
    Except GuiOperationIssue (EnterpriseTopology × GuiLayout) :=
  operationLog.foldlM applyOperation state

/-- A draft with what its log made. -/
def EnterpriseTopologyGuiDraft.rebuilt (draft : EnterpriseTopologyGuiDraft) (edits : EditLog)
    (state : EnterpriseTopology × GuiLayout) (structuralChanged : Bool) (updatedAt : Timestamp) :
    EnterpriseTopologyGuiDraft :=
  { draft with
    topology := state.1
    layout := state.2
    operationLog := edits.operationLog
    redoStack := edits.redoStack
    pendingDeletes := collectPendingDeletes state.1 edits.operationLog
    validation := if structuralChanged then validateTopology platform state.1 else draft.validation
    revision := edits.operationLog.length
    structuralRevision := edits.operationLog.countP (!·.operation.isLayout)
    layoutRevision := edits.operationLog.countP (·.operation.isLayout)
    updatedAt }

def rebuildDraftFromOperationLog (draft : EnterpriseTopologyGuiDraft) (edits : EditLog)
    (structuralChanged : Bool) (updatedAt : Timestamp) :
    Except GuiOperationIssue EnterpriseTopologyGuiDraft := do
  let state ← replay (draft.baseTopology, cloneLayout draft.baseLayout) edits.operationLog
  return draft.rebuilt platform edits state structuralChanged updatedAt

structure CreateDraftInput where
  topology : EnterpriseTopology
  draftId : Option String
  layout : Option GuiLayout
  now : Option Timestamp

def createEnterpriseTopologyGuiDraft (profile : NodeContract → MetadataValue)
    (input : CreateDraftInput) (clock : Timestamp) : EnterpriseTopologyGuiDraft :=
  let now := input.now.getD clock
  let baseTopology := (repairTopologyForPersistence profile input.topology).1
  let layout := input.layout.elim ⟨[], none, none⟩ cloneLayout
  { draftId := input.draftId.getD ("gui-draft:" ++ baseTopology.id)
    topologyId := baseTopology.id
    baseTopology
    baseLayout := cloneLayout layout
    topology := baseTopology
    layout
    operationLog := []
    redoStack := []
    pendingDeletes := ⟨[], []⟩
    validation := validateTopology platform baseTopology
    revision := 0
    structuralRevision := 0
    layoutRevision := 0
    createdAt := now
    updatedAt := now }

/-- The time a call is given, if any, and the one that the clock shows. -/
structure CallTime where
  now : Option Timestamp
  clock : Timestamp

structure ApplyResult where
  draft : EnterpriseTopologyGuiDraft
  applied : List GuiCommand
  (structuralChanged layoutChanged : Bool)

def applyEnterpriseTopologyGuiCommands (call : CallTime) (draft : EnterpriseTopologyGuiDraft)
    (commands : List GuiCommand) : Except GuiOperationIssue ApplyResult := do
  let log ← commands.foldlM CommandLog.command
    (⟨⟨draft.operationLog, draft.redoStack⟩, false, false⟩ : CommandLog)
  let updatedAt := (call.now <|> commands.getLast?.map GuiCommand.time).getD call.clock
  let draft ← rebuildDraftFromOperationLog platform draft log.toEditLog log.structuralChanged updatedAt
  return ⟨draft, commands, log.structuralChanged, log.layoutChanged⟩

/-- The draft an editor has in hand after it submits commands: its own where they are
rejected. -/
def submit (call : CallTime) (draft : EnterpriseTopologyGuiDraft) (commands : List GuiCommand) :
    EnterpriseTopologyGuiDraft :=
  match applyEnterpriseTopologyGuiCommands platform call draft commands with
  | .ok result => result.draft
  | .error _ => draft

/-- The drafts of an editor that was opened on a topology. -/
inductive Session (profile : NodeContract → MetadataValue) (input : CreateDraftInput)
    (clock : Timestamp) : EnterpriseTopologyGuiDraft → Prop
  | opened : Session profile input clock
      (createEnterpriseTopologyGuiDraft platform profile input clock)
  | submitted {draft : EnterpriseTopologyGuiDraft} (call : CallTime) (commands : List GuiCommand)
    (session : Session profile input clock draft) :
    Session profile input clock (submit platform call draft commands)

end Knowbee.Topology.Editor
