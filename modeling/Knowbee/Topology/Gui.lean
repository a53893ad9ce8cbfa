import Knowbee.Topology.EnterpriseRules
import Knowbee.Topology.Repair

/-!
# The draft of the editor

A draft keeps the topology it began with and a log of operations.  A command is an operation, or
takes the last operation off the log, or puts it back; after each list of commands the topology is
made again from the log.  An operation on a relation also changes what its node is allowed: its
children, its tools or its systems.
-/

namespace Knowbee.Topology

open List

inductive GuiIssueCode where
  | invalidGuiOperationPayload | duplicateNode | nodeNotFound | duplicateRelation | relationNotFound
  | emptyUndoStack | emptyRedoStack

structure GuiOperationIssue where
  path : String
  reasonCode : GuiIssueCode
  message : String

structure UpdateNodePatch where
  name : Option String := none
  nodeType : Option NodeType := none
  status : Option EntityStatus := none
  tags : Option (List String) := none
  children : Option (List String) := none
  template : Option NodeTemplateRef := none
  allowedToolIds : Option (List String) := none
  allowedSystemIds : Option (List String) := none
  owner : Option EntityRef := none
  failurePolicy : Option FailurePolicy := none
  recoveryPolicy : Option RecoveryPolicy := none

structure UpdateRelationPatch where
  relationType : Option RelationType := none
  source : Option EntityRef := none
  target : Option EntityRef := none
  name : Option String := none
  label : Option String := none
  status : Option EntityStatus := none

structure CreateRelation where
  relationId : String
  relationType : RelationType
  (source target : EntityRef)
  name : Option String := none
  label : Option String := none

inductive GuiAction where
  | createNode (nodeId : String) (name : Option String) (nodeType : Option NodeType)
    (templateId : Option String)
  | updateNode (nodeId : String) (patch : UpdateNodePatch)
  | moveNode (nodeId : String)
  | deleteNode (nodeId : String)
  | createRelation (relation : CreateRelation)
  | updateRelation (relationId : String) (patch : UpdateRelationPatch)
  | deleteRelation (relationId : String)

structure GuiOperation where
  operationId : String
  time : Timestamp
  action : GuiAction

inductive GuiCommand where
  | operation (operation : GuiOperation)
  | undo
  | redo

/-! ## Lookups and changes -/

/-- The values that are not blank, each once. -/
def uniqueValues (values : List String) : List String :=
  setAdd [] (values.filter fun value => jsTrim value ≠ "")

lemma mem_uniqueValues {value : String} {values : List String} :
    value ∈ uniqueValues values ↔ value ∈ values ∧ jsTrim value ≠ "" := by
  unfold uniqueValues
  rw [mem_setAdd, mem_filter, decide_eq_true_eq]
  exact or_iff_right not_mem_nil

def findNode (topology : EnterpriseTopology) (nodeId : String) : Option NodeContract :=
  topology.nodes.find? (·.id = nodeId)

def findRelation (topology : EnterpriseTopology) (relationId : String) :
    Option EnterpriseRelation :=
  topology.relations.find? (·.id = relationId)

def modifyFirst {α : Type} (test : α → Bool) (change : α → α) : List α → List α
  | [] => []
  | item :: rest => if test item then change item :: rest else item :: modifyFirst test change rest

section ModifyFirst

variable {α : Type} {test : α → Bool} {change : α → α} {items : List α}

lemma modifyFirst_eq_map {key : α → String} {wanted : String} (distinct : (items.map key).Nodup) :
    modifyFirst (key · = wanted) change items =
      items.map fun item => if key item = wanted then change item else item := by
  induction items with
  | nil => rfl
  | cons head rest ih =>
    obtain ⟨fresh, distinct⟩ := nodup_cons.mp distinct
    rw [modifyFirst, map_cons]
    by_cases own : key head = wanted
    · rw [if_pos (decide_eq_true own), if_pos own]
      refine congrArg (change head :: ·) ((List.map_id rest).symm.trans ?_)
      refine map_congr_left fun item member => (if_neg fun same => fresh ?_).symm
      exact own ▸ same ▸ mem_map_of_mem member
    · rw [if_neg (by simpa using own), if_neg own, ih distinct]

lemma modifyFirst_concat {last : α} (none : items.find? test = none) (found : test last = true) :
    modifyFirst test change (items ++ [last]) = items ++ [change last] := by
  induction items with
  | nil => exact if_pos found
  | cons head rest ih =>
    rw [find?_cons] at none
    split at none
    · cases none
    · rename_i other
      rw [cons_append, modifyFirst, if_neg (by simp [other]), ih none, cons_append]

lemma modifyFirst_perm {found : α} (first : items.find? test = some found) :
    (modifyFirst test change items).Perm (change found :: items.eraseP test) := by
  induction items with
  | nil => cases first
  | cons head rest ih =>
    rw [find?_cons] at first
    rw [modifyFirst, eraseP_cons]
    split at first
    · rename_i own
      cases first
      rw [if_pos own, own]
      exact .refl _
    · rename_i other
      rw [if_neg (by simp [other]), other]
      exact ((ih first).cons head).trans (.swap _ _ _)

lemma modifyFirst_id : modifyFirst test id items = items := by
  induction items with
  | nil => rfl
  | cons head rest ih =>
    rw [modifyFirst, ih]
    split_ifs <;> rfl

lemma modifyFirst_modifyFirst {next : α → α} (kept : ∀ item, test (change item) = test item) :
    modifyFirst test next (modifyFirst test change items) =
      modifyFirst test (next ∘ change) items := by
  induction items with
  | nil => rfl
  | cons head rest ih =>
    rw [modifyFirst, modifyFirst]
    by_cases own : test head = true
    · rw [if_pos own, if_pos own, modifyFirst, if_pos ((kept head).trans own)]
      rfl
    · rw [if_neg own, if_neg own, modifyFirst, if_neg own, ih]

/-- All items are as they were up to a reflexive relation exactly if the one that
was found is. -/
lemma forall₂_modifyFirst {R : α → α → Prop} (refl : ∀ item, R item item) :
    List.Forall₂ R items (modifyFirst test change items) ↔
      ∀ found, items.find? test = some found → R found (change found) := by
  induction items with
  | nil => simp [modifyFirst]
  | cons head rest ih =>
    rw [modifyFirst, find?_cons]
    by_cases own : test head = true
    · rw [if_pos own, own, forall₂_cons]
      refine ⟨?_, fun same => ⟨same head rfl, forall₂_same.mpr fun item _ => refl item⟩⟩
      rintro ⟨same, -⟩ found ⟨⟩
      exact same
    · rw [if_neg own, forall₂_cons, ih, Bool.not_eq_true _ |>.mp own]
      exact and_iff_right (refl head)

end ModifyFirst

def modifyNode (topology : EnterpriseTopology) (nodeId : String)
    (change : NodeContract → NodeContract) : EnterpriseTopology :=
  { topology with nodes := modifyFirst (·.id = nodeId) change topology.nodes }

def modifyRelation (topology : EnterpriseTopology) (relationId : String)
    (change : EnterpriseRelation → EnterpriseRelation) : EnterpriseTopology :=
  { topology with relations := modifyFirst (·.id = relationId) change topology.relations }

/-! ## What a relation lets its node do -/

/-- The list of a node that a relation changes. -/
inductive GrantList where
  | children | allowedToolIds | allowedSystemIds
  deriving DecidableEq

def GrantList.values (list : GrantList) (node : NodeContract) : List String :=
  match list with
  | .children => node.children
  | .allowedToolIds => node.allowedToolIds
  | .allowedSystemIds => node.allowedSystemIds

def GrantList.modify (list : GrantList) (change : List String → List String)
    (node : NodeContract) : NodeContract :=
  match list with
  | .children => { node with children := change node.children }
  | .allowedToolIds => { node with allowedToolIds := change node.allowedToolIds }
  | .allowedSystemIds => { node with allowedSystemIds := change node.allowedSystemIds }

/-- The list that a relation is about, by its type and the type of its target. -/
def EnterpriseRelation.grantList (relation : EnterpriseRelation) : Option GrantList :=
  match relation.relationType, relation.target.entityType with
  | .delegatesTo, .node => some .children
  | .usesTool, .enterpriseTool => some .allowedToolIds
  | .usesSystem, .enterpriseSystem => some .allowedSystemIds
  | _, _ => none

section

variable (topology : EnterpriseTopology)

variable (relation : EnterpriseRelation)

/-- Change the list of the node from which a relation starts, if there is one. -/
def modifyGrant (change : List String → List String) : EnterpriseTopology :=
  if relation.source.entityType ≠ .node then topology
  else
    match relation.grantList with
    | none => topology
    | some list => modifyNode topology relation.source.id (list.modify change)

@[simp] lemma modifyGrant_relations (change : List String → List String) :
    (modifyGrant topology relation change).relations = topology.relations := by
  unfold modifyGrant
  split_ifs
  · rfl
  · split <;> rfl

/-- A relation that is inactive adds what it is about, as an active one does. -/
def addRelationSideEffects : EnterpriseTopology :=
  if relation.status = .archived then topology
  else modifyGrant topology relation fun values => uniqueValues (values ++ [relation.target.id])

def hasAnotherActiveRelation (relationIdToIgnore : String) : Bool :=
  topology.relations.any fun candidate =>
    candidate.id ≠ relationIdToIgnore && candidate.status ≠ .archived &&
      candidate.relationType = relation.relationType && candidate.source = relation.source &&
      candidate.target = relation.target

def removeRelationSideEffects : EnterpriseTopology :=
  if hasAnotherActiveRelation topology relation relation.id then topology
  else modifyGrant topology relation fun values => values.filter (· ≠ relation.target.id)

@[simp] lemma addRelationSideEffects_relations :
    (addRelationSideEffects topology relation).relations = topology.relations := by
  unfold addRelationSideEffects
  split_ifs <;> simp

@[simp] lemma removeRelationSideEffects_relations :
    (removeRelationSideEffects topology relation).relations = topology.relations := by
  unfold removeRelationSideEffects
  split_ifs <;> simp

/-! ## Operations -/

variable (nodeId : String)

def defaultNode (name : Option String) (nodeType : Option NodeType) (templateId : Option String)
    (time : Timestamp) : NodeContract where
  id := nodeId
  name := name.getD "새 서브 에이전트"
  status := .draft
  createdAt := time
  updatedAt := time
  nodeType := nodeType.getD .function
  owner := none
  tags := []
  children := []
  template := (templateId.filter (· ≠ "")).map fun templateId => ⟨templateId, .userPreset, []⟩
  allowedToolIds := []
  allowedSystemIds := []
  failurePolicy := some ⟨true, true, []⟩
  recoveryPolicy := some ⟨false, true, false, true⟩
  metadata := []

def UpdateNodePatch.apply (patch : UpdateNodePatch) (time : Timestamp) (node : NodeContract) :
    NodeContract :=
  { node with
    name := patch.name.getD node.name
    nodeType := patch.nodeType.getD node.nodeType
    status := patch.status.getD node.status
    tags := (patch.tags.map uniqueValues).getD node.tags
    children := (patch.children.map uniqueValues).getD node.children
    template := patch.template <|> node.template
    allowedToolIds := (patch.allowedToolIds.map uniqueValues).getD node.allowedToolIds
    allowedSystemIds := (patch.allowedSystemIds.map uniqueValues).getD node.allowedSystemIds
    owner := patch.owner <|> node.owner
    failurePolicy := patch.failurePolicy <|> node.failurePolicy
    recoveryPolicy := patch.recoveryPolicy <|> node.recoveryPolicy
    updatedAt := time }

variable (operation : CreateRelation) (time : Timestamp)

def relationDisplayName : String :=
  (operation.name <|> operation.label).getD
    (operation.source.id ++ " " ++ operation.relationType.text ++ " " ++ operation.target.id)

def createRelation : EnterpriseRelation where
  id := operation.relationId
  name := relationDisplayName operation
  status := .draft
  createdAt := time
  updatedAt := time
  relationType := operation.relationType
  source := operation.source
  target := operation.target
  label := operation.label.filter (· ≠ "")
  scope := none
  condition := none
  metadata := []

def UpdateRelationPatch.apply (patch : UpdateRelationPatch) (time : Timestamp)
    (relation : EnterpriseRelation) : EnterpriseRelation :=
  { relation with
    relationType := patch.relationType.getD relation.relationType
    source := patch.source.getD relation.source
    target := patch.target.getD relation.target
    name := patch.name.getD relation.name
    label := patch.label <|> relation.label
    status := patch.status.getD relation.status
    updatedAt := time }

def archiveRelation (relation : EnterpriseRelation) : EnterpriseRelation :=
  { relation with status := .archived, updatedAt := time }

def updateTopologyTimestamp : EnterpriseTopology :=
  { topology with updatedAt := time }

abbrev GuiResult : Type := Except GuiOperationIssue EnterpriseTopology

def applyCreateNode (name : Option String) (nodeType : Option NodeType) (templateId : Option String)
    (time : Timestamp) : GuiResult :=
  if (findNode topology nodeId).isSome then
    .error ⟨"$.nodeId", .duplicateNode, s!"Node already exists: {nodeId}"⟩
  else .ok (updateTopologyTimestamp { topology with
    nodes := topology.nodes ++ [defaultNode nodeId name nodeType templateId time] } time)

/-- What is done to a node that has to be there. -/
def changeNode (change : EnterpriseTopology → EnterpriseTopology) : GuiResult :=
  match findNode topology nodeId with
  | none => .error ⟨"$.nodeId", .nodeNotFound, s!"Node not found: {nodeId}"⟩
  | some _ => .ok (change topology)

def applyUpdateNode (patch : UpdateNodePatch) (time : Timestamp) : GuiResult :=
  changeNode topology nodeId fun topology =>
    updateTopologyTimestamp (modifyNode topology nodeId (patch.apply time)) time

/-- Only the layout changes. -/
def applyMoveNode : GuiResult := changeNode topology nodeId id

def applyDeleteNode : GuiResult :=
  changeNode topology nodeId fun topology =>
    updateTopologyTimestamp (modifyNode topology nodeId fun node =>
      { node with status := .archived, updatedAt := time }) time

def applyCreateRelation : GuiResult :=
  if (findRelation topology operation.relationId).isSome then
    .error ⟨"$.relationId", .duplicateRelation,
      s!"Relation already exists: {operation.relationId}"⟩
  else
    let relation := createRelation operation time
    .ok (updateTopologyTimestamp (addRelationSideEffects
      { topology with relations := topology.relations ++ [relation] } relation) time)

def relationNotFound (relationId : String) : GuiOperationIssue :=
  ⟨"$.relationId", .relationNotFound, s!"Relation not found: {relationId}"⟩

def applyUpdateRelation (relationId : String) (patch : UpdateRelationPatch) (time : Timestamp) :
    GuiResult :=
  match findRelation topology relationId with
  | none => .error (relationNotFound relationId)
  | some before =>
    let removed := removeRelationSideEffects topology before
    let patched := modifyRelation removed relationId (patch.apply time)
    .ok (updateTopologyTimestamp (addRelationSideEffects patched (patch.apply time before)) time)

def applyDeleteRelation (relationId : String) (time : Timestamp) : GuiResult :=
  match findRelation topology relationId with
  | none => .error (relationNotFound relationId)
  | some relation =>
    .ok (updateTopologyTimestamp (modifyRelation (removeRelationSideEffects topology relation)
      relationId (archiveRelation time)) time)

def applyOperation (operation : GuiOperation) : GuiResult :=
  if jsTrim operation.operationId = "" then
    .error ⟨"$.operationId", .invalidGuiOperationPayload, "GUI operation requires operationId."⟩
  else
    match operation.action with
    | .createNode nodeId name nodeType templateId =>
      applyCreateNode topology nodeId name nodeType templateId operation.time
    | .updateNode nodeId patch => applyUpdateNode topology nodeId patch operation.time
    | .moveNode nodeId => applyMoveNode topology nodeId
    | .deleteNode nodeId => applyDeleteNode topology nodeId operation.time
    | .createRelation relation => applyCreateRelation topology relation operation.time
    | .updateRelation relationId patch =>
      applyUpdateRelation topology relationId patch operation.time
    | .deleteRelation relationId => applyDeleteRelation topology relationId operation.time

end

/-! ## Drafts -/

structure GuiDraft where
  (baseTopology topology : EnterpriseTopology)
  (operationLog redoStack : List GuiOperation)
  validation : TopologyValidationResult

/-- Whether an operation only changes the layout. -/
def GuiOperation.isLayout (operation : GuiOperation) : Bool :=
  match operation.action with
  | .moveNode _ => true
  | _ => false

/-- The log, what was taken off it, and whether the structure changes. -/
structure GuiLog where
  (operationLog redoStack : List GuiOperation)
  structuralChanged : Bool := false

def GuiLog.command (log : GuiLog) : GuiCommand → Except GuiOperationIssue GuiLog
  | .undo =>
    match log.operationLog.getLast? with
    | none => .error ⟨"$.op", .emptyUndoStack, "There is no GUI operation to undo."⟩
    | some last => .ok ⟨log.operationLog.dropLast, log.redoStack ++ [last],
        log.structuralChanged || !last.isLayout⟩
  | .redo =>
    match log.redoStack.getLast? with
    | none => .error ⟨"$.op", .emptyRedoStack, "There is no GUI operation to redo."⟩
    | some last => .ok ⟨log.operationLog ++ [last], log.redoStack.dropLast,
        log.structuralChanged || !last.isLayout⟩
  | .operation operation => .ok ⟨log.operationLog ++ [operation], [],
      log.structuralChanged || !operation.isLayout⟩

def replay (topology : EnterpriseTopology) (operationLog : List GuiOperation) : GuiResult :=
  operationLog.foldlM applyOperation topology

variable (platform : Platform)

def createEnterpriseTopologyGuiDraft (profile : NodeContract → MetadataValue)
    (topology : EnterpriseTopology) : GuiDraft :=
  let baseTopology := (repairTopologyForPersistence profile topology).1
  ⟨baseTopology, baseTopology, [], [], validateTopology platform baseTopology⟩

def applyEnterpriseTopologyGuiCommands (draft : GuiDraft) (commands : List GuiCommand) :
    Except GuiOperationIssue GuiDraft := do
  let log ← commands.foldlM GuiLog.command
    (⟨draft.operationLog, draft.redoStack, false⟩ : GuiLog)
  let topology ← replay draft.baseTopology log.operationLog
  return {
    baseTopology := draft.baseTopology
    topology
    operationLog := log.operationLog
    redoStack := log.redoStack
    validation := if log.structuralChanged then validateTopology platform topology
      else draft.validation }

/-- The drafts of an editor that was opened on a topology. -/
inductive GuiHistory (profile : NodeContract → MetadataValue) (topology : EnterpriseTopology) :
    GuiDraft → Prop
  | opened : GuiHistory profile topology (createEnterpriseTopologyGuiDraft platform profile topology)
  | commands {draft next : GuiDraft} {commands : List GuiCommand}
    (history : GuiHistory profile topology draft)
    (applied : applyEnterpriseTopologyGuiCommands platform draft commands = .ok next) :
    GuiHistory profile topology next

section History

variable {platform} {profile : NodeContract → MetadataValue} {base : EnterpriseTopology}
  {draft next : GuiDraft}

lemma replay_of_applied {commands : List GuiCommand}
    (applied : applyEnterpriseTopologyGuiCommands platform draft commands = .ok next) :
    ∃ log : GuiLog, commands.foldlM GuiLog.command
        (⟨draft.operationLog, draft.redoStack, false⟩ : GuiLog) = .ok log ∧
      next.operationLog = log.operationLog ∧ next.baseTopology = draft.baseTopology ∧
      replay draft.baseTopology log.operationLog = .ok next.topology := by
  unfold applyEnterpriseTopologyGuiCommands at applied
  cases logged : commands.foldlM GuiLog.command
      (⟨draft.operationLog, draft.redoStack, false⟩ : GuiLog) with
  | error issue =>
    rw [logged] at applied
    cases applied
  | ok log =>
    rw [logged] at applied
    cases made : replay draft.baseTopology log.operationLog with
    | error issue =>
      simp only [bind, Except.bind, made] at applied
      cases applied
    | ok topology =>
      simp only [bind, Except.bind, made] at applied
      cases applied
      exact ⟨log, rfl, rfl, rfl, made⟩

lemma GuiHistory.replay (history : GuiHistory platform profile base draft) :
    draft.baseTopology = (repairTopologyForPersistence profile base).1 ∧
      replay draft.baseTopology draft.operationLog = .ok draft.topology := by
  induction history with
  | opened => exact ⟨rfl, rfl⟩
  | commands _ applied ih =>
    obtain ⟨log, -, same, base, made⟩ := replay_of_applied applied
    rw [base, same]
    exact ⟨ih.1, made⟩

lemma replay_append (topology : EnterpriseTopology) (operations : List GuiOperation)
    (last : GuiOperation) : Knowbee.Topology.replay topology (operations ++ [last]) =
      Knowbee.Topology.replay topology operations >>= (applyOperation · last) := by
  unfold Knowbee.Topology.replay
  rw [foldlM_append]
  refine congrArg _ (funext fun result => ?_)
  rw [foldlM_cons]
  simp

lemma GuiHistory.operation {operation : GuiOperation}
    (history : GuiHistory platform profile base draft)
    (applied : applyEnterpriseTopologyGuiCommands platform draft [.operation operation] =
      .ok next) : applyOperation draft.topology operation = .ok next.topology := by
  obtain ⟨log, logged, -, -, made⟩ := replay_of_applied applied
  cases logged
  rw [replay_append, history.replay.2] at made
  exact made

end History

end Knowbee.Topology
