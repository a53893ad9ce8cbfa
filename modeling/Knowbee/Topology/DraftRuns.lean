import Knowbee.Topology.Deletion
import Knowbee.Topology.Draft

/-!
# Runs of the editor

A draft is what its log makes of the topology and the layout it began with, in any
batching of the commands.  That the validation may be kept rests on one fact: commands
that move no operation which changes the structure leave the log the same up to moves
of nodes, and those do not touch the topology.
-/

namespace Knowbee.Topology.Editor

open List Except EditLog EnterpriseTopologyGuiDraft

variable {platform : Platform} {profile : NodeContract → MetadataValue} {input : CreateDraftInput}
  {clock : Timestamp} {draft : EnterpriseTopologyGuiDraft}

/-! ## Replays -/

variable {α β ε : Type} {state : EnterpriseTopology × GuiLayout} {command : GuiCommand}
  {log next : CommandLog} {time time' : Timestamp} {first second : EnterpriseTopologyGuiDraft}
  {call : CallTime} {result : ApplyResult}

lemma bind_eq_ok {first : Except ε α} {next : α → Except ε β} {result : β} :
    (first >>= next) = .ok result ↔ ∃ value, first = .ok value ∧ next value = .ok result := by
  cases first with
  | error issue => exact ⟨nofun, fun ⟨_, gone, _⟩ => nomatch gone⟩
  | ok value =>
    constructor
    · exact fun passed => ⟨value, rfl, passed⟩
    · rintro ⟨_, same, passed⟩
      cases same
      exact passed

lemma foldlM_cons_eq_ok {step : β → α → Except ε β} {start result : β} {head : α}
    {rest : List α} : (head :: rest).foldlM step start = .ok result ↔
      ∃ value, step start head = .ok value ∧ rest.foldlM step value = .ok result := by
  rw [foldlM_cons, bind_eq_ok]

lemma foldlM_append_eq_ok {step : β → α → Except ε β} {start result : β} {first second : List α} :
    (first ++ second).foldlM step start = .ok result ↔
      ∃ value, first.foldlM step start = .ok value ∧ second.foldlM step value = .ok result := by
  rw [foldlM_append, bind_eq_ok]

lemma applyOperation_eq_ok {next : EnterpriseTopology × GuiLayout} {placed : PlacedOperation} :
    applyOperation state placed = .ok next ↔
      Topology.applyOperation state.1 placed.operation = .ok next.1 ∧
        placed.arrange state.2 = next.2 := by
  rw [applyOperation, bind_eq_ok]
  constructor
  · rintro ⟨topology, applied, same⟩
    cases same
    exact ⟨applied, rfl⟩
  · rintro ⟨applied, same⟩
    exact ⟨next.1, applied, congrArg ok (Prod.ext rfl same)⟩

lemma applyOperation_layout {topology next : EnterpriseTopology} {operation : GuiOperation}
    (layout : operation.isLayout = true)
    (applied : Topology.applyOperation topology operation = .ok next) : next = topology := by
  obtain ⟨operationId, time, action⟩ := operation
  cases action with
  | moveNode nodeId =>
    unfold Topology.applyOperation at applied
    split_ifs at applied
    simp only [applyMoveNode, changeNode] at applied
    cases found : findNode topology nodeId with
    | none => simp [found] at applied
    | some node =>
      rw [found] at applied
      exact (ok.inj applied).symm
  | _ => exact nomatch layout

def structural (operationLog : List PlacedOperation) : List GuiOperation :=
  (operationLog.map (·.operation)).filter fun operation => !operation.isLayout

/-- **The topology of a log is that of its structural operations.** -/
lemma replay_structural {next : EnterpriseTopology × GuiLayout}
    {operationLog : List PlacedOperation} (made : replay state operationLog = .ok next) :
    Topology.replay state.1 (structural operationLog) = .ok next.1 := by
  induction operationLog generalizing state with
  | nil => exact congrArg (ok ∘ Prod.fst) (ok.inj made)
  | cons placed rest ih =>
    obtain ⟨middle, applied, later⟩ := foldlM_cons_eq_ok.mp made
    have applied := (applyOperation_eq_ok.mp applied).1
    rw [structural, map_cons, filter_cons]
    split_ifs with changes
    · exact foldlM_cons_eq_ok.mpr ⟨middle.1, applied, ih later⟩
    · have layout : placed.operation.isLayout = true := by simpa using changes
      rw [← applyOperation_layout layout applied]
      exact ih later

/-! ## Commands -/

def EditLog.commands (edits : EditLog) (commands : List GuiCommand) :
    Except GuiOperationIssue EditLog :=
  commands.foldlM (fun edits command => Prod.fst <$> edits.command command) edits

lemma map_fst_eq_ok {result : Except ε (α × β)} {first : α} :
    Prod.fst <$> result = .ok first ↔ ∃ second, result = .ok (first, second) := by
  cases result with
  | error issue => exact ⟨nofun, fun ⟨_, same⟩ => nomatch same⟩
  | ok both =>
    constructor
    · intro same
      exact ⟨both.2, congrArg ok (Prod.ext (ok.inj same) rfl)⟩
    · rintro ⟨_, same⟩
      rw [ok.inj same]
      rfl

lemma CommandLog.command_eq_ok : log.command command = .ok next ↔
      ∃ moved, log.toEditLog.command command = .ok (next.toEditLog, moved) ∧
        next.structuralChanged = (log.structuralChanged || !moved.operation.isLayout) ∧
          next.layoutChanged = (log.layoutChanged || moved.operation.isLayout) := by
  rw [CommandLog.command, bind_eq_ok]
  constructor
  · rintro ⟨⟨edits, moved⟩, taken, same⟩
    cases same
    exact ⟨moved, taken, rfl, rfl⟩
  · rintro ⟨moved, taken, structural, layout⟩
    obtain ⟨edits, _, _⟩ := next
    cases structural
    cases layout
    exact ⟨_, taken, rfl⟩

variable {commands : List GuiCommand}

lemma commands_of_log (folded : commands.foldlM CommandLog.command log = .ok next) :
    log.toEditLog.commands commands = .ok next.toEditLog := by
  induction commands generalizing log with
  | nil => exact congrArg (ok ∘ CommandLog.toEditLog) (ok.inj folded)
  | cons command rest ih =>
    obtain ⟨middle, taken, later⟩ := foldlM_cons_eq_ok.mp folded
    obtain ⟨moved, taken, -, -⟩ := CommandLog.command_eq_ok.mp taken
    exact foldlM_cons_eq_ok.mpr ⟨_, map_fst_eq_ok.mpr ⟨moved, taken⟩, ih later⟩

lemma log_of_commands {edits : EditLog} (taken : log.toEditLog.commands commands = .ok edits) :
    ∃ next : CommandLog, commands.foldlM CommandLog.command log = .ok next ∧
      next.toEditLog = edits := by
  induction commands generalizing log with
  | nil => exact ⟨log, rfl, ok.inj taken⟩
  | cons command rest ih =>
    obtain ⟨middle, first, later⟩ := foldlM_cons_eq_ok.mp taken
    obtain ⟨moved, first⟩ := map_fst_eq_ok.mp first
    have continued : (⟨middle, log.structuralChanged || !moved.operation.isLayout,
        log.layoutChanged || moved.operation.isLayout⟩ : CommandLog).toEditLog.commands rest =
        .ok edits := later
    obtain ⟨next, folded, same⟩ := ih continued
    exact ⟨next, foldlM_cons_eq_ok.mpr
      ⟨_, CommandLog.command_eq_ok.mpr ⟨moved, first, rfl, rfl⟩, folded⟩, same⟩

lemma structural_append (first second : List PlacedOperation) :
    structural (first ++ second) = structural first ++ structural second := by
  rw [structural, map_append, filter_append]
  rfl

lemma structural_singleton {placed : PlacedOperation} (layout : placed.operation.isLayout = true) :
    structural [placed] = [] := by
  simp [structural, layout]

lemma getLast?_eq_some {items : List α} {last : α} (found : items.getLast? = some last) :
    items = items.dropLast ++ [last] := by
  obtain ⟨rest, rfl⟩ := getLast?_eq_some_iff.mp found
  rw [dropLast_concat]

lemma EditLog.command_structural {edits next : EditLog} {moved : PlacedOperation}
    (taken : edits.command command = .ok (next, moved)) (layout : moved.operation.isLayout = true) :
    structural next.operationLog = structural edits.operationLog := by
  cases command with
  | operation placed =>
    cases taken
    rw [structural_append, structural_singleton layout, append_nil]
  | undo time =>
    unfold command at taken
    cases found : edits.operationLog.getLast? with
    | none => simp [found] at taken
    | some last =>
      simp only [found] at taken
      cases taken
      conv_rhs => rw [getLast?_eq_some found]
      rw [structural_append, structural_singleton layout, append_nil]
  | redo time =>
    unfold command at taken
    cases found : edits.redoStack.getLast? with
    | none => simp [found] at taken
    | some last =>
      simp only [found] at taken
      cases taken
      rw [structural_append, structural_singleton layout, append_nil]

/-- **Where no structural change is noted, the structural operations are the same.** -/
lemma structural_of_log (folded : commands.foldlM CommandLog.command log = .ok next)
    (unchanged : next.structuralChanged = false) :
    log.structuralChanged = false ∧ structural next.operationLog = structural log.operationLog := by
  induction commands generalizing log with
  | nil =>
    cases folded
    exact ⟨unchanged, rfl⟩
  | cons command rest ih =>
    obtain ⟨middle, taken, later⟩ := foldlM_cons_eq_ok.mp folded
    obtain ⟨moved, taken, flag, -⟩ := CommandLog.command_eq_ok.mp taken
    obtain ⟨silent, same⟩ := ih later
    rw [flag, Bool.or_eq_false_iff] at silent
    have layout : moved.operation.isLayout = true := by simpa using silent.2
    exact ⟨silent.1, same.trans (command_structural taken layout)⟩

lemma EditLog.commands_undo_redo {edits undone : EditLog}
    (taken : edits.commands [.undo time] = .ok undone) :
    undone.commands [.redo time'] = .ok edits := by
  obtain ⟨middle, first, rest⟩ := foldlM_cons_eq_ok.mp taken
  cases rest
  obtain ⟨moved, first⟩ := map_fst_eq_ok.mp first
  unfold command at first
  cases found : edits.operationLog.getLast? with
  | none => simp [found] at first
  | some last =>
    simp only [found] at first
    cases first
    refine foldlM_cons_eq_ok.mpr ⟨edits, map_fst_eq_ok.mpr ⟨moved, ?_⟩, rfl⟩
    unfold command
    simp only [getLast?_concat, dropLast_concat, ← getLast?_eq_some found]

lemma EditLog.commands_append {edits next : EditLog} {first second : List GuiCommand} :
    edits.commands (first ++ second) = .ok next ↔
      ∃ middle, edits.commands first = .ok middle ∧ middle.commands second = .ok next :=
  foldlM_append_eq_ok

/-! ## Drafts -/

def EnterpriseTopologyGuiDraft.edits (draft : EnterpriseTopologyGuiDraft) : EditLog :=
  ⟨draft.operationLog, draft.redoStack⟩

def EnterpriseTopologyGuiDraft.base (draft : EnterpriseTopologyGuiDraft) :
    EnterpriseTopology × GuiLayout :=
  (draft.baseTopology, cloneLayout draft.baseLayout)

/-- Drafts that differ in the time of their last update at most. -/
def SameUpToTime (first second : EnterpriseTopologyGuiDraft) : Prop :=
  { first with updatedAt := second.updatedAt } = second

/-- A draft is made from its log. -/
structure Consistent (platform : Platform) (draft : EnterpriseTopologyGuiDraft) : Prop where
  replayed : replay draft.base draft.operationLog = .ok (draft.topology, draft.layout)
  validation : draft.validation = validateTopology platform draft.topology
  pendingDeletes : draft.pendingDeletes = collectPendingDeletes draft.topology draft.operationLog
  revision : draft.revision = draft.operationLog.length
  structuralRevision :
    draft.structuralRevision = draft.operationLog.countP (!·.operation.isLayout)
  layoutRevision : draft.layoutRevision = draft.operationLog.countP (·.operation.isLayout)

/-- What drafts of one editor share. -/
structure SameOrigin (first second : EnterpriseTopologyGuiDraft) : Prop where
  draftId : first.draftId = second.draftId
  topologyId : first.topologyId = second.topologyId
  baseTopology : first.baseTopology = second.baseTopology
  baseLayout : first.baseLayout = second.baseLayout
  createdAt : first.createdAt = second.createdAt

lemma SameOrigin.trans {third : EnterpriseTopologyGuiDraft} (same : SameOrigin first second)
    (same' : SameOrigin second third) : SameOrigin first third where
  draftId := same.draftId.trans same'.draftId
  topologyId := same.topologyId.trans same'.topologyId
  baseTopology := same.baseTopology.trans same'.baseTopology
  baseLayout := same.baseLayout.trans same'.baseLayout
  createdAt := same.createdAt.trans same'.createdAt

lemma SameOrigin.symm (same : SameOrigin first second) : SameOrigin second first :=
  ⟨same.draftId.symm, same.topologyId.symm, same.baseTopology.symm, same.baseLayout.symm,
    same.createdAt.symm⟩

lemma SameOrigin.base (same : SameOrigin first second) : first.base = second.base := by
  rw [EnterpriseTopologyGuiDraft.base, EnterpriseTopologyGuiDraft.base, same.baseTopology,
    same.baseLayout]

/-- **A draft is determined by its origin and its edits**, up to its time. -/
lemma Consistent.sameUpToTime (consistent : Consistent platform first)
    (consistent' : Consistent platform second) (origin : SameOrigin first second)
    (edits : first.edits = second.edits) : SameUpToTime first second := by
  obtain ⟨log, redo⟩ := mk.inj edits
  have replayed := consistent.replayed
  rw [origin.base, log, consistent'.replayed] at replayed
  obtain ⟨topology, layout⟩ := Prod.mk.inj (ok.inj replayed)
  have validation := consistent.validation
  have pendingDeletes := consistent.pendingDeletes
  have revision := consistent.revision
  have structuralRevision := consistent.structuralRevision
  have layoutRevision := consistent.layoutRevision
  rw [← topology, ← consistent'.validation] at validation
  rw [← topology, log, ← consistent'.pendingDeletes] at pendingDeletes
  rw [log, ← consistent'.revision] at revision
  rw [log, ← consistent'.structuralRevision] at structuralRevision
  rw [log, ← consistent'.layoutRevision] at layoutRevision
  obtain ⟨draftId, topologyId, baseTopology, baseLayout, createdAt⟩ := origin
  cases first
  cases second
  simp only at *
  subst_vars
  rfl

lemma applied_spec (consistent : Consistent platform draft)
    (applied : applyEnterpriseTopologyGuiCommands platform call draft commands = .ok result) :
    Consistent platform result.draft ∧ SameOrigin draft result.draft ∧
      draft.edits.commands commands = .ok result.draft.edits := by
  unfold applyEnterpriseTopologyGuiCommands rebuildDraftFromOperationLog at applied
  obtain ⟨log, folded, applied⟩ := bind_eq_ok.mp applied
  obtain ⟨rebuilt, made, applied⟩ := bind_eq_ok.mp applied
  obtain ⟨state, replayed, made⟩ := bind_eq_ok.mp made
  obtain rfl := ok.inj made
  obtain rfl := ok.inj applied
  refine ⟨⟨replayed, ?_, ?_, ?_, ?_, ?_⟩, ⟨rfl, rfl, rfl, rfl, rfl⟩, commands_of_log folded⟩
  case refine_1 =>
    simp only [rebuilt]
    split_ifs with flag
    · rfl
    · have same : structural log.operationLog = structural draft.operationLog :=
        (structural_of_log folded (by simpa using flag)).2
      have old : Topology.replay draft.baseTopology (structural draft.operationLog) =
          .ok draft.topology := replay_structural consistent.replayed
      have new : Topology.replay draft.baseTopology (structural log.operationLog) = .ok state.1 :=
        replay_structural replayed
      rw [same, old] at new
      rw [← ok.inj new]
      exact consistent.validation
  all_goals simp only [rebuilt]

lemma applied_iff :
    (∃ result, applyEnterpriseTopologyGuiCommands platform call draft commands = .ok result) ↔
      ∃ edits state, draft.edits.commands commands = .ok edits ∧
        replay draft.base edits.operationLog = .ok state := by
  unfold applyEnterpriseTopologyGuiCommands rebuildDraftFromOperationLog
  constructor
  · rintro ⟨result, applied⟩
    obtain ⟨log, folded, applied⟩ := bind_eq_ok.mp applied
    obtain ⟨rebuilt, made, -⟩ := bind_eq_ok.mp applied
    obtain ⟨state, replayed, -⟩ := bind_eq_ok.mp made
    exact ⟨log.toEditLog, state, commands_of_log folded, replayed⟩
  · rintro ⟨edits, state, taken, replayed⟩
    have taken : (⟨⟨draft.operationLog, draft.redoStack⟩, false, false⟩ :
        CommandLog).toEditLog.commands commands = .ok edits := taken
    obtain ⟨log, folded, rfl⟩ := log_of_commands taken
    exact ⟨_, bind_eq_ok.mpr ⟨log, folded, bind_eq_ok.mpr
      ⟨_, bind_eq_ok.mpr ⟨state, replayed, rfl⟩, rfl⟩⟩⟩

lemma created_consistent :
    Consistent platform (createEnterpriseTopologyGuiDraft platform profile input clock) := by
  have layout : cloneLayout (input.layout.elim ⟨[], none, none⟩ cloneLayout) =
      input.layout.elim ⟨[], none, none⟩ cloneLayout := by
    cases input.layout <;> rfl
  unfold createEnterpriseTopologyGuiDraft
  constructor
  case replayed =>
    simp only [base, layout]
    rfl
  all_goals simp only
  all_goals rfl

lemma submit_consistent (consistent : Consistent platform draft) (call : CallTime)
    (commands : List GuiCommand) : Consistent platform (submit platform call draft commands) := by
  unfold submit
  cases applied : applyEnterpriseTopologyGuiCommands platform call draft commands with
  | error issue => exact consistent
  | ok result => exact (applied_spec consistent applied).1

lemma Session.consistent (session : Session platform profile input clock draft) :
    Consistent platform draft := by
  induction session with
  | opened => exact created_consistent
  | submitted call commands _ ih => exact submit_consistent ih call commands

lemma submit_origin (consistent : Consistent platform draft) (call : CallTime)
    (commands : List GuiCommand) : SameOrigin draft (submit platform call draft commands) := by
  unfold submit
  cases applied : applyEnterpriseTopologyGuiCommands platform call draft commands with
  | error issue => exact ⟨rfl, rfl, rfl, rfl, rfl⟩
  | ok result => exact (applied_spec consistent applied).2.1

lemma Session.origin (session : Session platform profile input clock draft) :
    SameOrigin (createEnterpriseTopologyGuiDraft platform profile input clock) draft := by
  induction session with
  | opened => exact ⟨rfl, rfl, rfl, rfl, rfl⟩
  | submitted call commands session ih => exact ih.trans (submit_origin session.consistent call commands)

/-! ## Laws -/

/-- Submit commands one by one, each in a call of its own. -/
def applySingly (platform : Platform) (draft : EnterpriseTopologyGuiDraft)
    (calls : List (CallTime × GuiCommand)) :
    Except GuiOperationIssue EnterpriseTopologyGuiDraft :=
  calls.foldlM (fun draft call =>
    ApplyResult.draft <$> applyEnterpriseTopologyGuiCommands platform call.1 draft [call.2]) draft

lemma applySingly_spec (consistent : Consistent platform draft)
    {calls : List (CallTime × GuiCommand)}
    (accepted : ∀ first, first <+: calls.map Prod.snd → ∃ call result,
      applyEnterpriseTopologyGuiCommands platform call draft first = .ok result) :
    ∃ last, applySingly platform draft calls = .ok last ∧ Consistent platform last ∧
      SameOrigin draft last ∧ draft.edits.commands (calls.map Prod.snd) = .ok last.edits := by
  induction calls using reverseRecOn with
  | nil => exact ⟨draft, rfl, consistent, ⟨rfl, rfl, rfl, rfl, rfl⟩, rfl⟩
  | append_singleton calls last ih =>
    rw [map_append, map_singleton] at accepted ⊢
    obtain ⟨middle, singly, consistent', origin, taken⟩ :=
      ih fun first before => accepted first (before.trans (prefix_append _ _))
    obtain ⟨call, result, whole⟩ := accepted _ (prefix_refl _)
    obtain ⟨edits, state, both, replayed⟩ := applied_iff.mp ⟨result, whole⟩
    obtain ⟨_, taken', next⟩ := commands_append.mp both
    cases ok.inj (taken.symm.trans taken')
    rw [origin.base] at replayed
    obtain ⟨single, applied⟩ := applied_iff.mpr ⟨edits, state, next, replayed⟩
    obtain ⟨consistent'', origin', next'⟩ := applied_spec consistent' applied
    refine ⟨single.draft, ?_, consistent'', origin.trans origin', ?_⟩
    · refine foldlM_append_eq_ok.mpr ⟨middle, singly, foldlM_cons_eq_ok.mpr ⟨single.draft, ?_, rfl⟩⟩
      rw [applied]
      rfl
    · exact commands_append.mpr ⟨middle.edits, taken, next'⟩

lemma undo_redo (consistent : Consistent platform draft) {call' : CallTime} {undone : ApplyResult}
    (applied : applyEnterpriseTopologyGuiCommands platform call draft [.undo time] = .ok undone) :
    ∃ redone, applyEnterpriseTopologyGuiCommands platform call' undone.draft [.redo time'] =
      .ok redone ∧ SameUpToTime draft redone.draft := by
  obtain ⟨consistent', origin, taken⟩ := applied_spec consistent applied
  have back : undone.draft.edits.commands [.redo time'] = .ok draft.edits :=
    commands_undo_redo taken
  have replayed := consistent.replayed
  rw [origin.base] at replayed
  obtain ⟨redone, applied'⟩ := applied_iff.mpr ⟨draft.edits, _, back, replayed⟩
  obtain ⟨consistent'', origin', taken'⟩ := applied_spec consistent' applied'
  exact ⟨redone, applied', consistent.sameUpToTime consistent'' (origin.trans origin')
    (ok.inj (back.symm.trans taken'))⟩

lemma undo_redo_amid (consistent : Consistent platform draft) {first second : List GuiCommand}
    (applied : applyEnterpriseTopologyGuiCommands platform call draft
      (first ++ [.undo time, .redo time'] ++ second) = .ok result) :
    ∃ plain, applyEnterpriseTopologyGuiCommands platform call draft (first ++ second) = .ok plain ∧
      SameUpToTime plain.draft result.draft := by
  obtain ⟨consistent', origin, taken⟩ := applied_spec consistent applied
  obtain ⟨edits, state, taken', replayed⟩ := applied_iff.mp ⟨result, applied⟩
  obtain ⟨middle, before, after⟩ := commands_append.mp taken'
  obtain ⟨start, before, both⟩ := commands_append.mp before
  obtain ⟨undone, undo, redo⟩ := commands_append.mp
    (show start.commands ([.undo time] ++ [.redo time']) = .ok middle from both)
  have same : start = middle := ok.inj ((commands_undo_redo undo).symm.trans redo)
  have direct := commands_append.mpr ⟨start, before, same ▸ after⟩
  obtain ⟨plain, applied'⟩ := applied_iff.mpr ⟨edits, state, direct, replayed⟩
  obtain ⟨consistent'', origin', taken''⟩ := applied_spec consistent applied'
  refine ⟨plain, applied', consistent''.sameUpToTime consistent' (origin'.symm.trans origin) ?_⟩
  exact ok.inj ((taken''.symm.trans direct).trans (taken'.symm.trans taken))

/-- **The draft of an editor.**  In every session it is what its log makes of what it was
opened with, with the validation of its topology; what is undone and redone is as it was;
a batch whose prefixes are all accepted makes what its commands make one by one; and a
rejected batch leaves the draft. -/
theorem guiDraft_laws (session : Session platform profile input clock draft) :
    replay ((createEnterpriseTopologyGuiDraft platform profile input clock).topology,
        (createEnterpriseTopologyGuiDraft platform profile input clock).layout)
        draft.operationLog = .ok (draft.topology, draft.layout) ∧
      draft.validation = validateTopology platform draft.topology ∧
      (∀ call call' time time' undone,
        applyEnterpriseTopologyGuiCommands platform call draft [.undo time] = .ok undone →
          ∃ redone, applyEnterpriseTopologyGuiCommands platform call' undone.draft [.redo time'] =
            .ok redone ∧ SameUpToTime draft redone.draft) ∧
      (∀ call first second time time' result,
        applyEnterpriseTopologyGuiCommands platform call draft
            (first ++ [.undo time, .redo time'] ++ second) = .ok result →
          ∃ plain, applyEnterpriseTopologyGuiCommands platform call draft (first ++ second) =
            .ok plain ∧ SameUpToTime plain.draft result.draft) ∧
      (∀ call calls batch,
        applyEnterpriseTopologyGuiCommands platform call draft (calls.map Prod.snd) = .ok batch →
        (∀ first, first <+: calls.map Prod.snd → ∃ call result,
          applyEnterpriseTopologyGuiCommands platform call draft first = .ok result) →
          ∃ last, applySingly platform draft calls = .ok last ∧ SameUpToTime batch.draft last) ∧
      ∀ call commands issue,
        applyEnterpriseTopologyGuiCommands platform call draft commands = .error issue →
          submit platform call draft commands = draft := by
  have consistent := session.consistent
  refine ⟨?_, consistent.validation, fun _ _ _ _ _ => undo_redo consistent,
    fun _ _ _ _ _ _ => undo_redo_amid consistent, fun call calls batch applied accepted => ?_,
    fun call commands issue rejected => ?_⟩
  · have created : Consistent platform
        (createEnterpriseTopologyGuiDraft platform profile input clock) := created_consistent
    have opened : replay (base _) [] = .ok (_, _) := created.replayed
    have replayed := consistent.replayed
    rw [← session.origin.base] at replayed
    exact ok.inj opened ▸ replayed
  · obtain ⟨last, singly, consistent', origin, taken⟩ := applySingly_spec consistent accepted
    obtain ⟨consistent'', origin', taken'⟩ := applied_spec consistent applied
    exact ⟨last, singly, consistent''.sameUpToTime consistent' (origin'.symm.trans origin)
      (ok.inj (taken'.symm.trans taken))⟩
  · rw [submit, rejected]

/-- The lead is moved and a third node created, and the creation undone. -/
def moveAndCreate : List GuiCommand :=
  [.operation ⟨⟨"move", .number 1, .moveNode "lead"⟩, some ⟨.finite 4, .finite 2⟩, none, fun _ => rfl⟩,
    .operation ⟨⟨"create", .number 2, .createNode "third" none none none⟩, none, none, nofun⟩,
    .undo (.number 3)]

def movedDraft : EnterpriseTopologyGuiDraft :=
  submit plainPlatform ⟨none, .number 4⟩
    (createEnterpriseTopologyGuiDraft plainPlatform plainProfile ⟨draftTopology, none, none, none⟩
      (.number 0)) moveAndCreate

/-- The move is undone and redone, and a batch that undoes twice is rejected. -/
theorem guiDraft_laws_moved :
    movedDraft.operationLog.map (·.operation.operationId) = ["move"] ∧
      movedDraft.validation = validateTopology plainPlatform movedDraft.topology ∧
      (∃ undone redone,
        applyEnterpriseTopologyGuiCommands plainPlatform ⟨none, .number 6⟩ movedDraft
            [.undo (.number 5)] = .ok undone ∧ undone.draft.operationLog = [] ∧
          applyEnterpriseTopologyGuiCommands plainPlatform ⟨none, .number 8⟩ undone.draft
            [.redo (.number 7)] = .ok redone ∧ SameUpToTime movedDraft redone.draft) ∧
      submit plainPlatform ⟨none, .number 6⟩ movedDraft [.undo (.number 5), .undo (.number 5)] =
        movedDraft := by
  have session : Session plainPlatform plainProfile ⟨draftTopology, none, none, none⟩ (.number 0)
      movedDraft := .submitted ⟨none, .number 4⟩ moveAndCreate .opened
  obtain ⟨-, validation, undo_redo, -, -, rejected⟩ := guiDraft_laws session
  obtain ⟨redone, applied, same⟩ :=
    undo_redo ⟨none, .number 6⟩ ⟨none, .number 8⟩ (.number 5) (.number 7) _ rfl
  exact ⟨rfl, validation, ⟨_, redone, rfl, rfl, applied, same⟩, rejected _ _ _ rfl⟩

end Knowbee.Topology.Editor
