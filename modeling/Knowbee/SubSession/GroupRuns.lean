import Knowbee.SubSession.Group
import Knowbee.SubSession.WavesSound

/-!
# Accounts of a parallel group

Whatever the environment answers, a `run` function is called only when what its
item waits for has completed, and every item is run, skipped, or left to later
waves (`Tracks`).  A promise that is rejected is put into neither list, so the
account is right when no promise is (`group_accounted_iff`); that a list without
items is blocked is the other exception.
-/

namespace Knowbee

open List Prog.Obeys GroupState

variable {P : Type}

/-! ## What the runs came to -/

/-- The promises of the `run` functions that were called, in their order. -/
abbrev RunHistory (P : Type) : Type := List (String × RunSettlement P)

/-- What one operation adds to the history. -/
def recordRuns (runs : RunHistory P) : (op : GroupOp) → GroupAns P op → RunHistory P
  | .run runnable, answers =>
    runs ++ (settledRuns runnable answers).map fun settled => (settled.1.taskId, settled.2)
  | .now, _ => runs
  | .parentAborted, _ => runs
  | .isParentCancelled _, _ => runs
  | .appendParentEvent _ _, _ => runs

def runsOf (past : Past GroupOp (GroupAns P)) : RunHistory P :=
  past.foldr (fun answered runs => recordRuns runs answered.1 answered.2) []

def CompletedIn (runs : RunHistory P) (taskId : String) : Prop :=
  ∃ outcome, (taskId, .fulfilled outcome) ∈ runs ∧ outcome.status = .completed

/-- An item is run only when everything it waits for has completed. -/
def RunsAfterDependencies (edges : List DependencyEdge) (past : Past GroupOp (GroupAns P)) : Prop :=
  ∀ later runnable answers earlier, past = later ++ ⟨.run runnable, answers⟩ :: earlier →
    ∀ item ∈ runnable, ∀ dep ∈ dependencies edges item,
      CompletedIn (runsOf earlier) dep

/-- The outcomes are those of runs that resolved; each item is the one of an
outcome or of an entry that was skipped, and the status is `completed` when
every item ran and completed. -/
structure GroupAccounted (items : List SubSessionWorkItem) (runs : RunHistory P)
    (result : GroupRunResult P) : Prop where
  once : ∃ ran : List (String × SubSessionRunOutcome P),
    (∀ entry ∈ ran, (entry.1, .fulfilled entry.2) ∈ runs) ∧
      result.outcomes = ran.map (·.2) ∧
      (ran.map (·.1) ++ result.skipped.map (·.taskId)).Perm (items.map (·.taskId))
  status : result.status = .completed ↔ ∀ item ∈ items, CompletedIn runs item.taskId

/-- The runs that resolved, with their outcomes. -/
def fulfilledRuns (runs : RunHistory P) : List (String × SubSessionRunOutcome P) :=
  runs.filterMap fun entry =>
    match entry.2 with
    | .fulfilled outcome => some (entry.1, outcome)
    | .rejected => none

lemma mem_fulfilledRuns {runs : RunHistory P} {taskId : String}
    {outcome : SubSessionRunOutcome P} :
    (taskId, outcome) ∈ fulfilledRuns runs ↔ (taskId, .fulfilled outcome) ∈ runs := by
  unfold fulfilledRuns
  rw [mem_filterMap]
  constructor
  · rintro ⟨⟨id, settled | _⟩, member, same⟩
    · cases same
      exact member
    · cases same
  · exact fun member => ⟨_, member, rfl⟩

lemma fulfilledRuns_append (runs more : RunHistory P) :
    fulfilledRuns (runs ++ more) = fulfilledRuns runs ++ fulfilledRuns more :=
  filterMap_append

lemma fulfilledRuns_all {runs : RunHistory P} (all : runs.length ≤ (fulfilledRuns runs).length) :
    ∀ taskId, (taskId, .rejected) ∉ runs := by
  intro taskId member
  have shorter : (fulfilledRuns runs).length < runs.length := by
    obtain ⟨before, after, rfl⟩ := append_of_mem member
    have same : fulfilledRuns (before ++ (taskId, .rejected) :: after) =
        fulfilledRuns before ++ fulfilledRuns after := fulfilledRuns_append _ _
    have first : (fulfilledRuns before).length ≤ before.length := length_filterMap_le _ _
    have second : (fulfilledRuns after).length ≤ after.length := length_filterMap_le _ _
    rw [same, length_append, length_append, length_cons]
    omega
  omega

lemma fulfilledRuns_ids {runs : RunHistory P} (none : ∀ taskId, (taskId, .rejected) ∉ runs) :
    (fulfilledRuns runs).map (·.1) = runs.map (·.1) := by
  induction runs with
  | nil => rfl
  | cons entry rest ih =>
    have later := ih fun taskId member => none taskId (mem_cons_of_mem _ member)
    obtain ⟨taskId, outcome | _⟩ := entry
    · exact congrArg (taskId :: ·) later
    · exact absurd mem_cons_self (none taskId)

lemma completedIn_append {runs : RunHistory P} {taskId other : String}
    {settlement : RunSettlement P} :
    CompletedIn (runs ++ [(taskId, settlement)]) other ↔ CompletedIn runs other ∨
      other = taskId ∧ ∃ outcome, settlement = .fulfilled outcome ∧ outcome.status = .completed := by
  constructor
  · rintro ⟨outcome, member, completed⟩
    rcases mem_append.mp member with old | new
    · exact .inl ⟨outcome, old, completed⟩
    · cases mem_singleton.mp new
      exact .inr ⟨rfl, outcome, rfl, completed⟩
  · rintro (⟨outcome, member, completed⟩ | ⟨rfl, outcome, rfl, completed⟩)
    · exact ⟨outcome, mem_append_left _ member, completed⟩
    · exact ⟨outcome, mem_append_right _ (mem_singleton.mpr rfl), completed⟩

/-! ## The account while the group runs -/

/-- The outcomes are those of the runs that resolved, the tasks that completed
are marked as such, the others that ran or were skipped are marked too, and the
tasks are those that ran, those that were skipped, and those that are left. -/
structure Tracks (items : List SubSessionWorkItem) (runs : RunHistory P) (state : GroupState P)
    (left : List String) : Prop where
  outcomes : state.outcomes = (fulfilledRuns runs).map (·.2)
  completed : ∀ taskId, taskId ∈ state.completedTasks ↔ CompletedIn runs taskId
  marked : ∀ taskId, (taskId ∈ state.completedTasks ∨ taskId ∈ state.blockedTasks ∨
    taskId ∈ state.skippedTaskIds) ↔
      taskId ∈ runs.map (·.1) ∨ taskId ∈ state.skipped.map (·.taskId)
  tasks : (runs.map (·.1) ++ state.skipped.map (·.taskId) ++ left).Perm (items.map (·.taskId))

namespace Tracks

variable {items : List SubSessionWorkItem} {runs : RunHistory P} {state : GroupState P}
  {left : List String}

lemma perm (tracks : Tracks items runs state left) {left' : List String}
    (same : left.Perm left') : Tracks items runs state left' :=
  { tracks with tasks := (same.symm.append_left _).trans tracks.tasks }

lemma not_marked (tracks : Tracks items runs state left)
    (distinct : (items.map (·.taskId)).Nodup) {taskId : String} (isLeft : taskId ∈ left) :
    ¬(taskId ∈ state.completedTasks ∨ taskId ∈ state.blockedTasks ∨
      taskId ∈ state.skippedTaskIds) := by
  rw [tracks.marked, ← mem_append]
  exact fun before =>
    (nodup_append.mp (tracks.tasks.nodup_iff.mpr distinct)).2.2 _ before _ isLeft rfl

lemma skip {item : SubSessionWorkItem} (tracks : Tracks items runs state (item.taskId :: left))
    (reasonCode : String) (more : List String) (among : ∀ taskId ∈ more, taskId = item.taskId) :
    Tracks items runs
      { state with
        skipped := state.skipped ++ [item.skip reasonCode]
        blockedTasks := state.blockedTasks ++ [item.taskId]
        skippedTaskIds := state.skippedTaskIds ++ more } left where
  outcomes := tracks.outcomes
  completed := tracks.completed
  marked := by
    intro taskId
    have old := tracks.marked taskId
    have new : taskId ∈ (state.skipped ++ [item.skip reasonCode]).map (·.taskId) ↔
        taskId ∈ state.skipped.map (·.taskId) ∨ taskId = item.taskId := by
      rw [map_append, mem_append]
      exact or_congr_right mem_singleton
    show (taskId ∈ state.completedTasks ∨ taskId ∈ state.blockedTasks ++ [item.taskId] ∨
      taskId ∈ state.skippedTaskIds ++ more) ↔ _
    rw [new, mem_append, mem_append, mem_singleton]
    constructor
    · rintro (done | (blocked | same) | (skipped | same))
      · exact (old.mp (.inl done)).imp_right .inl
      · exact (old.mp (.inr (.inl blocked))).imp_right .inl
      · exact .inr (.inr same)
      · exact (old.mp (.inr (.inr skipped))).imp_right .inl
      · exact .inr (.inr (among taskId same))
    · rintro (ran | skipped | same)
      · exact (old.mpr (.inl ran)).imp_right (.imp .inl .inl)
      · exact (old.mpr (.inr skipped)).imp_right (.imp .inl .inl)
      · exact .inr (.inl (.inr same))
  tasks := by
    have tasks := tracks.tasks
    rw [map_append, append_assoc, append_assoc]
    rw [append_assoc] at tasks
    exact tasks

lemma settle {item : SubSessionWorkItem} (tracks : Tracks items runs state (item.taskId :: left))
    (settlement : RunSettlement P) :
    Tracks items (runs ++ [(item.taskId, settlement)]) (state.settle (item, settlement)) left := by
  have ran taskId : taskId ∈ (runs ++ [(item.taskId, settlement)]).map (·.1) ↔
      taskId ∈ runs.map (·.1) ∨ taskId = item.taskId := by
    rw [map_append, mem_append]
    exact or_congr_right mem_singleton
  have tasks : ((runs ++ [(item.taskId, settlement)]).map (·.1) ++
      state.skipped.map (·.taskId) ++ left).Perm (items.map (·.taskId)) := by
    refine List.Perm.trans ?_ tracks.tasks
    rw [map_append, map_singleton, append_assoc, append_assoc,
      append_assoc, singleton_append]
    exact perm_middle.symm.append_left _
  have marked taskId : (taskId ∈ state.completedTasks ∨
      taskId ∈ state.blockedTasks ∨ taskId ∈ state.skippedTaskIds) ∨ taskId = item.taskId ↔
        taskId ∈ (runs ++ [(item.taskId, settlement)]).map (·.1) ∨
          taskId ∈ state.skipped.map (·.taskId) := by
    rw [ran, tracks.marked]
    constructor
    · rintro ((before | skipped) | same)
      · exact .inl (.inl before)
      · exact .inr skipped
      · exact .inl (.inr same)
    · rintro ((before | same) | skipped)
      · exact .inl (.inl before)
      · exact .inr same
      · exact .inl (.inr skipped)
  have blocks taskId : (taskId ∈ state.completedTasks ∨
      taskId ∈ state.blockedTasks ++ [item.taskId] ∨ taskId ∈ state.skippedTaskIds) ↔
        (taskId ∈ state.completedTasks ∨ taskId ∈ state.blockedTasks ∨
          taskId ∈ state.skippedTaskIds) ∨ taskId = item.taskId := by
    rw [mem_append, mem_singleton]
    tauto
  cases settlement with
  | rejected =>
    refine ⟨?_, fun taskId => ?_, fun taskId => (blocks taskId).trans (marked taskId), tasks⟩
    · rw [fulfilledRuns_append]
      exact tracks.outcomes.trans (congrArg _ (append_nil _).symm)
    · rw [completedIn_append, ← tracks.completed]
      exact ⟨.inl, fun done => done.resolve_right nofun⟩
  | fulfilled outcome =>
    have outcomes : state.outcomes ++ [outcome] =
        (fulfilledRuns (runs ++ [(item.taskId, .fulfilled outcome)])).map (·.2) := by
      rw [fulfilledRuns_append, map_append, tracks.outcomes]
      rfl
    unfold GroupState.settle
    simp only
    split_ifs with done
    · refine ⟨outcomes, fun taskId => ?_, fun taskId => ?_, tasks⟩
      · rw [completedIn_append, ← tracks.completed, mem_append, mem_singleton]
        exact or_congr_right ⟨fun same => ⟨same, outcome, rfl, done⟩, And.left⟩
      · refine Iff.trans ?_ (marked taskId)
        show (taskId ∈ state.completedTasks ++ [item.taskId] ∨ taskId ∈ state.blockedTasks ∨
          taskId ∈ state.skippedTaskIds) ↔ _
        rw [mem_append, mem_singleton]
        tauto
    · refine ⟨outcomes, fun taskId => ?_, fun taskId => (blocks taskId).trans (marked taskId),
        tasks⟩
      rw [completedIn_append, ← tracks.completed]
      refine ⟨.inl, fun completes => completes.resolve_right ?_⟩
      rintro ⟨-, other, same, completed⟩
      cases same
      exact done completed

lemma settleAll {runnable : List (SubSessionWorkItem × RunSettlement P)}
    (tracks : Tracks items runs state (runnable.map (·.1.taskId) ++ left)) :
    Tracks items (runs ++ runnable.map fun settled => (settled.1.taskId, settled.2))
      (runnable.foldl GroupState.settle state) left := by
  induction runnable generalizing runs state with
  | nil =>
    rw [map_nil, append_nil]
    exact tracks
  | cons settled rest ih =>
    have next := ih (tracks.settle settled.2)
    rw [append_assoc] at next
    exact next

lemma skipRemaining (tracks : Tracks items runs state left)
    (distinct : (items.map (·.taskId)).Nodup) {all : List SubSessionWorkItem}
    (among : ∀ item ∈ all, item.taskId ∈ items.map (·.taskId))
    (covers : ∀ taskId ∈ left, taskId ∈ all.map (·.taskId)) (reasonCode : String) :
    Tracks items runs (all.foldl (skipRemaining reasonCode) state) [] := by
  induction all generalizing state left with
  | nil =>
    have nothing : left = [] := eq_nil_iff_forall_not_mem.mpr fun taskId member =>
      absurd (covers taskId member) not_mem_nil
    exact nothing ▸ tracks
  | cons item rest ih =>
    rw [foldl_cons]
    have later : ∀ item ∈ rest, item.taskId ∈ items.map (·.taskId) := fun other member =>
      among other (mem_cons_of_mem _ member)
    by_cases mark : item.taskId ∈ state.completedTasks ∨ item.taskId ∈ state.blockedTasks ∨
        item.taskId ∈ state.skippedTaskIds
    · rw [skipRemaining, if_pos mark]
      refine ih tracks later fun taskId isLeft => ?_
      rcases mem_cons.mp (covers taskId isLeft) with same | member
      · exact absurd (same ▸ mark) (tracks.not_marked distinct isLeft)
      · exact member
    · rw [skipRemaining, if_neg mark]
      have isLeft : item.taskId ∈ left := by
        rcases mem_append.mp (tracks.tasks.symm.subset (among item mem_cons_self)) with
          before | isLeft
        · exact absurd ((tracks.marked _).mpr (mem_append.mp before)) mark
        · exact isLeft
      have apart : left.Nodup := (nodup_append.mp (tracks.tasks.nodup_iff.mpr distinct)).2.1
      have skipped := (tracks.perm (perm_cons_erase isLeft)).skip reasonCode [item.taskId]
        fun taskId member => mem_singleton.mp member
      refine ih skipped later fun taskId member => ?_
      obtain ⟨other, isLeft⟩ := apart.mem_erase_iff.mp member
      exact (mem_cons.mp (covers taskId isLeft)).resolve_left other

/-- What the item waits for has completed. -/
def Ready (edges : List DependencyEdge) (runs : RunHistory P) (item : SubSessionWorkItem) : Prop :=
  ∀ dep ∈ dependencies edges item, CompletedIn runs dep

lemma checkDependencies (distinct : (items.map (·.taskId)).Nodup) (edges : List DependencyEdge)
    {waveItems ready : List SubSessionWorkItem} {later : List String}
    (tracks : Tracks items runs state
      (ready.map (·.taskId) ++ (waveItems.map (·.taskId) ++ later)))
    (areReady : ∀ item ∈ ready, Ready edges runs item) :
    let checked := waveItems.foldl (checkDependencies edges) (state, ready)
    Tracks items runs checked.1 (checked.2.map (·.taskId) ++ later) ∧
      ∀ item ∈ checked.2, Ready edges runs item := by
  induction waveItems generalizing state ready with
  | nil => exact ⟨tracks, areReady⟩
  | cons item rest ih =>
    have isLeft : item.taskId ∈ ready.map (·.taskId) ++ ((item :: rest).map (·.taskId) ++ later) :=
      mem_append_right _ mem_cons_self
    have unmarked := tracks.not_marked distinct isLeft
    have present : item.taskId ∉ state.skippedTaskIds := fun skipped =>
      unmarked (.inr (.inr skipped))
    rw [foldl_cons]
    unfold checkDependencies
    simp only [if_neg present]
    split_ifs with blocked
    · refine ih ?_ areReady
      have first : (ready.map (·.taskId) ++ ((item :: rest).map (·.taskId) ++ later)).Perm
          (item.taskId :: (ready.map (·.taskId) ++ (rest.map (·.taskId) ++ later))) :=
        perm_middle
      have skipped := (tracks.perm first).skip "dependency_not_completed" [] fun _ member =>
        nomatch member
      rw [append_nil] at skipped
      exact skipped
    · refine ih ?_ ?_
      · rw [map_append, append_assoc]
        exact tracks
      · intro other member
        rcases mem_append.mp member with old | new
        · exact areReady other old
        · rw [mem_singleton.mp new]
          intro dep waits
          rw [← tracks.completed]
          by_contra missing
          exact blocked (any_eq_true.mpr ⟨dep, waits, by simp [missing]⟩)

end Tracks

/-! ## The program -/

def groupRules (edges : List DependencyEdge) :
    Rules Unit GroupOp (GroupAns P) (RunHistory P) where
  start := fun _ => []
  next := recordRuns
  may := fun runs op =>
    match op with
    | .run runnable => ∀ item ∈ runnable, Tracks.Ready edges runs item
    | _ => True
  gets := fun _ _ _ => True

section Program

variable {edges : List DependencyEdge} {runs : RunHistory P} {options : GroupRunOptions}
  {α : Type}

abbrev Quiet (edges : List DependencyEdge) (runs : RunHistory P) (prog : GroupProg P α) : Prop :=
  prog.Obeys (groupRules edges) (fun after _ => after = runs) runs

lemma Quiet.bind {β : Type} {prog : GroupProg P α} {onward : α → GroupProg P β}
    {ends : RunHistory P → β → Prop} (quiet : Quiet edges runs prog)
    (then_obeys : ∀ value, (onward value).Obeys (groupRules edges) ends runs) :
    (prog >>= onward).Obeys (groupRules edges) ends runs := by
  refine Prog.Obeys.bind _ quiet fun after value same => ?_
  rw [same]
  exact then_obeys value

lemma quiet_appendParentEvent (edges : List DependencyEdge) (runs : RunHistory P)
    (options : GroupRunOptions) (event : GroupEvent) :
    Quiet edges runs (appendParentEvent options event) := by
  unfold appendParentEvent
  split
  · exact ret rfl
  · exact ⟨trivial, fun _ _ => rfl⟩

lemma quiet_isParallelGroupCancelled (edges : List DependencyEdge) (runs : RunHistory P)
    (options : GroupRunOptions) : Quiet edges runs (isParallelGroupCancelled options) := by
  refine perform trivial fun (aborted : Bool) _ => ?_
  refine ite (fun _ => ret rfl) fun _ => ?_
  split
  · exact ret rfl
  · exact ite (fun _ => ⟨trivial, fun _ _ => rfl⟩) fun _ => ret rfl

lemma quiet_appendLockEvents (edges : List DependencyEdge) (runs : RunHistory P)
    (options : GroupRunOptions) (event : SubSessionWorkItem → GroupEvent)
    (runnable : List SubSessionWorkItem) :
    Quiet edges runs (appendLockEvents options event runnable) := by
  induction runnable with
  | nil => exact ret rfl
  | cons item rest ih =>
    unfold appendLockEvents
    refine ite (fun _ => ?_) fun _ => ih
    exact Quiet.bind (quiet_appendParentEvent edges runs options _) fun _ => ih

lemma obeys_waitForLocks {items : List SubSessionWorkItem} (group : SubSessionGroup)
    (wave : SubSessionExecutionWave) (waitMs : JsNumber) {later : List String}
    {waiting : List SubSessionWorkItem} (runnable : List SubSessionWorkItem) {state : GroupState P}
    (tracks : Tracks items runs state
      (runnable.map (·.taskId) ++ (waiting.map (·.taskId) ++ later)))
    (areReady : ∀ item ∈ runnable ++ waiting, Tracks.Ready edges runs item) :
    (waitForLocks group options wave waitMs waiting state runnable).Obeys (groupRules edges)
      (fun after waited => after = runs ∧
        Tracks items runs waited.1 (waited.2.map (·.taskId) ++ later) ∧
        ∀ item ∈ waited.2, Tracks.Ready edges runs item) runs := by
  induction waiting generalizing state runnable with
  | nil =>
    rw [append_nil] at areReady
    exact ret ⟨rfl, tracks, areReady⟩
  | cons item rest ih =>
    have keeps : (waitForLocks group options wave waitMs rest state
        (runnable ++ [item])).Obeys (groupRules edges) (fun after waited => after = runs ∧
          Tracks items runs waited.1 (waited.2.map (·.taskId) ++ later) ∧
          ∀ item ∈ waited.2, Tracks.Ready edges runs item) runs := by
      refine ih _ ?_ ?_
      · rw [map_append, append_assoc]
        exact tracks
      · rw [append_assoc]
        exact areReady
    have skips : (waitForLocks group options wave waitMs rest (state.timeOut item)
        runnable).Obeys (groupRules edges) (fun after waited => after = runs ∧
          Tracks items runs waited.1 (waited.2.map (·.taskId) ++ later) ∧
          ∀ item ∈ waited.2, Tracks.Ready edges runs item) runs := by
      refine ih _ ?_ fun other member => areReady other ?_
      · have first : (runnable.map (·.taskId) ++ ((item :: rest).map (·.taskId) ++ later)).Perm
            (item.taskId :: (runnable.map (·.taskId) ++ (rest.map (·.taskId) ++ later))) :=
          perm_middle
        exact (tracks.perm first).skip "resource_lock_timeout" [item.taskId] fun taskId member =>
          mem_singleton.mp member
      · rcases mem_append.mp member with before | after
        · exact mem_append_left _ before
        · exact mem_append_right _ (mem_cons_of_mem _ after)
    unfold waitForLocks
    refine ite (fun _ => ?_) fun _ => keeps
    refine Quiet.bind (quiet_appendParentEvent edges runs options _) fun _ => ?_
    refine ite (fun _ => ?_) fun _ => keeps
    exact Quiet.bind (quiet_appendParentEvent edges runs options _) fun _ => skips

lemma settledRuns_fst (runnable : List SubSessionWorkItem) (answers : Nat → RunSettlement P) :
    (settledRuns runnable answers).map (·.1.taskId) = runnable.map (·.taskId) := by
  calc (settledRuns runnable answers).map (·.1.taskId)
      = (runnable.zipIdx.map Prod.fst).map (·.taskId) := by
        rw [settledRuns, map_map, map_map]
        rfl
    _ = runnable.map (·.taskId) := by rw [zipIdx_map_fst]

lemma obeys_runWaves {arithmetic : JsArithmetic} {group : SubSessionGroup}
    {groupStartedAt : JsNumber} {items : List SubSessionWorkItem}
    (distinct : (items.map (·.taskId)).Nodup) {all rest : List SubSessionExecutionWave}
    (among : ∀ item ∈ all.flatMap SubSessionExecutionWave.items,
      item.taskId ∈ items.map (·.taskId))
    (isRest : rest ⊆ all) {state : GroupState P}
    (tracks : Tracks items runs state
      ((rest.flatMap SubSessionExecutionWave.items).map (·.taskId))) :
    (runWaves arithmetic group options groupStartedAt all rest state).Obeys
      (groupRules group.dependencyEdges)
      (fun after state => Tracks items after state []) runs := by
  induction rest generalizing runs state with
  | nil => exact ret tracks
  | cons wave rest ih =>
    unfold runWaves
    refine Quiet.bind (quiet_isParallelGroupCancelled _ runs options) fun cancelled => ?_
    refine ite (fun _ => ?_) fun _ => ?_
    · refine Quiet.bind (quiet_appendParentEvent _ runs options _) fun _ => ret ?_
      refine tracks.skipRemaining distinct among (fun taskId isLeft => ?_) "parent_run_cancelled"
      obtain ⟨item, member, rfl⟩ := mem_map.mp isLeft
      obtain ⟨wave, here, member⟩ := mem_flatMap.mp member
      exact mem_map_of_mem (mem_flatMap.mpr ⟨wave, isRest here, member⟩)
    · refine perform trivial fun waveStartedAt _ => ?_
      rw [flatMap_cons, map_append] at tracks
      have start : Tracks items runs state (([] : List SubSessionWorkItem).map (·.taskId) ++
          (wave.items.map (·.taskId) ++
            (rest.flatMap SubSessionExecutionWave.items).map (·.taskId))) := tracks
      obtain ⟨checked, areReady⟩ := start.checkDependencies distinct group.dependencyEdges
        nofun
      generalize wave.items.foldl (checkDependencies group.dependencyEdges) (state, []) =
        result at checked areReady ⊢
      obtain ⟨state', ready⟩ := result
      refine bind _ (obeys_waitForLocks group wave _ [] checked areReady) ?_
      rintro _ ⟨state', runnable⟩ ⟨rfl, waited, areReady⟩
      refine Quiet.bind (quiet_appendLockEvents _ _ options _ runnable) fun _ => ?_
      refine perform areReady fun answers _ => ?_
      refine Quiet.bind (quiet_appendLockEvents _ _ options _ runnable) fun _ => ?_
      refine ih (fun _ member => isRest (mem_cons_of_mem _ member)) ?_
      rw [← settledRuns_fst runnable answers] at waited
      exact waited.settleAll

/-! ## The budget -/

lemma budget_perm (arithmetic : JsArithmetic) (items : List SubSessionWorkItem)
    (budget : Option ParallelSubSessionBudget) (selection : BudgetSelection) :
    let after := items.foldl (BudgetSelection.consider arithmetic budget) selection
    (after.skipped.map (·.taskId) ++ after.selected.map (·.taskId)).Perm
        (selection.skipped.map (·.taskId) ++ selection.selected.map (·.taskId) ++
          items.map (·.taskId)) ∧
      ∃ more, after.selected = selection.selected ++ more ∧ more.Sublist items := by
  induction items generalizing selection with
  | nil => exact ⟨by rw [map_nil, append_nil]; exact List.Perm.refl _, [],
      (append_nil _).symm, List.Sublist.slnil⟩
  | cons item rest ih =>
    obtain ⟨perm, more, selected, sublist⟩ := ih (selection.consider arithmetic budget item)
    rw [foldl_cons]
    cases reason : budgetExceededReason arithmetic item selection.totals budget with
    | some reasonCode =>
      have skips : selection.consider arithmetic budget item =
          { selection with skipped := selection.skipped ++ [item.skip reasonCode] } := by
        rw [BudgetSelection.consider, reason]
      refine ⟨perm.trans ?_, more, ?_, sublist.cons item⟩
      · have middle : (item.taskId :: (selection.selected.map (·.taskId) ++
            rest.map (·.taskId))).Perm (selection.selected.map (·.taskId) ++
              item.taskId :: rest.map (·.taskId)) := perm_middle.symm
        rw [skips, map_append, append_assoc, append_assoc, append_assoc]
        exact middle.append_left _
      · rw [selected, skips]
    | none =>
      have selects : (selection.consider arithmetic budget item).selected =
          selection.selected ++ [item] ∧
          (selection.consider arithmetic budget item).skipped = selection.skipped := by
        rw [BudgetSelection.consider, reason]
        exact ⟨rfl, rfl⟩
      refine ⟨perm.trans ?_, item :: more, ?_, sublist.cons_cons item⟩
      · rw [selects.1, selects.2, map_append, append_assoc, append_assoc,
          append_assoc]
        exact List.Perm.refl _
      · rw [selected, selects.1, append_assoc]
        rfl

lemma applyBudget_spec (arithmetic : JsArithmetic) (items : List SubSessionWorkItem)
    (budget : Option ParallelSubSessionBudget) :
    let applied := applyParallelSubSessionBudget arithmetic items budget
    (applied.2.skipped.map (·.taskId) ++ applied.1.map (·.taskId)).Perm (items.map (·.taskId)) ∧
      applied.1.Sublist items ∧ (applied.2.status = .blocked → applied.1 = []) := by
  obtain ⟨perm, more, selected, sublist⟩ := budget_perm arithmetic items budget ⟨[], [], 0, 0, 0⟩
  refine ⟨perm, ?_, fun blocked => ?_⟩
  · show (selectWithinBudget arithmetic items budget).selected.Sublist items
    rw [selectWithinBudget, selected]
    exact sublist
  · by_contra some_selected
    unfold applyParallelSubSessionBudget at blocked some_selected
    simp only [if_pos some_selected] at blocked
    split_ifs at blocked

lemma resolve_completed {outcomes : List (SubSessionRunOutcome P)} {skipped : List SkippedItem}
    {budget : BudgetDecision} :
    resolveParallelGroupStatus outcomes skipped budget = .completed ↔
      budget.status ≠ .blocked ∧ (∀ outcome ∈ outcomes, outcome.status = .completed) ∧
        skipped = [] := by
  unfold resolveParallelGroupStatus
  split_ifs with blocked failed skips some_skipped
  · exact ⟨nofun, fun completed => absurd blocked completed.1⟩
  · refine ⟨nofun, fun completed => ?_⟩
    obtain ⟨outcome, member, other⟩ := any_eq_true.mp failed
    exact absurd (completed.2.1 outcome member) (by simpa using other)
  · refine ⟨nofun, fun completed => ?_⟩
    rw [completed.2.2] at skips
    exact absurd skips Bool.false_ne_true
  · exact ⟨nofun, fun completed => absurd completed.2.2 some_skipped⟩
  · refine ⟨fun _ => ⟨blocked, fun outcome member => ?_, not_not.mp some_skipped⟩, fun _ => rfl⟩
    by_contra other
    exact failed (any_eq_true.mpr ⟨outcome, member, by simpa using other⟩)

/-! ## The whole group -/

/-- What the history and the result of a group come to: the tasks that ran and
those that were skipped are all there are, and the status is found from the
outcomes and the entries that were skipped. -/
structure Concluded (items : List SubSessionWorkItem) (runs : RunHistory P)
    (result : GroupRunResult P) : Prop where
  outcomes : result.outcomes = (fulfilledRuns runs).map (·.2)
  tasks : (runs.map (·.1) ++ result.skipped.map (·.taskId)).Perm (items.map (·.taskId))
  completed : result.status = .completed ↔ items ≠ [] ∧
    (∀ outcome ∈ result.outcomes, outcome.status = .completed) ∧ result.skipped = []

lemma obeys_runBudgetedGroup {arithmetic : JsArithmetic} {group : SubSessionGroup}
    {items : List SubSessionWorkItem} (distinct : (items.map (·.taskId)).Nodup)
    {groupStartedAt : JsNumber} {decision : BudgetDecision} {budgeted : List SubSessionWorkItem}
    {waves : List SubSessionExecutionWave}
    (tasks : (decision.skipped.map (·.taskId) ++ budgeted.map (·.taskId)).Perm
      (items.map (·.taskId)))
    (sublist : budgeted.Sublist items) (blocked : decision.status = .blocked → budgeted = [])
    (partition : (waves.flatMap SubSessionExecutionWave.items).Perm budgeted) :
    (runBudgetedGroup arithmetic group options groupStartedAt decision budgeted waves :
      GroupProg P _).Obeys (groupRules group.dependencyEdges) (Concluded items) [] := by
  unfold runBudgetedGroup
  refine ite (fun nothing => ret ⟨rfl, ?_, ?_⟩) fun some_item => ?_
  · rw [nothing, map_nil, append_nil] at tasks
    exact tasks
  · refine ⟨nofun, fun ⟨some_item, _, noneSkipped⟩ => ?_⟩
    have lengths := tasks.length_eq
    rw [nothing, show decision.skipped = [] from noneSkipped, length_map] at lengths
    exact absurd (eq_nil_of_length_eq_zero lengths.symm) some_item
  · have among : ∀ item ∈ waves.flatMap SubSessionExecutionWave.items,
        item.taskId ∈ items.map (·.taskId) := fun item member =>
      mem_map_of_mem (sublist.subset (partition.subset member))
    have start : Tracks items ([] : RunHistory P)
        ⟨[], decision.skipped, [], [], decision.skipped.map (·.taskId)⟩
        ((waves.flatMap SubSessionExecutionWave.items).map (·.taskId)) := by
      refine ⟨rfl, fun taskId => ⟨nofun, ?_⟩,
        fun taskId => ?_, ?_⟩
      · rintro ⟨_, member, -⟩
        cases member
      · simp
      · exact ((partition.map _).append_left _).trans tasks
    refine bind _ (obeys_runWaves distinct among (List.Subset.refl _) start) ?_
    intro runs state tracks
    have someItem : items ≠ [] := by
      rintro rfl
      exact some_item (sublist_nil.mp sublist)
    refine ret ⟨tracks.outcomes, ?_, ?_⟩
    · have tasks := tracks.tasks
      rw [append_nil] at tasks
      exact tasks
    · rw [resolve_completed]
      exact ⟨fun completed => ⟨someItem, completed.2⟩, fun completed =>
        ⟨fun isBlocked => some_item (blocked isBlocked), completed.2⟩⟩

lemma obeys_runParallelSubSessionGroup (arithmetic : JsArithmetic) (group : SubSessionGroup)
    {items : List SubSessionWorkItem} (distinct : (items.map (·.taskId)).Nodup)
    (options : GroupRunOptions) :
    (runParallelSubSessionGroup arithmetic group items options : GroupProg P _).Obeys
      (groupRules group.dependencyEdges) (Concluded items) [] := by
  have spec := applyBudget_spec arithmetic items options.budget
  unfold runParallelSubSessionGroup
  generalize applyParallelSubSessionBudget arithmetic items options.budget = applied at spec ⊢
  obtain ⟨budgeted, decision⟩ := applied
  obtain ⟨perm, sublist, blocked⟩ := spec
  obtain ⟨waves, plan, partition⟩ :=
    plan_exists ((sublist.map _).nodup distinct) group options.concurrency
  simp only [plan, Option.getD_some]
  refine perform trivial fun groupStartedAt _ => ?_
  have rest : (runBudgetedGroup arithmetic group options groupStartedAt decision budgeted waves :
      GroupProg P _).Obeys (groupRules group.dependencyEdges) (Concluded items) [] :=
    obeys_runBudgetedGroup distinct perm sublist blocked partition
  have budgetEvent := ite (fun _ : decision.status ≠ .ok => Quiet.bind
    (quiet_appendParentEvent _ [] options (.budget decision.status group.groupId
      decision.reasonCodes)) fun _ => rest) fun _ => rest
  exact ite
    (fun _ => Quiet.bind (quiet_appendParentEvent _ [] options _) fun _ => budgetEvent)
    fun _ => budgetEvent

lemma Concluded.accounted_iff {items : List SubSessionWorkItem} {runs : RunHistory P}
    {result : GroupRunResult P} (distinct : (items.map (·.taskId)).Nodup)
    (concluded : Concluded items runs result) :
    GroupAccounted items runs result ↔
      items ≠ [] ∧ ∀ taskId, (taskId, .rejected) ∉ runs := by
  constructor
  · intro accounted
    constructor
    · rintro rfl
      have completed := accounted.status.mpr nofun
      exact (concluded.completed.mp completed).1 rfl
    · obtain ⟨ran, -, outcomes, once⟩ := accounted.once
      refine fulfilledRuns_all ?_
      have asMany := congrArg List.length (outcomes.symm.trans concluded.outcomes)
      have reported := once.length_eq
      have all := concluded.tasks.length_eq
      simp only [length_append, length_map] at asMany reported all
      omega
  · rintro ⟨some_item, noneRejected⟩
    have ids := fulfilledRuns_ids noneRejected
    have apart := concluded.tasks.nodup_iff.mpr distinct
    refine ⟨⟨fulfilledRuns runs, fun entry => mem_fulfilledRuns.mp, concluded.outcomes, ?_⟩, ?_⟩
    · rw [ids]
      exact concluded.tasks
    · rw [concluded.completed]
      constructor
      · rintro ⟨-, allCompleted, noneSkipped⟩ item member
        have ran := concluded.tasks.symm.subset (mem_map_of_mem member)
        rw [noneSkipped, map_nil, append_nil, ← ids] at ran
        obtain ⟨⟨taskId, outcome⟩, here, rfl⟩ := mem_map.mp ran
        refine ⟨outcome, mem_fulfilledRuns.mp here, allCompleted outcome ?_⟩
        rw [concluded.outcomes]
        exact mem_map_of_mem here
      · intro completed
        refine ⟨some_item, fun outcome member => ?_, ?_⟩
        · rw [concluded.outcomes] at member
          obtain ⟨⟨taskId, _⟩, here, rfl⟩ := mem_map.mp member
          have ran := mem_fulfilledRuns.mp here
          obtain ⟨item, isItem, rfl⟩ := mem_map.mp (concluded.tasks.subset
            (mem_append_left _ (mem_map_of_mem ran)))
          obtain ⟨other, ran', isCompleted⟩ := completed item isItem
          have same := inj_on_of_nodup_map (nodup_append.mp apart).1 ran ran' rfl
          cases same
          exact isCompleted
        · refine eq_nil_iff_forall_not_mem.mpr fun entry member => ?_
          have skipped := mem_map_of_mem (f := (·.taskId)) member
          obtain ⟨item, isItem, same⟩ := mem_map.mp (concluded.tasks.subset
            (mem_append_right (runs.map (·.1)) skipped))
          obtain ⟨outcome, ran, -⟩ := completed item isItem
          exact (nodup_append.mp apart).2.2 _ (mem_map_of_mem ran) _ skipped same

end Program

lemma runsAfterDependencies_of_followed {edges : List DependencyEdge}
    {past : Past GroupOp (GroupAns P)} (followed : (groupRules edges).Followed [] past) :
    RunsAfterDependencies edges past := by
  rintro later runnable answers earlier rfl
  induction later with
  | nil => exact followed.1
  | cons answered later ih => exact ih followed.2

/-- An environment in which nothing is cancelled and every promise comes to the
same. -/
def steadyOracle (settlement : RunSettlement P) :
    Past GroupOp (GroupAns P) → (op : GroupOp) → Option (GroupAns P op)
  | _, .now => some (0 : JsNumber)
  | _, .parentAborted => some false
  | _, .isParentCancelled _ => some false
  | _, .appendParentEvent _ _ => some ()
  | _, .run _ => some fun _ => settlement

def plainOptions : GroupRunOptions :=
  ⟨none, false, none, none, ⟨fun _ => none, none, fun _ => none, none, fun _ => none, none⟩⟩

/-- Numbers that are never added up. -/
def plainArithmetic : JsArithmetic := ⟨fun a _ => a, fun a _ => a⟩

end Knowbee
