import Knowbee.Orchestration.PlannerSound
import Knowbee.Orchestration.WorkflowSound

/-!
# The dependency graph of a plan

The edges of a plan lead from tasks to later tasks: those for locks by the
places of the tasks, those of a draft since the draft lists its units in the
order of their dependencies.  So the graph has no cycle, and for tasks of agents
it holds the dependencies of the units and orders the tasks that hold one lock
exclusively (`PlanOrdered`).
-/

namespace Knowbee.Orchestration

open List ResourceLockManager

/-- Both hold one lock exclusively, as the lock manager keys it. -/
def BothExclusive (a b : List ResourceLockContract) : Prop :=
  ∃ left ∈ a, ∃ right ∈ b, left.mode = .exclusive ∧ right.mode = .exclusive ∧
    lockKey left.toResourceLock =
      lockKey right.toResourceLock

lemma append_colon_inj {a b s t : List Char} (plainA : ':' ∉ a) (plainB : ':' ∉ b)
    (same : a ++ ':' :: s = b ++ ':' :: t) : a = b ∧ s = t := by
  induction a generalizing b with
  | nil =>
    cases b with
    | nil => exact ⟨rfl, (List.cons.inj same).2⟩
    | cons c b => exact absurd ((List.cons.inj same).1 ▸ mem_cons_self) plainB
  | cons c a ih =>
    cases b with
    | nil => exact absurd ((List.cons.inj same).1 ▸ mem_cons_self) plainA
    | cons d b =>
      obtain ⟨rfl, rest⟩ := List.cons.inj same
      obtain ⟨rfl, tail⟩ := ih (fun mem => plainA (mem_cons_of_mem _ mem))
        (fun mem => plainB (mem_cons_of_mem _ mem)) rest
      exact ⟨rfl, tail⟩

lemma colon_not_mem_text (kind : ResourceLockKind) : ':' ∉ kind.text.toList := by
  cases kind <;> simp [ResourceLockKind.text]

lemma text_injective {a b : ResourceLockKind} (same : a.text = b.text) : a = b := by
  cases a <;> cases b <;> first | rfl | simp [ResourceLockKind.text] at same

lemma lockKey_inj {left right : ResourceLock} :
    lockKey left = lockKey right ↔
      left.kind = right.kind ∧ left.target = right.target := by
  constructor
  · intro same
    have chars := congrArg String.toList same
    simp only [lockKey, String.toList_append, append_assoc] at chars
    obtain ⟨kinds, targets⟩ := append_colon_inj (colon_not_mem_text left.kind)
      (colon_not_mem_text right.kind) chars
    exact ⟨text_injective (String.toList_injective kinds), String.toList_injective targets⟩
  · rintro ⟨kinds, targets⟩
    rw [lockKey, lockKey, kinds, targets]

lemma hasExclusiveLockConflict_iff {a b : List ResourceLockContract} :
    hasExclusiveLockConflict a b = true ↔ BothExclusive a b := by
  simp only [hasExclusiveLockConflict, any_eq_true, Bool.decide_and, Bool.and_eq_true,
    decide_eq_true_eq, BothExclusive, lockKey_inj]
  constructor
  · rintro ⟨left, memA, exclusiveA, right, memB, exclusiveB, kinds, targets⟩
    exact ⟨left, memA, right, memB, exclusiveA, exclusiveB, kinds.symm, targets.symm⟩
  · rintro ⟨left, memA, right, memB, exclusiveA, exclusiveB, kinds, targets⟩
    exact ⟨left, memA, exclusiveA, right, memB, exclusiveB, kinds.symm, targets.symm⟩

lemma BothExclusive.symm {a b : List ResourceLockContract} (both : BothExclusive a b) :
    BothExclusive b a := by
  obtain ⟨left, memA, right, memB, exclusiveA, exclusiveB, same⟩ := both
  exact ⟨right, memB, left, memA, exclusiveB, exclusiveA, same.symm⟩

lemma mem_lockEdges {locksOf : String → List ResourceLockContract}
    {tasks : List OrchestrationTask} {edge : DependencyEdgeContract} :
    edge ∈ lockEdges locksOf tasks ↔ ∃ (i j : Nat) (a b : OrchestrationTask), i < j ∧
      tasks[i]? = some a ∧ tasks[j]? = some b ∧
      BothExclusive (locksOf a.taskId) (locksOf b.taskId) ∧
      edge = ⟨a.taskId, b.taskId, "exclusive_resource_lock_conflict"⟩ := by
  induction tasks with
  | nil => simp [lockEdges]
  | cons current rest ih =>
    rw [lockEdges, mem_append, ih]
    simp only [mem_map, mem_filter, hasExclusiveLockConflict_iff]
    constructor
    · rintro (⟨next, ⟨mem, both⟩, rfl⟩ | ⟨i, j, a, b, less, atI, atJ, both, rfl⟩)
      · obtain ⟨place, there⟩ := mem_iff_getElem?.mp mem
        exact ⟨0, place + 1, current, next, Nat.succ_pos _, rfl, there, both, rfl⟩
      · exact ⟨i + 1, j + 1, a, b, Nat.succ_lt_succ less, atI, atJ, both, rfl⟩
    · rintro ⟨i, j, a, b, less, atI, atJ, both, rfl⟩
      cases j with
      | zero => exact absurd less (Nat.not_lt_zero i)
      | succ j =>
        rw [getElem?_cons_succ] at atJ
        cases i with
        | zero =>
          rw [getElem?_cons_zero, Option.some.injEq] at atI
          subst atI
          exact .inl ⟨b, ⟨mem_of_getElem? atJ, both⟩, rfl⟩
        | succ i =>
          rw [getElem?_cons_succ] at atI
          exact .inr ⟨i, j, a, b, Nat.lt_of_succ_lt_succ less, atI, atJ, both, rfl⟩

variable {dependencies : List AuthoredWorkflowDependency}

lemma mem_workflowEdges {tasks : List OrchestrationTask} {edge : DependencyEdgeContract} :
    edge ∈ workflowEdges tasks dependencies ↔ ∃ dependency ∈ dependencies,
      ∃ a b, tasks[dependency.fromScopeIndex]? = some a ∧
        tasks[dependency.toScopeIndex]? = some b ∧
        edge = ⟨a.taskId, b.taskId, "workflow_unit_dependency"⟩ := by
  simp only [workflowEdges, mem_filterMap, Option.bind_eq_some_iff, Option.map_eq_some_iff]
  constructor
  · rintro ⟨dependency, mem, a, atA, b, atB, rfl⟩
    exact ⟨dependency, mem, a, b, atA, atB, rfl⟩
  · rintro ⟨dependency, mem, a, b, atA, atB, rfl⟩
    exact ⟨dependency, mem, a, atA, b, atB, rfl⟩

lemma delegatedTaskId_injective (input : OrchestrationPlannerInput) :
    Function.Injective (delegatedTaskId input) := by
  intro i j same
  have digits : Nat.toDigits 10 i = Nat.toDigits 10 j := by
    have chars := congrArg String.toList same
    simpa [delegatedTaskId] using chars
  exact toDigits_injective digits

def OrchestrationPlan.Precedes (plan : OrchestrationPlan) (a b : String) : Prop :=
  ∃ edge ∈ plan.dependencyEdges, edge.fromTaskId = a ∧ edge.toTaskId = b

/-- A delegated task has the scope of a unit. -/
def TaskOf (plan : OrchestrationPlan) (decision : AgentExecutionDecision) (unit : Nat)
    (task : OrchestrationTask) : Prop :=
  task ∈ plan.delegatedTasks ∧ ∃ taskUnit, decision.taskProfile.taskUnits[unit]? = some taskUnit ∧
    task.scope = sourceTaskScope decision taskUnit

lemma indexUnits_distinct {units : List AgentExecutionTaskUnit}
    (clean : (indexUnits units).2 = []) : (units.map fun unit => jsTrim unit.id).Nodup := by
  induction units using reverseRecOn with
  | nil => exact nodup_nil
  | append_singleton units unit ih =>
    rw [indexUnits_concat, indexUnit] at clean
    dsimp only at clean
    split_ifs at clean with repeated
    · exact absurd clean (by simp)
    push Not at repeated
    obtain ⟨named, fresh⟩ := repeated
    rw [lookup_indexUnits named, Ne, Option.not_isSome_iff_eq_none, findIdx?_eq_none_iff]
      at fresh
    rw [map_append, map_singleton, nodup_append]
    refine ⟨ih clean, nodup_singleton _, ?_⟩
    intro id mem other last same
    obtain ⟨earlier, listed, rfl⟩ := mem_map.mp mem
    rw [mem_singleton] at last
    subst last
    exact of_decide_eq_false (fresh earlier listed) same

lemma unit_eq_of_scope {decision : AgentExecutionDecision} {taskScopes : List StructuredTaskScope}
    (authored : authorWorkflowFromExecutionDecision (some decision) =
      some (.ready taskScopes dependencies))
    {i j : Nat} {a b : AgentExecutionTaskUnit} (atI : decision.taskProfile.taskUnits[i]? = some a)
    (atJ : decision.taskProfile.taskUnits[j]? = some b)
    (same : sourceTaskScope decision a = sourceTaskScope decision b) : i = j := by
  have none : workflowReasons decision = [] := by
    rcases authorWorkflow_cases (Ready.of_authored authored).1 with ⟨-, rejected⟩ | ⟨none, -⟩
    · rw [rejected] at authored
      exact nomatch authored
    · exact none
  have clean : (indexUnits decision.taskProfile.taskUnits).2 = [] := by
    simp only [workflowReasons, append_eq_nil_iff] at none
    exact none.1.1.1.1.1.2
  have ids : jsTrim a.id = jsTrim b.id := by
    have codes := congrArg StructuredTaskScope.reasonCodes same
    simp only [sourceTaskScope, List.cons.injEq, String.append_right_inj, and_true, true_and] at codes
    exact codes
  have below : i < (decision.taskProfile.taskUnits.map fun unit => jsTrim unit.id).length := by
    rw [length_map]
    exact (List.getElem?_eq_some_iff.mp atI).1
  refine (getElem?_inj below (indexUnits_distinct clean)).mp ?_
  rw [getElem?_map, getElem?_map, atI, atJ, Option.map_some, Option.map_some, ids]

lemma Ready.place {decision : AgentExecutionDecision} {taskScopes : List StructuredTaskScope}
    {order : List Nat} (ready : Ready decision taskScopes dependencies order)
    (authored : authorWorkflowFromExecutionDecision (some decision) =
      some (.ready taskScopes dependencies))
    {unit place : Nat} {taskUnit : AgentExecutionTaskUnit}
    (there : decision.taskProfile.taskUnits[unit]? = some taskUnit)
    (filed : taskScopes[place]? = some (sourceTaskScope decision taskUnit)) :
    place = order.idxOf unit := by
  have scopes := congrArg (·[place]?) ready.scopes
  simp only [getElem?_map, filed, Option.map_some] at scopes
  obtain ⟨other, atPlace, eq⟩ := Option.map_eq_some_iff.mp scopes.symm
  obtain ⟨otherUnit, otherThere, same⟩ := Option.map_eq_some_iff.mp eq
  have one : other = unit := unit_eq_of_scope authored otherThere there same
  subst one
  have distinct : order.Nodup := ready.perm.nodup_iff.mpr nodup_range
  obtain ⟨below, eq⟩ := List.getElem?_eq_some_iff.mp atPlace
  rw [← eq, distinct.idxOf_getElem]

/-- What the edges of a plan are, for the drafts that are authored from its
decision. -/
structure PlanOrdered (input : OrchestrationPlannerInput) (plan : OrchestrationPlan) : Prop where
  endpoints : ∀ edge ∈ plan.dependencyEdges,
    edge.fromTaskId ∈ plan.delegatedTasks.map (·.taskId) ∧
      edge.toTaskId ∈ plan.delegatedTasks.map (·.taskId)
  acyclic : ∀ taskId, ¬Relation.TransGen plan.Precedes taskId taskId
  tasks : truthy input.intent.explicitTeamId = none → plan.delegatedTasks ≠ [] →
    ∀ decision, input.agentExecutionDecision = some decision →
      1 < decision.taskProfile.taskUnits.length →
        ∀ unit < decision.taskProfile.taskUnits.length, ∃ task, TaskOf plan decision unit task
  dependencies : truthy input.intent.explicitTeamId = none →
    ∀ decision, input.agentExecutionDecision = some decision →
      ∀ i j a b, TaskOf plan decision i a → TaskOf plan decision j b →
        1 < decision.taskProfile.taskUnits.length →
          (UnitDependency decision.taskProfile.taskUnits i j ↔
            ⟨a.taskId, b.taskId, "workflow_unit_dependency"⟩ ∈ plan.dependencyEdges)
  locks : truthy input.intent.explicitTeamId = none →
    ∀ a ∈ plan.delegatedTasks, ∀ b ∈ plan.delegatedTasks, a.taskId ≠ b.taskId →
      BothExclusive (locksForTask input a.taskId) (locksForTask input b.taskId) →
        plan.Precedes a.taskId b.taskId ∨ plan.Precedes b.taskId a.taskId

section Agent

variable {localeCompare : String → String → Int} {input : OrchestrationPlannerInput}
  {eligible : List OrchestrationCandidateScore}

lemma taskId_of_place (somebody : eligible ≠ []) {place : Nat} {task : OrchestrationTask}
    (there : (agentPlan input eligible).delegatedTasks[place]? = some task) :
    task.taskId = delegatedTaskId input place := by
  have ids := congrArg (·[place]?) (@agentPlan_taskIds input eligible somebody)
  simp only [getElem?_map, there, Option.map_some] at ids
  obtain ⟨index, atPlace, eq⟩ := Option.map_eq_some_iff.mp ids.symm
  obtain ⟨below, rfl⟩ := List.getElem?_eq_some_iff.mp atPlace
  rw [← eq, getElem_range]

lemma scope_of_place (somebody : eligible ≠ []) {place : Nat} {task : OrchestrationTask}
    (there : (agentPlan input eligible).delegatedTasks[place]? = some task) :
    (planScopes input)[place]? = some task.scope := by
  rw [← agentPlan_scopes somebody, getElem?_map, there, Option.map_some]

lemma mem_agentPlan_edges (noExternal : input.dependencyEdges = [])
    {edge : DependencyEdgeContract} :
    edge ∈ (agentPlan input eligible).dependencyEdges ↔
      edge ∈ lockEdges (locksForTask input) (agentPlan input eligible).delegatedTasks ∨
        ∃ taskScopes dependencies, input.workflowDraft = some (.ready taskScopes dependencies) ∧
          edge ∈ workflowEdges (agentPlan input eligible).delegatedTasks dependencies := by
  unfold agentPlan
  dsimp only
  rw [noExternal, nil_append, mem_append]
  refine or_congr_right ?_
  cases draft : input.workflowDraft with
  | none => simp
  | some result =>
    cases result with
    | ready taskScopes dependencies => simp
    | rejected reasonCodes => simp

lemma ready_of_draft {taskScopes : List StructuredTaskScope}
    {dependencies : List AuthoredWorkflowDependency}
    (authored : input.workflowDraft =
      authorWorkflowFromExecutionDecision input.agentExecutionDecision)
    (draft : input.workflowDraft = some (.ready taskScopes dependencies)) :
    ∃ decision order, input.agentExecutionDecision = some decision ∧
      authorWorkflowFromExecutionDecision (some decision) =
        some (.ready taskScopes dependencies) ∧
      Ready decision taskScopes dependencies order := by
  rw [draft] at authored
  cases made : input.agentExecutionDecision with
  | none => rw [made] at authored; exact nomatch authored
  | some decision =>
    rw [made] at authored
    obtain ⟨-, order, ready⟩ := Ready.of_authored authored.symm
    exact ⟨decision, order, rfl, authored.symm, ready⟩

lemma edge_forward (noExternal : input.dependencyEdges = []) (authored : input.workflowDraft =
      authorWorkflowFromExecutionDecision input.agentExecutionDecision)
    {edge : DependencyEdgeContract} (mem : edge ∈ (agentPlan input eligible).dependencyEdges) :
    ∃ (i j : Nat) (a b : OrchestrationTask), i < j ∧
      (agentPlan input eligible).delegatedTasks[i]? = some a ∧
      (agentPlan input eligible).delegatedTasks[j]? = some b ∧
      edge.fromTaskId = a.taskId ∧ edge.toTaskId = b.taskId := by
  rcases (mem_agentPlan_edges noExternal).mp mem with lock | ⟨taskScopes, dependencies, draft, flow⟩
  · obtain ⟨i, j, a, b, less, atI, atJ, -, rfl⟩ := mem_lockEdges.mp lock
    exact ⟨i, j, a, b, less, atI, atJ, rfl, rfl⟩
  · obtain ⟨dependency, listed, a, b, atA, atB, rfl⟩ := mem_workflowEdges.mp flow
    obtain ⟨decision, order, -, -, ready⟩ := ready_of_draft authored draft
    obtain ⟨i, j, depends, rfl⟩ := (ready.edges dependency).mp listed
    exact ⟨_, _, a, b, ready.sorted i j depends, atA, atB, rfl, rfl⟩

lemma agentPlan_acyclic (somebody : eligible ≠ []) (noExternal : input.dependencyEdges = [])
    (authored : input.workflowDraft =
      authorWorkflowFromExecutionDecision input.agentExecutionDecision) (taskId : String) :
    ¬Relation.TransGen (agentPlan input eligible).Precedes taskId taskId := by
  have distinct : ((List.range (planScopes input).length).map (delegatedTaskId input)).Nodup :=
    nodup_range.map (delegatedTaskId_injective input)
  have rank : ∀ place task, (agentPlan input eligible).delegatedTasks[place]? = some task →
      ((List.range (planScopes input).length).map (delegatedTaskId input)).idxOf task.taskId =
        place := by
    intro place task there
    have ids := congrArg (·[place]?) (@agentPlan_taskIds input eligible somebody)
    simp only [@getElem?_map _ _ OrchestrationTask.taskId, there, Option.map_some] at ids
    obtain ⟨below, eq⟩ := List.getElem?_eq_some_iff.mp ids.symm
    rw [← eq, distinct.idxOf_getElem]
  refine @Toposort.acyclic_of_rank _ _ (fun id =>
    ((List.range (planScopes input).length).map (delegatedTaskId input)).idxOf id) ?_ taskId
  rintro - - ⟨edge, mem, rfl, rfl⟩
  obtain ⟨i, j, a, b, less, atI, atJ, source, target⟩ := edge_forward noExternal authored mem
  rw [source, target, rank i a atI, rank j b atJ]
  exact less

variable {decision : AgentExecutionDecision} {executorId : String}

lemma draft_ready (routed : Routed input executorId) (authored : input.workflowDraft =
      authorWorkflowFromExecutionDecision input.agentExecutionDecision)
    (made : input.agentExecutionDecision = some decision)
    (several : 1 < decision.taskProfile.taskUnits.length) : ∃ taskScopes dependencies order,
      input.workflowDraft = some (.ready taskScopes dependencies) ∧
      authorWorkflowFromExecutionDecision (some decision) =
        some (.ready taskScopes dependencies) ∧
      Ready decision taskScopes dependencies order ∧ planScopes input = taskScopes := by
  rw [made] at authored
  rcases authorWorkflow_cases several with ⟨-, rejected⟩ | ⟨-, order, found, eq⟩
  · exact absurd (authored.trans rejected) (routed.accepted _)
  · have draft := authored.trans eq
    obtain ⟨-, order, ready⟩ := Ready.of_authored eq
    refine ⟨_, _, order, draft, eq, ready, ?_⟩
    unfold planScopes
    rw [draft]

lemma agentPlan_dependencies (routed : Routed input executorId) (somebody : eligible ≠ [])
    (noExternal : input.dependencyEdges = [])
    (authored : input.workflowDraft =
      authorWorkflowFromExecutionDecision input.agentExecutionDecision)
    (made : input.agentExecutionDecision = some decision)
    (several : 1 < decision.taskProfile.taskUnits.length) {i j : Nat} {a b : OrchestrationTask}
    (first : TaskOf (agentPlan input eligible) decision i a)
    (second : TaskOf (agentPlan input eligible) decision j b) :
    UnitDependency decision.taskProfile.taskUnits i j ↔
      ⟨a.taskId, b.taskId, "workflow_unit_dependency"⟩ ∈
        (agentPlan input eligible).dependencyEdges := by
  obtain ⟨taskScopes, dependencies, order, draft, eq, ready, scopesEq⟩ :=
    draft_ready routed authored made several
  have placed : ∀ {unit task}, TaskOf (agentPlan input eligible) decision unit task →
      unit ∈ order ∧
        (agentPlan input eligible).delegatedTasks[order.idxOf unit]? = some task := by
    rintro unit task ⟨mem, taskUnit, there, scope⟩
    obtain ⟨place, atPlace⟩ := mem_iff_getElem?.mp mem
    have filed := scope_of_place somebody atPlace
    rw [scopesEq, scope] at filed
    have below := (List.getElem?_eq_some_iff.mp there).1
    exact ⟨ready.perm.mem_iff.mpr (mem_range.mpr below), ready.place eq there filed ▸ atPlace⟩
  obtain ⟨listedI, atI⟩ := placed first
  obtain ⟨listedJ, atJ⟩ := placed second
  rw [mem_agentPlan_edges noExternal]
  constructor
  · intro depends
    refine .inr ⟨taskScopes, dependencies, draft, mem_workflowEdges.mpr
      ⟨⟨order.idxOf i, order.idxOf j⟩, ?_, a, b, atI, atJ, rfl⟩⟩
    exact (ready.edges _).mpr ⟨i, j, depends, rfl⟩
  · rintro (lock | ⟨otherScopes, otherDependencies, other, flow⟩)
    · obtain ⟨k, l, c, d, -, -, -, -, same⟩ := mem_lockEdges.mp lock
      have reason : "workflow_unit_dependency" = "exclusive_resource_lock_conflict" :=
        congrArg DependencyEdgeContract.reasonCode same
      exact absurd reason (by decide)
    · rw [draft, Option.some.injEq] at other
      obtain ⟨-, rfl⟩ := WorkflowAuthoringResult.ready.inj other
      obtain ⟨dependency, mem, c, d, atC, atD, same⟩ := mem_workflowEdges.mp flow
      obtain ⟨k, l, depends, rfl⟩ := (ready.edges dependency).mp mem
      obtain ⟨sources, targets, -⟩ := DependencyEdgeContract.mk.inj same
      -- tasks of one id stand in one place
      have source : order.idxOf i = order.idxOf k := by
        refine delegatedTaskId_injective input ?_
        rw [← taskId_of_place somebody atI, ← taskId_of_place somebody atC, sources]
      have target : order.idxOf j = order.idxOf l := by
        refine delegatedTaskId_injective input ?_
        rw [← taskId_of_place somebody atJ, ← taskId_of_place somebody atD, targets]
      rw [(idxOf_inj listedI).mp source, (idxOf_inj listedJ).mp target]
      exact depends

lemma agentPlan_locks (noExternal : input.dependencyEdges = []) {a b : OrchestrationTask}
    (memA : a ∈ (agentPlan input eligible).delegatedTasks)
    (memB : b ∈ (agentPlan input eligible).delegatedTasks) (apart : a.taskId ≠ b.taskId)
    (both : BothExclusive (locksForTask input a.taskId) (locksForTask input b.taskId)) :
    (agentPlan input eligible).Precedes a.taskId b.taskId ∨
      (agentPlan input eligible).Precedes b.taskId a.taskId := by
  have ordered : ∀ {i j : Nat} {c d : OrchestrationTask}, i < j → (agentPlan input
    eligible).delegatedTasks[i]? = some c →
      (agentPlan input eligible).delegatedTasks[j]? = some d →
      BothExclusive (locksForTask input c.taskId) (locksForTask input d.taskId) →
      (agentPlan input eligible).Precedes c.taskId d.taskId := by
    intro i j c d less atI atJ both
    exact ⟨_, (mem_agentPlan_edges noExternal).mpr
      (.inl (mem_lockEdges.mpr ⟨i, j, c, d, less, atI, atJ, both, rfl⟩)), rfl, rfl⟩
  obtain ⟨i, atI⟩ := mem_iff_getElem?.mp memA
  obtain ⟨j, atJ⟩ := mem_iff_getElem?.mp memB
  rcases lt_trichotomy i j with less | rfl | less
  · exact .inl (ordered less atI atJ both)
  · rw [atI, Option.some.injEq] at atJ
    exact absurd (congrArg OrchestrationTask.taskId atJ) apart
  · exact .inr (ordered less atJ atI both.symm)

lemma agentPlan_tasks (routed : Routed input executorId) (somebody : eligible ≠ [])
    (authored : input.workflowDraft =
      authorWorkflowFromExecutionDecision input.agentExecutionDecision)
    (made : input.agentExecutionDecision = some decision)
    (several : 1 < decision.taskProfile.taskUnits.length) {unit : Nat}
    (below : unit < decision.taskProfile.taskUnits.length) :
    ∃ task, TaskOf (agentPlan input eligible) decision unit task := by
  obtain ⟨taskScopes, dependencies, order, -, -, ready, scopesEq⟩ :=
    draft_ready routed authored made several
  have filed := ready.scope_idxOf below
  rw [getElem?_eq_getElem below, Option.map_some, ← scopesEq, ← agentPlan_scopes somebody,
    getElem?_map, Option.map_eq_some_iff] at filed
  obtain ⟨task, there, scope⟩ := filed
  exact ⟨task, mem_of_getElem? there, _, getElem?_eq_getElem below, scope⟩

end Agent

/-- **The edges of a plan** order its tasks; a cycle of units is reported and a
draft that is ready is in the order of the units' dependencies. -/
theorem planEdges_sound (localeCompare : String → String → Int)
    (input : OrchestrationPlannerInput) (noExternal : input.dependencyEdges = [])
    (authored : input.workflowDraft =
      authorWorkflowFromExecutionDecision input.agentExecutionDecision) :
    PlanOrdered input (buildOrchestrationPlan localeCompare input) ∧
      ∀ decision : AgentExecutionDecision, 1 < decision.taskProfile.taskUnits.length →
        ((∃ reasonCodes, authorWorkflowFromExecutionDecision (some decision) =
            some (.rejected reasonCodes) ∧ .dependencyCycle ∈ reasonCodes) ↔
          ∃ unit, Relation.TransGen (UnitDependency decision.taskProfile.taskUnits) unit unit) ∧
        ∀ taskScopes dependencies, authorWorkflowFromExecutionDecision (some decision) =
            some (.ready taskScopes dependencies) →
          ∃ order, Ready decision taskScopes dependencies order := by
  refine ⟨?_, fun decision several => ⟨dependencyCycle_iff several,
    fun taskScopes dependencies ready => (Ready.of_authored ready).2⟩⟩
  have edgeless : ∀ plan : OrchestrationPlan, plan.dependencyEdges = [] →
      (∀ edge ∈ plan.dependencyEdges, edge.fromTaskId ∈ plan.delegatedTasks.map (·.taskId) ∧
        edge.toTaskId ∈ plan.delegatedTasks.map (·.taskId)) ∧
      ∀ taskId, ¬Relation.TransGen plan.Precedes taskId taskId := by
    intro plan none
    refine ⟨fun edge mem => absurd (none ▸ mem) not_mem_nil, fun taskId cycle => ?_⟩
    obtain ⟨next, ⟨edge, mem, -⟩, -⟩ := Relation.TransGen.head'_iff.mp cycle
    exact absurd (none ▸ mem) not_mem_nil
  rcases plan_cases localeCompare input with
    ⟨noTasks, noEdges⟩ | ⟨executorId, teamId, -, team, -, eq⟩ | ⟨executorId, score, routed, eq⟩
  · obtain ⟨endpoints, acyclic⟩ := edgeless _ noEdges
    refine ⟨endpoints, acyclic, fun _ delegates => absurd noTasks delegates, ?_, ?_⟩
    · rintro - decision - i j a b ⟨mem, -⟩
      exact absurd (noTasks ▸ mem) not_mem_nil
    · rintro - a mem
      exact absurd (noTasks ▸ mem) not_mem_nil
  · have none : (buildOrchestrationPlan localeCompare input).dependencyEdges = [] := by
      rw [eq]
      exact noExternal
    obtain ⟨endpoints, acyclic⟩ := edgeless _ none
    have teamless : truthy input.intent.explicitTeamId ≠ Option.none := by
      rw [team]
      exact nofun
    exact ⟨endpoints, acyclic, fun no => absurd no teamless, fun no => absurd no teamless,
      fun no => absurd no teamless⟩
  · rw [eq]
    refine ⟨fun edge mem => ?_, agentPlan_acyclic routed.some_eligible noExternal authored,
      fun _ _ decision made several unit below =>
        agentPlan_tasks routed.toRouted routed.some_eligible authored made several below,
      fun _ decision made i j a b first second several =>
        agentPlan_dependencies routed.toRouted routed.some_eligible noExternal authored made several
          first second,
      fun _ a memA b memB => agentPlan_locks noExternal memA memB⟩
    obtain ⟨i, j, a, b, -, atI, atJ, source, target⟩ := edge_forward noExternal authored mem
    rw [source, target]
    exact ⟨mem_map_of_mem (mem_of_getElem? atI),
      mem_map_of_mem (mem_of_getElem? atJ)⟩

/-- Two units, the second on the first. -/
def pairDecision : AgentExecutionDecision := soleDecision [soleUnit "a" [], soleUnit "b" ["a"]]

/-- A unit that depends on itself is no workflow, and the plan for a team has no
edge for the dependency of its units. -/
theorem unitDependency_counterexample :
    (UnitDependency [soleUnit "a" ["a"]] 0 0 ∧
      authorWorkflowFromExecutionDecision (some (soleDecision [soleUnit "a" ["a"]])) = none) ∧
    UnitDependency pairDecision.taskProfile.taskUnits 0 1 ∧
      (buildOrchestrationPlan (fun _ _ => 0)
        (soleInput (some "team:t") pairDecision)).delegatedTasks.length = 2 ∧
      (buildOrchestrationPlan (fun _ _ => 0)
        (soleInput (some "team:t") pairDecision)).dependencyEdges = [] := by
  refine ⟨⟨⟨_, rfl, "a", mem_cons_self, by decide, by decide⟩, by decide⟩,
    ⟨_, rfl, "a", mem_cons_self, by decide, by decide⟩, by decide, by decide⟩

/-- The two units with one exclusive lock. -/
def lockedInput : OrchestrationPlannerInput :=
  { soleInput none pairDecision with
    resourceLocks := [{ kind := .file, target := "report", mode := .exclusive, lockId := "lock" }] }

theorem planEdges_pair :
    PlanOrdered lockedInput (buildOrchestrationPlan (fun _ _ => 0) lockedInput) ∧
      (buildOrchestrationPlan (fun _ _ => 0) lockedInput).dependencyEdges.length = 2 :=
  ⟨(planEdges_sound (fun _ _ => 0) lockedInput rfl rfl).1, by decide⟩

end Knowbee.Orchestration
