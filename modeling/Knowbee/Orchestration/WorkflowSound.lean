import Knowbee.Orchestration.Workflow

/-!
# What an authored workflow is

A dependency cycle is reported exactly if the units of a decision depend on each
other in a cycle (`dependencyCycle_iff`); a draft that is ready has a scope for
each unit, in an order in which every unit stands after those it depends on
(`Ready`).
-/

namespace Knowbee.Orchestration

open List

/-- One unit lists the id of another, which is the first unit of that id. -/
def UnitDependency (units : List AgentExecutionTaskUnit) (i j : Nat) : Prop :=
  ∃ unit, units[j]? = some unit ∧ ∃ id ∈ unit.dependsOnUnitIds, jsTrim id ≠ "" ∧
    (units.findIdx? fun other => jsTrim other.id = jsTrim id) = some i

variable {i j : Nat} {units : List AgentExecutionTaskUnit} {decision : AgentExecutionDecision}

lemma UnitDependency.bounds (dependency : UnitDependency units i j) :
    i < units.length ∧ j < units.length := by
  obtain ⟨unit, found, id, -, -, first⟩ := dependency
  obtain ⟨below, -⟩ := findIdx?_eq_some_iff_getElem.mp first
  exact ⟨below, (List.getElem?_eq_some_iff.mp found).1⟩

lemma indexUnits_concat (units : List AgentExecutionTaskUnit) (unit : AgentExecutionTaskUnit) :
    indexUnits (units ++ [unit]) = indexUnit (indexUnits units) (unit, units.length) := by
  rw [indexUnits, zipIdx_append, foldl_append]
  simp [indexUnits]

lemma lookup_indexUnits {id : String} (named : id ≠ "") (units : List AgentExecutionTaskUnit) :
    (indexUnits units).1.lookup id = units.findIdx? fun unit => jsTrim unit.id = id := by
  induction units using reverseRecOn with
  | nil => rfl
  | append_singleton units unit ih =>
    rw [indexUnits_concat, findIdx?_append, ← ih, indexUnit]
    dsimp only
    by_cases same : jsTrim unit.id = id
    · have filled : jsTrim unit.id ≠ "" := fun empty => named (same ▸ empty)
      rw [same]
      cases found : (indexUnits units).1.lookup id with
      | none => simp [named, lookup_append, found, same]
      | some first => simp [found]
    · have last : ([unit].findIdx? fun unit => jsTrim unit.id = id) = none := by
        simp [same]
      have apart : (id == jsTrim unit.id) = false := beq_false_of_ne (Ne.symm same)
      rw [last, Option.map_none, Option.or_none]
      split_ifs
      · rfl
      · simp [lookup_append, lookup_cons, apart]

lemma mem_workflowDependencies :
    ⟨i, j⟩ ∈ workflowDependencies units ↔ UnitDependency units i j := by
  simp only [workflowDependencies, unitDependencies, mem_flatMap, mem_filterMap,
    Option.map_eq_some_iff, AuthoredWorkflowDependency.mk.injEq, unique, mem_uniqueTrimmedStrings]
  constructor
  · rintro ⟨⟨unit, place⟩, listed, -, ⟨⟨id, mem, rfl⟩, named⟩, first, found, rfl, rfl⟩
    rw [lookup_indexUnits named] at found
    have at' : units[place]? = some unit := mem_zipIdx_iff_getElem?.mp listed
    exact ⟨unit, at', id, mem, named, found⟩
  · rintro ⟨unit, at', id, mem, named, found⟩
    refine ⟨(unit, j), mem_zipIdx_iff_getElem?.mpr at', jsTrim id, ⟨⟨id, mem, rfl⟩, named⟩, i,
      ?_, rfl, rfl⟩
    rw [lookup_indexUnits named, found]

def dependencyEdges (units : List AgentExecutionTaskUnit) : List (Nat × Nat) :=
  (workflowDependencies units).map fun edge => (edge.fromScopeIndex, edge.toScopeIndex)

lemma mem_dependencyEdges : (i, j) ∈ dependencyEdges units ↔ UnitDependency units i j := by
  rw [← mem_workflowDependencies, dependencyEdges, mem_map]
  constructor
  · rintro ⟨⟨source, target⟩, mem, same⟩
    cases same
    exact mem
  · exact fun mem => ⟨_, mem, rfl⟩

lemma dependencyEdges_bounds : (∀ edge ∈ dependencyEdges units, edge.1 < units.length) ∧
      ∀ edge ∈ dependencyEdges units, edge.2 < units.length :=
  ⟨fun _ mem => (mem_dependencyEdges.mp mem).bounds.1,
    fun _ mem => (mem_dependencyEdges.mp mem).bounds.2⟩

lemma topologicalOrder_isNone_iff (units : List AgentExecutionTaskUnit) :
    (topologicalOrder units.length (workflowDependencies units)).isNone = true ↔
      ∃ unit, Relation.TransGen (UnitDependency units) unit unit := by
  have same : Toposort.Edge (dependencyEdges units) = UnitDependency units :=
    funext₂ fun _ _ => propext mem_dependencyEdges
  have acyclic := Toposort.order_isSome_iff (@dependencyEdges_bounds units).1
    (@dependencyEdges_bounds units).2
  rw [same] at acyclic
  change (Toposort.order units.length (dependencyEdges units)).isNone = true ↔ _
  rw [← Option.not_isSome, Bool.not_eq_true', ← Bool.not_eq_true, acyclic]
  push Not
  rfl

lemma indexUnits_reasons {reason : WorkflowReasonCode} (mem : reason ∈ (indexUnits units).2) :
    reason = .workflowUnitIdInvalid := by
  induction units using reverseRecOn with
  | nil => cases mem
  | append_singleton units unit ih =>
    rw [indexUnits_concat, indexUnit] at mem
    dsimp only at mem
    split_ifs at mem
    · rcases mem_append.mp mem with old | new
      · exact ih old
      · exact mem_singleton.mp new
    · exact ih mem

lemma missingDependencies_reasons {indexById : List (String × Nat)}
    {unit : AgentExecutionTaskUnit} {reason : WorkflowReasonCode}
    (mem : reason ∈ missingDependencies indexById unit) : reason = .dependencyMissing := by
  simp only [missingDependencies, mem_filterMap, Option.ite_none_right_eq_some,
    Option.some.injEq] at mem
  obtain ⟨-, -, -, rfl⟩ := mem
  rfl

lemma foldl_validateOutput_reasons {outputs : List ExpectedOutputContract}
    {checked : List String × List WorkflowReasonCode} (clean : .dependencyCycle ∉ checked.2) :
    .dependencyCycle ∉ (outputs.foldl validateOutput checked).2 := by
  induction outputs generalizing checked with
  | nil => exact clean
  | cons output rest ih =>
    refine ih ?_
    simp only [validateOutput, mem_append, clean, false_or]
    split_ifs <;> simp

lemma validateStepOutputs_reasons (scopes : List StructuredTaskScope) :
    .dependencyCycle ∉ validateStepOutputs scopes := by
  rw [validateStepOutputs, mem_setAdd, mem_flatMap]
  rintro (none | ⟨scope, -, mem⟩)
  · exact not_mem_nil none
  · exact foldl_validateOutput_reasons not_mem_nil mem

lemma dependencyCycle_mem_reasons (decision : AgentExecutionDecision) :
    .dependencyCycle ∈ workflowReasons decision ↔
      ∃ unit, Relation.TransGen (UnitDependency decision.taskProfile.taskUnits) unit unit := by
  have index : .dependencyCycle ∉ (indexUnits decision.taskProfile.taskUnits).2 :=
    fun mem => nomatch indexUnits_reasons mem
  have missing : .dependencyCycle ∉ decision.taskProfile.taskUnits.flatMap
      (missingDependencies (indexUnits decision.taskProfile.taskUnits).1) := by
    intro mem
    obtain ⟨unit, -, mem⟩ := mem_flatMap.mp mem
    exact nomatch missingDependencies_reasons mem
  rw [← topologicalOrder_isNone_iff]
  simp only [workflowReasons, mem_append, index, missing, validateStepOutputs_reasons,
    mem_ite_nil_right, mem_singleton, reduceCtorEq, and_false, and_true, false_or,
    or_false]

lemma authorWorkflow_cases (several : 1 < decision.taskProfile.taskUnits.length) :
    (workflowReasons decision ≠ [] ∧ authorWorkflowFromExecutionDecision (some decision) =
        some (.rejected (setAdd [] (workflowReasons decision)))) ∨
      (workflowReasons decision = [] ∧
        ∃ order, topologicalOrder decision.taskProfile.taskUnits.length
            (workflowDependencies decision.taskProfile.taskUnits) = some order ∧
          authorWorkflowFromExecutionDecision (some decision) = some (.ready
            (order.filterMap fun sourceIndex =>
              (decision.taskProfile.taskUnits.map (sourceTaskScope decision))[sourceIndex]?)
            ((workflowDependencies decision.taskProfile.taskUnits).map fun edge =>
              ⟨order.idxOf edge.fromScopeIndex, order.idxOf edge.toScopeIndex⟩))) := by
  rw [authorWorkflowFromExecutionDecision]
  dsimp only
  rw [if_neg (not_le.mpr several)]
  by_cases none : workflowReasons decision = []
  · have clean : .dependencyCycle ∉ workflowReasons decision := none ▸ not_mem_nil
    rw [dependencyCycle_mem_reasons, ← topologicalOrder_isNone_iff, Option.isNone_iff_eq_none] at clean
    obtain ⟨order, found⟩ := Option.ne_none_iff_exists'.mp clean
    refine .inr ⟨none, order, found, ?_⟩
    rw [if_neg (not_not.mpr none), found, Option.getD_some]
  · exact .inl ⟨none, if_pos none⟩

/-- **A cycle is reported exactly if there is one.** -/
lemma dependencyCycle_iff (several : 1 < decision.taskProfile.taskUnits.length) :
    (∃ reasonCodes, authorWorkflowFromExecutionDecision (some decision) =
        some (.rejected reasonCodes) ∧ .dependencyCycle ∈ reasonCodes) ↔
      ∃ unit, Relation.TransGen (UnitDependency decision.taskProfile.taskUnits) unit unit := by
  rw [← dependencyCycle_mem_reasons]
  rcases authorWorkflow_cases several with ⟨-, rejected⟩ | ⟨none, order, -, ready⟩
  · rw [rejected]
    simp
  · rw [ready, none]
    simp

lemma map_some_filterMap {α : Type*} {values : List α} {places : List Nat}
    (inside : ∀ place ∈ places, place < values.length) :
    (places.filterMap fun place => values[place]?).map some =
      places.map fun place => values[place]? := by
  induction places with
  | nil => rfl
  | cons place rest ih =>
    rw [filterMap_cons, getElem?_eq_getElem (inside place mem_cons_self)]
    dsimp only
    rw [map_cons, map_cons, ih fun other mem => inside other (mem_cons_of_mem _ mem),
      getElem?_eq_getElem (inside place mem_cons_self)]

structure Ready (decision : AgentExecutionDecision) (taskScopes : List StructuredTaskScope)
    (dependencies : List AuthoredWorkflowDependency) (order : List Nat) : Prop where
  perm : order.Perm (List.range decision.taskProfile.taskUnits.length)
  scopes : taskScopes.map some = order.map fun unit =>
    decision.taskProfile.taskUnits[unit]?.map (sourceTaskScope decision)
  edges : ∀ edge, edge ∈ dependencies ↔
    ∃ i j, UnitDependency decision.taskProfile.taskUnits i j ∧
      edge = ⟨order.idxOf i, order.idxOf j⟩
  sorted : ∀ i j, UnitDependency decision.taskProfile.taskUnits i j →
    order.idxOf i < order.idxOf j

/-- **A draft that is ready lists the units in the order of their
dependencies.** -/
lemma Ready.of_authored {taskScopes : List StructuredTaskScope}
    {dependencies : List AuthoredWorkflowDependency}
    (authored : authorWorkflowFromExecutionDecision (some decision) =
      some (.ready taskScopes dependencies)) :
    1 < decision.taskProfile.taskUnits.length ∧
      ∃ order, Ready decision taskScopes dependencies order := by
  have several : 1 < decision.taskProfile.taskUnits.length := by
    by_contra single
    rw [authorWorkflowFromExecutionDecision] at authored
    dsimp only at authored
    rw [if_pos (not_lt.mp single)] at authored
    exact nomatch authored
  refine ⟨several, ?_⟩
  rcases authorWorkflow_cases several with ⟨-, rejected⟩ | ⟨-, order, found, ready⟩
  · rw [rejected] at authored
    exact nomatch authored
  rw [ready] at authored
  injection authored with same
  injection same with scopesEq dependenciesEq
  subst scopesEq dependenciesEq
  obtain ⟨perm, sorted, irrefl⟩ := Toposort.order_eq_some dependencyEdges_bounds.2 found
  have below : ∀ unit ∈ order, unit < decision.taskProfile.taskUnits.length :=
    fun unit mem => mem_range.mp (perm.mem_iff.mp mem)
  have listed : ∀ unit < decision.taskProfile.taskUnits.length, unit ∈ order :=
    fun unit less => perm.mem_iff.mpr (mem_range.mpr less)
  refine ⟨order, perm, ?_, fun edge => ?_, fun i j dependency => ?_⟩
  · rw [map_some_filterMap fun unit mem => by rw [length_map]; exact below unit mem]
    simp
  · rw [mem_map]
    constructor
    · rintro ⟨⟨i, j⟩, mem, rfl⟩
      exact ⟨i, j, mem_workflowDependencies.mp mem, rfl⟩
    · rintro ⟨i, j, dependency, rfl⟩
      exact ⟨⟨i, j⟩, mem_workflowDependencies.mpr dependency, rfl⟩
  · exact Toposort.idxOf_lt_of_edge sorted irrefl (listed i dependency.bounds.1)
      (listed j dependency.bounds.2) (mem_dependencyEdges.mpr dependency)

lemma Ready.scope_idxOf {taskScopes : List StructuredTaskScope}
    {dependencies : List AuthoredWorkflowDependency} {order : List Nat}
    (ready : Ready decision taskScopes dependencies order) {unit : Nat}
    (below : unit < decision.taskProfile.taskUnits.length) : taskScopes[order.idxOf unit]? =
      (decision.taskProfile.taskUnits[unit]?).map (sourceTaskScope decision) := by
  have mem : unit ∈ order := ready.perm.mem_iff.mpr (mem_range.mpr below)
  have place := congrArg (·[order.idxOf unit]?) ready.scopes
  simp only [getElem?_map, getElem?_idxOf mem, Option.map_some] at place
  rw [getElem?_eq_getElem below] at place ⊢
  cases found : taskScopes[order.idxOf unit]? with
  | none => rw [found] at place; exact nomatch place
  | some scope => rw [found] at place; exact Option.some.inj place

end Knowbee.Orchestration
