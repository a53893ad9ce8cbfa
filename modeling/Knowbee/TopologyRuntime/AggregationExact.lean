import Knowbee.TopologyRuntime.AggregationSound
import Knowbee.TopologyRuntime.DelegationSound
import Mathlib.Data.List.Dedup

/-!
# What an aggregation merges

The items of an aggregation come in the order of their sources, so the output of an id is
that of its first item.  Items are told apart by their printed form, in which a value that
is absent is null, and a quorum counts the ids of its sources, whatever their kinds
(`aggregation_exact`).
-/

namespace Knowbee.TopologyRuntime

open Knowbee.Topology List

/-! ## Printed outputs -/

section Prints

variable (localeLe : String → String → Bool)

lemma sizeOf_field_lt {field : String × MetadataValue} {fields : Metadata}
    (member : field ∈ fields) : sizeOf field.2 < sizeOf (MetadataValue.record fields) := by
  have inside := sizeOf_lt_of_mem member
  obtain ⟨key, value⟩ := field
  simp only [Prod.mk.sizeOf_spec, MetadataValue.record.sizeOf_spec] at inside ⊢
  omega

def sortEntries (fields : Metadata) : Metadata :=
  fields.insertionSort fun left right => localeLe left.1 right.1

lemma sortEntries_perm (fields : Metadata) : (sortEntries localeLe fields).Perm fields :=
  perm_insertionSort _ fields

def sortJsonValue : MetadataValue → MetadataValue
  | .list items => .list (items.map sortJsonValue)
  | .record fields =>
    .record (sortEntries localeLe (fields.map fun field => (field.1, sortJsonValue field.2)))
  | value => value
decreasing_by
  · decreasing_tactic
  · exact sizeOf_field_lt ‹_›

def asJson : MetadataValue → MetadataValue
  | .number (.finite value) => .number (.finite value)
  | .number _ => .null
  | .list items => .list (items.map asJson)
  | .record fields => .record (fields.map fun field => (field.1, asJson field.2))
  | value => value
decreasing_by
  · decreasing_tactic
  · exact sizeOf_field_lt ‹_›

def outputEntries (output : NodeResultOutput) : Metadata :=
  [("outputId", .text output.outputId), ("status", .text output.status.text),
    ("value", output.value.getD .null)]

def fingerprintWith (stringify : MetadataValue → String) (output : NodeResultOutput) : String :=
  stringify (sortJsonValue localeLe (.record (outputEntries output)))

/-- The JSON value of an output, null where there is none, up to the order of keys. -/
def NodeResultOutput.json (output : NodeResultOutput) : MetadataValue :=
  asJson (sortJsonValue localeLe (output.value.getD .null))

def SameOutput (first second : NodeResultOutput) : Prop :=
  first.outputId = second.outputId ∧ first.status = second.status ∧
    first.json localeLe = second.json localeLe

/-- What is printed of the outputs shows the value that is printed, and no more. -/
def PrintsJson (stringify : MetadataValue → String) (outputs : List NodeResultOutput) : Prop :=
  ∀ first ∈ outputs, ∀ second ∈ outputs,
    (fingerprintWith localeLe stringify first = fingerprintWith localeLe stringify second ↔
      asJson (sortJsonValue localeLe (.record (outputEntries first))) =
        asJson (sortJsonValue localeLe (.record (outputEntries second))))

end Prints

variable {localeLe : String → String → Bool} {stringify : MetadataValue → String}

lemma status_text_inj {first second : OutputStatus} :
    first.text = second.text ↔ first = second := by
  cases first <;> cases second <;> decide

lemma asJson_entries (output : NodeResultOutput) :
    asJson (sortJsonValue localeLe (.record (outputEntries output))) =
      .record (sortEntries localeLe [("outputId", .text output.outputId),
        ("status", .text output.status.text), ("value", output.json localeLe)]) := by
  rw [sortJsonValue, asJson]
  refine congrArg _ ((map_insertionSort
    (fun left right : String × MetadataValue => localeLe left.1 right.1 = true)
    (fun left right : String × MetadataValue => localeLe left.1 right.1 = true)
    (fun field => (field.1, asJson field.2)) _ fun _ _ _ _ => Iff.rfl).trans ?_)
  simp only [outputEntries, map_cons, map_nil, sortJsonValue, asJson]
  rfl

lemma fingerprint_eq_iff {outputs : List NodeResultOutput} {first second : NodeResultOutput}
    (prints : PrintsJson localeLe stringify outputs) (inside : first ∈ outputs)
    (inside' : second ∈ outputs) :
    fingerprintWith localeLe stringify first = fingerprintWith localeLe stringify second ↔
      SameOutput localeLe first second := by
  rw [prints first inside second inside', asJson_entries, asJson_entries]
  constructor
  · intro same
    have perm := (sortEntries_perm localeLe _).symm.trans
      (MetadataValue.record.inj same ▸ sortEntries_perm localeLe _)
    refine ⟨?_, ?_, ?_⟩
    · simpa using perm.mem_iff.mpr mem_cons_self
    · simpa [status_text_inj] using perm.mem_iff.mpr (mem_cons_of_mem _ mem_cons_self)
    · have listed := perm.mem_iff.mpr (mem_cons_of_mem _ (mem_cons_of_mem _ mem_cons_self))
      simpa using listed
  · rintro ⟨id, status, value⟩
    rw [id, status, value]

/-! ## Items of one id -/

variable {items rest : List AggregatedResultItem} {seen : List String}
  {item : AggregatedResultItem} {strategy : AggregationStrategy} {outputId : String}

lemma splitSeen_sublist : (splitSeen seen items).1.Sublist items := by
  induction items generalizing seen with
  | nil => exact Sublist.refl _
  | cons first rest ih =>
    unfold splitSeen
    split_ifs
    · exact ih.cons first
    · exact ih.cons_cons first

lemma splitSeen_eq_nil :
    (splitSeen seen items).1 = [] ↔ ∀ item ∈ items, item.fingerprint ∈ seen := by
  induction items with
  | nil => simp [splitSeen]
  | cons first rest ih =>
    unfold splitSeen
    rw [forall_mem_cons]
    split_ifs with known
    · exact ih.trans (and_iff_right known).symm
    · exact ⟨nofun, fun all => absurd all.1 known⟩

lemma splitSeen_cons :
    (splitSeen [] (item :: rest)).1 = item :: (splitSeen [item.fingerprint] rest).1 := by
  rw [splitSeen, if_neg not_mem_nil]

lemma one_lt_splitSeen : (splitSeen [] items).1.length > 1 ↔
    ∃ first ∈ items, ∃ second ∈ items, first.fingerprint ≠ second.fingerprint := by
  cases items with
  | nil => simp [splitSeen]
  | cons head rest =>
    rw [splitSeen_cons, length_cons, gt_iff_lt, Nat.lt_add_left_iff_pos, length_pos_iff, ne_eq,
      splitSeen_eq_nil]
    push Not
    constructor
    · rintro ⟨other, member, differs⟩
      exact ⟨other, mem_cons_of_mem _ member, head, mem_cons_self, by simpa using differs⟩
    · rintro ⟨first, member, second, member', differs⟩
      by_contra! same
      have all : ∀ item ∈ head :: rest, item.fingerprint = head.fingerprint :=
        forall_mem_cons.mpr ⟨rfl, fun item inside => mem_singleton.mp (same item inside)⟩
      exact differs ((all first member).trans (all second member').symm)

def InOrder (items : List AggregatedResultItem) : Prop :=
  items.Pairwise fun left right => sourcePriority left.sourceKind ≤ sourcePriority right.sourceKind

lemma mergeGroup_outputs (order : InOrder items) :
    (mergeGroup strategy outputId items).outputs = (items.head?.map (·.output)).toList := by
  have sorted : InOrder (splitSeen [] items).1 := order.sublist splitSeen_sublist
  have first : selectOutputForMerge (splitSeen [] items).1 = (splitSeen [] items).1.head? :=
    congrArg head? sorted.insertionSort_eq
  show ((selectOutputForMerge (splitSeen [] items).1).map (·.output)).toList = _
  rw [first]
  cases items with
  | nil => rfl
  | cons item rest => rw [splitSeen_cons, head?_cons, head?_cons]

def outputIds (items : List AggregatedResultItem) : List String :=
  setAdd [] (items.map (·.output.outputId))

lemma mem_outputIds : outputId ∈ outputIds items ↔ ∃ item ∈ items, item.output.outputId = outputId := by
  simp [outputIds]

lemma mergeOutputs_outputs (order : InOrder items) : (mergeOutputs items strategy).outputs =
    (outputIds items).filterMap fun outputId =>
      (items.find? (·.output.outputId = outputId)).map (·.output) := by
  rw [filterMap_eq_flatMap_toList]
  show flatMap _ (map _ _) = _
  rw [flatMap_map]
  refine flatMap_congr fun outputId _ => ?_
  rw [mergeGroup_outputs (order.filter _), head?_filter]

lemma mergeOutputs_ids (order : InOrder items) :
    (mergeOutputs items strategy).outputs.map (·.outputId) = outputIds items := by
  rw [mergeOutputs_outputs order, map_filterMap]
  refine (filterMap_congr fun outputId listed => ?_).trans filterMap_some
  obtain ⟨item, member, same⟩ := mem_outputIds.mp listed
  have present : (items.find? (·.output.outputId = outputId)).isSome :=
    find?_isSome.mpr ⟨item, member, decide_eq_true same⟩
  obtain ⟨first, found⟩ := Option.isSome_iff_exists.mp present
  have own : first.output.outputId = outputId := by simpa using find?_some found
  rw [found]
  exact congrArg some own

lemma mergeOutputs_first (order : InOrder items) {output : NodeResultOutput}
    (member : output ∈ (mergeOutputs items strategy).outputs) :
    ∃ item ∈ items, item.output = output ∧ ∀ other ∈ items,
      other.output.outputId = output.outputId →
        sourcePriority item.sourceKind ≤ sourcePriority other.sourceKind := by
  rw [mergeOutputs_outputs order] at member
  obtain ⟨outputId, -, made⟩ := mem_filterMap.mp member
  obtain ⟨item, found, rfl⟩ := Option.map_eq_some_iff.mp made
  have own : item.output.outputId = outputId := by simpa using find?_some found
  refine ⟨item, mem_of_find?_eq_some found, rfl, fun other inside same => ?_⟩
  obtain ⟨-, before, after, rfl, others⟩ := find?_eq_some_iff_append.mp found
  rcases mem_append.mp inside with early | late
  · have differs := others other early
    simp [same, own] at differs
  · rcases mem_cons.mp late with rfl | late
    · exact le_rfl
    · exact rel_of_pairwise_cons (pairwise_append.mp order).2.1 late

lemma mergeGroup_conflict {id : String} :
    (∃ issue ∈ (mergeGroup strategy id items).conflicts, issue.outputId = some outputId) ↔
      id = outputId ∧ (splitSeen [] items).1.length > 1 := by
  show (∃ issue ∈ ite _ _ _, _) ↔ _
  by_cases several : (splitSeen [] items).1.length > 1
  · rw [if_pos several, and_iff_left several]
    simp
  · rw [if_neg several]
    simp [several]

lemma conflict_iff : (∃ issue ∈ (mergeOutputs items strategy).conflicts,
      issue.outputId = some outputId) ↔
    ∃ first ∈ items, ∃ second ∈ items, first.output.outputId = outputId ∧
      second.output.outputId = outputId ∧ first.fingerprint ≠ second.fingerprint := by
  have conflicts : (mergeOutputs items strategy).conflicts = (outputIds items).flatMap fun id =>
      (mergeGroup strategy id (items.filter (·.output.outputId = id))).conflicts := by
    simp only [mergeOutputs, flatMap_map, outputIds]
  simp only [conflicts, mem_flatMap]
  constructor
  · rintro ⟨issue, ⟨id, -, member⟩, named⟩
    obtain ⟨rfl, several⟩ := mergeGroup_conflict.mp ⟨issue, member, named⟩
    obtain ⟨first, inside, second, inside', differs⟩ := one_lt_splitSeen.mp several
    obtain ⟨inside, own⟩ := mem_filter.mp inside
    obtain ⟨inside', own'⟩ := mem_filter.mp inside'
    exact ⟨first, inside, second, inside', of_decide_eq_true own, of_decide_eq_true own', differs⟩
  · rintro ⟨first, inside, second, inside', own, own', differs⟩
    have several : (splitSeen [] (items.filter (·.output.outputId = outputId))).1.length > 1 :=
      one_lt_splitSeen.mpr ⟨first, mem_filter.mpr ⟨inside, decide_eq_true own⟩, second,
        mem_filter.mpr ⟨inside', decide_eq_true own'⟩, differs⟩
    obtain ⟨issue, member, named⟩ := mergeGroup_conflict.mpr ⟨rfl, several⟩
    exact ⟨issue, ⟨outputId, mem_outputIds.mpr ⟨first, inside, own⟩, member⟩, named⟩

/-! ## The whole aggregation -/

variable {input other : AggregateNodeRuntimeResultsInput}

lemma rawItems_inOrder : InOrder input.rawItems := by
  have kinds : ∀ item ∈ input.selfOutputs.map (input.buildItem .self input.workOrder.target.id),
      item.sourceKind = .self := forall_mem_map.mpr fun _ _ => rfl
  have childKinds : ∀ item ∈ input.childReports.flatMap (fun report =>
      report.outputs.map (input.buildItem .child report.nodeId)), item.sourceKind = .child :=
    forall_mem_flatMap.mpr fun _ _ => forall_mem_map.mpr fun _ _ => rfl
  have toolKinds : ∀ item ∈ input.toolResults.map (fun toolResult =>
      input.buildItem .tool toolResult.toolId (toolOutput toolResult)), item.sourceKind = .tool :=
    forall_mem_map.mpr fun _ _ => rfl
  have alike {items : List AggregatedResultItem} {kind : AggregatedResultSourceKind}
      (all : ∀ item ∈ items, item.sourceKind = kind) : InOrder items :=
    pairwise_of_forall_mem_list fun left inside right inside' => by
      rw [all left inside, all right inside']
  refine pairwise_append.mpr ⟨pairwise_append.mpr ⟨alike kinds, alike childKinds, ?_⟩,
    alike toolKinds, ?_⟩
  · intro left inside right inside'
    rw [kinds left inside, childKinds right inside']
    decide
  · intro left inside right inside'
    rw [toolKinds right inside']
    rcases mem_append.mp inside with self | child
    · rw [kinds left self]
      decide
    · rw [childKinds left child]
      decide

/-- The second input has the reports and tool results of the first in another order. -/
structure Reordered (input other : AggregateNodeRuntimeResultsInput) : Prop where
  workOrder : other.workOrder = input.workOrder
  selfOutputs : other.selfOutputs = input.selfOutputs
  fingerprint : other.fingerprint = input.fingerprint
  childReports : input.childReports.Perm other.childReports
  toolResults : input.toolResults.Perm other.toolResults

lemma Reordered.symm (moved : Reordered input other) : Reordered other input :=
  ⟨moved.workOrder.symm, moved.selfOutputs.symm, moved.fingerprint.symm, moved.childReports.symm,
    moved.toolResults.symm⟩

lemma rawItems_fingerprint {item : AggregatedResultItem} (member : item ∈ input.rawItems) :
    item.fingerprint = input.fingerprint item.output := by
  rcases mem_append.mp member with node | tool
  · rcases mem_append.mp node with self | child
    · obtain ⟨output, -, rfl⟩ := mem_map.mp self
      rfl
    · obtain ⟨report, -, inside⟩ := mem_flatMap.mp child
      obtain ⟨output, -, rfl⟩ := mem_map.mp inside
      rfl
  · obtain ⟨toolResult, -, rfl⟩ := mem_map.mp tool
    rfl

lemma Reordered.mem_rawItems (moved : Reordered input other) {item : AggregatedResultItem} :
    item ∈ other.rawItems ↔ item ∈ input.rawItems := by
  have built : other.buildItem = input.buildItem := by
    funext _ _ _
    rw [AggregateNodeRuntimeResultsInput.buildItem, moved.fingerprint]
    rfl
  simp only [AggregateNodeRuntimeResultsInput.rawItems, built, moved.workOrder, moved.selfOutputs,
    mem_append, mem_flatMap, mem_map, moved.childReports.mem_iff, moved.toolResults.mem_iff]

lemma satisfiedSourceCount_eq : input.satisfiedSourceCount =
    ((input.rawItems.filter (·.output.status = .satisfied)).map (·.sourceId)).dedup.length :=
  ((perm_ext_iff_of_nodup (setAdd_nodup nodup_nil _) (nodup_dedup _)).mpr fun _ => by
    rw [mem_setAdd, mem_dedup]
    simp).length_eq

lemma quorumIssue_iff :
    (∃ issue ∈ (aggregateNodeRuntimeResults input).issues, issue.code = .quorumNotMet) ↔
      input.strategy = .quorum ∧ ∃ required, input.requiredSatisfiedSourceCount = some required ∧
        (JsNumber.ofNat ((input.rawItems.filter (·.output.status = .satisfied)).map
          (·.sourceId)).dedup.length).lt required = true := by
  rw [← satisfiedSourceCount_eq]
  constructor
  · rintro ⟨issue, member, coded⟩
    rcases mem_append.mp member with member | conflict
    · rcases mem_append.mp member with member | duplicate
      · rcases mem_append.mp member with member | quorum
        · rcases mem_append.mp member with source | missing
          · obtain ⟨source, -, rfl⟩ := mem_map.mp source
            cases coded
          · simp only [missingChildIssues] at missing
            split_ifs at missing
            · rw [mem_singleton.mp missing] at coded
              cases coded
            · cases missing
        · simp only [quorumIssues] at quorum
          split at quorum
          next => cases quorum
          next required stated =>
            split_ifs at quorum with unmet
            · exact ⟨unmet.1, required, stated, unmet.2⟩
            · cases quorum
      · rw [mem_duplicates duplicate] at coded
        cases coded
    · rw [(mem_conflicts conflict).1] at coded
      cases coded
  · rintro ⟨strategy, required, stated, unmet⟩
    refine ⟨⟨.quorumNotMet, .blocked, none, input.sources.map (·.sourceId)⟩, ?_, rfl⟩
    have listed : quorumIssues input =
        [⟨.quorumNotMet, .blocked, none, input.sources.map (·.sourceId)⟩] := by
      simp only [quorumIssues, stated]
      exact if_pos ⟨strategy, unmet⟩
    simp [aggregateNodeRuntimeResults, listed]

lemma reordered_output (moved : Reordered input other)
    (agree : ∀ first ∈ input.rawItems, ∀ second ∈ input.rawItems,
      first.output.outputId = second.output.outputId → SameOutput localeLe first.output second.output)
    {output : NodeResultOutput} (member : output ∈ (aggregateNodeRuntimeResults other).outputs) :
    ∃ kept ∈ (aggregateNodeRuntimeResults input).outputs, SameOutput localeLe kept output := by
  obtain ⟨item, inside, rfl, -⟩ := mergeOutputs_first rawItems_inOrder member
  have inside := moved.mem_rawItems.mp inside
  have listed : item.output.outputId ∈
      (aggregateNodeRuntimeResults input).outputs.map (·.outputId) :=
    (mergeOutputs_ids rawItems_inOrder).symm ▸ mem_outputIds.mpr ⟨item, inside, rfl⟩
  obtain ⟨kept, held, same⟩ := mem_map.mp listed
  obtain ⟨first, inside', rfl, -⟩ := mergeOutputs_first rawItems_inOrder held
  exact ⟨_, held, agree first inside' item inside same⟩

/-- The outputs cover the ids of the items once each, by a first source kind of the id; a
conflict is two items that are not the same, without one the order of reports and tool
results does not show, and a quorum counts the ids of satisfied sources. -/
theorem aggregation_exact (own : input.fingerprint = fingerprintWith localeLe stringify)
    (prints : PrintsJson localeLe stringify (input.rawItems.map (·.output))) :
    let result := aggregateNodeRuntimeResults input
    (result.outputs.map (·.outputId)).Nodup ∧
    (∀ outputId, outputId ∈ result.outputs.map (·.outputId) ↔
      ∃ item ∈ result.items, item.output.outputId = outputId) ∧
    (∀ output ∈ result.outputs, ∃ item ∈ result.items, item.output = output ∧
      ∀ other ∈ result.items, other.output.outputId = output.outputId →
        sourcePriority item.sourceKind ≤ sourcePriority other.sourceKind) ∧
    (∀ outputId, (∃ issue ∈ result.conflicts, issue.outputId = some outputId) ↔
      ∃ first ∈ result.items, ∃ second ∈ result.items, first.output.outputId = outputId ∧
        second.output.outputId = outputId ∧ ¬SameOutput localeLe first.output second.output) ∧
    (result.conflicts = [] → ∀ other, Reordered input other →
      (∀ output ∈ (aggregateNodeRuntimeResults other).outputs,
        ∃ kept ∈ result.outputs, SameOutput localeLe kept output) ∧
      ∀ kept ∈ result.outputs, ∃ output ∈ (aggregateNodeRuntimeResults other).outputs,
        SameOutput localeLe kept output) ∧
    ((∃ issue ∈ result.issues, issue.code = .quorumNotMet) ↔
      input.strategy = .quorum ∧ ∃ required, input.requiredSatisfiedSourceCount = some required ∧
        (JsNumber.ofNat ((result.items.filter (·.output.status = .satisfied)).map
          (·.sourceId)).dedup.length).lt required = true) := by
  intro result
  have ids : result.outputs.map (·.outputId) = outputIds input.rawItems :=
    mergeOutputs_ids rawItems_inOrder
  have same : ∀ first ∈ input.rawItems, ∀ second ∈ input.rawItems,
      (first.fingerprint = second.fingerprint ↔ SameOutput localeLe first.output second.output) := by
    intro first inside second inside'
    rw [rawItems_fingerprint inside, rawItems_fingerprint inside', own]
    exact fingerprint_eq_iff prints (mem_map_of_mem inside) (mem_map_of_mem inside')
  have conflict : ∀ outputId, (∃ issue ∈ result.conflicts, issue.outputId = some outputId) ↔
      ∃ first ∈ result.items, ∃ second ∈ result.items, first.output.outputId = outputId ∧
        second.output.outputId = outputId ∧ ¬SameOutput localeLe first.output second.output := by
    intro outputId
    refine conflict_iff.trans ⟨?_, ?_⟩
    · rintro ⟨first, inside, second, inside', id, id', differs⟩
      exact ⟨first, inside, second, inside', id, id',
        fun alike => differs ((same first inside second inside').mpr alike)⟩
    · rintro ⟨first, inside, second, inside', id, id', differs⟩
      exact ⟨first, inside, second, inside', id, id',
        fun alike => differs ((same first inside second inside').mp alike)⟩
  refine ⟨ids ▸ setAdd_nodup nodup_nil _, fun outputId => ids ▸ mem_outputIds, fun output member =>
    mergeOutputs_first rawItems_inOrder member, conflict, ?_, quorumIssue_iff⟩
  intro quiet other moved
  have agree : ∀ first ∈ input.rawItems, ∀ second ∈ input.rawItems,
      first.output.outputId = second.output.outputId →
        SameOutput localeLe first.output second.output := by
    intro first inside second inside' id
    by_contra differs
    obtain ⟨issue, member, -⟩ := (conflict _).mpr ⟨first, inside, second, inside', id, rfl, differs⟩
    rw [quiet] at member
    exact not_mem_nil member
  refine ⟨fun output member => reordered_output moved agree member, fun kept member => ?_⟩
  obtain ⟨output, held, alike⟩ := reordered_output moved.symm
    (fun first inside second inside' => agree first (moved.mem_rawItems.mp inside) second
      (moved.mem_rawItems.mp inside')) member
  exact ⟨output, held, alike.1.symm, alike.2.1.symm, alike.2.2.symm⟩

/-- The text of a satisfied output without a value. -/
def satisfiedJson : MetadataValue → String
  | .record (("outputId", .text outputId) :: _) => "\x7b\"outputId\":\"" ++ outputId ++
      "\",\"status\":\"satisfied\",\"value\":null\x7d"
  | _ => ""

def clashingInput (toolExecution : Option NodeToolExecutionSummary) :
    AggregateNodeRuntimeResultsInput where
  workOrder := leadOrder
  strategy := .quorum
  selfOutputs := [⟨"survey", .satisfied, none⟩, ⟨"survey", .satisfied, some .null⟩]
  selfStatus := .completed
  selfRisksOrGaps := []
  childDelegation := none
  toolExecution
  expectedChildNodeIds := []
  requireAllChildResults := false
  requiredSatisfiedSourceCount := some 2
  fingerprint := fingerprintWith (fun left right => decide (left ≤ right)) satisfiedJson

/-- The two outputs are one, without a conflict, from less than two sources. -/
theorem aggregation_exact_survey :
    let result := aggregateNodeRuntimeResults (clashingInput none)
    (result.outputs.map (·.outputId)).Nodup ∧ "survey" ∈ result.outputs.map (·.outputId) ∧
      (¬∃ issue ∈ result.conflicts, issue.outputId = some "survey") ∧
      ∃ issue ∈ result.issues, issue.code = .quorumNotMet := by
  have own : (clashingInput none).fingerprint =
      fingerprintWith (fun left right => decide (left ≤ right)) satisfiedJson := rfl
  have one : ∀ output ∈ (clashingInput none).rawItems.map (·.output),
      outputEntries output = outputEntries ⟨"survey", .satisfied, none⟩ :=
    forall_mem_cons.mpr ⟨rfl, forall_mem_cons.mpr ⟨rfl, nofun⟩⟩
  have prints : PrintsJson (fun left right => decide (left ≤ right)) satisfiedJson
      ((clashingInput none).rawItems.map (·.output)) := by
    intro first inside second inside'
    simp only [fingerprintWith, one first inside, one second inside']
  obtain ⟨nodup, listed, -, conflict, -, quorum⟩ := aggregation_exact own prints
  refine ⟨nodup, (listed _).mpr ⟨_, mem_cons_self, rfl⟩, fun clash => ?_,
    quorum.mpr ⟨rfl, 2, rfl, by decide⟩⟩
  obtain ⟨first, inside, second, inside', -, -, differs⟩ := (conflict _).mp clash
  exact differs ((fingerprint_eq_iff prints (mem_map_of_mem inside) (mem_map_of_mem inside')).mp
    (by rw [fingerprintWith, fingerprintWith, one _ (mem_map_of_mem inside),
      one _ (mem_map_of_mem inside')]))

/-- An absent result is no other than null, and the node and its tool count as one source. -/
theorem quorum_counts_ids :
    let input := clashingInput (some ⟨.completed, ⟨.planned, [], []⟩,
      [⟨"lead", "lead", .succeeded, "", none, none, false, false, false⟩]⟩)
    (∃ first ∈ input.rawItems, ∃ second ∈ input.rawItems, first.output.outputId = "survey" ∧
        second.output.outputId = "survey" ∧ first.output.value ≠ second.output.value) ∧
      (¬∃ issue ∈ (aggregateNodeRuntimeResults input).conflicts, issue.outputId = some "survey") ∧
      (∃ issue ∈ (aggregateNodeRuntimeResults input).issues, issue.code = .quorumNotMet) ∧
      ((input.rawItems.filter (·.output.status = .satisfied)).map fun item =>
        (item.sourceKind, item.sourceId)).dedup.length = 2 := by
  intro input
  have alike : ∀ item ∈ input.rawItems, item.output.outputId = "survey" →
      item.fingerprint = input.fingerprint ⟨"survey", .satisfied, none⟩ :=
    forall_mem_cons.mpr ⟨fun _ => rfl, forall_mem_cons.mpr ⟨fun _ => rfl,
      forall_mem_cons.mpr ⟨fun tool => absurd tool (by decide), nofun⟩⟩⟩
  refine ⟨⟨_, mem_cons_self, _, mem_cons_of_mem _ mem_cons_self, rfl, rfl, nofun⟩, ?_, ?_,
    by decide⟩
  · intro conflict
    obtain ⟨first, inside, second, inside', id, id', differs⟩ := conflict_iff.mp conflict
    exact differs ((alike first inside id).trans (alike second inside' id').symm)
  · refine quorumIssue_iff.mpr ⟨rfl, 2, rfl, ?_⟩
    decide

end Knowbee.TopologyRuntime
