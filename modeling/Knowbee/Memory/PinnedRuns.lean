import Knowbee.Memory.Reading

/-!
# Pinned items over repeated compactions

The next compaction reads the window that the last one rendered.  Rendered
sections begin their items with a dash and are not read back, so an item
survives when something else in the window, or a message appended to it, says
it again.
-/

namespace Knowbee.Memory

open List RootSessionDeterministicState RootSessionStructuredSummary

open Lib (Layout)

/-! ## Items of working sets and capsules -/

def RootSessionPinnedWorkingSet.items (set : RootSessionPinnedWorkingSet) :
    PinnedSection → List Text
  | .activeObjectives => set.activeObjectives
  | .constraints => set.constraints
  | .decisions => set.decisions
  | .pendingItems => set.pendingItems
  | .artifactRefs => set.artifactRefs.map (·.note)

def MemoryCapsule.items (capsule : MemoryCapsule) : PinnedSection → List Text
  | .activeObjectives => capsule.activeObjectives
  | .constraints => capsule.constraints
  | .decisions => capsule.decisions
  | .pendingItems => capsule.pendingItems
  | .artifactRefs => capsule.artifactRefs.map (·.note)

variable (state : RootSessionDeterministicState)

def RootSessionDeterministicState.items : PinnedSection → List Text
  | .activeObjectives => state.objectives
  | .constraints => state.constraints
  | .decisions => state.decisionItems
  | .pendingItems => state.pendingItems
  | .artifactRefs => state.latestArtifactReceipts

lemma notes_ofNote (values : List Text) :
    (values.map MemoryCapsuleArtifactRef.ofNote).map (·.note) = values := by
  rw [map_map]
  exact List.map_id values

lemma workingSet_items (place : PinnedSection) :
    (buildRootSessionPinnedWorkingSet state).items place =
      normalizeStringArray (state.items place) := by
  cases place with
  | artifactRefs =>
    unfold RootSessionPinnedWorkingSet.items buildRootSessionPinnedWorkingSet
    dsimp only
    rw [normalizeArtifactRefs, normalizeRefs_ofNote, notes_ofNote]
    rfl
  | _ => rfl

lemma mem_normalizeStringArray_append {front back : List Text} {item : Text} :
    item ∈ normalizeStringArray (front ++ back) ↔
      item ∈ normalizeStringArray front ∨ item ∈ normalizeStringArray back := by
  simp [mem_normalizeStringArray, mem_append, or_and_right, exists_or, and_or_left]

def GroupTask (requestGroupId : Option Text) (item : PinnedItem) : Prop :=
  item.place = .activeObjectives ∧ ∃ task ∈ normalizeStringArray (requestGroupTask requestGroupId),
    itemText ("active_task", true) task = item.text

lemma mem_state_items {messages : List Message} {requestGroupId : Option Text}
    {item : PinnedItem} :
    item.text ∈ (extractRootSessionDeterministicState messages requestGroupId).items item.place ↔
      Tells (extractStructuredMemoryLines messages) item ∨ GroupTask requestGroupId item := by
  obtain ⟨place, text⟩ := item
  rw [tells_iff]
  unfold GroupTask
  cases place with
  | activeObjectives =>
    simp only [items, objectives,
      extractRootSessionDeterministicState, labelled, PinnedSection.keys, itemText, mem_append,
      mem_map, exists_mem_cons_iff, not_mem_nil, mem_normalizeStringArray_append,
      false_and, exists_false, or_false, true_and, if_true, Bool.false_eq_true, if_false,
      exists_eq_right, or_and_right, exists_or, or_assoc]
    rw [or_comm (a := ∃ task, _ ∧ _)]
  | _ =>
    simp [items, constraints,
      decisionItems, pendingItems,
      extractRootSessionDeterministicState, labelled, PinnedSection.keys, itemText]

variable {place : PinnedSection}

lemma settled_state_items {messages : List Message} {requestGroupId : Option Text} {text : Text}
    (mem : text ∈ (extractRootSessionDeterministicState messages requestGroupId).items place) :
    Settled text := by
  rcases (@mem_state_items _ _ ⟨place, text⟩).mp mem with told | ⟨active, task, found, eq⟩
  · obtain ⟨key, known, value, pushed, rfl⟩ := tells_iff.mp told
    exact settled_itemText known (settled_of_mem pushed)
  · dsimp only at active eq
    rw [← eq]
    exact @settled_itemText _ .activeObjectives _ (by decide) (settled_of_mem found)

/-- **What the working set lists**: what the messages say, and the request group. -/
lemma mem_workingSet_items {messages : List Message} {requestGroupId : Option Text}
    {item : PinnedItem} :
    item.text ∈ (buildRootSessionPinnedWorkingSet
        (extractRootSessionDeterministicState messages requestGroupId)).items item.place ↔
      Tells (extractStructuredMemoryLines messages) item ∨ GroupTask requestGroupId item := by
  rw [workingSet_items, mem_normalizeStringArray_of_settled fun text mem => settled_state_items mem,
    mem_state_items]

/-! ## What a window says -/

lemma tells_message {role : Role} {block : Text} {item : PinnedItem} :
    Tells (extractStructuredMemoryLines [⟨role, .text block⟩]) item ↔
      Tells (layout.said block) item := by
  rw [extractStructuredMemoryLines_eq, flatMap_singleton]
  rfl

lemma tells_rewrite {messages : List Message} {capsule : MemoryCapsule}
    {pinned : RootSessionPinnedWorkingSet} {rewriting : Rewriting} {item : PinnedItem} :
    Tells (extractStructuredMemoryLines
        (rewriteRootSessionActiveWindow messages capsule pinned rewriting)) item ↔
      Tells (layout.said (renderPinnedWorkingSetPromptBlock pinned)) item ∨
      Tells (layout.said (rewriting.maintenanceRestoreBlock.getD
        (renderCompactedCapsulePromptBlock capsule))) item ∨
      (∃ block ∈ rewriting.promptTimeRecallBlock, Tells (layout.said block) item) ∨
      Tells (extractStructuredMemoryLines
        (windowTail messages rewriting.preferredTailSize)) item := by
  have recalled : Tells (extractStructuredMemoryLines
      (recallMessages rewriting.promptTimeRecallBlock)) item ↔
      ∃ block ∈ rewriting.promptTimeRecallBlock, Tells (layout.said block) item := by
    have nothing : ¬Tells (extractStructuredMemoryLines []) item := not_tells_nil item
    cases rewriting.promptTimeRecallBlock with
    | none => simpa [recallMessages] using nothing
    | some block =>
      by_cases empty : block = []
      · simpa [recallMessages, empty, nothing] using not_tells_nil item
      · simp [recallMessages, empty, tells_message]
  have first := @tells_message .user (renderPinnedWorkingSetPromptBlock pinned) item
  have second := @tells_message .user (rewriting.maintenanceRestoreBlock.getD
    (renderCompactedCapsulePromptBlock capsule)) item
  unfold rewriteRootSessionActiveWindow
  rw [← singleton_append, extractStructuredMemoryLines_append,
    extractStructuredMemoryLines_append, extractStructuredMemoryLines_append, tells_append,
    tells_append, tells_append, first, second, recalled, or_assoc, or_assoc]

lemma not_tells_header {header : String} (h : ((layout.said (units header)).all
    fun line => readLine line = none) = true) (item : PinnedItem) :
    ¬Tells (layout.said (units header)) item := by
  rintro ⟨line, mem, key, -, value, read, -⟩
  have unread := all_eq_true.mp h line mem
  rw [read] at unread
  simp at unread

lemma exists_place {p : PinnedSection → Prop} : (∃ place, p place) ↔
    p .activeObjectives ∨ p .constraints ∨ p .decisions ∨ p .pendingItems ∨ p .artifactRefs := by
  constructor
  · rintro ⟨place, h⟩
    cases place <;> simp [h]
  · rintro (h | h | h | h | h) <;> exact ⟨_, h⟩

lemma tells_pinnedBlock {pinned : RootSessionPinnedWorkingSet} {item : PinnedItem} :
    Tells (layout.said (renderPinnedWorkingSetPromptBlock pinned)) item ↔
      TellsLater pinned.confirmedFacts item ∨ ∃ place, TellsLater (pinned.items place) item := by
  unfold renderPinnedWorkingSetPromptBlock
  rw [tells_block, exists_place]
  simp only [exists_mem_cons_iff, not_mem_nil, false_and, exists_false, or_false]
  iterate 6 rw [tells_renderSection (by decide)]
  rw [or_iff_right (not_tells_header (by decide) item)]
  exact or_left_comm

lemma tells_capsuleBlock {capsule : MemoryCapsule}
    (begins : ∀ c ∈ capsule.summary.head?, layout.Plain [c]) {item : PinnedItem} :
    Tells (layout.said (renderCompactedCapsulePromptBlock capsule)) item ↔
      Tells (layout.said capsule.summary).tail item ∨ TellsLater capsule.confirmedFacts item ∨
      TellsLater capsule.recoveryHints item ∨
      ∃ place, place ≠ .decisions ∧ TellsLater (capsule.items place) item := by
  have summary : Tells (layout.said (units "summary:" ++ units " " ++ capsule.summary)) item ↔
      Tells (layout.said capsule.summary).tail item := by
    have line := @tells_labelled (units "summary") (units " ") _ (by decide)
      (by decide) begins item
    exact line
  unfold renderCompactedCapsulePromptBlock
  rw [tells_block, exists_place]
  simp only [exists_mem_cons_iff, not_mem_nil, false_and, exists_false, or_false]
  iterate 6 rw [tells_renderSection (by decide)]
  rw [summary, or_iff_right (not_tells_header (by decide) item)]
  simp only [ne_eq, reduceCtorEq, not_false_eq_true, not_true_eq_false, true_and, false_and,
    false_or, MemoryCapsule.items]
  tauto

/-! ## Texts of one line -/

lemma said_tail_of_line {text : Text} (single : 10 ∉ text) : (layout.said text).tail = [] := by
  rw [Layout.said_line single]
  by_cases empty : layout.cleaned text = [] <;> simp [empty]

lemma not_tellsLater_of_lines {values : List Text} (lines : ∀ value ∈ values, 10 ∉ value)
    (item : PinnedItem) : ¬TellsLater values item := by
  rintro ⟨value, mem, told⟩
  rw [said_tail_of_line (lines value mem)] at told
  exact not_tells_nil item told

lemma tellsLater_labelled {key : String} (known : (key, true) ∈ place.keys) {values : List Text}
    (settled : ∀ value ∈ values, Settled value) {item : PinnedItem} :
    TellsLater (labelled key values) item ↔ TellsLater values item := by
  have nonempty : units key ++ units ":" ≠ [] := by simp [units]
  have line : ∀ value ∈ values,
      (layout.said (units key ++ units ":" ++ value)).tail = (layout.said value).tail := by
    intro value mem
    obtain ⟨rest, eq⟩ := Layout.said_prefixed (plain_key known) nonempty
      (not_mem_nil : layout.nl ∉ ([] : Text)) (settled value mem).1.begins
    rw [nil_append] at eq
    rw [eq, tail_cons]
  unfold TellsLater labelled
  simp only [mem_map, exists_exists_and_eq_and]
  exact exists_congr fun value => and_congr_right fun mem => by rw [line value mem]

lemma single_pushed {messages : List Message} {key : String} :
    ∀ value ∈ normalizeStringArray (valuesOf key (extractStructuredMemoryLines messages)),
      10 ∉ value := by
  intro value mem
  obtain ⟨line, mem, read⟩ := mem_pushed.mp mem
  exact (settled_of_readLine mem read).2

lemma single_itemText {key : String × Bool} (known : key ∈ place.keys) {value : Text}
    (single : 10 ∉ value) : 10 ∉ itemText key value := by
  unfold itemText
  split_ifs
  · rw [mem_append]
    exact not_or.mpr ⟨(plain_key known).nl_notMem, single⟩
  · exact single

lemma tellsLater_state_items {messages : List Message} {requestGroupId : Option Text}
    {item : PinnedItem} :
    TellsLater ((extractRootSessionDeterministicState messages requestGroupId).items place) item ↔
      place = .activeObjectives ∧ TellsLater (requestGroupTask requestGroupId) item := by
  constructor
  · rintro ⟨text, mem, told⟩
    rcases (@mem_state_items _ _ ⟨place, text⟩).mp mem with said | ⟨active, task, found, eq⟩
    · obtain ⟨key, known, value, pushed, rfl⟩ := tells_iff.mp said
      rw [said_tail_of_line (single_itemText known (single_pushed value pushed))] at told
      exact absurd told (not_tells_nil item)
    · refine ⟨active, ?_⟩
      rw [← tellsLater_normalizeStringArray]
      have labels := @tellsLater_labelled .activeObjectives "active_task" (by decide)
        (normalizeStringArray (requestGroupTask requestGroupId))
        (fun value mem => settled_of_mem mem) item
      refine labels.mp ⟨text, ?_, told⟩
      exact mem_map.mpr ⟨task, found, eq⟩
  · rintro ⟨rfl, told⟩
    rw [← tellsLater_normalizeStringArray] at told
    have labels := @tellsLater_labelled .activeObjectives "active_task" (by decide)
      (normalizeStringArray (requestGroupTask requestGroupId))
      (fun value mem => settled_of_mem mem) item
    obtain ⟨text, mem, told⟩ := labels.mpr told
    obtain ⟨task, found, eq⟩ := mem_map.mp mem
    refine ⟨text, ?_, told⟩
    exact (@mem_state_items _ _ ⟨.activeObjectives, text⟩).mpr (.inr ⟨rfl, task, found, eq⟩)

/-! ## The later lines of a capsule -/

lemma tellsLater_trimmed {values : List Text} (settled : ∀ value ∈ values, Settled value)
    {item : PinnedItem} :
    TellsLater (normalizeStrings trim values) item ↔ TellsLater values item := by
  unfold TellsLater
  simp [mem_trimmedStrings_of_settled settled]

lemma tellsLater_capsuleList {front back : List Text} {item : PinnedItem} :
    TellsLater (normalizeStrings trim (normalizeStringArray (front ++ back))) item ↔
      TellsLater front item ∨ TellsLater back item := by
  rw [tellsLater_trimmed fun _ mem => settled_of_mem mem, tellsLater_normalizeStringArray,
    tellsLater_append]

/-- The items of a summary, by the section of the capsule that takes them. -/
def RootSessionStructuredSummary.items (summary : RootSessionStructuredSummary) :
    PinnedSection → List Text
  | .activeObjectives => summary.currentGoal
  | .constraints => summary.mustKeepConstraints
  | .decisions =>
    summary.toolSideEffectBoundary ++ labelled "retry_boundary" summary.retryDoNotRepeat
  | .pendingItems => summary.stillOpen
  | .artifactRefs => summary.artifactsAndReceipts

/-- The same texts without the key that a boundary is listed under. -/
def RootSessionStructuredSummary.texts (summary : RootSessionStructuredSummary) :
    PinnedSection → List Text
  | .decisions => summary.toolSideEffectBoundary ++ summary.retryDoNotRepeat
  | place => summary.items place

/-- **A section of the capsule** lists the items of the working set and of the
summary. -/
lemma capsule_items (summary : RootSessionStructuredSummary) (place : PinnedSection) :
    (buildRootSessionCompactionCapsule summary
        (buildRootSessionPinnedWorkingSet state)).items place =
      normalizeStrings trim (normalizeStringArray
        ((buildRootSessionPinnedWorkingSet state).items place ++ summary.items place)) := by
  cases place with
  | artifactRefs =>
    have notes : (buildRootSessionPinnedWorkingSet state).artifactRefs =
        (normalizeStringArray state.latestArtifactReceipts).map .ofNote :=
      normalizeRefs_ofNote _ _
    have refs : (buildRootSessionCompactionCapsule summary
        (buildRootSessionPinnedWorkingSet state)).artifactRefs =
        normalizeRefs trim (normalizeArtifactRefs
          ((buildRootSessionPinnedWorkingSet state).artifactRefs ++
            summary.artifactsAndReceipts.map .ofNote)) := rfl
    unfold MemoryCapsule.items RootSessionPinnedWorkingSet.items
      RootSessionStructuredSummary.items
    dsimp only
    rw [refs, notes, notes_ofNote, ← map_append, normalizeArtifactRefs, normalizeRefs_ofNote,
      normalizeRefs_ofNote, notes_ofNote]
    rfl
  | decisions =>
    exact congrArg (fun items => normalizeStrings trim (normalizeStringArray items))
      (append_assoc _ _ _)
  | _ => rfl

section Capsule

variable {messages : List Message} {requestGroupId : Option Text}
  {summary : RootSessionStructuredSummary} {item : PinnedItem}

lemma tellsLater_appliedSummary {place : PinnedSection} :
    TellsLater ((applyDeterministicStateToStructuredSummary
        (extractRootSessionDeterministicState messages requestGroupId) summary).items place) item ↔
      TellsLater (summary.texts place) item ∨
        place = .activeObjectives ∧ TellsLater (requestGroupTask requestGroupId) item := by
  have merged : ∀ place texts,
      TellsLater (normalizeStringArray (texts ++
        (extractRootSessionDeterministicState messages requestGroupId).items place)) item ↔
      TellsLater texts item ∨
        place = .activeObjectives ∧ TellsLater (requestGroupTask requestGroupId) item := by
    intro place texts
    rw [tellsLater_normalizeStringArray, tellsLater_append, tellsLater_state_items]
  cases place with
  | decisions =>
    have boundaries := @tellsLater_labelled .decisions "retry_boundary" (by decide)
      (normalizeStringArray (summary.retryDoNotRepeat ++
        (extractRootSessionDeterministicState messages requestGroupId).retryDoNotRepeatBoundary))
      (fun value mem => settled_of_mem mem) item
    have decisions : ¬TellsLater
        (extractRootSessionDeterministicState messages requestGroupId).decisions item :=
      not_tellsLater_of_lines single_pushed item
    have retries : ¬TellsLater (extractRootSessionDeterministicState messages
        requestGroupId).retryDoNotRepeatBoundary item :=
      not_tellsLater_of_lines single_pushed item
    rw [tellsLater_normalizeStringArray, tellsLater_append] at boundaries
    have split : ∀ front back, TellsLater (normalizeStringArray front ++ back) item ↔
        TellsLater front item ∨ TellsLater back item := by
      intro front back
      rw [tellsLater_append, tellsLater_normalizeStringArray]
    refine (split _ _).trans ?_
    rw [tellsLater_append]
    refine (or_congr Iff.rfl boundaries).trans ?_
    unfold texts
    rw [tellsLater_append]
    simp only [decisions, retries, or_false, reduceCtorEq, false_and]
  | activeObjectives => exact merged .activeObjectives summary.currentGoal
  | constraints => exact merged .constraints summary.mustKeepConstraints
  | pendingItems => exact merged .pendingItems summary.stillOpen
  | artifactRefs => exact merged .artifactRefs summary.artifactsAndReceipts

lemma tellsLater_capsule_items {place : PinnedSection} :
    TellsLater ((buildRootSessionCompactionCapsule (applyDeterministicStateToStructuredSummary
        (extractRootSessionDeterministicState messages requestGroupId) summary)
        (buildRootSessionPinnedWorkingSet
          (extractRootSessionDeterministicState messages requestGroupId))).items place) item ↔
      TellsLater (summary.texts place) item ∨
        place = .activeObjectives ∧ TellsLater (requestGroupTask requestGroupId) item := by
  rw [capsule_items, tellsLater_capsuleList, workingSet_items, tellsLater_normalizeStringArray,
    tellsLater_state_items, tellsLater_appliedSummary]
  tauto

lemma tellsLater_capsule_confirmedFacts :
    TellsLater (buildRootSessionCompactionCapsule (applyDeterministicStateToStructuredSummary
        (extractRootSessionDeterministicState messages requestGroupId) summary)
        (buildRootSessionPinnedWorkingSet
          (extractRootSessionDeterministicState messages requestGroupId))).confirmedFacts item ↔
      TellsLater summary.confirmedFacts item := by
  have lists := @tellsLater_capsuleList
    (extractRootSessionDeterministicState messages requestGroupId).confirmedFacts
    (normalizeStringArray (summary.confirmedFacts ++
      (extractRootSessionDeterministicState messages requestGroupId).confirmedFacts)) item
  have none : ¬TellsLater
      (extractRootSessionDeterministicState messages requestGroupId).confirmedFacts item :=
    not_tellsLater_of_lines single_pushed item
  rw [tellsLater_normalizeStringArray, tellsLater_append] at lists
  refine Iff.trans lists ?_
  tauto

lemma tellsLater_capsule_recoveryHints :
    TellsLater (buildRootSessionCompactionCapsule (applyDeterministicStateToStructuredSummary
        (extractRootSessionDeterministicState messages requestGroupId) summary)
        (buildRootSessionPinnedWorkingSet
          (extractRootSessionDeterministicState messages requestGroupId))).recoveryHints item ↔
      TellsLater summary.handoffReadyContext item := by
  have settled : ∀ value ∈ normalizeStringArray (summary.handoffReadyContext ++
      (extractRootSessionDeterministicState messages requestGroupId).recoveryStates),
      Settled value := fun value mem => settled_of_mem mem
  have none : ¬TellsLater
      (extractRootSessionDeterministicState messages requestGroupId).recoveryStates item :=
    not_tellsLater_of_lines single_pushed item
  have hints : TellsLater (normalizeStrings trim (normalizeStrings trim
      (normalizeStringArray (summary.handoffReadyContext ++
        (extractRootSessionDeterministicState messages requestGroupId).recoveryStates)))) item ↔
      TellsLater summary.handoffReadyContext item := by
    rw [tellsLater_trimmed, tellsLater_trimmed settled, tellsLater_normalizeStringArray,
      tellsLater_append, or_iff_left none]
    exact fun value mem => settled value ((mem_trimmedStrings_of_settled settled).mp mem)
  exact hints

end Capsule

/-! ## What a compaction keeps -/

/-- What is rendered of a summary with the capsule tells the item on a line
after the first of one of its texts. -/
def RootSessionStructuredSummary.TellsInCapsule (summary : RootSessionStructuredSummary)
    (item : PinnedItem) : Prop :=
  TellsLater summary.confirmedFacts item ∨ TellsLater summary.handoffReadyContext item ∨
    ∃ place, place ≠ .decisions ∧ TellsLater (summary.texts place) item

/-- The same of what is rendered with the working set of a capsule. -/
def RootSessionStructuredSummary.TellsPinned (summary : RootSessionStructuredSummary)
    (item : PinnedItem) : Prop :=
  TellsLater summary.confirmedFacts item ∨ ∃ place, TellsLater (summary.texts place) item

namespace Compaction

variable (compaction : Compaction)

def modelSummary (found : List Message) : RootSessionStructuredSummary :=
  buildRootSessionStructuredSummary found compaction.answer

def capsuleSummary (found : List Message) : Text :=
  trim (buildRootSessionCapsuleSummary
    (applyDeterministicStateToStructuredSummary (compaction.extracted found)
      (compaction.modelSummary found)))

/-- What is put into the window says the item: a message of the tail, a block
given to the rewriting, or a line after the first of the summary, of an item
of the summary or of the name of the request group.  A compaction that throws
keeps every message. -/
def Retains (found : List Message) (item : PinnedItem) : Prop :=
  match compaction.execute found with
  | none => Tells (extractStructuredMemoryLines found) item
  | some _ =>
    let rewriting := compaction.rewriting.getD ⟨none, none, none⟩
    Tells (extractStructuredMemoryLines
        (windowTail found rewriting.preferredTailSize)) item ∨
    (∃ block ∈ rewriting.promptTimeRecallBlock, Tells (layout.said block) item) ∨
    (match rewriting.maintenanceRestoreBlock with
      | some block => Tells (layout.said block) item
      | none => Tells (layout.said (compaction.capsuleSummary found)).tail item ∨
          (compaction.modelSummary found).TellsInCapsule item) ∨
    TellsLater (requestGroupTask compaction.requestGroupId) item ∨
    compaction.rewriting.isSome ∧ (compaction.modelSummary found).TellsPinned item

lemma normalizeMemoryCapsule_summary (capsule : MemoryCapsule) :
    (normalizeMemoryCapsule capsule).summary = trim capsule.summary :=
  normalizeString_getD trim capsule.summary

lemma capsule_summary (summary : RootSessionStructuredSummary)
    (pinned : RootSessionPinnedWorkingSet) :
    (buildRootSessionCompactionCapsule summary pinned).summary =
      trim (buildRootSessionCapsuleSummary summary) := by
  unfold buildRootSessionCompactionCapsule applyMemoryCapsuleDeterministicState
  rw [normalizeMemoryCapsule_summary]
  dsimp only
  rw [normalizeMemoryCapsule_summary]
  exact Lib.trimmed_trimmed _

lemma kept_truncateSnapshotSummary (summary : Text) (maxChars : Nat) :
    ∀ c ∈ truncateSnapshotSummary summary maxChars, layout.kept c = true := by
  have tidy := layout.tidy_tidied summary
  intro c mem
  unfold truncateSnapshotSummary at mem
  dsimp only at mem
  split_ifs at mem
  · exact tidy.kept c mem
  · rcases mem_append.mp mem with mem | mem
    · exact tidy.kept c (mem_of_mem_take ((List.rdropWhile_prefix _ _).subset mem))
    · rw [mem_singleton.mp mem]
      rfl

lemma capsule_summary_begins (summary : RootSessionStructuredSummary)
    (pinned : RootSessionPinnedWorkingSet) :
    ∀ c ∈ (buildRootSessionCompactionCapsule summary pinned).summary.head?,
      layout.Plain [c] := by
  rw [capsule_summary]
  intro c mem d single
  rw [mem_singleton] at single
  subst single
  refine ⟨?_, Lib.head?_trimmed d mem⟩
  have inside := (@Lib.trimmed_isInfix _ isTrimmedUnit _).subset (mem_of_head? mem)
  exact kept_truncateSnapshotSummary _ _ d inside

variable {compaction}

lemma execute_eq {found : List Message} {result : RootSessionCompactionExecutionResult}
    (executed : compaction.execute found = some result) :
    result.capsule = buildRootSessionCompactionCapsule
        (applyDeterministicStateToStructuredSummary (compaction.extracted found)
          (compaction.modelSummary found))
        (buildRootSessionPinnedWorkingSet (compaction.extracted found)) ∧
      result.rewrittenMessages = rewriteRootSessionActiveWindow found result.capsule
        (buildRootSessionPinnedWorkingSet (compaction.extracted found)) ⟨none, none, none⟩ := by
  unfold execute executeRootSessionCompaction at executed
  dsimp only at executed
  split_ifs at executed
  rw [Option.some.injEq] at executed
  subst executed
  exact ⟨rfl, rfl⟩

lemma tells_workingSetBlock {found : List Message} {item : PinnedItem} :
    Tells (layout.said (renderPinnedWorkingSetPromptBlock
        (buildRootSessionPinnedWorkingSet (compaction.extracted found)))) item ↔
      TellsLater (requestGroupTask compaction.requestGroupId) item := by
  have facts : ¬TellsLater (buildRootSessionPinnedWorkingSet
      (compaction.extracted found)).confirmedFacts item :=
    not_tellsLater_of_lines single_pushed item
  rw [tells_pinnedBlock, or_iff_right facts]
  simp [workingSet_items, tellsLater_normalizeStringArray, extracted, tellsLater_state_items, exists_eq_left]

section Result

variable {found : List Message} {result : RootSessionCompactionExecutionResult} {item : PinnedItem}
  (executed : compaction.execute found = some result)

include executed

lemma tellsLater_result_items (place : PinnedSection) :
    TellsLater (result.capsule.items place) item ↔
      TellsLater ((compaction.modelSummary found).texts place) item ∨
        place = .activeObjectives ∧ TellsLater (requestGroupTask compaction.requestGroupId) item := by
  rw [(execute_eq executed).1]
  exact tellsLater_capsule_items

lemma tellsLater_result_confirmedFacts :
    TellsLater result.capsule.confirmedFacts item ↔
      TellsLater (compaction.modelSummary found).confirmedFacts item := by
  rw [(execute_eq executed).1]
  exact tellsLater_capsule_confirmedFacts

lemma tells_resultWorkingSetBlock :
    Tells (layout.said
        (renderPinnedWorkingSetPromptBlock result.capsule.pinnedWorkingSet)) item ↔
      TellsLater (requestGroupTask compaction.requestGroupId) item ∨
        (compaction.modelSummary found).TellsPinned item := by
  have items : ∀ place, result.capsule.pinnedWorkingSet.items place =
      result.capsule.items place := fun place => by cases place <;> rfl
  have facts := @tellsLater_result_confirmedFacts _ _ _ item executed
  rw [tells_pinnedBlock]
  simp only [items, tellsLater_result_items executed, exists_or, exists_eq_left]
  unfold TellsPinned
  rw [← facts]
  exact or_assoc.symm.trans or_comm

lemma tells_resultCapsuleBlock :
    Tells (layout.said (renderCompactedCapsulePromptBlock result.capsule)) item ↔
      Tells (layout.said (compaction.capsuleSummary found)).tail item ∨
        (compaction.modelSummary found).TellsInCapsule item ∨
        TellsLater (requestGroupTask compaction.requestGroupId) item := by
  have facts := @tellsLater_result_confirmedFacts _ _ _ item executed
  have hints : TellsLater result.capsule.recoveryHints item ↔
      TellsLater (compaction.modelSummary found).handoffReadyContext item := by
    rw [(execute_eq executed).1]
    exact tellsLater_capsule_recoveryHints
  have begins : ∀ c ∈ result.capsule.summary.head?, layout.Plain [c] := by
    rw [(execute_eq executed).1]
    exact capsule_summary_begins _ _
  have summary : result.capsule.summary = compaction.capsuleSummary found := by
    rw [(execute_eq executed).1, capsule_summary, capsuleSummary]
  have group : (∃ place : PinnedSection, place ≠ .decisions ∧ place = .activeObjectives ∧
      TellsLater (requestGroupTask compaction.requestGroupId) item) ↔
      TellsLater (requestGroupTask compaction.requestGroupId) item :=
    ⟨fun ⟨_, _, _, told⟩ => told, fun told => ⟨.activeObjectives, nofun, rfl, told⟩⟩
  rw [tells_capsuleBlock begins, summary]
  simp only [tellsLater_result_items executed, and_or_left, exists_or, group]
  unfold TellsInCapsule
  rw [facts, hints]
  simp only [or_assoc]

end Result

/-- **What is read off the window of a compaction is what it retains.** -/
lemma tells_windowAfter {found : List Message} {item : PinnedItem} :
    Tells (extractStructuredMemoryLines (compaction.windowAfter found)) item ↔
      compaction.Retains found item := by
  unfold windowAfter Retains
  cases executed : compaction.execute found with
  | none => rfl
  | some result =>
    have capsuleBlock := @tells_resultCapsuleBlock _ _ _ item executed
    have second : ∀ maintenance : Option Text,
        Tells (layout.said (maintenance.getD
          (renderCompactedCapsulePromptBlock result.capsule))) item ∨
          TellsLater (requestGroupTask compaction.requestGroupId) item ↔
        (match maintenance with
          | some block => Tells (layout.said block) item
          | none => Tells (layout.said (compaction.capsuleSummary found)).tail item ∨
              (compaction.modelSummary found).TellsInCapsule item) ∨
          TellsLater (requestGroupTask compaction.requestGroupId) item := by
      intro maintenance
      cases maintenance with
      | none => rw [Option.getD_none, capsuleBlock, or_assoc, or_assoc, or_assoc, or_self]
      | some block => rfl
    -- the parts of the window in the order of `Retains`
    have regroup : ∀ {block kept recalled tail group pinned : Prop}, (block ∨ group ↔ kept ∨ group) →
        ((group ∨ pinned) ∨ block ∨ recalled ∨ tail ↔ tail ∨ recalled ∨ kept ∨ group ∨ pinned) := by
      tauto
    cases compaction.rewriting with
    | none =>
      have block := @tells_workingSetBlock compaction found item
      dsimp
      rw [(execute_eq executed).2, tells_rewrite, block.trans (or_iff_left not_false).symm,
        regroup (second none)]
      simp
    | some rewriting =>
      dsimp
      rw [tells_rewrite, tells_resultWorkingSetBlock executed,
        regroup (second rewriting.maintenanceRestoreBlock)]
      simp

lemma mem_next_items {found : List Message} {next : Compaction} {item : PinnedItem} :
    item.text ∈ (buildRootSessionPinnedWorkingSet
        (next.extracted (compaction.windowAfter found ++ next.appended))).items item.place ↔
      compaction.Retains found item ∨ Tells (extractStructuredMemoryLines next.appended) item ∨
        GroupTask next.requestGroupId item := by
  unfold extracted
  rw [mem_workingSet_items, extractStructuredMemoryLines_append, tells_append, tells_windowAfter,
    or_assoc]

end Compaction

/-! ## Runs -/

/-- The items that a state is extracted with: its constraints, decisions, pending
approvals and deliveries, artifact receipts, user corrections and active tasks,
as the working set and the capsule list them. -/
def RootSessionDeterministicState.pinnedItems : List PinnedItem :=
  state.mustKeepConstraints.map (⟨.constraints, ·⟩) ++
    state.decisions.map (⟨.decisions, ·⟩) ++
    (labelled "pending_approval" state.pendingApprovals).map (⟨.pendingItems, ·⟩) ++
    (labelled "pending_delivery" state.pendingDelivery).map (⟨.pendingItems, ·⟩) ++
    state.latestArtifactReceipts.map (⟨.artifactRefs, ·⟩) ++
    (labelled "user_correction" state.explicitUserCorrections).map (⟨.constraints, ·⟩) ++
    (labelled "active_task" state.activeTaskIds).map (⟨.activeObjectives, ·⟩)

lemma mem_items_of_mem_pinnedItems {state : RootSessionDeterministicState} {item : PinnedItem}
    (mem : item ∈ state.pinnedItems) : item.text ∈ state.items item.place := by
  unfold pinnedItems at mem
  simp only [mem_append, mem_map, or_assoc] at mem
  rcases mem with ⟨text, mem, rfl⟩ | ⟨text, mem, rfl⟩ | ⟨text, mem, rfl⟩ | ⟨text, mem, rfl⟩ |
    ⟨text, mem, rfl⟩ | ⟨text, mem, rfl⟩ | ⟨text, mem, rfl⟩
  · exact mem_append_left _ (mem_append_left _ (mem_append_left _ mem))
  · exact mem_append_left _ mem
  · exact mem_append_left _ (mem_append_left _ mem)
  · exact mem_append_left _ (mem_append_right _ mem)
  · exact mem
  · exact mem_append_left _ (mem_append_right _ mem)
  · exact mem_append_right _ mem

/-- **Within one compaction** every item of the state is in its section of the
capsule that is stored. -/
lemma mem_capsule_items {compaction : Compaction} {found : List Message}
    {result : RootSessionCompactionExecutionResult}
    (executed : compaction.execute found = some result) {item : PinnedItem}
    (mem : item ∈ (compaction.extracted found).pinnedItems) :
    item.text ∈ result.capsule.items item.place := by
  have listed : item.text ∈ normalizeStringArray ((compaction.extracted found).items item.place) :=
    (mem_normalizeStringArray_of_settled fun text mem => settled_state_items mem).mpr
      (mem_items_of_mem_pinnedItems mem)
  have settled := settled_of_mem listed
  rw [(Compaction.execute_eq executed).1, capsule_items,
    mem_trimmedStrings_of_settled fun _ mem => settled_of_mem mem, mem_normalizeStringArray_append,
    workingSet_items]
  left
  rw [mem_normalizeStringArray_of_settled fun _ mem => settled_of_mem mem]
  exact listed

def Survive (items : List PinnedItem) (window : List Message) (rest : List Compaction) : Prop :=
  ∀ set ∈ pinnedWorkingSets window rest, ∀ item ∈ items, item.text ∈ set.items item.place

/-- At every compaction from one on, each item is told anew: by what the one
before retains, by a message appended, or by the request group. -/
def ToldAgain (items : List PinnedItem) (found : List Message) (last : Compaction) :
    List Compaction → Prop
  | [] => True
  | next :: rest =>
    (∀ item ∈ items, last.Retains found item ∨
      Tells (extractStructuredMemoryLines next.appended) item ∨
      GroupTask next.requestGroupId item) ∧
    ToldAgain items (last.windowAfter found ++ next.appended) next rest

lemma survive_iff (items : List PinnedItem) (found : List Message) (last : Compaction)
    (rest : List Compaction) :
    Survive items (last.windowAfter found) rest ↔ ToldAgain items found last rest := by
  induction rest generalizing found last with
  | nil =>
    unfold Survive ToldAgain
    simp [pinnedWorkingSets]
  | cons next rest ih =>
    have later := ih (last.windowAfter found ++ next.appended) next
    unfold Survive at later ⊢
    rw [ToldAgain, ← later, pinnedWorkingSets]
    simp only [forall_mem_cons, Compaction.mem_next_items]

/-- **Items survive a run exactly when they are told again at every compaction
of it**, and within a compaction they are in the stored capsule. -/
theorem pinnedItems_survive_iff (messages : List Message) (first : Compaction)
    (rest : List Compaction) :
    (Survive (first.extracted (messages ++ first.appended)).pinnedItems
        (first.windowAfter (messages ++ first.appended)) rest ∧
      ∀ result, first.execute (messages ++ first.appended) = some result →
        ∀ item ∈ (first.extracted (messages ++ first.appended)).pinnedItems,
          item.text ∈ result.capsule.items item.place) ↔
      ToldAgain (first.extracted (messages ++ first.appended)).pinnedItems
        (messages ++ first.appended) first rest := by
  rw [survive_iff]
  exact and_iff_left fun result executed item mem => mem_capsule_items executed mem

/-- A constraint that is stated once, more messages ago than the tail keeps. -/
def longSession : List Message :=
  ⟨.user, .text (units "constraint: no network")⟩ ::
    List.replicate 8 ⟨.user, .text (units "go on")⟩

def plainCompaction : Compaction := ⟨[], none, none, true, none⟩

/-- The first compaction pins it, and the second does not find it. -/
theorem longSession_constraint_lost :
    ¬Survive (plainCompaction.extracted longSession).pinnedItems
      (plainCompaction.windowAfter longSession) [plainCompaction] := by
  unfold Survive
  decide +kernel

end Knowbee.Memory
