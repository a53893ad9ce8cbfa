import Knowbee.Memory.Compaction

/-!
# Reading items off rendered texts

A line says an item of the working set when it is read with one of the keys of
the item's section.  A rendered section says nothing with its label and with
the first lines of its items, which begin with a dash.
-/

namespace Knowbee.Memory

open List MemoryCapsuleArtifactRef

open Lib (Layout)

lemma normalizeString_getD (clean : Text → Text) (value : Text) :
    (normalizeString clean value).getD [] = clean value := by
  unfold normalizeString
  by_cases empty : clean value = [] <;> simp [empty]

variable {item value line label : Text} {values : List Text} {messages : List Message}

lemma mem_normalizeValue {clean : Text → Text} {normalized : List Text} :
    item ∈ normalizeValue clean normalized value ↔
      item ∈ normalized ∨ item ≠ [] ∧ clean value = item := by
  by_cases empty : clean value = []
  · have skipped : normalizeString clean value = none := by simp [normalizeString, empty]
    rw [normalizeValue, skipped]
    grind
  · have taken : normalizeString clean value = some (clean value) := by
      simp [normalizeString, empty]
    rw [normalizeValue, taken]
    dsimp only
    split_ifs with found
    · grind
    · rw [mem_append, mem_singleton]
      grind

lemma mem_normalizeStrings {clean : Text → Text} :
    item ∈ normalizeStrings clean values ↔ item ≠ [] ∧ ∃ value ∈ values, clean value = item := by
  have gathered : ∀ normalized, item ∈ values.foldl (normalizeValue clean) normalized ↔
      item ∈ normalized ∨ item ≠ [] ∧ ∃ value ∈ values, clean value = item := by
    induction values with
    | nil => simp
    | cons value rest ih =>
      intro normalized
      rw [foldl_cons, ih, mem_normalizeValue, exists_mem_cons_iff, or_assoc,
        ← and_or_left]
  rw [normalizeStrings, gathered]
  exact or_iff_right not_mem_nil

lemma normalizeRef_ofNote (clean : Text → Text) (normalized : List Text) (value : Text) :
    normalizeRef clean (normalized.map .ofNote) (.ofNote value) =
      (normalizeValue clean normalized value).map .ofNote := by
  have injective : Function.Injective ofNote := by
    intro a b eq
    exact congrArg (·.note) eq
  have note : (ofNote value).note = value := rfl
  rw [normalizeRef, normalizeValue, note]
  cases normalizeString clean value with
  | none => rfl
  | some trimmed =>
    have among : ofNote trimmed ∈ normalized.map .ofNote ↔
        trimmed ∈ normalized := mem_map_of_injective injective
    by_cases found : trimmed ∈ normalized
    · have present := among.mpr found
      simp only [if_pos found]
      exact if_pos present
    · have absent := mt among.mp found
      simp only [if_neg found, map_append, map_singleton]
      exact if_neg absent

lemma normalizeRefs_ofNote (clean : Text → Text) (values : List Text) :
    normalizeRefs clean (values.map .ofNote) = (normalizeStrings clean values).map .ofNote := by
  have gathered : ∀ normalized,
      (values.map ofNote).foldl (normalizeRef clean)
        (normalized.map .ofNote) = (values.foldl (normalizeValue clean) normalized).map .ofNote := by
    induction values with
    | nil => exact fun _ => rfl
    | cons value rest ih =>
      intro normalized
      rw [map_cons, foldl_cons, foldl_cons, normalizeRef_ofNote, ih]
  exact gathered []

lemma mem_normalizeStringArray : item ∈ normalizeStringArray values ↔
      item ≠ [] ∧ ∃ value ∈ values, layout.tidied value = item :=
  mem_normalizeStrings

/-- An item of a list that normalizing leaves as it is. -/
def Settled (item : Text) : Prop := layout.Tidy item ∧ item ≠ []

lemma settled_of_mem (mem : item ∈ normalizeStringArray values) : Settled item := by
  obtain ⟨nonempty, value, -, rfl⟩ := mem_normalizeStringArray.mp mem
  exact ⟨Layout.tidy_tidied value, nonempty⟩

lemma mem_normalizeStringArray_of_settled (settled : ∀ value ∈ values, Settled value) :
    item ∈ normalizeStringArray values ↔ item ∈ values := by
  rw [mem_normalizeStringArray]
  constructor
  · rintro ⟨-, value, mem, rfl⟩
    rwa [(settled value mem).1.tidied_eq]
  · intro mem
    exact ⟨(settled item mem).2, item, mem, (settled item mem).1.tidied_eq⟩

lemma mem_trimmedStrings_of_settled (settled : ∀ value ∈ values, Settled value) :
    item ∈ normalizeStrings trim values ↔ item ∈ values := by
  have trimmed : ∀ value ∈ values, trim value = value := fun value mem => (settled value mem).1.trimmed
  rw [mem_normalizeStrings]
  constructor
  · rintro ⟨-, value, mem, rfl⟩
    rwa [trimmed value mem]
  · intro mem
    exact ⟨(settled item mem).2, item, mem, trimmed item mem⟩

/-- The sections of a working set that hold more than facts. -/
inductive PinnedSection where
  | activeObjectives | constraints | decisions | pendingItems | artifactRefs

/-- The keys whose values a section lists, and whether its items carry them. -/
def PinnedSection.keys : PinnedSection → List (String × Bool)
  | .activeObjectives => [("objective", false), ("active_task", true)]
  | .constraints => [("constraint", false), ("target_selector", true), ("user_correction", true),
      ("final_delivery_block", true)]
  | .decisions => [("decision", false), ("retry_boundary", true)]
  | .pendingItems => [("pending_approval", true), ("pending_delivery", true),
      ("result_review", true)]
  | .artifactRefs => [("artifact_receipt", false)]

def itemText (key : String × Bool) (value : Text) : Text :=
  if key.2 then units key.1 ++ units ":" ++ value else value

structure PinnedItem where
  place : PinnedSection
  text : Text

def Tells (lines : List Text) (item : PinnedItem) : Prop :=
  ∃ line ∈ lines, ∃ key ∈ item.place.keys, ∃ value,
    readLine line = some (units key.1, value) ∧ itemText key value = item.text

lemma not_tells_nil (item : PinnedItem) : ¬Tells [] item := by
  rintro ⟨line, mem, -⟩
  cases mem

lemma tells_append {front back : List Text} {item : PinnedItem} :
    Tells (front ++ back) item ↔ Tells front item ∨ Tells back item := by
  simp [Tells, mem_append, or_and_right, exists_or]

lemma tells_flatMap {β : Type*} {values : List β} {lines : β → List Text} {item : PinnedItem} :
    Tells (values.flatMap lines) item ↔ ∃ value ∈ values, Tells (lines value) item := by
  induction values with
  | nil => simpa using not_tells_nil item
  | cons value rest ih => rw [flatMap_cons, tells_append, ih, exists_mem_cons_iff]

/-- A line that no section has the key of. -/
def Silent (line : Text) : Prop :=
  ∀ read, readLine line = some read → ∀ place : PinnedSection, ∀ key ∈ place.keys,
    units key.1 ≠ read.1

lemma tells_cons_of_silent (silent : Silent line) (rest : List Text) (item : PinnedItem) :
    Tells (line :: rest) item ↔ Tells rest item := by
  unfold Tells
  rw [exists_mem_cons_iff]
  refine or_iff_right ?_
  rintro ⟨key, mem, value, read, -⟩
  exact silent _ read _ key mem rfl

lemma readLine_key {read : Text × Text} (h : readLine line = some read) :
    read.1 = trim (line.take (line.idxOf 58)) ∧ line.idxOf 58 ≠ 0 := by
  unfold readLine at h
  dsimp only at h
  by_cases outside : line.idxOf 58 = 0 ∨ line.idxOf 58 = line.length
  · rw [if_pos outside] at h
    cases h
  · rw [if_neg outside] at h
    by_cases empty : trim (line.drop (line.idxOf 58 + 1)) = []
    · rw [if_pos empty] at h
      cases h
    · rw [if_neg empty, Option.some.injEq] at h
      exact ⟨by rw [← h], fun zero => outside (.inl zero)⟩

lemma silent_dash (rest : Text) : Silent (45 :: rest) := by
  intro read h place key mem same
  obtain ⟨eq, -⟩ := readLine_key h
  have index : (45 :: rest : Text).idxOf 58 = rest.idxOf 58 + 1 := idxOf_cons_ne _ (by decide)
  rw [index, take_succ_cons] at eq
  have dash : ∀ c ∈ [(45 : UInt16)], isTrimmedUnit c = false := forall_mem_singleton.mpr rfl
  obtain ⟨tail, kept⟩ := Lib.trimmed_append dash (rest.take (rest.idxOf 58))
  have head : (units key.1).head? = some 45 := by
    rw [same, eq, trim, ← singleton_append, kept]
    rfl
  clear same
  revert key
  cases place <;> decide

def isLabel (label : Text) : Bool :=
  label ≠ [] && label.all (fun unit => unit != 13 && !isTrimmedUnit unit && unit != 58) &&
    [PinnedSection.activeObjectives, .constraints, .decisions, .pendingItems, .artifactRefs].all
      fun place => place.keys.all fun key => units key.1 ≠ label

lemma isLabel_spec (h : isLabel label = true) : label ≠ [] ∧ layout.Plain label ∧ 58 ∉ label ∧
      ∀ place : PinnedSection, ∀ key ∈ place.keys, units key.1 ≠ label := by
  simp only [isLabel, Bool.and_eq_true, decide_eq_true_eq, all_eq_true, bne_iff_ne,
    Bool.not_eq_true'] at h
  obtain ⟨⟨nonempty, plain⟩, unknown⟩ := h
  refine ⟨nonempty, fun c mem => ?_, fun mem => (plain 58 mem).2 rfl, fun place => ?_⟩
  · exact ⟨by simpa [layout] using (plain c mem).1.1, (plain c mem).1.2⟩
  · exact unknown place (by cases place <;> simp)

lemma trim_plain {text : Text} (plain : layout.Plain text) : trim text = text :=
  Lib.trimmed_eq_self (fun c mem => (plain c (mem_of_head? mem)).2)
    fun c mem => (plain c (mem_of_getLast? mem)).2

lemma silent_label (h : isLabel label = true) (rest : Text) : Silent (label ++ 58 :: rest) := by
  obtain ⟨-, plain, single, unknown⟩ := isLabel_spec h
  intro read readEq place key mem same
  obtain ⟨eq, -⟩ := readLine_key readEq
  have index : (label ++ 58 :: rest).idxOf 58 = label.length := by
    rw [idxOf_append_of_notMem single, idxOf_cons_self, Nat.add_zero]
  rw [index, take_left, trim_plain plain] at eq
  exact unknown place key mem (same.trans eq)

/-- A line after the first of some of the texts says the item. -/
def TellsLater (values : List Text) (item : PinnedItem) : Prop :=
  ∃ value ∈ values, Tells (layout.said value).tail item

lemma tellsLater_append {front back : List Text} {item : PinnedItem} :
    TellsLater (front ++ back) item ↔ TellsLater front item ∨ TellsLater back item := by
  simp [TellsLater, mem_append, or_and_right, exists_or]

lemma tellsLater_normalizeStringArray {item : PinnedItem} :
    TellsLater (normalizeStringArray values) item ↔ TellsLater values item := by
  constructor
  · rintro ⟨text, mem, told⟩
    obtain ⟨-, value, present, rfl⟩ := mem_normalizeStringArray.mp mem
    exact ⟨value, present, by rwa [Layout.said_tidied] at told⟩
  · rintro ⟨value, mem, told⟩
    rw [← Layout.said_tidied] at told
    have nonempty : layout.tidied value ≠ [] := by
      intro empty
      rw [empty, Layout.said_nil] at told
      exact not_tells_nil item told
    exact ⟨layout.tidied value, mem_normalizeStringArray.mpr ⟨nonempty, value, mem, rfl⟩, told⟩

lemma tells_labelled {gap text : Text} (h : isLabel label = true) (inline : 10 ∉ gap)
    (begins : ∀ c ∈ text.head?, layout.Plain [c]) (item : PinnedItem) :
    Tells (layout.said (label ++ 58 :: (gap ++ text))) item ↔ Tells (layout.said text).tail item := by
  obtain ⟨-, plain, -, -⟩ := isLabel_spec h
  have plain' : layout.Plain (label ++ [58]) := by
    intro c mem
    rcases mem_append.mp mem with mem | mem
    · exact plain c mem
    · rw [mem_singleton] at mem
      subst mem
      decide
  obtain ⟨rest, eq⟩ := Layout.said_prefixed plain' (by simp) inline begins
  have shape : label ++ 58 :: (gap ++ text) = label ++ [58] ++ (gap ++ text) := by simp
  rw [shape, eq, append_assoc, singleton_append]
  exact tells_cons_of_silent (silent_label h rest) _ item

lemma tells_dashed {text : Text} (settled : Settled text) (item : PinnedItem) :
    Tells (layout.said (units "- " ++ text)) item ↔ Tells (layout.said text).tail item := by
  have plain : layout.Plain [45] := by
    intro c mem
    rw [mem_singleton] at mem
    subst mem
    decide
  have dash : units "- " ++ text = [45] ++ ([32] ++ text) := rfl
  have inline : layout.nl ∉ [(32 : UInt16)] := by decide
  obtain ⟨rest, eq⟩ := Layout.said_prefixed plain (by simp) inline settled.1.begins
  rw [dash, eq, singleton_append]
  exact tells_cons_of_silent (silent_dash rest) _ item

lemma said_join (parts : List Text) :
    layout.said (join "\n" parts) = parts.flatMap layout.said :=
  Layout.said_intercalate parts

/-- **A rendered section says what its items say after their first lines.** -/
lemma tells_renderSection {label : String} (h : isLabel (units label) = true)
    (values : List Text) (item : PinnedItem) :
    Tells (layout.said (renderSection label values)) item ↔ TellsLater values item := by
  rw [← tellsLater_normalizeStringArray]
  unfold renderSection
  by_cases empty : normalizeStringArray values = []
  · have quiet := @tells_labelled _ (units " []") [] h (by decide) nofun item
    rw [Layout.said_nil, tail_nil, iff_false_right (not_tells_nil item),
      append_nil] at quiet
    simp only [empty, if_true]
    have nothing : ¬TellsLater [] item := by
      rintro ⟨value, mem, -⟩
      cases mem
    exact iff_of_false quiet nothing
  · have shape : ∀ rest, units label ++ units ":\n" ++ rest =
        (units label ++ [58]) ++ layout.nl :: rest := by
      intro rest
      rw [append_assoc, append_assoc]
      rfl
    have quiet := @tells_labelled _ [] [] h (by decide) nofun item
    rw [Layout.said_nil, tail_nil, iff_false_right (not_tells_nil item),
      append_nil] at quiet
    simp only [empty, if_false]
    rw [shape, Layout.said_append, tells_append, or_iff_right quiet, said_join, tells_flatMap]
    simp only [mem_map, exists_exists_and_eq_and]
    exact exists_congr fun text => and_congr_right fun mem => tells_dashed (settled_of_mem mem) item

lemma tells_block {parts : List Text} {item : PinnedItem} :
    Tells (layout.said (join "\n" (parts.filter (· ≠ [])))) item ↔
      ∃ part ∈ parts, Tells (layout.said part) item := by
  rw [said_join, tells_flatMap]
  constructor
  · rintro ⟨part, mem, told⟩
    exact ⟨part, mem_of_mem_filter mem, told⟩
  · rintro ⟨part, mem, told⟩
    refine ⟨part, mem_filter.mpr ⟨mem, ?_⟩, told⟩
    rw [decide_eq_true_eq]
    rintro rfl
    rw [Layout.said_nil] at told
    exact not_tells_nil item told

def Message.body (message : Message) : Text :=
  match message.content with
  | .text value => value
  | .blocks blocks => join "\n" (blocks.map renderBlock)

lemma extractStructuredMemoryLines_eq (messages : List Message) :
    extractStructuredMemoryLines messages =
      messages.flatMap fun message => layout.said message.body := by
  unfold extractStructuredMemoryLines
  congr 1
  funext message
  have rendered : renderMessageForTranscript message = layout.tidied message.body := by
    unfold renderMessageForTranscript Message.body
    cases message.content <;> rfl
  rw [rendered]
  exact Layout.contentLines_tidied message.body

lemma extractStructuredMemoryLines_append (front back : List Message) :
    extractStructuredMemoryLines (front ++ back) =
      extractStructuredMemoryLines front ++ extractStructuredMemoryLines back :=
  flatMap_append

lemma settled_of_readLine {key : Text} (mem : line ∈ extractStructuredMemoryLines messages)
    (read : readLine line = some (key, value)) : Settled value ∧ 10 ∉ value := by
  rw [extractStructuredMemoryLines_eq, mem_flatMap] at mem
  obtain ⟨message, -, mem⟩ := mem
  obtain ⟨tidy, single⟩ := Layout.mem_said mem
  unfold readLine at read
  dsimp only at read
  by_cases outside : line.idxOf 58 = 0 ∨ line.idxOf 58 = line.length
  · rw [if_pos outside] at read
    cases read
  · rw [if_neg outside] at read
    by_cases empty : trim (line.drop (line.idxOf 58 + 1)) = []
    · rw [if_pos empty] at read
      cases read
    · rw [if_neg empty, Option.some.injEq, Prod.mk.injEq] at read
      obtain ⟨-, rfl⟩ := read
      have inside : line.drop (line.idxOf 58 + 1) <:+: line := (drop_suffix _ _).isInfix
      refine ⟨⟨tidy.part inside, empty⟩, fun newline => single ?_⟩
      exact inside.subset ((Lib.trimmed_isInfix _).subset newline)

lemma mem_valuesOf {key : String} {lines : List Text} :
    value ∈ valuesOf key lines ↔ ∃ line ∈ lines, readLine line = some (units key, value) := by
  simp only [valuesOf, mem_filterMap]
  constructor
  · rintro ⟨read, ⟨line, mem, eq⟩, found⟩
    by_cases same : read.1 = units key
    · rw [if_pos same, Option.some.injEq] at found
      exact ⟨line, mem, by rw [eq, ← same, ← found]⟩
    · rw [if_neg same] at found
      cases found
  · rintro ⟨line, mem, eq⟩
    exact ⟨_, ⟨line, mem, eq⟩, if_pos rfl⟩

lemma mem_pushed {key : String} :
    value ∈ normalizeStringArray (valuesOf key (extractStructuredMemoryLines messages)) ↔
      ∃ line ∈ extractStructuredMemoryLines messages, readLine line = some (units key, value) := by
  rw [mem_normalizeStringArray_of_settled, mem_valuesOf]
  intro value mem
  obtain ⟨line, mem, read⟩ := mem_valuesOf.mp mem
  exact (settled_of_readLine mem read).1

lemma tells_iff {item : PinnedItem} :
    Tells (extractStructuredMemoryLines messages) item ↔ ∃ key ∈ item.place.keys,
      ∃ value ∈ normalizeStringArray (valuesOf key.1 (extractStructuredMemoryLines messages)),
        itemText key value = item.text := by
  simp only [mem_pushed, Tells]
  constructor
  · rintro ⟨line, mem, key, known, value, read, eq⟩
    exact ⟨key, known, value, ⟨line, mem, read⟩, eq⟩
  · rintro ⟨key, known, value, ⟨line, mem, read⟩, eq⟩
    exact ⟨line, mem, key, known, value, read, eq⟩

lemma plain_key {place : PinnedSection} {key : String × Bool} (known : key ∈ place.keys) :
    layout.Plain (units key.1 ++ units ":") := by
  have plain : (units key.1 ++ units ":").all
      (fun unit => layout.kept unit && !layout.white unit) = true := by
    revert key
    cases place <;> decide
  intro c mem
  have kept := all_eq_true.mp plain c mem
  simpa using kept

lemma settled_itemText {place : PinnedSection} {key : String × Bool} (known : key ∈ place.keys)
    (settled : Settled value) : Settled (itemText key value) := by
  unfold itemText
  split_ifs
  · have nonempty : units key.1 ++ units ":" ≠ [] := by simp [units]
    exact ⟨settled.1.prepend (plain_key known) nonempty, by simp [settled.2]⟩
  · exact settled

end Knowbee.Memory
