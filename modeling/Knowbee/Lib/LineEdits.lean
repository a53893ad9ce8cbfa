import Knowbee.Lib.TextLines
import Mathlib.Algebra.Order.BigOperators.Group.List
import Mathlib.Algebra.Order.Group.Nat
import Mathlib.Algebra.GroupWithZero.Nat

/-!
# Texts that are written line by line

A text is written by joining lines and trimming the whole.  The occurrences of a
pattern within lines survive this, and so do all lines exactly if nothing is
trimmed.
-/

namespace Knowbee.Lib

open List

variable {α : Type*}

/-! ## Repeated empty lines -/

/-- Lines without the empty ones that follow an empty line, where `after` tells
whether one comes before. -/
def collapsed (after : Bool) : List (List α) → List (List α)
  | [] => []
  | line :: rest =>
    if line = [] then if after then collapsed true rest else line :: collapsed true rest
    else line :: collapsed false rest

lemma collapsed_sublist (after : Bool) (lines : List (List α)) :
    (collapsed after lines).Sublist lines := by
  induction lines generalizing after with
  | nil => exact List.Sublist.slnil
  | cons line rest ih =>
    rw [collapsed]
    split_ifs with empty repeated
    · exact (ih true).cons line
    · exact (ih true).cons_cons line
    · exact (ih false).cons_cons line

def Spaced (lines : List (List α)) : Prop := lines.IsChain fun line next => line ≠ [] ∨ next ≠ []

lemma collapsed_eq_self_iff {after : Bool} {lines : List (List α)} :
    collapsed after lines = lines ↔
      Spaced lines ∧ (after = true → ∀ line ∈ lines.head?, line ≠ []) := by
  unfold Spaced
  induction lines generalizing after with
  | nil => simp [collapsed]
  | cons line rest ih =>
    rw [collapsed]
    split_ifs with empty repeated
    · subst empty
      constructor
      · intro same
        have := (collapsed_sublist true rest).length_le
        rw [same, length_cons] at this
        omega
      · exact fun ⟨_, first⟩ => absurd rfl (first repeated [] rfl)
    · subst empty
      rw [cons_inj_right, ih]
      cases rest with
      | nil => simp [repeated]
      | cons next rest => simp [repeated, and_comm]
    · rw [cons_inj_right, ih]
      cases rest with
      | nil => simp [empty]
      | cons next rest => simp [empty]

/-- One empty line is as good as two. -/
lemma collapsed_append_twice (after : Bool) (front back : List (List α)) :
    collapsed after (front ++ [] :: [] :: back) = collapsed after (front ++ [] :: back) := by
  induction front generalizing after with
  | nil => cases after <;> simp [collapsed]
  | cons line front ih => rw [cons_append, cons_append, collapsed, collapsed, ih, ih]

lemma collapsed_ne_nil {lines : List (List α)} (nonempty : lines ≠ []) :
    collapsed false lines ≠ [] := by
  cases lines with
  | nil => exact absurd rfl nonempty
  | cons line rest => by_cases empty : line = [] <;> simp [collapsed, empty]

variable [DecidableEq α]

/-! ## Occurrences of a pattern -/

/-- The number of places of a text at which a pattern begins. -/
def occurrences (pattern : List α) : List α → Nat
  | [] => 0
  | c :: rest => (if pattern <+: c :: rest then 1 else 0) + occurrences pattern rest

section

variable {pattern : List α}

lemma occurrences_cons (c : α) (rest : List α) : occurrences pattern (c :: rest) =
    (if pattern <+: c :: rest then 1 else 0) + occurrences pattern rest := rfl

lemma occurrences_cons_of_not {c : α} {rest : List α} (absent : ¬pattern <+: c :: rest) :
    occurrences pattern (c :: rest) = occurrences pattern rest := by
  rw [occurrences_cons, if_neg absent, Nat.zero_add]

lemma occurrences_pos_iff (nonempty : pattern ≠ []) {text : List α} :
    0 < occurrences pattern text ↔ pattern <:+: text := by
  induction text with
  | nil => simp [occurrences, nonempty]
  | cons c rest ih =>
    rw [occurrences_cons, infix_cons_iff, ← ih]
    by_cases begins : pattern <+: c :: rest
    · rw [if_pos begins]
      exact ⟨fun _ => .inl begins, fun _ => by omega⟩
    · rw [if_neg begins, Nat.zero_add, or_iff_right begins]

lemma occurrences_eq_zero_iff (nonempty : pattern ≠ []) {text : List α} :
    occurrences pattern text = 0 ↔ ¬pattern <:+: text := by
  rw [← occurrences_pos_iff nonempty]
  omega

variable {sep : α}

omit [DecidableEq α] in
lemma prefix_append_sep_iff (single : sep ∉ pattern) {front back : List α} :
    pattern <+: front ++ sep :: back ↔ pattern <+: front := by
  constructor
  · intro begins
    rcases prefix_or_prefix_of_prefix begins (prefix_append front _) with
      inside | ⟨tail, rfl⟩
    · exact inside
    · rw [prefix_append_right_inj] at begins
      cases tail with
      | nil => simp
      | cons c tail =>
        obtain ⟨rfl, -⟩ := cons_prefix_cons.mp begins
        exact absurd (mem_append_right _ mem_cons_self) single
  · exact fun begins => begins.trans (prefix_append _ _)

section

variable (nonempty : pattern ≠ []) (single : sep ∉ pattern)

include nonempty single

lemma occurrences_append_sep (front back : List α) : occurrences pattern (front ++ sep :: back) =
      occurrences pattern front + occurrences pattern back := by
  induction front with
  | nil =>
    have absent : ¬pattern <+: sep :: back := by
      intro begins
      cases pattern with
      | nil => exact nonempty rfl
      | cons c rest =>
        obtain ⟨rfl, -⟩ := cons_prefix_cons.mp begins
        exact single mem_cons_self
    rw [nil_append, occurrences_cons_of_not absent, occurrences, Nat.zero_add]
  | cons c front ih =>
    have same := @prefix_append_sep_iff _ pattern sep single (c :: front) back
    rw [cons_append] at same ⊢
    rw [occurrences_cons, occurrences_cons, ih, Nat.add_assoc]
    simp only [same]

lemma occurrences_intercalate (lines : List (List α)) :
    occurrences pattern ([sep].intercalate lines) = (lines.map (occurrences pattern)).sum := by
  induction lines with
  | nil => rfl
  | cons line rest ih =>
    cases rest with
    | nil => simp
    | cons next rest =>
      rw [intercalate_cons_cons, append_assoc, singleton_append,
        occurrences_append_sep nonempty single, ih]
      simp only [map_cons, sum_cons]

lemma infix_of_infix_intercalate {lines : List (List α)}
    (inside : pattern <:+: [sep].intercalate lines) : ∃ line ∈ lines, pattern <:+: line := by
  rw [← occurrences_pos_iff nonempty, occurrences_intercalate nonempty single] at inside
  by_contra nowhere
  push Not at nowhere
  refine absurd (sum_eq_zero fun count mem => ?_) inside.ne'
  obtain ⟨line, mem', rfl⟩ := mem_map.mp mem
  exact (occurrences_eq_zero_iff nonempty).mpr (nowhere line mem')

end

lemma occurrences_concat {white : α → Bool} {c : α} (blank : white c = true)
    (solid : ∀ last ∈ pattern.getLast?, white last = false) (text : List α)
    (nonempty : pattern ≠ []) : occurrences pattern (text ++ [c]) = occurrences pattern text := by
  have same text : pattern <+: text ++ [c] ↔ pattern <+: text := by
    constructor
    · intro begins
      rcases prefix_concat_iff.mp begins with rfl | inside
      · have := solid c (by simp)
        rw [blank] at this
        cases this
      · exact inside
    · exact fun begins => begins.trans (prefix_append _ _)
  induction text with
  | nil =>
    have absent : ¬pattern <+: [c] := fun begins => nonempty (prefix_nil.mp ((same []).mp begins))
    exact occurrences_cons_of_not absent
  | cons d text ih =>
    have same' := same (d :: text)
    rw [cons_append] at same' ⊢
    rw [occurrences_cons, occurrences_cons, ih]
    simp only [same']

lemma occurrences_trimmed {white : α → Bool} (nonempty : pattern ≠ [])
    (front : ∀ first ∈ pattern.head?, white first = false)
    (back : ∀ last ∈ pattern.getLast?, white last = false) (text : List α) :
    occurrences pattern (trimmed white text) = occurrences pattern text := by
  have left text :
      occurrences pattern (text.dropWhile white) = occurrences pattern text := by
    induction text with
    | nil => rfl
    | cons c rest ih =>
      by_cases blank : white c = true
      · have absent : ¬pattern <+: c :: rest := by
          intro begins
          cases pattern with
          | nil => exact nonempty rfl
          | cons d pattern =>
            obtain ⟨rfl, -⟩ := cons_prefix_cons.mp begins
            have := front d rfl
            rw [blank] at this
            cases this
        rw [dropWhile_cons_of_pos blank, ih, occurrences_cons_of_not absent]
      · rw [dropWhile_cons_of_neg blank]
  have right text :
      occurrences pattern (text.rdropWhile white) = occurrences pattern text := by
    induction text using reverseRecOn with
    | nil => rfl
    | append_singleton text c ih =>
      by_cases blank : white c = true
      · rw [rdropWhile_concat_pos _ _ _ blank, ih,
          occurrences_concat blank back text nonempty]
      · rw [rdropWhile_concat_neg _ _ _ blank]
  unfold trimmed
  rw [right, left]

lemma sum_occurrences_collapsed {pattern : List α} (after : Bool) (lines : List (List α)) :
    ((collapsed after lines).map (occurrences pattern)).sum =
      (lines.map (occurrences pattern)).sum := by
  induction lines generalizing after with
  | nil => rfl
  | cons line rest ih =>
    rw [collapsed]
    split_ifs with empty repeated
    · subst empty
      rw [ih, map_cons, sum_cons, occurrences, Nat.zero_add]
    · simp [map_cons, sum_cons, ih]
    · simp [map_cons, sum_cons, ih]

end

/-! ## Written lines -/

section

variable (nl : α) (white : α → Bool)

/-- The text of some lines, without its last line end. -/
def writtenText (lines : List (List α)) : List α :=
  trimmed white ([nl].intercalate (collapsed false lines))

variable {nl white}

lemma length_splitOn (text : List α) : (text.splitOn nl).length = text.count nl + 1 := by
  induction text with
  | nil => simp
  | cons c rest ih =>
    rw [splitOn_cons_eq_if_modifyHead]
    by_cases ends : c = nl
    · subst ends
      simp [ih]
    · have other : (c == nl) = false := by simpa using ends
      rw [other, count_cons_of_ne ends]
      simpa using ih

variable {lines : List (List α)} {line : List α}

lemma count_intercalate (single : ∀ line ∈ lines, nl ∉ line) (nonempty : lines ≠ []) :
    ([nl].intercalate lines).count nl + 1 = lines.length := by
  rw [← length_splitOn, splitOn_intercalate nl single nonempty]

omit [DecidableEq α] in
lemma length_intercalate (nonempty : lines ≠ []) :
    ([nl].intercalate lines).length + 1 = (lines.map List.length).sum + lines.length := by
  induction lines with
  | nil => exact absurd rfl nonempty
  | cons line rest ih =>
    cases rest with
    | nil => simp
    | cons next rest =>
      have := ih (cons_ne_nil _ _)
      rw [intercalate_cons_cons]
      simp only [length_append, length_cons, map_cons, sum_cons,
        length_nil] at this ⊢
      omega

lemma length_writtenText_le (single : ∀ line ∈ lines, nl ∉ line) (nonempty : lines ≠ []) :
    ((writtenText nl white lines).splitOn nl).length ≤ lines.length := by
  have kept := collapsed_sublist false lines
  have count := count_intercalate (fun line mem => single line (kept.subset mem))
    (collapsed_ne_nil nonempty)
  have inside := (@trimmed_isInfix α white ([nl].intercalate (collapsed false lines))).sublist.count_le nl
  have := kept.length_le
  rw [length_splitOn]
  unfold writtenText
  omega

lemma sum_length_splitOn (text : List α) :
    ((text.splitOn nl).map List.length).sum + text.count nl = text.length := by
  have := @length_intercalate α nl (text.splitOn nl) (splitOn_ne_nil nl text)
  rw [intercalate_splitOn, length_splitOn] at this
  omega

lemma writtenText_eq_of_read {chop : List α → List α}
    (shorter : ∀ line, (chop line).length ≤ line.length) (single : ∀ line ∈ lines, nl ∉ line)
    (nonempty : lines ≠ []) (read : ((writtenText nl white lines).splitOn nl).map chop = lines) :
    writtenText nl white lines = [nl].intercalate lines ∧ Spaced lines ∧ lines.map chop = lines := by
  have kept := collapsed_sublist false lines
  have single' : ∀ line ∈ collapsed false lines, nl ∉ line :=
    fun line mem => single line (kept.subset mem)
  have inside : (writtenText nl white lines).Sublist ([nl].intercalate (collapsed false lines)) :=
    (trimmed_isInfix _).sublist
  have count : (writtenText nl white lines).count nl + 1 = lines.length := by
    rw [← length_splitOn, ← length_map chop, read]
  have ends := inside.count_le nl
  have lines' := count_intercalate single' (collapsed_ne_nil nonempty)
  have same : collapsed false lines = lines := by
    refine kept.eq_of_length_le ?_
    omega
  rw [same] at inside
  have total := @length_intercalate α nl lines nonempty
  have sizes : (lines.map List.length).sum ≤
      (((writtenText nl white lines).splitOn nl).map List.length).sum := by
    conv_lhs => rw [← read, map_map]
    exact sum_le_sum fun line _ => shorter line
  have size := @sum_length_splitOn α _ nl (writtenText nl white lines)
  have text : writtenText nl white lines = [nl].intercalate lines := by
    refine inside.eq_of_length_le ?_
    omega
  refine ⟨text, (collapsed_eq_self_iff.mp same).1, ?_⟩
  rw [text, splitOn_intercalate nl single nonempty] at read
  exact read

omit [DecidableEq α] in
lemma collapsed_concat_nil (after : Bool) (lines : List (List α)) :
    collapsed after (lines ++ [[]]) = collapsed after lines ∨
      collapsed after (lines ++ [[]]) = collapsed after lines ++ [[]] := by
  induction lines generalizing after with
  | nil => cases after <;> simp [collapsed]
  | cons line rest ih =>
    rw [cons_append, collapsed, collapsed]
    split_ifs with empty repeated
    · exact ih true
    · exact (ih true).imp (congrArg _) (congrArg _)
    · exact (ih false).imp (congrArg _) (congrArg _)

omit [DecidableEq α] in
lemma intercalate_concat_nil (nonempty : lines ≠ []) :
    [nl].intercalate (lines ++ [[]]) = [nl].intercalate lines ++ [nl] := by
  induction lines with
  | nil => exact absurd rfl nonempty
  | cons line rest ih =>
    cases rest with
    | nil => simp
    | cons next rest =>
      have := ih (cons_ne_nil _ _)
      rw [cons_append] at this
      rw [cons_append, cons_append, intercalate_cons_cons, this]
      simp

omit [DecidableEq α] in
lemma writtenText_concat_nil (blank : white nl = true) (lines : List (List α)) :
    writtenText nl white (lines ++ [[]]) = writtenText nl white lines := by
  unfold writtenText
  rcases collapsed_concat_nil false lines with same | same
  · rw [same]
  · rw [same]
    by_cases nonempty : collapsed false lines = []
    · rw [nonempty]
      rfl
    · rw [intercalate_concat_nil nonempty, trimmed_concat_of_white blank]

omit [DecidableEq α] in
lemma writtenText_append_twice (front back : List (List α)) :
    writtenText nl white (front ++ [[]] ++ [[]] ++ back) =
      writtenText nl white (front ++ [[]] ++ back) := by
  unfold writtenText
  have same := collapsed_append_twice false front back
  rw [append_assoc, append_assoc, append_assoc]
  exact congrArg (fun lines => trimmed white ([nl].intercalate lines)) same

/-- Lines that are written as they are. -/
structure Neat (nl : α) (white : α → Bool) (lines : List (List α)) : Prop where
  single : ∀ line ∈ lines, nl ∉ line
  spaced : Spaced lines
  front : ∃ line ∈ lines.head?, ∃ c ∈ line.head?, white c = false
  back : ∃ line ∈ lines.getLast?, ∃ c ∈ line.getLast?, white c = false

omit [DecidableEq α] in
lemma Neat.nonempty (neat : Neat nl white lines) : lines ≠ [] := by
  rintro rfl
  obtain ⟨_, mem, -⟩ := neat.front
  cases mem

omit [DecidableEq α] in
lemma head?_intercalate {rest : List (List α)} (nonempty : line ≠ []) :
    ([nl].intercalate (line :: rest)).head? = line.head? := by
  cases rest with
  | nil => simp
  | cons next rest => rw [intercalate_cons_cons, append_assoc, head?_append_of_ne_nil _ nonempty]

omit [DecidableEq α] in
lemma getLast?_intercalate {front : List (List α)} (nonempty : line ≠ []) :
    ([nl].intercalate (front ++ [line])).getLast? = line.getLast? := by
  induction front with
  | nil => simp
  | cons first front ih =>
    have more : front ++ [line] ≠ [] := by simp
    obtain ⟨next, rest, same⟩ := exists_cons_of_ne_nil more
    rw [cons_append, same, intercalate_cons_cons, ← same, getLast?_append, ih,
      getLast?_eq_some_getLast nonempty, Option.some_or]

omit [DecidableEq α] in
lemma Neat.writtenText_eq (neat : Neat nl white lines) :
    writtenText nl white lines = [nl].intercalate lines := by
  have same : collapsed false lines = lines := collapsed_eq_self_iff.mpr ⟨neat.spaced, nofun⟩
  unfold writtenText
  rw [same]
  obtain ⟨first, mem, c, begins, solid⟩ := neat.front
  obtain ⟨last, mem', c', ends, solid'⟩ := neat.back
  refine trimmed_eq_self ?_ ?_
  · obtain ⟨rest, rfl⟩ : ∃ rest, lines = first :: rest := by
      cases lines with
      | nil => cases mem
      | cons line rest => exact ⟨rest, by rw [head?_cons, Option.mem_some_iff] at mem; rw [mem]⟩
    have nonempty : first ≠ [] := by
      rintro rfl
      cases begins
    rw [head?_intercalate nonempty]
    intro d mem
    cases Option.mem_unique mem begins
    exact solid
  · obtain ⟨front, rfl⟩ := getLast?_eq_some_iff.mp mem'
    have nonempty : last ≠ [] := by
      rintro rfl
      cases ends
    rw [getLast?_intercalate nonempty]
    intro d mem
    cases Option.mem_unique mem ends
    exact solid'

lemma Neat.eq_of_writtenText_eq {first second : List (List α)} (neat : Neat nl white first)
    (neat' : Neat nl white second)
    (same : writtenText nl white first = writtenText nl white second) : first = second := by
  rw [neat.writtenText_eq, neat'.writtenText_eq] at same
  rw [← splitOn_intercalate nl neat.single neat.nonempty, same,
    splitOn_intercalate nl neat'.single neat'.nonempty]

omit [DecidableEq α] in
lemma Neat.append_block {kept gap block : List (List α)} (neat : Neat nl white kept)
    (apart : gap = [] ∨ gap = [[]]) (single : ∀ line ∈ block, nl ∉ line)
    (solid : ∀ line ∈ block, line ≠ [])
    (ends : ∃ line ∈ block.getLast?, ∃ c ∈ line.getLast?, white c = false) :
    Neat nl white (kept ++ gap ++ block) := by
  have last line (mem : line ∈ kept.getLast?) : line ≠ [] := by
    obtain ⟨line', mem', c, ends, -⟩ := neat.back
    cases Option.mem_unique mem mem'
    rintro rfl
    cases ends
  have chain : Spaced block :=
    (pairwise_of_forall_mem_list fun line mem _ _ => .inl (solid line mem)).isChain
  have between (line next : List α) mem : line ≠ [] ∨ next ≠ [] :=
    .inr (solid next (mem_of_mem_head? mem))
  refine ⟨?_, ?_, ?_, ?_⟩
  · intro line mem
    rcases mem_append.mp mem with front | back
    · rcases mem_append.mp front with old | middle
      · exact neat.single line old
      · rcases apart with rfl | rfl
        · cases middle
        · cases mem_singleton.mp middle
          exact not_mem_nil
    · exact single line back
  · rcases apart with rfl | rfl
    · rw [append_nil]
      exact isChain_append.mpr ⟨neat.spaced, chain, fun line mem next mem' =>
        between line next mem'⟩
    · refine isChain_append.mpr ⟨isChain_append.mpr ⟨neat.spaced, isChain_singleton _,
        fun line mem next _ => .inl (last line mem)⟩, chain, fun line _ next mem' =>
          between line next mem'⟩
  · obtain ⟨line, mem, c, begins, blank⟩ := neat.front
    refine ⟨line, ?_, c, begins, blank⟩
    rw [append_assoc, head?_append_of_ne_nil _ neat.nonempty]
    exact mem
  · obtain ⟨line, mem, c, ends, blank⟩ := ends
    refine ⟨line, ?_, c, ends, blank⟩
    rw [getLast?_append, mem]
    rfl

omit [DecidableEq α] in
lemma neat_of_written (blank : white nl = true) (single : ∀ line ∈ lines, nl ∉ line)
    (spaced : Spaced lines) (front : ∃ line ∈ lines.head?, ∃ c ∈ line.head?, white c = false)
    (written : writtenText nl white lines = [nl].intercalate lines) : Neat nl white lines := by
  refine ⟨single, spaced, front, ?_⟩
  have ends c (mem : c ∈ ([nl].intercalate lines).getLast?) : white c = false := by
    rw [← written] at mem
    exact getLast?_trimmed c mem
  have nonempty : lines ≠ [] := by
    rintro rfl
    obtain ⟨_, mem, -⟩ := front
    cases mem
  obtain ⟨first, last, rfl⟩ : ∃ first last, lines = first ++ [last] :=
    ⟨_, _, (dropLast_concat_getLast nonempty).symm⟩
  by_cases empty : last = []
  · subst empty
    have more : first ≠ [] := by
      rintro rfl
      obtain ⟨line, mem, c, mem', -⟩ := front
      cases mem
      cases mem'
    rw [intercalate_concat_nil more] at ends
    have := ends nl (by simp)
    rw [blank] at this
    cases this
  · rw [getLast?_intercalate empty, getLast?_eq_some_getLast empty] at ends
    exact ⟨last, by simp, _, getLast?_eq_some_getLast empty, ends _ rfl⟩

omit [DecidableEq α] in
lemma infix_intercalate_of_mem {sep : α} (mem : line ∈ lines) :
    line <:+: [sep].intercalate lines := by
  induction lines with
  | nil => cases mem
  | cons first rest ih =>
    cases rest with
    | nil =>
      cases mem_singleton.mp mem
      simp
    | cons next rest =>
      rw [intercalate_cons_cons, append_assoc]
      rcases mem_cons.mp mem with rfl | later
      · exact (prefix_append _ _).isInfix
      · exact (ih later).trans
          ((suffix_append _ _).trans (suffix_append _ _)).isInfix

lemma splitOn_cons_of_ne {c : α} (other : c ≠ nl) (rest : List α) :
    ∃ line more, (c :: rest).splitOn nl = (c :: line) :: more := by
  rw [splitOn_cons_eq_if_modifyHead]
  have no : (c == nl) = false := by simpa using other
  rw [no]
  cases pieces : rest.splitOn nl with
  | nil => exact absurd pieces (splitOn_ne_nil nl rest)
  | cons line more => exact ⟨line, more, rfl⟩

lemma notMem_of_mem_splitOn {text : List α} (mem : line ∈ text.splitOn nl) : nl ∉ line := by
  induction text generalizing line with
  | nil =>
    cases mem_singleton.mp (by simpa using mem)
    exact not_mem_nil
  | cons c rest ih =>
    by_cases ends : c = nl
    · subst ends
      rw [splitOn_cons_eq_if_modifyHead] at mem
      simp only [beq_self_eq_true, if_true, mem_cons] at mem
      rcases mem with rfl | mem
      · exact not_mem_nil
      · exact ih mem
    · have no : (c == nl) = false := by simpa using ends
      rw [splitOn_cons_eq_if_modifyHead, no] at mem
      cases pieces : rest.splitOn nl with
      | nil => exact absurd pieces (splitOn_ne_nil nl rest)
      | cons first more =>
        rw [pieces] at mem
        rcases mem_cons.mp mem with rfl | later
        · have := @ih first (by rw [pieces]; exact mem_cons_self)
          rw [mem_cons, not_or]
          exact ⟨Ne.symm ends, this⟩
        · exact ih (by rw [pieces]; exact mem_cons_of_mem _ later)

end

end Knowbee.Lib
