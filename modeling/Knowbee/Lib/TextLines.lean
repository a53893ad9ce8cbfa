import Mathlib.Data.List.Chain
import Mathlib.Data.List.DropRight
import Mathlib.Data.List.Infix

/-!
# Texts made of lines

A text is a list of characters of any type, one of which ends lines.  The
operations that tidy a text (dropping characters, squeezing blanks, capping
runs of line ends, trimming) are given together with what they leave of the
lines that say something.
-/

namespace Knowbee.Lib

open List

variable {α : Type*}

/-! ## Trimming -/

section Trim

variable (white : α → Bool)

def trimmed (text : List α) : List α := (text.dropWhile white).rdropWhile white

variable {white}

@[simp] lemma trimmed_nil : trimmed white ([] : List α) = [] := rfl

lemma trimmed_cons_of_white {c : α} (h : white c = true) (text : List α) :
    trimmed white (c :: text) = trimmed white text := by
  simp [trimmed, h]

lemma trimmed_concat_of_white {c : α} (h : white c = true) (text : List α) :
    trimmed white (text ++ [c]) = trimmed white text := by
  unfold trimmed
  rw [dropWhile_append]
  cases text.dropWhile white with
  | nil => simp [h]
  | cons d rest => exact rdropWhile_concat_pos _ _ _ h

lemma trimmed_isInfix (text : List α) : trimmed white text <:+: text :=
  (List.rdropWhile_prefix white _).isInfix.trans (dropWhile_suffix white).isInfix

variable {text : List α}

lemma trimmed_eq_self (front : ∀ c ∈ text.head?, white c = false)
    (back : ∀ c ∈ text.getLast?, white c = false) : trimmed white text = text := by
  unfold trimmed
  have kept : text.dropWhile white = text := by
    cases text with
    | nil => rfl
    | cons c rest => simp [front c rfl]
  rw [kept, rdropWhile_eq_self_iff]
  intro nonempty positive
  have last := back _ (getLast?_eq_some_getLast nonempty)
  rw [last] at positive
  cases positive

lemma head?_trimmed : ∀ c ∈ (trimmed white text).head?, white c = false := by
  intro c mem
  have front := rdropWhile_prefix white (text.dropWhile white)
  cases shape : trimmed white text with
  | nil => simp [shape] at mem
  | cons d rest =>
    have same : c = d := by simpa [shape, eq_comm] using mem
    subst same
    obtain ⟨tail, eq⟩ := front
    have start : text.dropWhile white = c :: (rest ++ tail) := by
      rw [← eq]
      unfold trimmed at shape
      rw [shape, cons_append]
    have stopped := head?_dropWhile_not white text
    rw [start] at stopped
    simpa using stopped

lemma getLast?_trimmed : ∀ c ∈ (trimmed white text).getLast?, white c = false := by
  intro c mem
  by_cases empty : trimmed white text = []
  · simp [empty] at mem
  · have last := rdropWhile_last_not white (text.dropWhile white) empty
    have same : (trimmed white text).getLast empty = c := by
      rw [getLast?_eq_some_getLast empty] at mem
      simpa using mem
    have eq : ¬white ((trimmed white text).getLast empty) = true := last
    rw [same] at eq
    simpa using eq

lemma trimmed_trimmed (text : List α) : trimmed white (trimmed white text) = trimmed white text :=
  trimmed_eq_self head?_trimmed getLast?_trimmed

lemma trimmed_append {front : List α} (plain : ∀ c ∈ front, white c = false) (text : List α) :
    ∃ rest, trimmed white (front ++ text) = front ++ rest := by
  cases front with
  | nil => exact ⟨_, rfl⟩
  | cons c front =>
    have first : trimmed white (c :: front ++ text) = (c :: front ++ text).rdropWhile white := by
      simp [trimmed, plain c (mem_cons_self ..)]
    have kept : (c :: front) <+: (c :: front ++ text).rdropWhile white := by
      induction text using reverseRecOn with
      | nil =>
        rw [append_nil, rdropWhile_eq_self_iff.mpr]
        intro nonempty positive
        have last := plain _ (getLast_mem nonempty)
        rw [last] at positive
        cases positive
      | append_singleton text d ih =>
        rw [← append_assoc]
        by_cases positive : white d = true
        · rw [rdropWhile_concat_pos _ _ _ positive]
          exact ih (by simp [trimmed, plain c (mem_cons_self ..)])
        · rw [rdropWhile_concat_neg _ _ _ positive, append_assoc]
          exact prefix_append _ _
    obtain ⟨rest, eq⟩ := kept
    exact ⟨rest, first.trans eq.symm⟩

end Trim

/-! ## Squeezing runs -/

section Runs

variable (blank : α → Bool) (space : α)

/-- Every run of blanks replaced by one space. -/
def squeezed : List α → List α
  | [] => []
  | c :: rest =>
    if blank c then if rest.head?.any blank then squeezed rest else space :: squeezed rest
    else c :: squeezed rest

/-- Runs of a character of three and more cut to two. -/
def capped [DecidableEq α] (nl : α) : List α → List α
  | [] => []
  | c :: rest => if c = nl ∧ rest.take 2 = [nl, nl] then capped nl rest else c :: capped nl rest

attribute [local simp] squeezed capped

variable {blank space}

/-- No blank follows a blank, and every blank is the space. -/
def Squeezed (blank : α → Bool) (space : α) (text : List α) : Prop :=
  text.IsChain (fun a b => ¬(blank a = true ∧ blank b = true)) ∧ ∀ c ∈ text, blank c = true → c = space

variable {text : List α}

lemma squeezed_eq_self (settled : Squeezed blank space text) :
    squeezed blank space text = text := by
  induction text with
  | nil => rfl
  | cons c rest ih =>
    have later := ih ⟨(isChain_cons.mp settled.1).2,
      fun d mem => settled.2 d (mem_cons_of_mem _ mem)⟩
    by_cases blankHere : blank c = true
    · have next : rest.head?.any blank = false := by
        cases rest with
        | nil => rfl
        | cons d rest =>
          have apart := (isChain_cons.mp settled.1).1 d rfl
          simpa using fun blankNext => apart ⟨blankHere, blankNext⟩
      rw [squeezed, if_pos blankHere, next, later,
        settled.2 c (mem_cons_self ..) blankHere]
      rfl
    · rw [squeezed, if_neg blankHere, later]

lemma any_head?_squeezed (spaceBlank : blank space = true) (text : List α) :
    (squeezed blank space text).head?.any blank = text.head?.any blank := by
  induction text with
  | nil => rfl
  | cons c rest ih =>
    by_cases blankHere : blank c = true
    · by_cases next : rest.head?.any blank = true
      · rw [squeezed, if_pos blankHere, if_pos next, ih, next]
        simp [blankHere]
      · rw [squeezed, if_pos blankHere, if_neg next]
        simp [blankHere, spaceBlank]
    · rw [squeezed, if_neg blankHere]
      rfl

lemma squeezed_squeezed (spaceBlank : blank space = true) (text : List α) :
    Squeezed blank space (squeezed blank space text) := by
  induction text with
  | nil => exact ⟨.nil, nofun⟩
  | cons c rest ih =>
    by_cases blankHere : blank c = true
    · by_cases next : rest.head?.any blank = true
      · rw [squeezed, if_pos blankHere, if_pos next]
        exact ih
      · rw [squeezed, if_pos blankHere, if_neg next]
        refine ⟨isChain_cons.mpr ⟨fun d mem => ?_, ih.1⟩, fun d mem blankThere => ?_⟩
        · rintro ⟨-, blankNext⟩
          have head := any_head?_squeezed spaceBlank rest
          rw [Option.mem_def.mp mem, Option.any_some, blankNext] at head
          exact next head.symm
        · rcases mem_cons.mp mem with rfl | mem
          · rfl
          · exact ih.2 d mem blankThere
    · rw [squeezed, if_neg blankHere]
      refine ⟨isChain_cons.mpr ⟨fun d _ both => blankHere both.1, ih.1⟩,
        fun d mem blankThere => ?_⟩
      rcases mem_cons.mp mem with rfl | mem
      · exact absurd blankThere blankHere
      · exact ih.2 d mem blankThere

lemma Squeezed.of_isInfix {part : List α} (settled : Squeezed blank space text)
    (inside : part <:+: text) : Squeezed blank space part := by
  refine ⟨?_, fun c mem => settled.2 c (inside.subset mem)⟩
  obtain ⟨front, back, rfl⟩ := inside
  have chain := (isChain_append.mp settled.1).1
  exact (isChain_append.mp chain).2.1

lemma squeezed_append_cons {c : α} (plain : blank c = false) (front back : List α) :
    squeezed blank space (front ++ c :: back) =
      squeezed blank space front ++ c :: squeezed blank space back := by
  induction front with
  | nil => simp [plain]
  | cons d front ih =>
    have head : (front ++ c :: back).head?.any blank = front.head?.any blank := by
      cases front with
      | nil => simp [plain]
      | cons e front => rfl
    rw [cons_append, squeezed, squeezed, head, ih]
    split_ifs <;> rfl

lemma squeezed_append {front : List α} (plain : ∀ c ∈ front, blank c = false) (text : List α) :
    squeezed blank space (front ++ text) = front ++ squeezed blank space text := by
  induction front with
  | nil => rfl
  | cons c front ih =>
    rw [cons_append, squeezed, if_neg (by simp [plain c (mem_cons_self ..)]),
      ih fun d mem => plain d (mem_cons_of_mem _ mem), cons_append]

lemma mem_squeezed {c : α} (mem : c ∈ squeezed blank space text) : c = space ∨ c ∈ text := by
  induction text with
  | nil => exact .inr mem
  | cons d rest ih =>
    rw [squeezed] at mem
    split_ifs at mem
    · exact (ih mem).imp_right (mem_cons_of_mem _)
    · rcases mem_cons.mp mem with rfl | mem
      · exact .inl rfl
      · exact (ih mem).imp_right (mem_cons_of_mem _)
    · rcases mem_cons.mp mem with rfl | mem
      · exact .inr (mem_cons_self ..)
      · exact (ih mem).imp_right (mem_cons_of_mem _)

variable [DecidableEq α] {nl : α}

lemma capped_sublist (text : List α) : (capped nl text).Sublist text := by
  induction text with
  | nil => exact .slnil
  | cons c rest ih =>
    rw [capped]
    split_ifs
    · exact ih.cons c
    · exact ih.cons_cons c

lemma head?_capped (text : List α) : (capped nl text).head? = text.head? := by
  induction text with
  | nil => rfl
  | cons c rest ih =>
    rw [capped]
    split_ifs with run
    · rw [ih]
      cases rest with
      | nil => simp at run
      | cons d rest =>
        have eq : d = nl := by simpa using congrArg head? run.2
        simp [run.1, eq]
    · rfl

lemma capped_eq_self (short : ¬[nl, nl, nl] <:+: text) : capped nl text = text := by
  induction text with
  | nil => rfl
  | cons c rest ih =>
    have later := ih fun inside => short (infix_cons_iff.mpr (.inr inside))
    rw [capped, if_neg, later]
    rintro ⟨rfl, run⟩
    refine short (infix_cons_iff.mpr (.inl ?_))
    rw [cons_prefix_cons]
    exact ⟨rfl, run ▸ take_prefix 2 rest⟩

lemma take_capped (run : (capped nl text).take 2 = [nl, nl]) : text.take 2 = [nl, nl] := by
  cases text with
  | nil => simp at run
  | cons c rest =>
    rw [capped] at run
    split_ifs at run with long
    · rw [long.1]
      cases rest with
      | nil => simp at long
      | cons d rest =>
        have eq : d = nl := by simpa using congrArg head? long.2
        simp [eq]
    · have eq : c = nl := by simpa using congrArg head? run
      have next : (capped nl rest).head? = some nl := by
        cases shape : capped nl rest with
        | nil => simp [shape] at run
        | cons d tail => simpa [shape, eq] using run
      rw [head?_capped] at next
      cases rest with
      | nil => simp at next
      | cons d rest =>
        have same : d = nl := by simpa using next
        simp [eq, same]

lemma capped_short (text : List α) : ¬[nl, nl, nl] <:+: capped nl text := by
  induction text with
  | nil => simp
  | cons c rest ih =>
    rw [capped]
    split_ifs with run
    · exact ih
    · rw [infix_cons_iff]
      rintro (start | inside)
      · rw [cons_prefix_cons] at start
        refine run ⟨start.1.symm, take_capped ?_⟩
        exact (prefix_iff_eq_take.mp start.2).symm
      · exact ih inside

/-- Where two characters follow each other after the capping they did before,
or the second is the one whose runs are cut. -/
lemma isChain_capped {r : α → α → Prop} (chain : text.IsChain r) :
    (capped nl text).IsChain r := by
  induction text with
  | nil => exact .nil
  | cons c rest ih =>
    have split := isChain_cons.mp chain
    rw [capped]
    split_ifs
    · exact ih split.2
    · rw [isChain_cons, head?_capped]
      exact ⟨split.1, ih split.2⟩

end Runs

/-! ## Lines -/

section Lines

variable [DecidableEq α] (nl : α) (white : α → Bool)

/-- The lines of a text that say something, each trimmed. -/
def contentLines (text : List α) : List (List α) :=
  ((text.splitOn nl).map (trimmed white)).filter (· ≠ [])

variable {nl white}

lemma contentLines_append (front back : List α) :
    contentLines nl white (front ++ nl :: back) =
      contentLines nl white front ++ contentLines nl white back := by
  simp [contentLines, splitOn_append_cons_self, map_append, filter_append]

@[simp] lemma contentLines_nil : contentLines nl white [] = [] := by
  simp [contentLines]

lemma contentLines_line {line : List α} (single : nl ∉ line) :
    contentLines nl white line = [trimmed white line].filter (· ≠ []) := by
  simp [contentLines, splitOn_eq_singleton single, map_cons, map_nil]

lemma line_cases (text : List α) :
    nl ∉ text ∨ ∃ line rest, nl ∉ line ∧ text = line ++ nl :: rest := by
  by_cases mem : nl ∈ text
  · obtain ⟨line, rest, eq, free⟩ := eq_append_cons_of_mem mem
    exact .inr ⟨line, rest, free, eq⟩
  · exact .inl mem

lemma contentLines_cons_of_white {c : α} (h : white c = true) (text : List α) :
    contentLines nl white (c :: text) = contentLines nl white text := by
  by_cases same : c = nl
  · subst same
    have split := @contentLines_append _ _ c white [] text
    simpa using split
  · rcases @line_cases _ _ nl text with single | ⟨line, rest, single, rfl⟩
    · rw [contentLines_line (by simp [Ne.symm same, single]), contentLines_line single,
        trimmed_cons_of_white h]
    · rw [← cons_append, contentLines_append, contentLines_append,
        contentLines_line (by simp [Ne.symm same, single]), contentLines_line single,
        trimmed_cons_of_white h]

lemma contentLines_concat_of_white {c : α} (h : white c = true) (text : List α) :
    contentLines nl white (text ++ [c]) = contentLines nl white text := by
  by_cases same : c = nl
  · subst same
    rw [contentLines_append, contentLines_nil, append_nil]
  · have line : ∀ last, nl ∉ last →
        contentLines nl white (last ++ [c]) = contentLines nl white last := by
      intro last single
      rw [contentLines_line (by simp [Ne.symm same, single]), contentLines_line single,
        trimmed_concat_of_white h]
    by_cases mem : nl ∈ text
    · obtain ⟨last, front, eq, single⟩ := eq_append_cons_of_mem (mem_reverse.mpr mem)
      have shape : text = front.reverse ++ nl :: last.reverse := by
        rw [← reverse_reverse text, eq, reverse_append, reverse_cons,
          append_assoc, singleton_append]
      rw [shape, append_assoc, cons_append, contentLines_append, contentLines_append,
        line _ (by simpa using single)]
    · exact line text mem

lemma contentLines_trimmed (text : List α) :
    contentLines nl white (trimmed white text) = contentLines nl white text := by
  have front : ∀ text,
      contentLines nl white (text.dropWhile white) = contentLines nl white text := by
    intro text
    induction text with
    | nil => rfl
    | cons c text ih =>
      rw [dropWhile_cons]
      split_ifs with h
      · rw [ih, contentLines_cons_of_white h]
      · rfl
  have back : ∀ text,
      contentLines nl white (text.rdropWhile white) = contentLines nl white text := by
    intro text
    induction text using reverseRecOn with
    | nil => rfl
    | append_singleton text c ih =>
      by_cases h : white c = true
      · rw [rdropWhile_concat_pos _ _ _ h, ih, contentLines_concat_of_white h]
      · rw [rdropWhile_concat_neg _ _ _ h]
  rw [trimmed, back, front]

lemma contentLines_capped (front text : List α) :
    contentLines nl white (front ++ capped nl text) = contentLines nl white (front ++ text) := by
  induction text generalizing front with
  | nil => rfl
  | cons c rest ih =>
    rw [capped]
    split_ifs with run
    · -- one line end of the run is dropped, and another follows it
      rw [ih, run.1]
      cases rest with
      | nil => simp at run
      | cons d rest =>
        have eq : d = nl := by simpa using congrArg head? run.2
        subst eq
        have empty := @contentLines_append _ _ d white [] rest
        rw [contentLines_append, contentLines_append, ← nil_append (d :: rest), empty,
          contentLines_nil, nil_append]
    · have moved := ih (front ++ [c])
      rw [append_assoc, append_assoc] at moved
      exact moved

end Lines

/-! ## Tidying -/

/-- The characters that tidying and reading a text go by. -/
structure Layout (α : Type*) where
  (nl space : α)
  (kept blank white : α → Bool)
  kept_nl : kept nl = true
  kept_space : kept space = true
  blank_space : blank space = true
  blank_nl : blank nl = false
  white_nl : white nl = true
  white_of_blank : ∀ c, blank c = true → white c = true

namespace Layout

variable (layout : Layout α)

def cleaned (line : List α) : List α :=
  trimmed layout.white (squeezed layout.blank layout.space (line.filter layout.kept))

structure Tidy (text : List α) : Prop where
  kept : ∀ c ∈ text, layout.kept c = true
  squeezed : Squeezed layout.blank layout.space text
  short : ¬[layout.nl, layout.nl, layout.nl] <:+: text
  trimmed : trimmed layout.white text = text

def Plain (text : List α) : Prop := ∀ c ∈ text, layout.kept c = true ∧ layout.white c = false

variable {layout}

lemma kept_squeezed (text : List α) :
    ∀ c ∈ squeezed layout.blank layout.space (text.filter layout.kept), layout.kept c = true := by
  intro c mem
  rcases mem_squeezed mem with rfl | mem
  · exact layout.kept_space
  · exact (mem_filter.mp mem).2

variable {text line front : List α}

lemma Tidy.part {part : List α} (tidy : layout.Tidy text) (inside : part <:+: text) :
    layout.Tidy (Lib.trimmed layout.white part) := by
  have within := (@trimmed_isInfix _ layout.white part).trans inside
  exact ⟨fun c mem => tidy.kept c (within.subset mem), tidy.squeezed.of_isInfix within,
    fun run => tidy.short (run.trans within), trimmed_trimmed part⟩

lemma cleaned_subset {c : α} (mem : c ∈ layout.cleaned line) : c = layout.space ∨ c ∈ line := by
  rcases mem_squeezed ((trimmed_isInfix _).subset mem) with rfl | mem
  · exact .inl rfl
  · exact .inr (mem_of_mem_filter mem)

lemma nl_ne_space : layout.nl ≠ layout.space := by
  intro same
  have blank := layout.blank_space
  rw [← same, layout.blank_nl] at blank
  cases blank

lemma nl_notMem_cleaned (single : layout.nl ∉ line) : layout.nl ∉ layout.cleaned line := by
  intro mem
  exact (cleaned_subset mem).elim nl_ne_space single

lemma tidy_cleaned (single : layout.nl ∉ line) : layout.Tidy (layout.cleaned line) := by
  have settled := squeezed_squeezed layout.blank_space (line.filter layout.kept)
  have inside := @trimmed_isInfix _ layout.white
    (squeezed layout.blank layout.space (line.filter layout.kept))
  refine ⟨fun c mem => kept_squeezed line c (inside.subset mem), settled.of_isInfix inside,
    fun run => ?_, trimmed_trimmed _⟩
  exact nl_notMem_cleaned single (run.subset (mem_cons_self ..))

lemma Plain.blank (plain : layout.Plain front) : ∀ c ∈ front, layout.blank c = false := by
  intro c mem
  cases positive : layout.blank c with
  | false => rfl
  | true =>
    have white := layout.white_of_blank c positive
    rw [(plain c mem).2] at white
    cases white

lemma Plain.nl_notMem (plain : layout.Plain front) : layout.nl ∉ front := by
  intro mem
  have white := (plain _ mem).2
  rw [layout.white_nl] at white
  cases white

/-- What stands before a tidy text stays, and the two are tidy together. -/
lemma Tidy.prepend (plain : layout.Plain front) (nonempty : front ≠ [])
    (tidy : layout.Tidy text) : layout.Tidy (front ++ text) := by
  have unblank : ∀ c ∈ front, ¬layout.blank c = true := fun c mem => by simp [plain.blank c mem]
  have noEnd : layout.nl ∉ front := plain.nl_notMem
  refine ⟨fun c mem => ?_, ⟨?_, fun c mem blank => ?_⟩, fun run => ?_, trimmed_eq_self ?_ ?_⟩
  · exact (mem_append.mp mem).elim (fun mem => (plain c mem).1) (tidy.kept c)
  · rw [isChain_append]
    refine ⟨?_, tidy.squeezed.1, fun c mem d _ both => ?_⟩
    · have apart : front.Pairwise fun c d => ¬(layout.blank c = true ∧ layout.blank d = true) :=
        pairwise_of_forall_mem_list fun c mem d _ both => unblank c mem both.1
      exact apart.isChain
    · exact unblank c (mem_of_getLast? mem) both.1
  · rcases mem_append.mp mem with mem | mem
    · exact absurd blank (unblank c mem)
    · exact tidy.squeezed.2 c mem blank
  · revert run
    induction front with
    | nil => exact absurd rfl nonempty
    | cons c front ih =>
      intro run
      rw [cons_append, infix_cons_iff] at run
      rcases run with start | inside
      · rw [cons_prefix_cons] at start
        exact noEnd (start.1 ▸ mem_cons_self ..)
      · cases front with
        | nil => exact tidy.short inside
        | cons d front =>
          exact ih (fun e mem => plain e (mem_cons_of_mem _ mem)) nofun
            (fun e mem => unblank e (mem_cons_of_mem _ mem))
            (fun mem => noEnd (mem_cons_of_mem _ mem)) inside
  · intro c mem
    cases front with
    | nil => exact absurd rfl nonempty
    | cons d front =>
      have same : d = c := by simpa using mem
      exact same ▸ (plain d (mem_cons_self ..)).2
  · intro c mem
    rw [getLast?_append] at mem
    cases last : text.getLast? with
    | none =>
      rw [last, Option.none_or] at mem
      exact (plain c (mem_of_getLast? mem)).2
    | some d =>
      rw [last] at mem
      have same : d = c := by simpa using mem
      have tail := @getLast?_trimmed _ layout.white text
      rw [tidy.trimmed] at tail
      exact same ▸ tail d last

lemma Tidy.begins (tidy : layout.Tidy text) : ∀ c ∈ text.head?, layout.Plain [c] := by
  intro c mem d single
  rw [mem_singleton] at single
  subst single
  have head := @head?_trimmed _ layout.white text
  rw [tidy.trimmed] at head
  exact ⟨tidy.kept d (mem_of_head? mem), head d mem⟩

lemma cleaned_append (plain : layout.Plain front) (text : List α) :
    ∃ rest, layout.cleaned (front ++ text) = front ++ rest := by
  have kept : front.filter layout.kept = front := filter_eq_self.mpr fun c mem => (plain c mem).1
  rw [cleaned, filter_append, kept, squeezed_append plain.blank]
  exact trimmed_append (fun c mem => (plain c mem).2) _

variable [DecidableEq α]

/-- A text without what is dropped, its blanks squeezed, its line ends capped,
and trimmed. -/
def tidied (layout : Layout α) (text : List α) : List α :=
  trimmed layout.white
    (capped layout.nl (squeezed layout.blank layout.space (text.filter layout.kept)))

/-- The lines of a text that say something, as tidying leaves them. -/
def said (layout : Layout α) (text : List α) : List (List α) :=
  ((text.splitOn layout.nl).map layout.cleaned).filter (· ≠ [])

lemma Tidy.tidied_eq (tidy : layout.Tidy text) : layout.tidied text = text := by
  rw [tidied, filter_eq_self.mpr tidy.kept, squeezed_eq_self tidy.squeezed,
    capped_eq_self tidy.short, tidy.trimmed]

lemma tidy_tidied (text : List α) : layout.Tidy (layout.tidied text) := by
  have settled := squeezed_squeezed layout.blank_space (text.filter layout.kept)
  have inside := @trimmed_isInfix _ layout.white
    (capped layout.nl (squeezed layout.blank layout.space (text.filter layout.kept)))
  have among := @capped_sublist _ _ layout.nl
    (squeezed layout.blank layout.space (text.filter layout.kept))
  refine ⟨fun c mem => kept_squeezed text c (among.subset (inside.subset mem)), ?_,
    fun run => capped_short _ (run.trans inside), trimmed_trimmed _⟩
  refine Squeezed.of_isInfix ⟨isChain_capped settled.1, fun c mem => ?_⟩ inside
  exact settled.2 c (among.subset mem)

@[simp] lemma tidied_tidied (text : List α) :
    layout.tidied (layout.tidied text) = layout.tidied text :=
  (tidy_tidied text).tidied_eq

/-- **What a text says splits at its line ends**, from which the rest follows. -/
lemma said_append (front back : List α) :
    layout.said (front ++ layout.nl :: back) = layout.said front ++ layout.said back := by
  simp [said, splitOn_append_cons_self, map_append, filter_append]

@[simp] lemma said_nil : layout.said [] = [] := by
  simp [said, cleaned, squeezed]

lemma said_line (single : layout.nl ∉ line) :
    layout.said line = [layout.cleaned line].filter (· ≠ []) := by
  simp [said, splitOn_eq_singleton single, map_cons, map_nil]

lemma mem_said (mem : line ∈ layout.said text) : layout.Tidy line ∧ layout.nl ∉ line := by
  have one : ∀ own, layout.nl ∉ own → line ∈ layout.said own →
      layout.Tidy line ∧ layout.nl ∉ line := by
    intro own single mem
    rw [said_line single] at mem
    have eq : line = layout.cleaned own := mem_singleton.mp (mem_of_mem_filter mem)
    exact eq ▸ ⟨tidy_cleaned single, nl_notMem_cleaned single⟩
  induction h : text.length using Nat.strong_induction_on generalizing text with
  | _ size ih =>
    rcases @line_cases _ _ layout.nl text with single | ⟨front, rest, single, rfl⟩
    · exact one text single mem
    · rw [said_append, mem_append] at mem
      rcases mem with mem | mem
      · exact one front single mem
      · refine ih rest.length ?_ mem rfl
        rw [← h, length_append, length_cons]
        omega

lemma said_intercalate (parts : List (List α)) :
    layout.said ([layout.nl].intercalate parts) = parts.flatMap layout.said := by
  induction parts with
  | nil => simp [intercalate]
  | cons part rest ih =>
    cases rest with
    | nil => simp [intercalate]
    | cons next rest =>
      rw [intercalate_cons_cons, append_assoc, singleton_append, said_append, ih]
      rfl

lemma contentLines_squeezed (text : List α) :
    contentLines layout.nl layout.white
      (squeezed layout.blank layout.space (text.filter layout.kept)) = layout.said text := by
  have line : ∀ line, layout.nl ∉ line →
      contentLines layout.nl layout.white
        (squeezed layout.blank layout.space (line.filter layout.kept)) = layout.said line := by
    intro line single
    have free : layout.nl ∉ squeezed layout.blank layout.space (line.filter layout.kept) := by
      intro mem
      rcases mem_squeezed mem with same | mem
      · exact nl_ne_space same
      · exact single (mem_of_mem_filter mem)
    rw [contentLines_line free, said_line single, cleaned]
  induction h : text.length using Nat.strong_induction_on generalizing text with
  | _ size ih =>
    rcases @line_cases _ _ layout.nl text with single | ⟨front, rest, single, rfl⟩
    · exact line text single
    · have smaller : rest.length < size := by
        rw [← h, length_append, length_cons]
        omega
      rw [filter_append, filter_cons_of_pos layout.kept_nl,
        squeezed_append_cons layout.blank_nl, contentLines_append, said_append, line front single,
        ih rest.length smaller rest rfl]

lemma contentLines_tidied (text : List α) :
    contentLines layout.nl layout.white (layout.tidied text) = layout.said text := by
  have uncapped := @contentLines_capped _ _ layout.nl layout.white []
    (squeezed layout.blank layout.space (text.filter layout.kept))
  rw [nil_append, nil_append] at uncapped
  rw [tidied, contentLines_trimmed, uncapped, contentLines_squeezed]

lemma said_tidied (text : List α) : layout.said (layout.tidied text) = layout.said text := by
  rw [← contentLines_tidied, tidied_tidied, contentLines_tidied]

/-- A plain text and a gap before a text that begins with what is not white
change its first line only. -/
lemma said_prefixed {gap : List α} (plain : layout.Plain front) (nonempty : front ≠ [])
    (inline : layout.nl ∉ gap) (begins : ∀ c ∈ text.head?, layout.Plain [c]) :
    ∃ rest, layout.said (front ++ (gap ++ text)) = (front ++ rest) :: (layout.said text).tail := by
  have start : ∀ line, layout.nl ∉ line →
      ∃ rest, layout.said (front ++ (gap ++ line)) = [front ++ rest] := by
    intro line single
    obtain ⟨rest, eq⟩ := cleaned_append plain (gap ++ line)
    refine ⟨rest, ?_⟩
    rw [said_line (by simp [plain.nl_notMem, inline, single]), eq]
    simp [nonempty]
  rcases @line_cases _ _ layout.nl text with single | ⟨line, later, single, eq⟩
  · obtain ⟨rest, eq⟩ := start text single
    refine ⟨rest, ?_⟩
    rw [eq, said_line single]
    by_cases empty : layout.cleaned text = [] <;> simp [empty]
  · obtain ⟨rest, first⟩ := start line single
    refine ⟨rest, ?_⟩
    -- the character that the text begins with is left by cleaning
    have spoken : ∃ own, layout.said line = [own] := by
      cases line with
      | nil =>
        have plain := begins layout.nl (by rw [eq]; rfl)
        exact absurd (mem_singleton_self _) plain.nl_notMem
      | cons c line =>
        have plain := begins c (by rw [eq]; rfl)
        obtain ⟨own, shape⟩ := cleaned_append plain line
        rw [singleton_append] at shape
        exact ⟨_, by rw [said_line single, shape]; rfl⟩
    obtain ⟨own, only⟩ := spoken
    rw [eq, ← append_assoc, ← append_assoc, said_append, append_assoc, first,
      said_append, only]
    rfl

end Layout

end Knowbee.Lib
