import Knowbee.Schedule.Crontab

/-!
# Crontab edits and the lines of others

What an edit drops and what belongs to a schedule are compared line by line: the
occurrences of the run text count the commands that an edit leaves behind, and
the number of lines those of others that it drops.
-/

namespace Knowbee.Crontab

open Lib List

/-! ## Markers and run texts -/

section

variable {scheduleId line : Text}

lemma marker_ne_nil (scheduleId : Text) : marker scheduleId ≠ [] := by
  intro empty
  cases (append_eq_nil_iff.mp empty).1

lemma mentions_of_isMarker (marked : isMarker scheduleId line = true) :
    marker scheduleId <:+: line := by
  rw [← of_decide_eq_true marked]
  exact trimmed_isInfix line

lemma runText_ne_nil (scheduleId : Text) : runText scheduleId ≠ [] := by
  intro empty
  cases (append_eq_nil_iff.mp empty).1

lemma nl_notMem_shellQuote {value : Text} (single : '\n' ∉ value) : '\n' ∉ shellQuote value := by
  unfold shellQuote
  rw [cons_append, mem_cons, mem_append, mem_flatMap, mem_singleton]
  rintro (first | ⟨c, mem, mem'⟩ | last)
  · cases first
  · split_ifs at mem' with quote
    · exact absurd mem' (by decide)
    · cases mem_singleton.mp mem'
      exact single mem
  · cases last

lemma nl_notMem_runText (single : '\n' ∉ scheduleId) : '\n' ∉ runText scheduleId := by
  unfold runText
  rw [mem_append, not_or]
  exact ⟨by decide, nl_notMem_shellQuote single⟩

lemma runText_head : ∀ first ∈ (runText scheduleId).head?, isTrimmed first = false := by
  intro first mem
  cases mem
  rfl

lemma runText_last : ∀ last ∈ (runText scheduleId).getLast?, isTrimmed last = false := by
  intro last mem
  unfold runText shellQuote at mem
  rw [← append_assoc, getLast?_concat] at mem
  cases mem
  rfl

lemma nl_notMem_marker (single : '\n' ∉ scheduleId) : '\n' ∉ marker scheduleId := by
  unfold marker
  rw [mem_append, not_or]
  exact ⟨by decide, single⟩

end

/-! ## Reading and writing -/

section

lemma chop_isPrefix (line : Text) : chop line <+: line := by
  unfold chop
  split_ifs
  · exact dropLast_prefix line
  · exact prefix_rfl

lemma chop_cons {c : Char} (other : c ≠ '\r') (rest : Text) :
    (chop (c :: rest)).head? = some c := by
  unfold chop
  split_ifs with ends
  · cases rest with
    | nil => exact absurd (Option.some_inj.mp ends) other
    | cons d rest => rfl
  · rfl

lemma occurrences_chop {pattern : Text} (nonempty : pattern ≠ [])
    (back : ∀ last ∈ pattern.getLast?, isTrimmed last = false) (line : Text) :
    occurrences pattern (chop line) = occurrences pattern line := by
  unfold chop
  split_ifs with ends
  · have whole := dropLast_append_getLast? '\r' ends
    conv_rhs => rw [← whole]
    exact (occurrences_concat (show isTrimmed '\r' = true from rfl) back _ nonempty).symm
  · rfl

lemma crontabContent_eq (lines : List Text) :
    crontabContent lines = writtenText '\n' isTrimmed lines ++ ['\n'] := rfl

lemma splitLines_ended (text : Text) :
    splitLines (text ++ ['\n']) = (text.splitOn '\n').map chop ++ [[]] := by
  unfold splitLines
  rw [splitOn_append_cons_self]
  simp

lemma lines_ended (text : Text) : lines (some (text ++ ['\n'])) = (text.splitOn '\n').map chop := by
  unfold lines readCurrentCrontab
  dsimp only
  rw [splitLines_ended, getLast?_concat, if_pos rfl, dropLast_concat]

lemma readCurrentCrontab_eq (crontab : Option Text) :
    readCurrentCrontab crontab = lines crontab ++
      if (readCurrentCrontab crontab).getLast? = some [] then [[]] else [] := by
  unfold lines
  dsimp only
  split_ifs with ended
  · exact (dropLast_append_getLast? [] ended).symm
  · exact (append_nil _).symm

lemma single_of_mem_lines {crontab : Option Text} {line : Text} (mem : line ∈ lines crontab) :
    '\n' ∉ line := by
  have piece : line ∈ readCurrentCrontab crontab := by
    rw [readCurrentCrontab_eq]
    exact mem_append_left _ mem
  cases crontab with
  | none => cases piece
  | some text =>
    unfold readCurrentCrontab splitLines at piece
    rcases mem_append.mp piece with chopped | last
    · obtain ⟨whole, mem', rfl⟩ := mem_map.mp chopped
      exact fun ends => notMem_of_mem_splitOn (dropLast_subset _ mem')
        ((chop_isPrefix whole).subset ends)
    · rw [Option.mem_toList] at last
      exact notMem_of_mem_splitOn (mem_of_getLast? last)

end

/-! ## What is dropped and what belongs -/

section

variable {scheduleId : Text}

/-- Whether the line after some lines is skipped. -/
def skipsAfter (scheduleId : Text) (skip : Bool) : List Text → Bool
  | [] => skip
  | line :: rest => skipsAfter scheduleId (!skip && isMarker scheduleId line) rest

lemma stripFrom_append (skip : Bool) (front back : List Text) :
    stripFrom scheduleId skip (front ++ back) = stripFrom scheduleId skip front ++
      stripFrom scheduleId (skipsAfter scheduleId skip front) back := by
  induction front generalizing skip with
  | nil => rfl
  | cons line front ih =>
    rw [cons_append, stripFrom, stripFrom, skipsAfter]
    cases skip with
    | true => exact ih false
    | false =>
      by_cases marked : trim line = marker scheduleId
      · have marks : isMarker scheduleId line = true := decide_eq_true marked
        simp only [marked, marks, if_true, Bool.false_eq_true, if_false, Bool.not_false,
          Bool.and_true]
        exact ih true
      · have marks : isMarker scheduleId line = false := decide_eq_false marked
        simp only [marked, marks, Bool.false_eq_true, if_false, Bool.and_false]
        split_ifs with mentions
        · exact ih false
        · rw [ih false, cons_append]

lemma stripFrom_sublist (skip : Bool) (lines : List Text) :
    (stripFrom scheduleId skip lines).Sublist lines := by
  induction lines generalizing skip with
  | nil => exact List.Sublist.slnil
  | cons line rest ih =>
    rw [stripFrom]
    split_ifs
    · exact (ih false).cons line
    · exact (ih true).cons line
    · exact (ih false).cons line
    · exact (ih false).cons_cons line

lemma not_mentions_of_mem_stripFrom {skip : Bool} {lines : List Text} {line : Text}
    (mem : line ∈ stripFrom scheduleId skip lines) : ¬marker scheduleId <:+: line := by
  induction lines generalizing skip with
  | nil => cases mem
  | cons first rest ih =>
    rw [stripFrom] at mem
    split_ifs at mem with skipped marked mentions
    · exact ih mem
    · exact ih mem
    · exact ih mem
    · rcases mem_cons.mp mem with rfl | later
      · exact mentions
      · exact ih later

lemma stripFrom_eq_self {lines : List Text}
    (clean : ∀ line ∈ lines, ¬marker scheduleId <:+: line) :
    stripFrom scheduleId false lines = lines ∧ skipsAfter scheduleId false lines = false := by
  induction lines with
  | nil => exact ⟨rfl, rfl⟩
  | cons line rest ih =>
    have own := clean line mem_cons_self
    have unmarked : isMarker scheduleId line = false := by
      rw [Bool.eq_false_iff]
      exact fun marked => own (mentions_of_isMarker marked)
    obtain ⟨same, ends⟩ := ih fun line mem => clean line (mem_cons_of_mem _ mem)
    rw [stripFrom, skipsAfter, unmarked, if_neg Bool.false_ne_true,
      if_neg (of_decide_eq_false unmarked), if_neg own, same]
    exact ⟨rfl, ends⟩

def commandCount (scheduleId : Text) (lines : List Text) : Nat :=
  (lines.map (occurrences (runText scheduleId))).sum

lemma commandCount_cons (line : Text) (rest : List Text) : commandCount scheduleId (line :: rest) =
    occurrences (runText scheduleId) line + commandCount scheduleId rest := by
  unfold commandCount
  rw [map_cons, sum_cons]

/-- Where no line of others mentions the schedule, what is left has as many commands at
least, and more lines only with more commands; with as many of both it is the lines of
others. -/
lemma stripFrom_othersFrom {skip afterMarker : Bool} {lines : List Text}
    (state : skip = true → afterMarker = true)
    (clean : ∀ line ∈ othersFrom scheduleId afterMarker lines, ¬marker scheduleId <:+: line) :
    commandCount scheduleId (othersFrom scheduleId afterMarker lines) ≤
        commandCount scheduleId (stripFrom scheduleId skip lines) ∧
      (commandCount scheduleId (stripFrom scheduleId skip lines) =
          commandCount scheduleId (othersFrom scheduleId afterMarker lines) →
        (othersFrom scheduleId afterMarker lines).length ≤
          (stripFrom scheduleId skip lines).length →
        stripFrom scheduleId skip lines = othersFrom scheduleId afterMarker lines ∧
          (skipsAfter scheduleId skip lines = false →
            TidyFrom scheduleId skip afterMarker lines)) := by
  induction lines generalizing skip afterMarker with
  | nil => exact ⟨le_rfl, fun _ _ => ⟨rfl, id⟩⟩
  | cons line rest ih =>
    rw [othersFrom] at clean ⊢
    rw [stripFrom, TidyFrom, skipsAfter]
    by_cases marks : isMarker scheduleId line = true
    · -- the marker belongs to the schedule, and is dropped as a marker or as a skipped line
      have marked : trim line = marker scheduleId := of_decide_eq_true marks
      rw [if_pos marks] at clean ⊢
      rw [if_pos marks, marks, Bool.and_true]
      cases skip with
      | true => exact ih (fun _ => rfl) clean
      | false =>
        rw [if_neg Bool.false_ne_true, if_pos marked]
        exact ih (fun _ => rfl) clean
    · have unmarked : trim line ≠ marker scheduleId := fun marked => marks (decide_eq_true marked)
      rw [if_neg marks] at clean ⊢
      rw [if_neg marks, Bool.eq_false_iff.mpr marks, Bool.and_false]
      by_cases command : (afterMarker && runs scheduleId line) = true
      · rw [if_pos command] at clean ⊢
        rw [if_pos command]
        obtain ⟨counts, exact_⟩ := @ih false false nofun clean
        have dropped {kept other : List Text} (left : skip = true ∨ marker scheduleId <:+: line) :
            (if skip = true then kept else if trim line = marker scheduleId then other
              else if marker scheduleId <:+: line then kept else line :: kept) = kept := by
          rcases left with skipped | mentions
          · rw [if_pos skipped]
          · rw [if_neg unmarked, if_pos mentions, ite_self]
        by_cases left : skip = true ∨ marker scheduleId <:+: line
        · rw [dropped left]
          exact ⟨counts, fun same long =>
            ⟨(exact_ same long).1, fun ends => ⟨left, (exact_ same long).2 ends⟩⟩⟩
        · -- a command behind a second marker is left: one command too many
          have behind : 0 < occurrences (runText scheduleId) line := by
            rw [Bool.and_eq_true] at command
            exact (occurrences_pos_iff (runText_ne_nil scheduleId)).mpr
              (of_decide_eq_true command.2)
          rw [not_or] at left
          rw [if_neg left.1, if_neg unmarked, if_neg left.2, commandCount_cons]
          refine ⟨by omega, fun same => ?_⟩
          omega
      · rw [if_neg command] at clean ⊢
        rw [if_neg command]
        have own := clean line mem_cons_self
        obtain ⟨counts, exact_⟩ :=
          @ih false false nofun fun line mem => clean line (mem_cons_of_mem _ mem)
        cases skip with
        | false =>
          rw [if_neg Bool.false_ne_true, if_neg unmarked, if_neg own, commandCount_cons,
            commandCount_cons, cons_inj_right, length_cons, length_cons]
          refine ⟨by omega, fun same long => ?_⟩
          obtain ⟨same', tidy⟩ := exact_ (by omega) (by omega)
          exact ⟨same', fun ends => ⟨rfl, own, tidy ends⟩⟩
        | true =>
          -- a line of others is skipped: one line too few
          rw [if_pos rfl, commandCount_cons]
          have other : occurrences (runText scheduleId) line = 0 := by
            rw [state rfl, Bool.true_and] at command
            exact (occurrences_eq_zero_iff (runText_ne_nil scheduleId)).mpr
              fun runs => command (decide_eq_true runs)
          refine ⟨by omega, fun same long => ?_⟩
          rw [length_cons] at long
          have := (exact_ (by omega) (by omega)).1
          rw [this] at long
          omega

lemma stripFrom_of_tidyFrom {skip afterMarker : Bool} {lines : List Text}
    (tidy : TidyFrom scheduleId skip afterMarker lines) :
    stripFrom scheduleId skip lines = othersFrom scheduleId afterMarker lines ∧
      skipsAfter scheduleId skip lines = false ∧
      ∀ line ∈ othersFrom scheduleId afterMarker lines, ¬marker scheduleId <:+: line := by
  induction lines generalizing skip afterMarker with
  | nil => exact ⟨rfl, tidy, nofun⟩
  | cons line rest ih =>
    rw [TidyFrom] at tidy
    rw [othersFrom, stripFrom, skipsAfter]
    by_cases marks : isMarker scheduleId line = true
    · have marked : trim line = marker scheduleId := of_decide_eq_true marks
      rw [if_pos marks] at tidy ⊢
      rw [marks, Bool.and_true]
      cases skip with
      | true => exact ih tidy
      | false =>
        rw [if_neg Bool.false_ne_true, if_pos marked]
        exact ih tidy
    · have unmarked : trim line ≠ marker scheduleId := fun marked => marks (decide_eq_true marked)
      rw [if_neg marks] at tidy ⊢
      rw [Bool.eq_false_iff.mpr marks, Bool.and_false]
      by_cases command : (afterMarker && runs scheduleId line) = true
      · rw [if_pos command] at tidy ⊢
        obtain ⟨left, tidy⟩ := tidy
        rcases left with skipped | mentions
        · rw [if_pos skipped]
          exact ih tidy
        · rw [if_neg unmarked, if_pos mentions, ite_self]
          exact ih tidy
      · rw [if_neg command] at tidy ⊢
        obtain ⟨rfl, own, tidy⟩ := tidy
        rw [if_neg Bool.false_ne_true, if_neg unmarked, if_neg own, cons_inj_right]
        obtain ⟨same, ends, clean⟩ := ih tidy
        exact ⟨same, ends, forall_mem_cons.mpr ⟨own, clean⟩⟩

/-- The empty piece after the last line end, unless a marker skips it. -/
def trailing (scheduleId : Text) (crontab : Option Text) : List Text :=
  if (readCurrentCrontab crontab).getLast? = some [] ∧
      skipsAfter scheduleId false (lines crontab) = false then [[]] else []

lemma stripFrom_empty (scheduleId : Text) (skip : Bool) :
    stripFrom scheduleId skip [[]] = if skip then [] else [[]] := by
  have unmarked : trim [] ≠ marker scheduleId := (marker_ne_nil scheduleId).symm
  have absent : ¬marker scheduleId <:+: [] := by
    rw [infix_nil]
    exact marker_ne_nil scheduleId
  cases skip
  · rw [stripFrom, if_neg Bool.false_ne_true, if_neg unmarked, if_neg absent]
    rfl
  · rfl

lemma stripManagedEntry_eq (scheduleId : Text) (crontab : Option Text) :
    stripManagedEntry (readCurrentCrontab crontab) scheduleId =
      stripFrom scheduleId false (lines crontab) ++ trailing scheduleId crontab := by
  unfold stripManagedEntry trailing
  conv_lhs => rw [readCurrentCrontab_eq, stripFrom_append]
  by_cases ended : (readCurrentCrontab crontab).getLast? = some []
  · rw [if_pos ended, stripFrom_empty]
    cases skipsAfter scheduleId false (lines crontab) <;> simp [ended]
  · rw [if_neg ended, if_neg fun both => ended both.1]
    rfl

lemma trailing_cases (scheduleId : Text) (crontab : Option Text) :
    trailing scheduleId crontab = [] ∨ trailing scheduleId crontab = [[]] := by
  unfold trailing
  split_ifs
  · exact .inr rfl
  · exact .inl rfl

lemma removeEntry_eq (scheduleId : Text) (crontab : Option Text) :
    removeEntry scheduleId crontab =
      writtenText '\n' isTrimmed (stripFrom scheduleId false (lines crontab)) ++ ['\n'] := by
  unfold removeEntry
  rw [stripManagedEntry_eq, crontabContent_eq]
  rcases trailing_cases scheduleId crontab with none_ | one
  · rw [none_, append_nil]
  · rw [one, writtenText_concat_nil rfl]

lemma addEntry_eq (paths : CommandPaths) (schedule : DbSchedule) (crontab : Option Text) :
    addEntry paths schedule crontab = writtenText '\n' isTrimmed
      (stripFrom schedule.id false (lines crontab) ++ trailing schedule.id crontab ++
        buildManagedSystemCronEntry paths schedule) ++ ['\n'] := by
  unfold addEntry
  rw [stripManagedEntry_eq]
  rfl

end

/-! ## Written entries -/

section

variable {paths : CommandPaths} {schedule : DbSchedule}

lemma marker_head (scheduleId : Text) : (marker scheduleId).head? = some '#' := rfl

lemma commandLine_last : (commandLine paths schedule).getLast? = some '1' := by
  have ending front quoted :
      (front ++ ' ' :: (">> ".toList ++ quoted ++ " 2>&1".toList)).getLast? = some '1' := by
    rw [getLast?_append_cons, getLast?_cons, getLast?_append]
    rfl
  have command : ∃ front quoted, commandLine paths schedule =
      front ++ ' ' :: (">> ".toList ++ quoted ++ " 2>&1".toList) := by
    refine ⟨schedule.cronExpression ++ ' ' :: [' '].intercalate
      ["KNOWBEE_STATE_DIR=".toList ++ shellQuote paths.stateDir, shellQuote paths.nodePath,
        shellQuote paths.cliPath, "schedule".toList, "run".toList, shellQuote schedule.id],
      shellQuote paths.logsFile, ?_⟩
    unfold commandLine commandText
    simp
  obtain ⟨front, quoted, same⟩ := command
  rw [same, ending]

lemma lines_addEntry (crontab : Option Text) : lines (some (addEntry paths schedule crontab)) =
    ((writtenText '\n' isTrimmed (stripFrom schedule.id false (lines crontab) ++
      trailing schedule.id crontab ++
        buildManagedSystemCronEntry paths schedule)).splitOn '\n').map chop := by
  rw [addEntry_eq, lines_ended]

lemma lines_removeEntry (scheduleId : Text) (crontab : Option Text) :
    lines (some (removeEntry scheduleId crontab)) =
      ((writtenText '\n' isTrimmed (stripFrom scheduleId false (lines crontab))).splitOn '\n').map
        chop := by
  rw [removeEntry_eq, lines_ended]

lemma sum_occurrences_written {pattern : Text} (nonempty : pattern ≠ []) (single : '\n' ∉ pattern)
    (front : ∀ first ∈ pattern.head?, isTrimmed first = false)
    (back : ∀ last ∈ pattern.getLast?, isTrimmed last = false) (lines : List Text) :
    ((((writtenText '\n' isTrimmed lines).splitOn '\n').map chop).map (occurrences pattern)).sum =
      (lines.map (occurrences pattern)).sum := by
  have chopped : ((writtenText '\n' isTrimmed lines).splitOn '\n').map
      (occurrences pattern ∘ chop) =
        ((writtenText '\n' isTrimmed lines).splitOn '\n').map (occurrences pattern) :=
    map_congr_left fun line _ => occurrences_chop nonempty back line
  rw [map_map, chopped, ← occurrences_intercalate nonempty single, intercalate_splitOn]
  unfold writtenText
  rw [occurrences_trimmed nonempty front back, occurrences_intercalate nonempty single,
    sum_occurrences_collapsed]

lemma mentions_of_written {pattern : Text} (nonempty : pattern ≠ []) (single : '\n' ∉ pattern)
    {lines : List Text} {line : Text}
    (mem : line ∈ ((writtenText '\n' isTrimmed lines).splitOn '\n').map chop)
    (inside : pattern <:+: line) : ∃ line ∈ lines, pattern <:+: line := by
  obtain ⟨piece, mem', rfl⟩ := mem_map.mp mem
  have inPiece := inside.trans (chop_isPrefix piece).isInfix
  have inText : piece <:+: ['\n'].intercalate ((writtenText '\n' isTrimmed lines).splitOn '\n') :=
    infix_intercalate_of_mem mem'
  rw [intercalate_splitOn] at inText
  obtain ⟨source, mem'', inSource⟩ := infix_of_infix_intercalate nonempty single
    (inPiece.trans (inText.trans (trimmed_isInfix _)))
  exact ⟨source, (collapsed_sublist false lines).subset mem'', inSource⟩

lemma head_of_written {lines : List Text} {c : Char} (solid : isTrimmed c = false)
    {line : Text} (mem : line ∈ lines) (mem' : c ∈ line) :
    ∃ first rest, ((writtenText '\n' isTrimmed lines).splitOn '\n').map chop = first :: rest ∧
      ∃ d ∈ first.head?, isTrimmed d = false := by
  have other : '\n' ∉ [c] := by
    intro same
    cases mem_singleton.mp same
    cases solid
  have ends : ∀ d ∈ [c].head?, isTrimmed d = false := by
    rintro d ⟨⟩
    exact solid
  have some_ : writtenText '\n' isTrimmed lines ≠ [] := by
    intro empty
    have counts := sum_occurrences_written (cons_ne_nil c []) other ends ends lines
    have here : 0 < occurrences [c] line := by
      obtain ⟨front, back, rfl⟩ := append_of_mem mem'
      exact (occurrences_pos_iff (cons_ne_nil c [])).mpr ⟨front, back, by simp⟩
    have le := single_le_sum (fun _ _ => Nat.zero_le _) _
      (mem_map_of_mem mem : occurrences [c] line ∈ lines.map (occurrences [c]))
    rw [← counts, empty] at le
    simp [chop, occurrences] at le
    omega
  obtain ⟨d, rest, text⟩ := exists_cons_of_ne_nil some_
  have begins : isTrimmed d = false := by
    refine @head?_trimmed _ _ (['\n'].intercalate (collapsed false lines)) d ?_
    change d ∈ (writtenText '\n' isTrimmed lines).head?
    rw [text]
    rfl
  have notEnd : d ≠ '\n' := by
    rintro rfl
    cases begins
  have notReturn : d ≠ '\r' := by
    rintro rfl
    cases begins
  obtain ⟨line, more, pieces⟩ := splitOn_cons_of_ne notEnd rest
  refine ⟨chop (d :: line), more.map chop, ?_, d, chop_cons notReturn line, begins⟩
  rw [text, pieces, map_cons]

variable {crontab : Option Text}

lemma entry_block (command : '\n' ∉ commandLine paths schedule) {front : List Text}
    (solid : ∀ line ∈ front, line ≠ []) (single : ∀ line ∈ front, '\n' ∉ line) :
    (∀ line ∈ front ++ [commandLine paths schedule], '\n' ∉ line) ∧
      (∀ line ∈ front ++ [commandLine paths schedule], line ≠ []) ∧
      ∃ line ∈ (front ++ [commandLine paths schedule]).getLast?,
        ∃ c ∈ line.getLast?, isTrimmed c = false := by
  have ends := @commandLine_last paths schedule
  refine ⟨?_, ?_, commandLine paths schedule, getLast?_concat, '1', ends, rfl⟩
  · intro line mem
    rcases mem_append.mp mem with before | last
    · exact single line before
    · cases mem_singleton.mp last
      exact command
  · intro line mem
    rcases mem_append.mp mem with before | last
    · exact solid line before
    · cases mem_singleton.mp last
      intro empty
      rw [empty] at ends
      cases ends

lemma neat_append_entry (id : '\n' ∉ schedule.id) (command : '\n' ∉ commandLine paths schedule)
    {kept gap : List Text}
    (neat : Neat '\n' isTrimmed kept) (apart : gap = [] ∨ gap = [[]]) :
    Neat '\n' isTrimmed (kept ++ gap ++ buildManagedSystemCronEntry paths schedule) := by
  have solid : ∀ line ∈ [marker schedule.id], line ≠ [] := by
    rintro line mem
    cases mem_singleton.mp mem
    exact marker_ne_nil schedule.id
  have single : ∀ line ∈ [marker schedule.id], '\n' ∉ line := by
    rintro line mem
    cases mem_singleton.mp mem
    exact nl_notMem_marker id
  obtain ⟨single', solid', ends⟩ := entry_block command solid single
  exact neat.append_block apart single' solid' ends

lemma stripFrom_entry (scheduleId : Text) (command : Text) :
    stripFrom scheduleId false [marker scheduleId, command, []] =
      if isMarker scheduleId (marker scheduleId) = true ∨ marker scheduleId <:+: command then [[]]
      else [command, []] := by
  have own : marker scheduleId <:+: marker scheduleId := infix_rfl
  rw [stripFrom, if_neg Bool.false_ne_true]
  by_cases marks : isMarker scheduleId (marker scheduleId) = true
  · rw [if_pos (of_decide_eq_true marks), if_pos (.inl marks), stripFrom, if_pos rfl,
      stripFrom_empty]
    rfl
  · have unmarked : trim (marker scheduleId) ≠ marker scheduleId :=
      fun marked => marks (decide_eq_true marked)
    -- what is trimmed to the marker would have the marker trimmed
    have never : trim command ≠ marker scheduleId := by
      intro same
      refine unmarked ?_
      rw [← same]
      exact trimmed_trimmed command
    rw [if_neg unmarked, if_pos own, stripFrom, if_neg Bool.false_ne_true, if_neg never]
    by_cases mentions : marker scheduleId <:+: command
    · rw [if_pos mentions, if_pos (.inr mentions), stripFrom_empty]
      rfl
    · rw [if_neg mentions, if_neg (not_or.mpr ⟨marks, mentions⟩), stripFrom_empty]
      rfl

lemma readCurrentCrontab_written {lines : List Text} (neat : Neat '\n' isTrimmed lines)
    (chopped : lines.map chop = lines) :
    readCurrentCrontab (some (writtenText '\n' isTrimmed lines ++ ['\n'])) = lines ++ [[]] := by
  unfold readCurrentCrontab
  dsimp only
  rw [splitLines_ended, neat.writtenText_eq, splitOn_intercalate _ neat.single neat.nonempty,
    chopped]

lemma stripManagedEntry_append {scheduleId : Text} {kept : List Text}
    (clean : ∀ line ∈ kept, ¬marker scheduleId <:+: line) (rest : List Text) :
    stripManagedEntry (kept ++ rest) scheduleId = kept ++ stripManagedEntry rest scheduleId := by
  obtain ⟨same, ends⟩ := stripFrom_eq_self clean
  unfold stripManagedEntry
  rw [stripFrom_append, same, ends]

lemma clean_append_gap {scheduleId : Text} {kept gap : List Text}
    (clean : ∀ line ∈ kept, ¬marker scheduleId <:+: line) (apart : gap = [] ∨ gap = [[]]) :
    ∀ line ∈ kept ++ gap, ¬marker scheduleId <:+: line := by
  intro line mem
  rcases mem_append.mp mem with old | middle
  · exact clean line old
  · rcases apart with rfl | rfl
    · cases middle
    · cases mem_singleton.mp middle
      rw [infix_nil]
      exact marker_ne_nil scheduleId

lemma map_chop_entry {kept gap : List Text} (chopped : kept.map chop = kept)
    (apart : gap = [] ∨ gap = [[]]) (id : chop (marker schedule.id) = marker schedule.id) :
    (kept ++ gap ++ buildManagedSystemCronEntry paths schedule).map chop =
      kept ++ gap ++ buildManagedSystemCronEntry paths schedule := by
  have command : chop (commandLine paths schedule) = commandLine paths schedule := by
    unfold chop
    rw [commandLine_last, if_neg (by decide)]
  have gap' : gap.map chop = gap := by
    rcases apart with rfl | rfl <;> rfl
  unfold buildManagedSystemCronEntry
  rw [map_append, map_append, chopped, gap', map_cons, map_cons, map_nil,
    id, command]

lemma addEntry_written {kept gap : List Text} (neat : Neat '\n' isTrimmed kept)
    (chopped : kept.map chop = kept) (clean : ∀ line ∈ kept, ¬marker schedule.id <:+: line)
    (apart : gap = [] ∨ gap = [[]]) (single : '\n' ∉ schedule.id)
    (command : '\n' ∉ commandLine paths schedule)
    (id : chop (marker schedule.id) = marker schedule.id) :
    stripManagedEntry (readCurrentCrontab (some (writtenText '\n' isTrimmed
      (kept ++ gap ++ buildManagedSystemCronEntry paths schedule) ++ ['\n']))) schedule.id =
        kept ++ gap ++ stripFrom schedule.id false
          [marker schedule.id, commandLine paths schedule, []] := by
  rw [readCurrentCrontab_written (neat_append_entry single command neat apart)
    (map_chop_entry chopped apart id), append_assoc,
    stripManagedEntry_append (clean_append_gap clean apart)]
  rfl

/-- **Clean edits touch only the entry.** -/
lemma EditsCleanly.touchesOnlyEntry (cleanly : EditsCleanly paths schedule crontab) :
    TouchesOnlyEntry paths schedule crontab := by
  obtain ⟨ended, tidy, neat, chopped, entry⟩ := cleanly
  obtain ⟨left, skipped, clean⟩ := stripFrom_of_tidyFrom tidy
  change stripFrom schedule.id false (lines crontab) = others schedule.id crontab at left
  change ∀ line ∈ others schedule.id crontab, ¬marker schedule.id <:+: line at clean
  have gap : trailing schedule.id crontab = [[]] := if_pos ⟨ended, skipped⟩
  have id : chop (marker schedule.id) = marker schedule.id := by
    unfold chop
    rw [if_neg]
    intro ends
    unfold marker at ends
    rw [getLast?_append] at ends
    cases last : schedule.id.getLast? with
    | none =>
      rw [last] at ends
      cases ends
    | some c =>
      rw [last, Option.some_or] at ends
      exact entry.id.2 (last.trans ends)
  have added : addEntry paths schedule crontab = writtenText '\n' isTrimmed
      (others schedule.id crontab ++ [[]] ++ buildManagedSystemCronEntry paths schedule) ++ ['\n'] := by
    rw [addEntry_eq, left, gap]
  have removed : removeEntry schedule.id crontab =
      writtenText '\n' isTrimmed (others schedule.id crontab) ++ ['\n'] := by
    rw [removeEntry_eq, left]
  have again := addEntry_written neat chopped clean (.inr rfl) entry.id.1 entry.command id
  rw [stripFrom_entry, if_pos entry.marked] at again
  have readRemoved := readCurrentCrontab_written neat chopped
  refine ⟨⟨[[]], .inr rfl, ?_⟩, ?_, ?_, ?_, fun whole => ?_⟩
  · have neat' := neat_append_entry entry.id.1 entry.command neat (.inr rfl)
    rw [added, lines_ended, neat'.writtenText_eq,
      splitOn_intercalate _ neat'.single neat'.nonempty, map_chop_entry chopped (.inr rfl) id]
  · rw [removed, lines_ended, neat.writtenText_eq,
      splitOn_intercalate _ neat.single neat.nonempty, chopped]
  · have twice := @writtenText_append_twice Char '\n' isTrimmed
      (others schedule.id crontab) (buildManagedSystemCronEntry paths schedule)
    rw [added]
    unfold addEntry
    rw [again, crontabContent_eq, twice]
  · rw [removed]
    unfold removeEntry
    rw [readRemoved, stripManagedEntry_append clean, crontabContent_eq]
    have empty : stripManagedEntry [[]] schedule.id = [[]] := stripFrom_empty schedule.id false
    rw [empty, writtenText_concat_nil rfl]
  · rw [added]
    unfold removeEntry
    rw [again, crontabContent_eq, lines_ended, writtenText_concat_nil rfl, writtenText_concat_nil rfl,
      neat.writtenText_eq, splitOn_intercalate _ neat.single neat.nonempty, chopped, whole]

lemma TouchesOnlyEntry.front (touches : TouchesOnlyEntry paths schedule crontab) :
    '\n' ∉ schedule.id ∧ '\n' ∉ commandLine paths schedule ∧
      ∃ line ∈ (others schedule.id crontab).head?, ∃ c ∈ line.head?, isTrimmed c = false := by
  obtain ⟨gap, apart, added⟩ := touches.adding
  have removed := touches.removing
  have single line (mem : line ∈ buildManagedSystemCronEntry paths schedule) :
      '\n' ∉ line := by
    have mem' : line ∈ lines (some (addEntry paths schedule crontab)) := by
      rw [added]
      exact mem_append_right _ mem
    exact single_of_mem_lines mem'
  refine ⟨?_, single _ (mem_cons_of_mem _ mem_cons_self), ?_⟩
  · exact fun mem => single _ mem_cons_self (mem_append_right _ mem)
  · rw [lines_addEntry] at added
    rw [lines_removeEntry] at removed
    obtain ⟨first, rest, written, solid⟩ := @head_of_written
      (stripFrom schedule.id false (lines crontab) ++ trailing schedule.id crontab ++
        buildManagedSystemCronEntry paths schedule) '#' rfl (marker schedule.id)
      (mem_append_right _ mem_cons_self) (mem_of_mem_head? (marker_head schedule.id))
    rw [written] at added
    cases kept : others schedule.id crontab with
    | nil =>
      rw [kept, map_eq_nil_iff] at removed
      exact absurd removed (splitOn_ne_nil _ _)
    | cons line more =>
      rw [kept, cons_append, cons_append] at added
      obtain ⟨rfl, -⟩ := List.cons.inj added
      exact ⟨first, rfl, solid⟩

/-- **Where edits touch only the entry**, the lines of others are left and written as they
are. -/
lemma TouchesOnlyEntry.left (touches : TouchesOnlyEntry paths schedule crontab) :
    stripFrom schedule.id false (lines crontab) = others schedule.id crontab ∧
      Neat '\n' isTrimmed (others schedule.id crontab) ∧
      (others schedule.id crontab).map chop = others schedule.id crontab ∧
      (∀ line ∈ others schedule.id crontab, ¬marker schedule.id <:+: line) ∧
      (skipsAfter schedule.id false (lines crontab) = false →
        TidyFrom schedule.id false false (lines crontab)) := by
  obtain ⟨singleId, -, front⟩ := touches.front
  have removed := touches.removing
  rw [lines_removeEntry] at removed
  have clean : ∀ line ∈ others schedule.id crontab, ¬marker schedule.id <:+: line := by
    intro line mem inside
    rw [← removed] at mem
    obtain ⟨source, mem', inSource⟩ := mentions_of_written (marker_ne_nil schedule.id)
      (nl_notMem_marker singleId) mem inside
    exact not_mentions_of_mem_stripFrom mem' inSource
  have counts : commandCount schedule.id (stripFrom schedule.id false (lines crontab)) =
      commandCount schedule.id (others schedule.id crontab) := by
    have same := sum_occurrences_written (runText_ne_nil schedule.id) (nl_notMem_runText singleId)
      runText_head runText_last (stripFrom schedule.id false (lines crontab))
    rw [removed] at same
    exact same.symm
  have single line (mem : line ∈ stripFrom schedule.id false (lines crontab)) :
      '\n' ∉ line := single_of_mem_lines ((stripFrom_sublist false _).subset mem)
  have nonempty : stripFrom schedule.id false (lines crontab) ≠ [] := by
    intro empty
    rw [empty] at removed
    obtain ⟨line, mem, c, begins, -⟩ := front
    rw [← removed] at mem
    cases mem
    cases begins
  have long : (others schedule.id crontab).length ≤
      (stripFrom schedule.id false (lines crontab)).length := by
    rw [← removed, length_map]
    exact length_writtenText_le single nonempty
  obtain ⟨same, tidy⟩ := (@stripFrom_othersFrom schedule.id false false _ nofun clean).2 counts long
  rw [same] at single removed nonempty
  obtain ⟨written, spaced, chopped⟩ := writtenText_eq_of_read
    (fun line => (chop_isPrefix line).length_le) single nonempty removed
  exact ⟨same, neat_of_written rfl single spaced front written, chopped, clean, tidy⟩

/-- **Edits touch only the entry exactly if they are clean.** -/
theorem touches_only_entry_iff (paths : CommandPaths) (schedule : DbSchedule)
    (crontab : Option Text) :
    TouchesOnlyEntry paths schedule crontab ↔ EditsCleanly paths schedule crontab := by
  refine ⟨fun touches => ?_, EditsCleanly.touchesOnlyEntry⟩
  obtain ⟨singleId, singleCommand, -⟩ := touches.front
  obtain ⟨left, neat, chopped, clean, tidy⟩ := touches.left
  have apart := trailing_cases schedule.id crontab
  have neat' := @neat_append_entry paths schedule singleId singleCommand _ _ neat apart
  have id : chop (marker schedule.id) = marker schedule.id := by
    obtain ⟨gap, -, added⟩ := touches.adding
    rw [lines_addEntry, left, neat'.writtenText_eq,
      splitOn_intercalate _ neat'.single neat'.nonempty, map_append] at added
    have same := (append_inj' added rfl).2
    exact (List.cons.inj same).1
  -- a second edit finds the first one's entry
  have twice := touches.addingTwice
  have again := @addEntry_written paths schedule _ _ neat chopped clean apart singleId singleCommand id
  rw [addEntry_eq paths schedule crontab, left] at twice
  unfold addEntry at twice
  rw [again, crontabContent_eq, append_cancel_right_eq, stripFrom_entry] at twice
  have marked : isMarker schedule.id (marker schedule.id) = true ∨
      marker schedule.id <:+: commandLine paths schedule := by
    by_contra unmarked
    rw [if_neg unmarked] at twice
    obtain ⟨single, solid, ends⟩ := @entry_block paths schedule singleCommand [] nofun nofun
    have longer := @neat_append_entry paths schedule singleId singleCommand _ _
      (neat.append_block apart single solid ends) (.inr rfl)
    have same := longer.eq_of_writtenText_eq neat' ?_
    · have lengths := congrArg List.length same
      simp only [length_append, length_cons, length_nil] at lengths
      omega
    · refine (congrArg (writtenText '\n' isTrimmed) ?_).trans twice
      simp
  rw [if_pos marked] at twice
  have gap : trailing schedule.id crontab = [[]] := by
    refine apart.resolve_left fun none_ => ?_
    rw [none_, append_nil] at twice
    have longer := @neat_append_entry paths schedule singleId singleCommand _ _ neat (.inr rfl)
    rw [none_, append_nil] at neat'
    have lengths := congrArg List.length (longer.eq_of_writtenText_eq neat' twice)
    simp only [length_append, length_cons, length_nil] at lengths
    omega
  have ended : (readCurrentCrontab crontab).getLast? = some [] ∧
      skipsAfter schedule.id false (lines crontab) = false := by
    by_contra open_
    unfold trailing at gap
    rw [if_neg open_] at gap
    cases gap
  refine ⟨ended.1, tidy ended.2, neat, chopped, ⟨singleId, fun ends => ?_⟩, singleCommand, marked⟩
  have ends' : (marker schedule.id).getLast? = some '\r' := by
    unfold marker
    rw [getLast?_append, ends]
    rfl
  unfold chop at id
  rw [if_pos ends'] at id
  have lengths := congrArg List.length id
  have positive := length_pos_iff.mpr (marker_ne_nil schedule.id)
  rw [length_dropLast] at lengths
  omega

end

def samplePaths : CommandPaths :=
  ⟨"/usr/bin/node".toList, "/opt/cli.js".toList, "/var/state".toList, "/var/cron.log".toList⟩

/-- The crontab of a schedule whose id begins with another's. -/
def longerIdCrontab : Option Text :=
  some "# knowbee-schedule:job-12\n0 7 * * * 'node' 'cli' schedule run 'job-12'\n".toList

/-- Removing a schedule drops the marker of one whose id begins with its own. -/
theorem longer_id_unmarked :
    lines (some (removeEntry "job-1".toList longerIdCrontab)) =
        ["0 7 * * * 'node' 'cli' schedule run 'job-12'".toList] ∧
      others "job-1".toList longerIdCrontab = lines longerIdCrontab ∧
      ¬TouchesOnlyEntry samplePaths ⟨"job-1".toList, "0 9 * * *".toList⟩ longerIdCrontab := by
  have removed : lines (some (removeEntry "job-1".toList longerIdCrontab)) =
      ["0 7 * * * 'node' 'cli' schedule run 'job-12'".toList] := by decide +kernel
  have kept : others "job-1".toList longerIdCrontab = lines longerIdCrontab := by decide +kernel
  refine ⟨removed, kept, fun touches => ?_⟩
  have same := touches.removing
  rw [removed, kept] at same
  exact absurd (congrArg List.length same) (by decide +kernel)

end Knowbee.Crontab
