import Knowbee.Memory.Compaction

/-!
# Tool calls in the window that a compaction leaves

The window keeps a tail of the messages, cut by their number.  The cut leaves
the calls and results of the tail well paired exactly when nothing is pending
in the messages it drops.
-/

namespace Knowbee.Memory

open Lib List Pairing

variable (messages : List Message)

def toolPairings : List (Pairing Text) := messages.flatMap Message.pairings

lemma toolPairings_append (front back : List Message) :
    toolPairings (front ++ back) = toolPairings front ++ toolPairings back :=
  flatMap_append

/-- A closing takes the first call of its id away, however ids are compared. -/
lemma erase_eq (pending : List Text) (id : Text) :
    @List.erase Text instBEqOfDecidableEq pending id = pending.erase id := by
  rw [@lawful_beq_subsingleton Text instBEqOfDecidableEq instBEq]

lemma foldl_settleBlock (pending : List Text) (blocks : List MessageContent) :
    blocks.foldl settleBlock pending =
      Pairing.pending pending (blocks.filterMap MessageContent.pairing?) := by
  induction blocks generalizing pending with
  | nil => rfl
  | cons block rest ih =>
    cases block with
    | text text => exact ih pending
    | toolUse id name input => exact ih (pending ++ [id])
    | toolResult toolUseId content =>
      have settled := ih (pending.erase toolUseId)
      rw [← erase_eq] at settled
      rw [foldl_cons, settleBlock, ← erase_eq]
      exact settled

lemma settleMessage_eq (pending : List Text) (message : Message) :
    settleMessage pending message = Pairing.pending pending message.pairings := by
  unfold settleMessage Message.pairings
  cases message.content with
  | text value => rfl
  | blocks blocks => exact foldl_settleBlock pending blocks

lemma foldl_settleMessage (pending : List Text) (messages : List Message) :
    messages.foldl settleMessage pending = Pairing.pending pending (toolPairings messages) := by
  induction messages generalizing pending with
  | nil => rfl
  | cons message rest ih =>
    rw [foldl_cons, ih, settleMessage_eq, ← Pairing.pending_append]
    rfl

lemma hasBalancedToolUsePairs_iff :
    hasBalancedToolUsePairs messages = true ↔ Pairing.pending [] (toolPairings messages) = [] := by
  rw [hasBalancedToolUsePairs, foldl_settleMessage, decide_eq_true_eq]

lemma JsNumber.zero_eq : (0 : JsNumber) = .finite 0 := congrArg JsNumber.finite Nat.cast_zero

lemma max_zero_finite (value : ℚ) : JsNumber.max 0 (.finite value) = .finite (max 0 value) := by
  rw [JsNumber.zero_eq]
  simp only [JsNumber.max, JsNumber.lt, decide_eq_true_eq]
  split_ifs with positive
  · rw [max_eq_right positive.le]
  · rw [max_eq_left (not_lt.mp positive)]

lemma max_zero_floor (value : ℚ) : (max 0 (value.floor : ℚ)) = (value.floor.toNat : ℚ) := by
  rcases le_total 0 value.floor with positive | negative
  · have eq : ((value.floor.toNat : Int) : ℚ) = value.floor := by
      rw [Int.toNat_of_nonneg positive]
    rw [max_eq_right (by exact_mod_cast positive)]
    exact eq.symm
  · rw [Int.toNat_of_nonpos negative, max_eq_left (by exact_mod_cast negative), Nat.cast_zero]

variable (preferredTailSize : Option JsNumber)

lemma tailSize_cases (length : Nat) : tailSize preferredTailSize length = .nan ∨
      ∃ count : Nat, tailSize preferredTailSize length = .ofNat count ∧ count ≤ length ∧
        (JsNumber.max 0 (preferredTailSize.getD rootSessionCompactionDefaultTailSize)).lt
          (.ofNat count) = false := by
  unfold tailSize
  cases preferredTailSize.getD rootSessionCompactionDefaultTailSize with
  | nan => exact .inl rfl
  | negInfinity =>
    refine .inr ⟨0, ?_, Nat.zero_le _, rfl⟩
    have least : JsNumber.max 0 (JsNumber.floor .negInfinity) = .ofNat 0 := rfl
    rw [least]
    simp [mathMin, JsNumber.ofNat, JsNumber.lt]
  | infinity => exact .inr ⟨length, rfl, Nat.le_refl _, rfl⟩
  | finite value =>
    refine .inr ⟨min value.floor.toNat length, ?_, Nat.min_le_right _ _, ?_⟩
    · rw [JsNumber.floor, max_zero_finite, max_zero_floor]
      simp only [mathMin, JsNumber.ofNat, JsNumber.lt, decide_eq_true_eq, Nat.cast_lt]
      split_ifs with short
      · rw [Nat.min_eq_right short.le]
      · rw [Nat.min_eq_left (not_lt.mp short)]
    · rw [max_zero_finite]
      have least : ((min value.floor.toNat length : Nat) : ℚ) ≤ (value.floor.toNat : ℚ) := by
        exact_mod_cast Nat.min_le_left _ _
      have bound : ((min value.floor.toNat length : Nat) : ℚ) ≤ max 0 value := by
        rw [← max_zero_floor] at least
        exact least.trans (max_le_max_left 0 (Rat.floor_le value))
      simpa only [JsNumber.lt, JsNumber.ofNat, decide_eq_false_iff_not, not_lt] using bound

lemma tailCount_cases (length : Nat) :
    ∃ count : Nat, tailCount preferredTailSize length = count ∧ count ≤ length ∧
      ((0 : JsNumber).lt (tailSize preferredTailSize length) = true ↔ 0 < count) ∧
      (JsNumber.max 0 (preferredTailSize.getD rootSessionCompactionDefaultTailSize)).lt
        (.ofNat count) = false := by
  unfold tailCount
  rcases tailSize_cases preferredTailSize length with unknown | ⟨count, size, le, short⟩
  · rw [unknown]
    refine ⟨0, rfl, Nat.zero_le _, ?_, JsNumber.not_max_lt _ _⟩
    simp [JsNumber.lt]
  · rw [size]
    refine ⟨count, ?_, le, ?_, short⟩
    · exact congrArg Int.toNat (Rat.floor_intCast count)
    · rw [JsNumber.zero_eq]
      simp [JsNumber.lt, JsNumber.ofNat]

lemma windowTail_eq : windowTail messages preferredTailSize =
      messages.drop (messages.length - tailCount preferredTailSize messages.length) := by
  unfold windowTail
  obtain ⟨count, eq, -, positive, -⟩ := tailCount_cases preferredTailSize messages.length
  split_ifs with some
  · rfl
  · have none : count = 0 := by
      have zero := mt positive.mpr some
      omega
    rw [eq, none, Nat.sub_zero, drop_length]

lemma length_windowTail :
    (JsNumber.max 0 (preferredTailSize.getD rootSessionCompactionDefaultTailSize)).lt
      (.ofNat (windowTail messages preferredTailSize).length) = false := by
  obtain ⟨count, eq, le, -, short⟩ := tailCount_cases preferredTailSize messages.length
  rw [windowTail_eq, length_drop, eq, Nat.sub_sub_self le]
  exact short

/-- A window that a model provider takes: its calls and results are paired, and
behind at most three rendered blocks stands a tail of the messages that is no
longer than asked for. -/
structure WellFormedWindow (messages : List Message) (preferredTailSize : Option JsNumber)
    (window : List Message) : Prop where
  paired : WellPaired (toolPairings window)
  tail : ∃ blocks tail : List Message, window = blocks ++ tail ∧ blocks.length ≤ 3 ∧
    toolPairings blocks = [] ∧ tail <:+ messages ∧
    (JsNumber.max 0 (preferredTailSize.getD rootSessionCompactionDefaultTailSize)).lt
      (.ofNat tail.length) = false

lemma rewriteRootSessionActiveWindow_split (capsule : MemoryCapsule)
    (pinned : RootSessionPinnedWorkingSet) (rewriting : Rewriting) :
    ∃ blocks, rewriteRootSessionActiveWindow messages capsule pinned rewriting =
      blocks ++ windowTail messages rewriting.preferredTailSize ∧
        blocks.length ≤ 3 ∧ toolPairings blocks = [] := by
  unfold rewriteRootSessionActiveWindow
  refine ⟨_, rfl, ?_, ?_⟩
  · cases rewriting.promptTimeRecallBlock with
    | none => exact Nat.le_succ 2
    | some block => by_cases empty : block = [] <;> simp [recallMessages, empty]
  · cases rewriting.promptTimeRecallBlock with
    | none => rfl
    | some block =>
      by_cases empty : block = [] <;>
        simp [recallMessages, empty, toolPairings, Message.pairings]

lemma toolPairings_rewrite (capsule : MemoryCapsule) (pinned : RootSessionPinnedWorkingSet)
    (rewriting : Rewriting) :
    toolPairings (rewriteRootSessionActiveWindow messages capsule pinned rewriting) =
      toolPairings (windowTail messages rewriting.preferredTailSize) := by
  obtain ⟨blocks, window, -, plain⟩ :=
    rewriteRootSessionActiveWindow_split messages capsule pinned rewriting
  rw [window, toolPairings_append, plain, nil_append]

/-- **The window of well paired messages is well formed exactly when the code's
own check finds the messages that the cut drops balanced.** -/
theorem rewriteRootSessionActiveWindow_wellFormed_iff (messages : List Message)
    (capsule : MemoryCapsule) (pinned : RootSessionPinnedWorkingSet) (rewriting : Rewriting)
    (balanced : WellPaired (toolPairings messages)) :
    WellFormedWindow messages rewriting.preferredTailSize
        (rewriteRootSessionActiveWindow messages capsule pinned rewriting) ↔
      hasBalancedToolUsePairs (messages.take
        (messages.length - tailCount rewriting.preferredTailSize messages.length)) = true := by
  obtain ⟨blocks, window, few, plain⟩ :=
    rewriteRootSessionActiveWindow_split messages capsule pinned rewriting
  have cut := take_append_drop
    (messages.length - tailCount rewriting.preferredTailSize messages.length) messages
  have whole : WellPaired (toolPairings (messages.take
      (messages.length - tailCount rewriting.preferredTailSize messages.length)) ++
      toolPairings (windowTail messages rewriting.preferredTailSize)) := by
    rw [windowTail_eq, ← toolPairings_append, cut]
    exact balanced
  rw [hasBalancedToolUsePairs_iff, ← whole.back_iff,
    ← toolPairings_rewrite messages capsule pinned rewriting]
  constructor
  · exact fun formed => formed.paired
  · intro paired
    refine ⟨paired, blocks, _, window, few, plain, ?_, length_windowTail _ _⟩
    rw [windowTail_eq]
    exact drop_suffix _ _

def callAndResult : List Message :=
  [⟨.assistant, .blocks [.toolUse (units "1") (units "list") (units "{}")]⟩,
    ⟨.user, .blocks [.toolResult (units "1") (units "done")]⟩]

lemma callAndResult_paired : WellPaired (toolPairings callAndResult) :=
  wellPaired_pair (units "1")

/-- A window that keeps both messages. -/
theorem callAndResult_kept :
    WellFormedWindow callAndResult (some 2) (rewriteRootSessionActiveWindow callAndResult
      ⟨units "listed", [], [], [], [], [], [], []⟩ ⟨[], [], [], [], [], [], []⟩
      ⟨some 2, none, none⟩) :=
  (rewriteRootSessionActiveWindow_wellFormed_iff callAndResult _ _ ⟨some 2, none, none⟩
    callAndResult_paired).mpr (by decide)

/-- A tail of one message begins with a result without its call. -/
theorem callAndResult_cut : WellPaired (toolPairings callAndResult) ∧
    ¬WellFormedWindow callAndResult (some 1) (rewriteRootSessionActiveWindow callAndResult
      ⟨units "listed", [], [], [], [], [], [], []⟩ ⟨[], [], [], [], [], [], []⟩
      ⟨some 1, none, none⟩) := by
  refine ⟨callAndResult_paired, fun formed => ?_⟩
  have answered := formed.paired.answered (units "1")
  rw [toolPairings_rewrite] at answered
  exact absurd answered (by decide)

end Knowbee.Memory
