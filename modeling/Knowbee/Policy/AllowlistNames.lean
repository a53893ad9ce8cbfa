import Knowbee.Policy.CapabilitySound

/-!
# Names that allowlists tell apart

A list knows a name by its normal form, in which all but the characters of a token is
one underscore, and the registered name of a tool is split at the first underscores that
separate (`allowlist_names_exact`).
-/

namespace Knowbee

open List AgentCapabilityPolicyInput

lemma tokenLower_ne_nil (c : Char) : tokenLower c ≠ [] := by
  unfold tokenLower
  split_ifs <;> exact cons_ne_nil _ _

lemma replaceOthers_eq_nil {text : List Char} : replaceOthers false text = [] ↔ text = [] := by
  cases text with
  | nil => exact iff_of_true rfl rfl
  | cons c rest =>
    refine iff_of_false (fun none => ?_) (cons_ne_nil _ _)
    simp only [replaceOthers, Bool.false_eq_true, if_false] at none
    split_ifs at none

lemma normalizeToken_eq_empty {name : String} : normalizeToken name = "" ↔ jsTrim name = "" := by
  rw [normalizeToken, String.ofList_eq_empty_iff, replaceOthers_eq_nil, flatMap_eq_nil_iff]
  constructor
  · intro none
    cases chars : (jsTrim name).toList with
    | nil => exact String.toList_injective chars
    | cons c rest => exact absurd (none c (chars ▸ mem_cons_self)) (tokenLower_ne_nil c)
  · intro blank
    simp [blank]

lemma lists_none {values : List String} :
    (∀ name, ¬Lists values name) ↔ ∀ value ∈ values, jsTrim value = "" := by
  constructor
  · intro none value member
    by_contra named
    exact none _ ⟨fun blank => named (normalizeToken_eq_empty.mp blank), value, member, rfl⟩
  · rintro blank _ ⟨named, value, member, rfl⟩
    exact named (normalizeToken_eq_empty.mpr (blank value member))

lemma isMcpServerAllowed_iff {serverId : String} {allowlist : SkillMcpAllowlist} :
    isMcpServerAllowed serverId allowlist = true ↔
      (∀ value ∈ allowlist.enabledMcpServerIds, jsTrim value = "") ∨
        Lists allowlist.enabledMcpServerIds (normalizeToken serverId) := by
  rw [← lists_none]
  unfold isMcpServerAllowed normalizeSkillMcpAllowlist
  dsimp only
  split_ifs with none
  · exact iff_of_true rfl (.inl fun name listed =>
      makeSet_eq_nil.mp none name (lists_normalized.mpr listed))
  · rw [decide_eq_true_iff, mem_makeSet_normalized, or_iff_right]
    exact fun empty => none (makeSet_eq_nil.mpr fun name listed =>
      empty name (lists_normalized.mp listed))

lemma isToolAllowed_iff {toolName : String} {allowlist : SkillMcpAllowlist}
    {mcpTool : Option McpRegisteredToolRef} :
    isToolAllowedBySkillMcpAllowlist toolName allowlist mcpTool = true ↔
      (∀ name ∈ toolNames toolName mcpTool, ¬Lists allowlist.disabledToolNames name) ∧
      ((∀ value ∈ allowlist.enabledToolNames, jsTrim value = "") ∨
        ∃ name ∈ toolNames toolName mcpTool, Lists allowlist.enabledToolNames name) := by
  rw [← lists_none]
  unfold isToolAllowedBySkillMcpAllowlist normalizeSkillMcpAllowlist
  dsimp only
  split_ifs with disabled none
  · obtain ⟨name, named, off⟩ := any_eq_true.mp disabled
    exact iff_of_false not_false fun allowed =>
      allowed.1 name named (mem_makeSet_normalized.mp (of_decide_eq_true off))
  all_goals
    have enabled : ∀ name ∈ toolNames toolName mcpTool,
        ¬Lists allowlist.disabledToolNames name := fun name named off =>
      disabled (any_eq_true.mpr ⟨name, named, decide_eq_true (mem_makeSet_normalized.mpr off)⟩)
  · exact iff_of_true rfl ⟨enabled, .inl fun name listed =>
      makeSet_eq_nil.mp none name (lists_normalized.mpr listed)⟩
  · rw [and_iff_right enabled, or_iff_right, any_eq_true]
    · simp [mem_makeSet_normalized]
    · exact fun empty => none (makeSet_eq_nil.mpr fun name listed =>
        empty name (lists_normalized.mp listed))

/-- A part before a separator: no separator begins inside it. -/
def Unsplit (part : List Char) : Prop := ¬['_', '_'] <:+: part ++ ['_']

variable {part next text : List Char} {more : List (List Char)}

attribute [local simp] splitUnderscores

lemma splitUnderscores_append (unsplit : Unsplit part) (rest : List Char) :
    splitUnderscores (part ++ '_' :: '_' :: rest) = part :: splitUnderscores rest := by
  induction part with
  | nil => rfl
  | cons c tail ih =>
    have later : Unsplit tail := fun inside => unsplit (infix_cons_iff.mpr (.inr inside))
    rw [cons_append, splitUnderscores.eq_2, ih later]
    · rfl
    · rintro after rfl begins
      cases tail with
      | nil => exact unsplit infix_rfl
      | cons d tail =>
        obtain ⟨rfl, -⟩ := cons.inj begins
        exact unsplit ⟨[], tail ++ ['_'], rfl⟩

/-- The first part ends where the first separator begins. -/
lemma unsplit_of_splitUnderscores (split : splitUnderscores text = part :: next :: more) :
    Unsplit part ∧ ∃ rest, text = part ++ '_' :: '_' :: rest ∧
      splitUnderscores rest = next :: more := by
  fun_induction splitUnderscores text generalizing part with
  | case1 rest =>
    obtain ⟨rfl, rest_split⟩ := cons.inj split
    exact ⟨fun inside => absurd inside.length_le (by decide), rest, rfl, rest_split⟩
  | case2 c rest first ih =>
    cases parts : splitUnderscores rest with
    | nil => simp [parts] at split
    | cons head others =>
      rw [parts, modifyHead_cons] at split
      obtain ⟨rfl, rfl⟩ := cons.inj split
      obtain ⟨unsplit, left, rfl, left_split⟩ := ih parts
      refine ⟨fun inside => ?_, left, rfl, left_split⟩
      rcases infix_cons_iff.mp inside with begins | later
      · obtain ⟨rfl, again⟩ := cons_prefix_cons.mp begins
        cases head with
        | nil => exact first _ rfl rfl
        | cons d head =>
          have same : '_' = d := (cons_prefix_cons.mp again).1
          exact first _ rfl (by rw [← same]; rfl)
      · exact unsplit later
  | case3 => simp at split

lemma splitUnderscores_ne_nil (text : List Char) : splitUnderscores text ≠ [] := by
  fun_induction splitUnderscores text with
  | case1 => exact cons_ne_nil _ _
  | case2 c rest _ ih => simpa using ih
  | case3 => exact cons_ne_nil _ _

lemma intercalate_splitUnderscores (text : List Char) :
    ['_', '_'].intercalate (splitUnderscores text) = text := by
  fun_induction splitUnderscores text with
  | case1 rest ih =>
    rw [intercalate_cons_of_ne_nil (splitUnderscores_ne_nil rest), ih]
    rfl
  | case2 c rest _ ih =>
    cases parts : splitUnderscores rest with
    | nil => exact absurd parts (splitUnderscores_ne_nil rest)
    | cons head others =>
      rw [parts] at ih
      rw [modifyHead_cons, intercalate_cons_cons_left, ih]
  | case3 => rfl

def registeredName (serverId toolName : String) : String :=
  "mcp__" ++ serverId ++ "__" ++ toolName

lemma splitUnderscores_registered (serverId toolName : String) :
    splitUnderscores (registeredName serverId toolName).toList = ['m', 'c', 'p'] ::
      splitUnderscores (serverId.toList ++ '_' :: '_' :: toolName.toList) := by
  have prefixed : Unsplit ['m', 'c', 'p'] := by
    unfold Unsplit
    decide
  rw [← splitUnderscores_append prefixed]
  simp [registeredName]

lemma nonEmpty_eq_some {value name : String} :
    nonEmpty (some value) = some name ↔ jsTrim value = name ∧ name ≠ "" := by
  rw [nonEmpty, Option.bind_some]
  split_ifs with blank
  · exact iff_of_false nofun fun ⟨same, named⟩ => named (same.symm.trans blank)
  · rw [Option.some.injEq]
    exact (and_iff_left_of_imp fun same => same ▸ blank).symm

lemma jsTrim_length_le (value : String) : (jsTrim value).toList.length ≤ value.toList.length := by
  rw [jsTrim_eq, String.toList_ofList]
  exact ( rdropWhile_prefix _ _).length_le.trans (dropWhile_suffix _).length_le

/-- A registered name is read as what it was made of where both are trimmed and no
separator begins in the id of the server. -/
lemma parse_registered {serverId toolName : String} :
    parseMcpRegisteredToolName (registeredName serverId toolName) =
        some ⟨registeredName serverId toolName, serverId, toolName⟩ ↔
      (jsTrim serverId = serverId ∧ serverId ≠ "") ∧ (jsTrim toolName = toolName ∧ toolName ≠ "") ∧
        Unsplit serverId.toList := by
  have registered : startsWith (registeredName serverId toolName) "mcp__" = true := by
    simp [startsWith, registeredName]
  unfold parseMcpRegisteredToolName
  rw [registered, splitUnderscores_registered]
  constructor
  · intro parsed
    generalize split : splitUnderscores (serverId.toList ++ '_' :: '_' :: toolName.toList) = parts
      at parsed
    match parts with
    | [] => simp at parsed
    | [part] => simp at parsed
    | part :: next :: more =>
      obtain ⟨unsplit, rest, same, rest_split⟩ := unsplit_of_splitUnderscores split
      have joined := intercalate_splitUnderscores rest
      rw [rest_split] at joined
      simp [joined, Option.bind_eq_some_iff, nonEmpty_eq_some] at parsed
      obtain ⟨⟨server, serverNamed⟩, tool, toolNamed⟩ := parsed
      -- What is read is no longer than what is split, so nothing was trimmed away.
      have shorter := jsTrim_length_le (String.ofList part)
      have shorter' := jsTrim_length_le (String.ofList rest)
      rw [server, String.toList_ofList] at shorter
      rw [tool, String.toList_ofList] at shorter'
      have length := congrArg List.length same
      simp only [length_append, length_cons] at length
      obtain ⟨part_eq, rest_eq⟩ := append_inj same (by omega)
      have rest_eq := (cons.inj (cons.inj rest_eq).2).2
      rw [← part_eq, String.ofList_toList] at server
      rw [← rest_eq, String.ofList_toList] at tool
      exact ⟨⟨server, serverNamed⟩, ⟨tool, toolNamed⟩, part_eq ▸ unsplit⟩
  · rintro ⟨server, tool, unsplit⟩
    rw [splitUnderscores_append unsplit]
    have joined := intercalate_splitUnderscores toolName.toList
    have several := length_pos_iff.mpr (splitUnderscores_ne_nil toolName.toList)
    simp [joined, Option.bind_eq_some_iff, nonEmpty_eq_some, server, tool]
    omega

/-- **Names in allowlists.** A list knows the names that have the normal form of one of its
own, and all of them if it enables none; and a registered name is read as what it was made
of exactly where the id of the server is trimmed and has no separator in it. -/
theorem allowlist_names_exact :
    (∀ serverId allowlist, isMcpServerAllowed serverId allowlist = true ↔
      (∀ value ∈ allowlist.enabledMcpServerIds, jsTrim value = "") ∨
        Lists allowlist.enabledMcpServerIds (normalizeToken serverId)) ∧
    (∀ toolName allowlist mcpTool,
      isToolAllowedBySkillMcpAllowlist toolName allowlist mcpTool = true ↔
        (∀ name ∈ toolNames toolName mcpTool, ¬Lists allowlist.disabledToolNames name) ∧
        ((∀ value ∈ allowlist.enabledToolNames, jsTrim value = "") ∨
          ∃ name ∈ toolNames toolName mcpTool, Lists allowlist.enabledToolNames name)) ∧
    ∀ serverId toolName, parseMcpRegisteredToolName (registeredName serverId toolName) =
        some ⟨registeredName serverId toolName, serverId, toolName⟩ ↔
      (jsTrim serverId = serverId ∧ serverId ≠ "") ∧ (jsTrim toolName = toolName ∧ toolName ≠ "") ∧
        Unsplit serverId.toList :=
  ⟨fun _ _ => isMcpServerAllowed_iff, fun _ _ _ => isToolAllowed_iff,
    fun _ _ => parse_registered⟩

/-- A dot and an underscore are one name, and two underscores end the id of a server. -/
theorem dotted_names_confused :
    (jsTrim "a.b").toLower ≠ (jsTrim "a_b").toLower ∧
      isMcpServerAllowed "a_b" { emptyAllowlist with enabledMcpServerIds := ["a.b"] } = true ∧
      isToolAllowedBySkillMcpAllowlist "a_b" { emptyAllowlist with enabledToolNames := ["a.b"] }
        none = true ∧
      isToolAllowedBySkillMcpAllowlist "a_b" { emptyAllowlist with disabledToolNames := ["a.b"] }
        none = false ∧
      (parseMcpRegisteredToolName (registeredName "a__b" "t")).map (·.serverId) = some "a" := by
  decide +kernel

end Knowbee
