import Knowbee.Policy.Capability

/-!
# What an allowed call of an agent has

Every check is passed by an allowed call (`allowed_iff`), so its risk is within the
ceiling, its flags are set, the lists do not exclude it and the scope of its secrets
is its own or a permitted fallback.  Its risk is that of its name unless another level
is declared, and then it may be below it: `capability_policy_sound_iff`.
-/

namespace Knowbee

open List

def Lists (values : List String) (name : String) : Prop :=
  name ≠ "" ∧ ∃ value ∈ values, normalizeToken value = name

lemma mem_makeSet {values : List String} {name : String} :
    name ∈ makeSet values ↔ Lists values name := by
  simp only [makeSet, Lists, mem_filter, mem_map, decide_eq_true_eq, ne_eq]
  exact and_comm

lemma normalizeToken_jsTrim (value : String) :
    normalizeToken (jsTrim value) = normalizeToken value := by
  rw [normalizeToken, jsTrim_jsTrim, normalizeToken]

lemma mem_makeSet_normalized {values : List String} {name : String} :
    name ∈ makeSet (normalizeStringList values) ↔ Lists values name := by
  rw [mem_makeSet]
  unfold Lists normalizeStringList
  refine and_congr_right fun named => ⟨?_, ?_⟩
  · rintro ⟨value, member, rfl⟩
    rw [mem_setAdd, mem_filter, mem_map] at member
    obtain ⟨raw, there, rfl⟩ := (member.resolve_left not_mem_nil).1
    exact ⟨raw, there, (normalizeToken_jsTrim raw).symm⟩
  · rintro ⟨value, member, rfl⟩
    refine ⟨jsTrim value, ?_, normalizeToken_jsTrim value⟩
    rw [mem_setAdd, mem_filter, mem_map]
    refine Or.inr ⟨⟨value, member, rfl⟩, decide_eq_true fun blank => named ?_⟩
    rw [← normalizeToken_jsTrim, blank]
    rfl

namespace AgentCapabilityPolicyInput

variable {lookup : String → Option AgentCapabilityBinding} {input : AgentCapabilityPolicyInput}

/-- The checks that a call of an agent passes; `bindingId` is that of its binding. -/
structure Admissible (lookup : String → Option AgentCapabilityBinding)
    (input : AgentCapabilityPolicyInput) (agentId : String) (profile : PermissionProfile)
    (bindingId : Option String) : Prop where
  agent : input.ctx.agentId = some agentId
  named : jsTrim agentId ≠ ""
  profiled : input.ctx.policyPermissionProfile = some profile
  deep : depthScopedToolAllowed input.toolName input.ctx.delegationDepth
    input.ctx.depthScopedToolPolicy = true
  bound : resolveAgentBindingDecision lookup input.toolName agentId
    input.ctx.capabilityBindingId input.mcpTool = .ok bindingId
  fallback : input.ctx.parentSecretFallbackRequested = true →
    input.ctx.allowParentSecretFallback = true ∧
      fallbackAllows input.ctx.fallbackSecretScopeAllowlist input.toolName bindingId
        input.mcpTool = true ∧ nonEmpty input.ctx.auditId ≠ none
  audited : input.mcpTool.isSome = true →
    nonEmpty input.ctx.usedSecretScopeId ≠ none ∧ nonEmpty input.ctx.auditId ≠ none
  agreed : (truthy input.ctx.secretScopeId).isSome = true →
    (truthy input.ctx.allowlist.secretScopeId).isSome = true →
    input.ctx.secretScopeId = input.ctx.allowlist.secretScopeId
  server : ∀ tool ∈ input.mcpTool, isMcpServerAllowed tool.serverId input.ctx.allowlist = true
  listed : isToolAllowedBySkillMcpAllowlist input.toolName input.ctx.allowlist input.mcpTool = true
  unblocked : resolvePermissionProfileBlockReason input.toolName input.capabilityRisk profile = none

variable {agentId toolName : String} {bindingId : Option String} {profile : PermissionProfile}
  {mcpTool : Option McpRegisteredToolRef}

lemma evaluateBound_cases (agent : input.ctx.agentId = some agentId)
    (named : jsTrim agentId ≠ "") (profiled : input.ctx.policyPermissionProfile = some profile)
    (deep : depthScopedToolAllowed input.toolName input.ctx.delegationDepth
      input.ctx.depthScopedToolPolicy = true)
    (bound : resolveAgentBindingDecision lookup input.toolName agentId
      input.ctx.capabilityBindingId input.mcpTool = .ok bindingId) :
    (Admissible lookup input agentId profile bindingId ∧
        input.evaluateBound agentId profile bindingId = input.admitted agentId profile bindingId) ∨
      (¬Admissible lookup input agentId profile bindingId ∧
        (input.evaluateBound agentId profile bindingId).allowed = false) := by
  unfold evaluateBound
  dsimp only
  split_ifs with forbidden unlisted unaudited scopeless auditless mismatch server tool
  · exact .inr ⟨fun checks => forbidden.2 (checks.fallback forbidden.1).1, rfl⟩
  · exact .inr ⟨fun checks => unlisted.2 (checks.fallback unlisted.1).2.1, rfl⟩
  · exact .inr ⟨fun checks => (checks.fallback unaudited.1).2.2 unaudited.2, rfl⟩
  · exact .inr ⟨fun checks => (checks.audited scopeless.1).1 scopeless.2, rfl⟩
  · exact .inr ⟨fun checks => (checks.audited auditless.1).2 auditless.2, rfl⟩
  · exact .inr ⟨fun checks => mismatch.2.2 (checks.agreed mismatch.1 mismatch.2.1), rfl⟩
  · refine .inr ⟨fun checks => ?_, rfl⟩
    obtain ⟨tool, found, refused⟩ := (Option.any_eq_true _ _).mp server
    rw [checks.server tool found] at refused
    cases refused
  · refine .inr ⟨fun checks => ?_, rfl⟩
    rw [checks.listed] at tool
    cases tool
  · cases blocked : resolvePermissionProfileBlockReason input.toolName input.capabilityRisk profile with
    | some reason =>
      refine .inr ⟨fun checks => ?_, rfl⟩
      rw [checks.unblocked] at blocked
      cases blocked
    | none =>
      refine .inl ⟨⟨agent, named, profiled, deep, bound, fun requested => ?_, fun mcp => ?_,
        fun own listed => ?_, fun tool found => ?_, ?_, blocked⟩, rfl⟩
      · refine ⟨?_, ?_, fun none => unaudited ⟨requested, none⟩⟩
        · exact Decidable.not_not.mp fun refused => forbidden ⟨requested, refused⟩
        · exact Decidable.not_not.mp fun refused => unlisted ⟨requested, refused⟩
      · exact ⟨fun none => scopeless ⟨mcp, none⟩, fun none => auditless ⟨mcp, none⟩⟩
      · exact Decidable.not_not.mp fun differ => mismatch ⟨own, listed, differ⟩
      · by_contra refused
        refine server ((Option.any_eq_true _ _).mpr ⟨tool, found, ?_⟩)
        rw [Bool.not_eq_true] at refused
        rw [refused]
        rfl
      · rw [Bool.not_eq_true', Bool.not_eq_false] at tool
        exact tool

lemma evaluate_cases (lookup : String → Option AgentCapabilityBinding)
    (agent : (truthy input.ctx.agentId).isSome = true) :
    (∃ agentId profile bindingId, Admissible lookup input agentId profile bindingId ∧
        input.evaluateAgentToolCapabilityPolicy lookup = input.admitted agentId profile bindingId) ∨
      ((∀ agentId profile bindingId, ¬Admissible lookup input agentId profile bindingId) ∧
        (input.evaluateAgentToolCapabilityPolicy lookup).allowed = false) := by
  unfold evaluateAgentToolCapabilityPolicy requiresAgentContext
  rw [agent, Bool.or_true, Bool.true_or, Bool.true_or]
  simp only [Bool.not_true, Bool.false_eq_true, if_false]
  cases given : input.ctx.agentId with
  | none =>
    rw [given] at agent
    cases agent
  | some agentId =>
    dsimp only
    have same {agentId' : String} {profile : PermissionProfile} {bindingId : Option String}
        (checks : Admissible lookup input agentId' profile bindingId) : agentId' = agentId :=
      Option.some.inj (checks.agent.symm.trans given)
    by_cases blank : jsTrim agentId = ""
    · rw [if_pos blank]
      exact .inr ⟨fun _ _ _ checks => checks.named (same checks ▸ blank), rfl⟩
    rw [if_neg blank]
    cases profiled : input.ctx.policyPermissionProfile with
    | none =>
      refine .inr ⟨fun _ _ _ checks => ?_, rfl⟩
      have found := checks.profiled
      rw [profiled] at found
      cases found
    | some profile =>
      dsimp only
      have sameProfile {agentId' : String} {profile' : PermissionProfile}
          {bindingId : Option String}
          (checks : Admissible lookup input agentId' profile' bindingId) : profile' = profile :=
        Option.some.inj (checks.profiled.symm.trans profiled)
      cases deep : depthScopedToolAllowed input.toolName input.ctx.delegationDepth
          input.ctx.depthScopedToolPolicy with
      | false =>
        refine .inr ⟨fun _ _ _ checks => ?_, rfl⟩
        have passed := checks.deep
        rw [deep] at passed
        cases passed
      | true =>
      simp only [Bool.not_true, Bool.false_eq_true, if_false]
      cases bound : resolveAgentBindingDecision lookup input.toolName agentId
          input.ctx.capabilityBindingId input.mcpTool with
      | error reason =>
        refine .inr ⟨fun agentId' _ _ checks => ?_, rfl⟩
        have found := checks.bound
        rw [same checks, bound] at found
        cases found
      | ok bindingId =>
        rcases evaluateBound_cases given blank profiled deep bound with ⟨checks, result⟩ | ⟨fails, refused⟩
        · exact .inl ⟨agentId, profile, bindingId, checks, result⟩
        · refine .inr ⟨fun agentId' profile' bindingId' checks => fails ?_, refused⟩
          have found := checks.bound
          rw [same checks, bound] at found
          cases found
          rw [same checks, sameProfile checks] at checks
          exact checks

def Permits (profile : PermissionProfile) (toolName : String) : Prop :=
  (isShellTool toolName = true → profile.allowShellExecution = true) ∧
    (isFileWriteTool toolName = true → profile.allowFilesystemWrite = true) ∧
    (isNetworkTool toolName = true → profile.allowExternalNetwork = true) ∧
    (isScreenTool toolName = true → profile.allowScreenControl = true)

/-- The lists exclude neither the tool nor its server; an empty list of what is
enabled excludes nothing. -/
structure NotExcluded (allowlist : SkillMcpAllowlist) (toolName : String)
    (mcpTool : Option McpRegisteredToolRef) : Prop where
  disabled : ∀ name ∈ toolNames toolName mcpTool, ¬Lists allowlist.disabledToolNames name
  enabled : (∀ name, ¬Lists allowlist.enabledToolNames name) ∨
    ∃ name ∈ toolNames toolName mcpTool, Lists allowlist.enabledToolNames name
  server : ∀ tool ∈ mcpTool, (∀ name, ¬Lists allowlist.enabledMcpServerIds name) ∨
    Lists allowlist.enabledMcpServerIds (normalizeToken tool.serverId)

/-- The scope is the agent's own, or that of the parent, whose use was allowed,
allowlisted and audited. -/
def ScopeOwned (ctx : ToolContext) (toolName scope : String) (bindingId : Option String)
    (mcpTool : Option McpRegisteredToolRef) : Prop :=
  ctx.secretScopeId = some scope ∨ ctx.allowlist.secretScopeId = some scope ∨
    (ctx.parentSecretScopeId = some scope ∧ ctx.allowParentSecretFallback = true ∧
      (∃ name ∈ fallbackNames toolName bindingId mcpTool,
        Lists (ctx.fallbackSecretScopeAllowlist.getD []) name) ∧
      nonEmpty ctx.auditId ≠ none)

structure SoundCall (input : AgentCapabilityPolicyInput)
    (decision : AgentCapabilityPolicyDecision) (profile : PermissionProfile) : Prop where
  declared : ∀ level ∈ input.riskLevel, level.order ≤ decision.capabilityRisk.order
  ceiling : decision.capabilityRisk.order ≤ profile.riskCeiling.order
  flags : Permits profile input.toolName
  lists : ∀ allowlist ∈ input.ctx.givenSkillMcpAllowlist,
    NotExcluded allowlist input.toolName input.mcpTool
  secret : ∀ scope ∈ decision.secretScopeId,
    ScopeOwned input.ctx input.toolName scope decision.bindingId input.mcpTool
  approval : profile.approvalRequiredFrom.order ≤ decision.capabilityRisk.order →
    decision.approvalRequired = true

def nameRisk (input : AgentCapabilityPolicyInput) : CapabilityRiskLevel :=
  resolveToolCapabilityRisk input.toolName .safe

lemma capabilityRisk_cases (input : AgentCapabilityPolicyInput) :
    (input.riskLevel.getD .safe = .safe ∧ input.capabilityRisk = input.nameRisk) ∨
      (input.riskLevel.getD .safe ≠ .safe ∧
        input.capabilityRisk = input.riskLevel.getD .safe) := by
  unfold capabilityRisk nameRisk
  cases level : input.riskLevel.getD .safe with
  | safe => exact .inl ⟨rfl, rfl⟩
  | moderate => exact .inr ⟨nofun, rfl⟩
  | external => exact .inr ⟨nofun, rfl⟩
  | sensitive => exact .inr ⟨nofun, rfl⟩
  | dangerous => exact .inr ⟨nofun, rfl⟩

lemma lists_normalized {values : List String} {name : String} :
    Lists (normalizeStringList values) name ↔ Lists values name := by
  rw [← mem_makeSet, mem_makeSet_normalized]

lemma makeSet_eq_nil {values : List String} : makeSet values = [] ↔ ∀ name, ¬Lists values name := by
  rw [eq_nil_iff_forall_not_mem]
  exact forall_congr' fun name => not_congr mem_makeSet

lemma notExcluded_of_allowed {allowlist : SkillMcpAllowlist}
    (server : ∀ tool ∈ mcpTool, isMcpServerAllowed tool.serverId allowlist = true)
    (listed : isToolAllowedBySkillMcpAllowlist toolName allowlist mcpTool = true) :
    NotExcluded allowlist toolName mcpTool := by
  unfold isToolAllowedBySkillMcpAllowlist normalizeSkillMcpAllowlist at listed
  dsimp only at listed
  split_ifs at listed with disabled empty
  all_goals
    have allowedNames : ∀ name ∈ toolNames toolName mcpTool,
        ¬Lists allowlist.disabledToolNames name := fun name named excluded =>
      disabled (any_eq_true.mpr ⟨name, named, decide_eq_true (mem_makeSet_normalized.mpr excluded)⟩)
    have allowedServer : ∀ tool ∈ mcpTool, (∀ name, ¬Lists allowlist.enabledMcpServerIds name) ∨
        Lists allowlist.enabledMcpServerIds (normalizeToken tool.serverId) := by
      intro tool found
      have allowed := server tool found
      unfold isMcpServerAllowed normalizeSkillMcpAllowlist at allowed
      dsimp only at allowed
      split_ifs at allowed with none
      · exact Or.inl fun name member => makeSet_eq_nil.mp none name (lists_normalized.mpr member)
      · exact Or.inr (mem_makeSet_normalized.mp (of_decide_eq_true allowed))
  · exact ⟨allowedNames, Or.inl fun name member =>
      makeSet_eq_nil.mp empty name (lists_normalized.mpr member), allowedServer⟩
  · obtain ⟨name, named, member⟩ := any_eq_true.mp listed
    exact ⟨allowedNames, Or.inr ⟨name, named, mem_makeSet_normalized.mp (of_decide_eq_true member)⟩,
      allowedServer⟩

lemma NotExcluded.of_normalized {allowlist : SkillMcpAllowlist}
    (kept : NotExcluded (normalizeSkillMcpAllowlist allowlist) toolName mcpTool) :
    NotExcluded allowlist toolName mcpTool where
  disabled name named member := kept.disabled name named (lists_normalized.mpr member)
  enabled := by
    refine kept.enabled.imp (fun none name member => none name (lists_normalized.mpr member)) ?_
    rintro ⟨name, named, member⟩
    exact ⟨name, named, lists_normalized.mp member⟩
  server tool found := (kept.server tool found).imp
    (fun none name member => none name (lists_normalized.mpr member)) lists_normalized.mp

lemma fallbackAllows_eq_true {values : Option (List String)}
    (allows : fallbackAllows values toolName bindingId mcpTool = true) :
    ∃ name ∈ fallbackNames toolName bindingId mcpTool, Lists (values.getD []) name := by
  unfold fallbackAllows at allows
  dsimp only at allows
  split_ifs at allows
  obtain ⟨name, named, member⟩ := any_eq_true.mp allows
  exact ⟨name, named, mem_makeSet.mp (of_decide_eq_true member)⟩

lemma Permits.of_unblocked {risk : CapabilityRiskLevel}
    (unblocked : resolvePermissionProfileBlockReason toolName risk profile = none) :
    risk.order ≤ profile.riskCeiling.order ∧ Permits profile toolName := by
  unfold resolvePermissionProfileBlockReason at unblocked
  split_ifs at unblocked with ceiling shell file network screen
  have flag {tool allowed : Bool} (free : ¬(tool && !allowed) = true) (named : tool = true) :
      allowed = true := by
    rw [named, Bool.true_and, Bool.not_eq_true', Bool.not_eq_false] at free
    exact free
  rw [Bool.not_eq_true', Bool.not_eq_false] at ceiling
  exact ⟨of_decide_eq_true ceiling, flag shell, flag file, flag network, flag screen⟩

lemma Admissible.scopeOwned (checks : Admissible lookup input agentId profile bindingId)
    {scope : String} (used : scope ∈ truthy input.ctx.usedSecretScopeId) :
    ScopeOwned input.ctx input.toolName scope bindingId input.mcpTool := by
  obtain ⟨given, present⟩ := Option.filter_eq_some_iff.mp used
  unfold ToolContext.usedSecretScopeId at given
  cases own : input.ctx.secretScopeId with
  | some value =>
    rw [own] at given
    exact Or.inl (own.trans given)
  | none =>
    cases listed : input.ctx.allowlist.secretScopeId with
    | some value =>
      rw [own, listed] at given
      exact Or.inr (Or.inl (listed.trans given))
    | none =>
      rw [own, listed] at given
      change input.ctx.parentSecretScopeId = some scope at given
      have requested : input.ctx.parentSecretFallbackRequested = true := by
        unfold ToolContext.parentSecretFallbackRequested
        rw [given, own, listed]
        refine decide_eq_true ⟨?_, rfl, rfl⟩
        rw [truthy, Option.filter_some, present]
        rfl
      obtain ⟨allowed, listed, audited⟩ := checks.fallback requested
      exact Or.inr (Or.inr ⟨given, allowed, fallbackAllows_eq_true listed, audited⟩)

lemma Admissible.sound (checks : Admissible lookup input agentId profile bindingId) :
    SoundCall input (input.admitted agentId profile bindingId) profile where
  declared level given := by
    change level.order ≤ input.capabilityRisk.order
    rcases input.capabilityRisk_cases with ⟨safe, -⟩ | ⟨-, same⟩
    · rw [Option.mem_def.mp given, Option.getD_some] at safe
      rw [safe]
      exact Nat.zero_le _
    · rw [same, Option.mem_def.mp given, Option.getD_some]
  ceiling := (Permits.of_unblocked checks.unblocked).1
  flags := (Permits.of_unblocked checks.unblocked).2
  lists allowlist given := by
    have same : input.ctx.allowlist =
        normalizeSkillMcpAllowlist (normalizeSkillMcpAllowlist allowlist) := by
      unfold ToolContext.allowlist ToolContext.policySkillMcpAllowlist
      rw [Option.mem_def.mp given]
      rfl
    have kept := notExcluded_of_allowed checks.server checks.listed
    rw [same] at kept
    exact kept.of_normalized.of_normalized
  secret scope used := checks.scopeOwned used
  approval reaches := decide_eq_true reaches

/-- An allowed call of an agent has all of it, and a risk that is at least that of its
name, exactly when a call that passes the checks declares no level or one that is. -/
theorem capability_policy_sound_iff (lookup : String → Option AgentCapabilityBinding)
    (input : AgentCapabilityPolicyInput) (agent : (truthy input.ctx.agentId).isSome = true) :
    ((input.evaluateAgentToolCapabilityPolicy lookup).allowed = true →
        (∃ profile, input.ctx.policyPermissionProfile = some profile ∧
          SoundCall input (input.evaluateAgentToolCapabilityPolicy lookup) profile) ∧
        input.nameRisk.order ≤ (input.evaluateAgentToolCapabilityPolicy lookup).capabilityRisk.order) ↔
      ((∃ agentId profile bindingId, Admissible lookup input agentId profile bindingId) →
        input.riskLevel.getD .safe = .safe ∨
          input.nameRisk.order ≤ (input.riskLevel.getD .safe).order) := by
  have risk : input.nameRisk.order ≤ input.capabilityRisk.order ↔
      input.riskLevel.getD .safe = .safe ∨
        input.nameRisk.order ≤ (input.riskLevel.getD .safe).order := by
    rcases input.capabilityRisk_cases with ⟨safe, same⟩ | ⟨declared, same⟩
    · rw [same]
      exact iff_of_true (Nat.le_refl _) (Or.inl safe)
    · rw [same]
      exact ⟨Or.inr, fun either => either.resolve_left declared⟩
  rcases evaluate_cases lookup agent with ⟨agentId, profile, bindingId, checks, result⟩ | ⟨fails, refused⟩
  · rw [result]
    constructor
    · intro sound _
      exact risk.mp (sound rfl).2
    · intro declares _
      exact ⟨⟨profile, checks.profiled, checks.sound⟩,
        risk.mpr (declares ⟨agentId, profile, bindingId, checks⟩)⟩
  · rw [refused]
    refine iff_of_true nofun ?_
    rintro ⟨agentId, profile, bindingId, checks⟩
    exact absurd checks (fails agentId profile bindingId)

/-- An agent whose profile has a ceiling and all flags. -/
def sampleContext (riskCeiling : CapabilityRiskLevel) : ToolContext where
  agentId := some "agent:researcher"
  capabilityPolicy := none
  permissionProfile := some
    ⟨"profile", riskCeiling, .sensitive, true, true, true, true⟩
  skillMcpAllowlist := none
  capabilityRateLimit := none
  delegationDepth := none
  depthScopedToolPolicy := none
  capabilityBindingId := none
  secretScopeId := none
  parentSecretScopeId := none
  allowParentSecretFallback := false
  fallbackSecretScopeAllowlist := none
  auditId := none

theorem capability_policy_sound_fetch :
    (∃ profile, (sampleContext .external).policyPermissionProfile = some profile ∧
      SoundCall ⟨"web_fetch", some .safe, sampleContext .external⟩
        (evaluateAgentToolCapabilityPolicy (fun _ => none)
          ⟨"web_fetch", some .safe, sampleContext .external⟩) profile) ∧
    (nameRisk ⟨"web_fetch", some .safe, sampleContext .external⟩).order ≤
      (evaluateAgentToolCapabilityPolicy (fun _ => none)
        ⟨"web_fetch", some .safe, sampleContext .external⟩).capabilityRisk.order := by
  refine (capability_policy_sound_iff (fun _ => none)
    ⟨"web_fetch", some .safe, sampleContext .external⟩ rfl).mpr (fun _ => Or.inl rfl) ?_
  decide

/-- A tool of the mouse, which is dangerous by its name, passes a moderate ceiling
without approval when it is declared moderate. -/
theorem declared_level_hides_name :
    (evaluateAgentToolCapabilityPolicy (fun _ => none)
        ⟨"mouse_click", some .moderate, sampleContext .moderate⟩).allowed = true ∧
      (evaluateAgentToolCapabilityPolicy (fun _ => none)
        ⟨"mouse_click", some .moderate, sampleContext .moderate⟩).capabilityRisk = .moderate ∧
      (evaluateAgentToolCapabilityPolicy (fun _ => none)
        ⟨"mouse_click", some .moderate, sampleContext .moderate⟩).approvalRequired = false ∧
      nameRisk ⟨"mouse_click", some .moderate, sampleContext .moderate⟩ = .dangerous := by
  decide

end AgentCapabilityPolicyInput

end Knowbee
