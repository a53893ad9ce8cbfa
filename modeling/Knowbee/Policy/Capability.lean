import Knowbee.JavaScript

/-!
# Capabilities of an agent's tools

`capability-isolation.ts`: the risk of a tool and the decision about a call of it.
The lookup of a binding is a parameter; its lists of tool names stand as they are
parsed from their columns.
-/

namespace Knowbee

inductive CapabilityRiskLevel where
  | safe | moderate | external | sensitive | dangerous
  deriving DecidableEq

def CapabilityRiskLevel.order : CapabilityRiskLevel → Nat
  | .safe => 0
  | .moderate => 1
  | .external => 2
  | .sensitive => 3
  | .dangerous => 4

def isRiskAtLeast (actual threshold : CapabilityRiskLevel) : Bool := threshold.order ≤ actual.order

def riskWithinCeiling (actual ceiling : CapabilityRiskLevel) : Bool := actual.order ≤ ceiling.order

def startsWith (value start : String) : Bool := start.toList.isPrefixOf value.toList

variable (toolName : String)

def isShellTool : Bool := toolName ∈ ["shell_exec", "process_kill"]

/-- `/^file_(write|patch|delete)$/u`. -/
def isFileWriteTool : Bool :=
  toolName ∈ ["file_write", "file_patch", "file_delete"]

def isNetworkTool : Bool := toolName = "web_fetch"

/-- `/^(mouse_|keyboard_|window_focus|screen_|app_launch)/u`. -/
def isScreenTool : Bool :=
  ["mouse_", "keyboard_", "window_focus", "screen_", "app_launch"].any (startsWith toolName)

def resolveToolCapabilityRisk (fallback : CapabilityRiskLevel) : CapabilityRiskLevel :=
  if fallback = .dangerous then .dangerous
  else if fallback = .moderate then .moderate
  else if fallback = .external ∨ fallback = .sensitive then fallback
  else if isShellTool toolName then .dangerous
  else if isScreenTool toolName then .dangerous
  else if isFileWriteTool toolName then .sensitive
  else if isNetworkTool toolName then .external
  else if startsWith toolName "mcp__" then .moderate
  else .safe

def nonEmpty (value : Option String) : Option String :=
  value.bind fun value => if jsTrim value = "" then none else some (jsTrim value)

/-- A string that is there and not empty, which is what a condition asks of it. -/
def truthy (value : Option String) : Option String := value.filter (· ≠ "")

/-- `split("__")`. -/
def splitUnderscores : List Char → List (List Char)
  | '_' :: '_' :: rest => [] :: splitUnderscores rest
  | c :: rest => (splitUnderscores rest).modifyHead (c :: ·)
  | [] => [[]]

structure McpRegisteredToolRef where
  (registeredName serverId toolName : String)

def parseMcpRegisteredToolName : Option McpRegisteredToolRef :=
  if !startsWith toolName "mcp__" then none
  else
    let parts := splitUnderscores toolName.toList
    if parts.length < 3 then none
    else do
      let serverId ← nonEmpty ((parts[1]?).map String.ofList)
      let rawToolName ← nonEmpty (some (String.ofList (['_', '_'].intercalate (parts.drop 2))))
      return ⟨toolName, serverId, rawToolName⟩

/-- `[a-z0-9:_-]`. -/
def isTokenChar (c : Char) : Bool :=
  ('a' ≤ c && c ≤ 'z') || ('0' ≤ c && c ≤ '9') || c = ':' || c = '_' || c = '-'

/-- `toLowerCase`, as far as the result may be a character of a token: beside the
capitals these are the sign of the kelvin and the dotted capital `I`. -/
def tokenLower (c : Char) : List Char :=
  if c.toNat = 0x212A then ['k']
  else if c.toNat = 0x130 then ['i', Char.ofNat 0x307]
  else [c.toLower]

/-- `replace(/[^a-z0-9:_-]+/g, "_")`; `inside` says that a run of others has begun. -/
def replaceOthers (inside : Bool) : List Char → List Char
  | [] => []
  | c :: rest =>
    if isTokenChar c then c :: replaceOthers false rest
    else if inside then replaceOthers true rest
    else '_' :: replaceOthers true rest

def normalizeToken (value : String) : String :=
  String.ofList (replaceOthers false ((jsTrim value).toList.flatMap tokenLower))

/-- `makeSet`, of which only the members matter. -/
def makeSet (values : List String) : List String := (values.map normalizeToken).filter (· ≠ "")

def normalizeStringList (values : List String) : List String :=
  setAdd [] ((values.map jsTrim).filter (· ≠ ""))

structure SkillMcpAllowlist where
  (enabledSkillIds enabledMcpServerIds enabledToolNames disabledToolNames : List String)
  secretScopeId : Option String

def normalizeSkillMcpAllowlist (input : SkillMcpAllowlist) : SkillMcpAllowlist where
  enabledSkillIds := normalizeStringList input.enabledSkillIds
  enabledMcpServerIds := normalizeStringList input.enabledMcpServerIds
  enabledToolNames := normalizeStringList input.enabledToolNames
  disabledToolNames := normalizeStringList input.disabledToolNames
  secretScopeId := nonEmpty input.secretScopeId

def emptyAllowlist : SkillMcpAllowlist := ⟨[], [], [], [], none⟩

structure PermissionProfile where
  profileId : String
  (riskCeiling approvalRequiredFrom : CapabilityRiskLevel)
  (allowExternalNetwork allowFilesystemWrite allowShellExecution allowScreenControl : Bool)

structure CapabilityRateLimit where
  maxConcurrentCalls : JsNumber
  maxCallsPerMinute : Option JsNumber

structure CapabilityPolicy where
  permissionProfile : PermissionProfile
  skillMcpAllowlist : SkillMcpAllowlist
  rateLimit : CapabilityRateLimit

inductive DepthScopedToolKind where
  | sessionControl | system | mcp | shell | filesystem | network | screen | other

/-- The record of denied names is read by the text of a depth. -/
structure DepthScopedToolPolicy where
  maxDepthByToolKind : DepthScopedToolKind → Option JsNumber
  deniedToolNamesByDepth : Nat → List String

inductive AgentCapabilityKind where
  | skill | mcpServer | yeonjang
  deriving DecidableEq

inductive AgentCapabilityBindingStatus where
  | enabled | disabled | archived
  deriving DecidableEq

structure AgentCapabilityBinding where
  agentId : String
  capabilityKind : AgentCapabilityKind
  catalogId : String
  status : AgentCapabilityBindingStatus
  (enabledToolNames disabledToolNames : List String)

/-- What is read of a `ToolContext`. -/
structure ToolContext where
  agentId : Option String
  capabilityPolicy : Option CapabilityPolicy
  permissionProfile : Option PermissionProfile
  skillMcpAllowlist : Option SkillMcpAllowlist
  capabilityRateLimit : Option CapabilityRateLimit
  delegationDepth : Option JsNumber
  depthScopedToolPolicy : Option DepthScopedToolPolicy
  (capabilityBindingId secretScopeId parentSecretScopeId : Option String)
  allowParentSecretFallback : Bool
  fallbackSecretScopeAllowlist : Option (List String)
  auditId : Option String

namespace ToolContext

variable (ctx : ToolContext)

/-- `contextPolicy`, field by field. -/
def policyPermissionProfile : Option PermissionProfile :=
  (ctx.capabilityPolicy.map (·.permissionProfile)).or ctx.permissionProfile

def givenSkillMcpAllowlist : Option SkillMcpAllowlist :=
  (ctx.capabilityPolicy.map (·.skillMcpAllowlist)).or ctx.skillMcpAllowlist

def policySkillMcpAllowlist : Option SkillMcpAllowlist :=
  ctx.givenSkillMcpAllowlist.map normalizeSkillMcpAllowlist

def policyRateLimit : Option CapabilityRateLimit :=
  (ctx.capabilityPolicy.map (·.rateLimit)).or ctx.capabilityRateLimit

def allowlist : SkillMcpAllowlist :=
  (ctx.policySkillMcpAllowlist.map normalizeSkillMcpAllowlist).getD emptyAllowlist

def parentSecretFallbackRequested : Bool :=
  (truthy ctx.parentSecretScopeId).isSome ∧ truthy ctx.secretScopeId = none ∧
    truthy ctx.allowlist.secretScopeId = none

def usedSecretScopeId : Option String :=
  (ctx.secretScopeId.or ctx.allowlist.secretScopeId).or ctx.parentSecretScopeId

end ToolContext

def classifyDepthScopedToolKind : DepthScopedToolKind :=
  if ["subsession_", "sub_session_", "run_cancel", "run_stop", "session_"].any (startsWith toolName)
  then .sessionControl
  else if toolName ∈ ["process_kill", "app_launch"] then .system
  else if toolName = "shell_exec" then .shell
  else if toolName ∈ ["file_read", "file_write", "file_patch", "file_delete", "file_list",
    "file_search"] then .filesystem
  else if toolName = "web_fetch" then .network
  else if startsWith toolName "mcp__" then .mcp
  else if ["mouse_", "keyboard_", "window_", "screen_"].any (startsWith toolName) then .screen
  else .other

def normalizedDepth : Option JsNumber → Option Nat
  | some (.finite value) => some ⌊value⌋.toNat
  | _ => none

/-- Whether `evaluateDepthScopedToolPolicy` allows the tool. -/
def depthScopedToolAllowed (depth : Option JsNumber) (policy : Option DepthScopedToolPolicy) :
    Bool :=
  match policy with
  | none => true
  | some policy =>
    let depth := (normalizedDepth depth).getD 0
    if normalizeToken toolName ∈ (policy.deniedToolNamesByDepth depth).map normalizeToken then false
    else
      match normalizedDepth (policy.maxDepthByToolKind (classifyDepthScopedToolKind toolName)) with
      | some limit => depth ≤ limit
      | none => true

def toolNames (mcpTool : Option McpRegisteredToolRef) : List String :=
  normalizeToken toolName :: match mcpTool with
    | none => []
    | some tool => [normalizeToken tool.toolName, normalizeToken s!"{tool.serverId}:{tool.toolName}",
        normalizeToken tool.registeredName]

def isToolAllowedBySkillMcpAllowlist (allowlist : SkillMcpAllowlist)
    (mcpTool : Option McpRegisteredToolRef) : Bool :=
  let allowlist := normalizeSkillMcpAllowlist allowlist
  let names := toolNames toolName mcpTool
  if names.any (· ∈ makeSet allowlist.disabledToolNames) then false
  else if makeSet allowlist.enabledToolNames = [] then true
  else names.any (· ∈ makeSet allowlist.enabledToolNames)

def isMcpServerAllowed (serverId : String) (allowlist : SkillMcpAllowlist) : Bool :=
  let enabledServers := makeSet (normalizeSkillMcpAllowlist allowlist).enabledMcpServerIds
  if enabledServers = [] then true else normalizeToken serverId ∈ enabledServers

def namesMatchAny (names values : List String) : Bool := names.any (· ∈ makeSet values)

inductive CapabilityReason where
  | legacyNoAgentContext | agentContextRequired | permissionProfileRequired | depthScopedToolDenied
  | capabilityBindingNotFound | capabilityBindingOwnerMismatch | capabilityBindingArchived
  | capabilityBindingDisabled | capabilityBindingToolMismatch | parentSecretFallbackForbidden
  | parentSecretFallbackNotAllowlisted | parentSecretFallbackAuditRequired | secretScopeRequired
  | auditIdRequired | secretScopeMismatch | mcpServerNotAllowed | toolNotAllowed
  | riskExceedsProfile | shellExecutionNotAllowed | filesystemWriteNotAllowed
  | externalNetworkNotAllowed | screenControlNotAllowed | capabilityApprovalRequired
  | capabilityAllowed

/-- `catalog_id.replace(/^mcp:/u, "")`. -/
def withoutMcp (catalogId : String) : String :=
  if startsWith catalogId "mcp:" then String.ofList (catalogId.toList.drop 4) else catalogId

/-- The id of the binding, or why it does not serve. -/
def resolveAgentBindingDecision (lookup : String → Option AgentCapabilityBinding)
    (toolName agentId : String) (bindingId : Option String)
    (mcpTool : Option McpRegisteredToolRef) : Except CapabilityReason (Option String) :=
  match nonEmpty bindingId with
  | none => .ok none
  | some bindingId =>
    match lookup bindingId with
    | none => .error .capabilityBindingNotFound
    | some binding =>
      let names := toolNames toolName mcpTool
      let enabledToolNames := normalizeStringList binding.enabledToolNames
      if binding.agentId ≠ agentId then .error .capabilityBindingOwnerMismatch
      else if binding.status = .archived then .error .capabilityBindingArchived
      else if binding.status ≠ .enabled then .error .capabilityBindingDisabled
      else if mcpTool.any fun tool => binding.capabilityKind ≠ .mcpServer ∨
          normalizeToken tool.serverId ∉ makeSet [binding.catalogId, withoutMcp binding.catalogId]
      then .error .capabilityBindingToolMismatch
      else if namesMatchAny names (normalizeStringList binding.disabledToolNames) then
        .error .toolNotAllowed
      else if enabledToolNames ≠ [] ∧ ¬namesMatchAny names enabledToolNames then
        .error .toolNotAllowed
      else .ok (some bindingId)

/-- The names under which the list for parent secrets knows a call. -/
def fallbackNames (bindingId : Option String) (mcpTool : Option McpRegisteredToolRef) :
    List String :=
  normalizeToken toolName :: (bindingId.toList.map normalizeToken ++ match mcpTool with
    | none => []
    | some tool => [normalizeToken tool.serverId, normalizeToken s!"{tool.serverId}:{tool.toolName}",
        normalizeToken tool.registeredName])

def fallbackAllows (values : Option (List String)) (toolName : String) (bindingId : Option String)
    (mcpTool : Option McpRegisteredToolRef) : Bool :=
  let allowed := makeSet (values.getD [])
  if allowed = [] then false else (fallbackNames toolName bindingId mcpTool).any (· ∈ allowed)

def resolvePermissionProfileBlockReason (capabilityRisk : CapabilityRiskLevel)
    (profile : PermissionProfile) : Option CapabilityReason :=
  if !riskWithinCeiling capabilityRisk profile.riskCeiling then some .riskExceedsProfile
  else if isShellTool toolName && !profile.allowShellExecution then some .shellExecutionNotAllowed
  else if isFileWriteTool toolName && !profile.allowFilesystemWrite then
    some .filesystemWriteNotAllowed
  else if isNetworkTool toolName && !profile.allowExternalNetwork then
    some .externalNetworkNotAllowed
  else if isScreenTool toolName && !profile.allowScreenControl then some .screenControlNotAllowed
  else none

structure AgentCapabilityPolicyInput where
  toolName : String
  riskLevel : Option CapabilityRiskLevel
  ctx : ToolContext

structure AgentCapabilityPolicyDecision where
  allowed : Bool
  toolName : String
  capabilityRisk : CapabilityRiskLevel
  approvalRequired : Bool
  reason : CapabilityReason
  (agentId bindingId permissionProfileId secretScopeId : Option String)
  parentSecretFallback : Bool
  rateLimitKey : Option String
  rateLimit : Option CapabilityRateLimit
  mcpTool : Option McpRegisteredToolRef

namespace AgentCapabilityPolicyInput

variable (input : AgentCapabilityPolicyInput)

def mcpTool : Option McpRegisteredToolRef := parseMcpRegisteredToolName input.toolName

def capabilityRisk : CapabilityRiskLevel :=
  resolveToolCapabilityRisk input.toolName (input.riskLevel.getD .safe)

def decision (allowed : Bool) (reason : CapabilityReason) : AgentCapabilityPolicyDecision :=
  ⟨allowed, input.toolName, input.capabilityRisk, false, reason, none, none, none, none, false, none,
    none, none⟩

def requiresAgentContext : Bool :=
  input.mcpTool.isSome || (truthy input.ctx.agentId).isSome ||
    input.ctx.policyPermissionProfile.isSome || input.ctx.policySkillMcpAllowlist.isSome

def rateLimitKey (agentId : String) (bindingId : Option String) : String :=
  let binding := match truthy bindingId with
    | some bindingId => s!"binding:{bindingId}"
    | none => "binding:implicit"
  let tool := match input.mcpTool with
    | some tool => s!"mcp:{tool.serverId}:{tool.toolName}"
    | none => s!"tool:{input.toolName}"
  let secret := match truthy input.ctx.usedSecretScopeId with
    | some secretScopeId => s!"secret:{secretScopeId}"
    | none => "secret:none"
  ":".intercalate ["agent", agentId, binding, tool, secret]

def admitted (agentId : String) (profile : PermissionProfile) (bindingId : Option String) :
    AgentCapabilityPolicyDecision :=
  let approvalRequired := isRiskAtLeast input.capabilityRisk profile.approvalRequiredFrom
  { allowed := true
    toolName := input.toolName
    capabilityRisk := input.capabilityRisk
    approvalRequired
    reason := if approvalRequired then .capabilityApprovalRequired else .capabilityAllowed
    agentId := some agentId
    bindingId
    permissionProfileId := some profile.profileId
    secretScopeId := truthy input.ctx.usedSecretScopeId
    parentSecretFallback := input.ctx.parentSecretFallbackRequested
    rateLimitKey := some (input.rateLimitKey agentId bindingId)
    rateLimit := input.ctx.policyRateLimit
    mcpTool := input.mcpTool }

def evaluateBound (agentId : String) (profile : PermissionProfile) (bindingId : Option String) :
    AgentCapabilityPolicyDecision :=
  let ctx := input.ctx
  let allowlist := ctx.allowlist
  let refusal (reason : CapabilityReason) : AgentCapabilityPolicyDecision :=
    { input.decision false reason with
      agentId := some agentId, bindingId, permissionProfileId := some profile.profileId }
  let withScope (reason : CapabilityReason) : AgentCapabilityPolicyDecision :=
    { refusal reason with
      secretScopeId := truthy ctx.usedSecretScopeId, mcpTool := input.mcpTool }
  if ctx.parentSecretFallbackRequested ∧ ¬ctx.allowParentSecretFallback then
    refusal .parentSecretFallbackForbidden
  else if ctx.parentSecretFallbackRequested ∧
      ¬fallbackAllows ctx.fallbackSecretScopeAllowlist input.toolName bindingId input.mcpTool then
    refusal .parentSecretFallbackNotAllowlisted
  else if ctx.parentSecretFallbackRequested ∧ nonEmpty ctx.auditId = none then
    refusal .parentSecretFallbackAuditRequired
  else if input.mcpTool.isSome ∧ nonEmpty ctx.usedSecretScopeId = none then
    { refusal .secretScopeRequired with mcpTool := input.mcpTool }
  else if input.mcpTool.isSome ∧ nonEmpty ctx.auditId = none then withScope .auditIdRequired
  else if (truthy ctx.secretScopeId).isSome ∧ (truthy allowlist.secretScopeId).isSome ∧
      ctx.secretScopeId ≠ allowlist.secretScopeId then
    withScope .secretScopeMismatch
  else if input.mcpTool.any fun tool => !isMcpServerAllowed tool.serverId allowlist then
    withScope .mcpServerNotAllowed
  else if !isToolAllowedBySkillMcpAllowlist input.toolName allowlist input.mcpTool then
    withScope .toolNotAllowed
  else
    match resolvePermissionProfileBlockReason input.toolName input.capabilityRisk profile with
    | some reason => withScope reason
    | none => input.admitted agentId profile bindingId

def evaluateAgentToolCapabilityPolicy (lookup : String → Option AgentCapabilityBinding)
    (input : AgentCapabilityPolicyInput) : AgentCapabilityPolicyDecision :=
  if !input.requiresAgentContext then input.decision true .legacyNoAgentContext
  else
    match input.ctx.agentId with
    | none => input.decision false .agentContextRequired
    | some agentId =>
      if jsTrim agentId = "" then input.decision false .agentContextRequired
      else
        match input.ctx.policyPermissionProfile with
        | none => { input.decision false .permissionProfileRequired with agentId := some agentId }
        | some profile =>
          if !depthScopedToolAllowed input.toolName input.ctx.delegationDepth
              input.ctx.depthScopedToolPolicy then
            { input.decision false .depthScopedToolDenied with
              agentId := some agentId, permissionProfileId := some profile.profileId }
          else
            match resolveAgentBindingDecision lookup input.toolName agentId
              input.ctx.capabilityBindingId input.mcpTool with
            | .error reason =>
              { input.decision false reason with
                agentId := some agentId
                bindingId := nonEmpty input.ctx.capabilityBindingId
                permissionProfileId := some profile.profileId }
            | .ok bindingId => input.evaluateBound agentId profile bindingId

end AgentCapabilityPolicyInput

end Knowbee
