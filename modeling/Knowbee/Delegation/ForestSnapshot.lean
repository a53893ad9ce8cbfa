import Knowbee.Delegation.Relationship
import Knowbee.Lib.Comparator
import Knowbee.Lib.Digraph
import Mathlib.Data.List.Dedup

/-!
# Snapshots of the delegation forest

`delegation-forest.ts`.  The texts that depend on a locale, the hashes and what a
policy holds beside what is read are parameters.
-/

namespace Knowbee.Delegation

open Comparator

inductive AgentType where
  | knowbee
  | subAgent
  deriving DecidableEq

inductive AgentStatus where
  | enabled | disabled | archived | degraded
  deriving DecidableEq

section

variable {Rest : Type}

structure DelegationPolicy (Rest : Type) where
  enabled : Bool
  directChildOnly : Option Bool
  allowedChildAgentIds : Option (List String)
  redelegationAllowed : Option Bool
  rest : Rest

structure DelegationForestAgent (Rest : Type) where
  (agentId agentName : String)
  agentType : AgentType
  status : AgentStatus
  delegationPolicy : Option (DelegationPolicy Rest)

structure DelegationForestSnapshot (Rest : Type) where
  rootAgentId : String
  agents : List (DelegationForestAgent Rest)
  relationships : List AgentRelationship
  rootAgentIds : List String
  directChildAgentIdsByParent : List (String × List String)
  snapshotFingerprint : String

/-- The comparison and the lower case of texts, and the hashes of a snapshot and of an
authorization. -/
structure ForestPlatform (Rest : Type) where
  localeCompare : String → String → Int
  toLowerCase : String → String
  snapshotHash : String → List (DelegationForestAgent Rest) → List AgentRelationship → String
  receiptHash : String → String → String → String

/-- Throw an error, unless something holds. -/
def require (holds : Prop) [Decidable holds] (message : String) : Except String Unit :=
  if holds then .ok () else .error message

def requireText (value field : String) : Except String String :=
  if jsTrim value ≠ "" then .ok (jsTrim value) else .error (field ++ " is required.")

/-- `replace(/\s+/gu, " ")`: a run of white space becomes one blank. -/
def collapseRuns : Bool → List Char → List Char
  | _, [] => []
  | inRun, c :: rest =>
    if isTrimmed c then (if inRun then collapseRuns true rest else ' ' :: collapseRuns true rest)
    else c :: collapseRuns false rest

def normalizeAgentNameSnapshot (value : String) : String :=
  String.ofList (collapseRuns false (jsTrim value).toList)

section

variable (platform : ForestPlatform Rest)

def normalizeAgentName (value : String) : String :=
  platform.toLowerCase (normalizeAgentNameSnapshot value)

def forestAgent (agent : DelegationForestAgent Rest) :
    Except String (DelegationForestAgent Rest) := do
  let agentId ← requireText agent.agentId "Agent ID"
  let agentName ← requireText agent.agentName "Agent name"
  return { agent with agentId, agentName := normalizeAgentNameSnapshot agentName }

def forestAgents : List (DelegationForestAgent Rest) →
    Except String (List (DelegationForestAgent Rest))
  | [] => .ok []
  | agent :: rest => do
    let first ← forestAgent agent
    let others ← forestAgents rest
    return first :: others

/-- The loop that fills `agentById`. -/
def checkAgentIds : List String → List (DelegationForestAgent Rest) → Except String Unit
  | _, [] => .ok ()
  | seen, agent :: rest =>
    if agent.agentId ∈ seen then .error ("Agent ID must be unique: " ++ agent.agentId ++ ".")
    else checkAgentIds (agent.agentId :: seen) rest

def agentById (agents : List (DelegationForestAgent Rest)) (agentId : String) :
    Option (DelegationForestAgent Rest) :=
  agents.find? (·.agentId = agentId)

/-- `findAgentNameNamespaceConflict`: the name that two agents have.  The entry of a name
is the last of its agents. -/
def findAgentNameNamespaceConflict (platform : ForestPlatform Rest) :
    List (DelegationForestAgent Rest) → List (DelegationForestAgent Rest) → Option String
  | _, [] => none
  | seen, agent :: rest =>
    let normalizedAgentName := normalizeAgentName platform agent.agentName
    if normalizedAgentName = "" then findAgentNameNamespaceConflict platform seen rest
    else
      match seen.find? fun entry =>
          normalizeAgentName platform entry.agentName = normalizedAgentName with
      | some existing =>
        if existing.agentType ≠ agent.agentType ∨ existing.agentId ≠ agent.agentId then
          some normalizedAgentName
        else findAgentNameNamespaceConflict platform (agent :: seen) rest
      | none => findAgentNameNamespaceConflict platform (agent :: seen) rest

def pairKey (relationship : AgentRelationship) : String :=
  relationship.parentAgentId ++ "\x00" ++ relationship.childAgentId

variable (agentIds : List String) (active : List AgentRelationship)

def checkRelationship (before : List AgentRelationship) (relationship : AgentRelationship) :
    Except String Unit :=
  if validateAgentRelationship relationship ≠ [] then
    .error (if relationship.parentAgentId = relationship.childAgentId then
      "Delegation forest rejects a self edge." else "Delegation forest relationship is invalid.")
  else if relationship.edgeId ∈ before.map (·.edgeId) then
    .error ("Delegation forest edge ID is duplicate: " ++ relationship.edgeId ++ ".")
  else if relationship.parentAgentId ∉ agentIds ∨ relationship.childAgentId ∉ agentIds then
    .error "Delegation forest relationship has an unknown endpoint."
  else if pairKey relationship ∈ before.map pairKey then
    .error "Delegation forest contains a duplicate relationship."
  else
    match (before.filter (·.childAgentId = relationship.childAgentId)).getLast? with
    | some existing =>
      if existing.parentAgentId ≠ "" ∧ existing.parentAgentId ≠ relationship.parentAgentId then
        .error "A delegation forest agent cannot have multiple parents."
      else .ok ()
    | none => .ok ()

def checkRelationships (agentIds : List String) :
    List AgentRelationship → List AgentRelationship → Except String Unit
  | _, [] => .ok ()
  | before, relationship :: rest => do
    checkRelationship agentIds before relationship
    checkRelationships agentIds (before ++ [relationship]) rest

/-- The graph `assertNoCycles` visits. -/
def delegationGraph : Digraph.Graph String AgentRelationship where
  declared := agentIds
  edgesOf agentId := active.filter (·.parentAgentId = agentId)
  target := (·.childAgentId)

def assertNoCycles : Except String Unit :=
  require ((delegationGraph agentIds active).visitAll (fun _ _ _ => true) false = false)
    "Delegation forest contains a cycle."

def compareRelationships : AgentRelationship → AgentRelationship → Int :=
  thenBy (on platform.localeCompare (·.parentAgentId))
    (thenBy (on platform.localeCompare (·.childAgentId))
      (on platform.localeCompare (·.edgeId)))

def compareAgents : DelegationForestAgent Rest → DelegationForestAgent Rest → Int :=
  on platform.localeCompare (·.agentId)

def sortedChildren (parentAgentId : String) : List String :=
  sortStrings ((active.filter (·.parentAgentId = parentAgentId)).map (·.childAgentId)).dedup

def directChildren : List (String × List String) :=
  (sort platform.localeCompare (active.map (·.parentAgentId)).dedup).map
    fun parentAgentId => (parentAgentId, sortedChildren active parentAgentId)

def rootAgentIds : List String :=
  sortStrings (agentIds.filter fun agentId => agentId ∉ active.map (·.childAgentId))

variable (rootAgentId : String)

section

variable (agents : List (DelegationForestAgent Rest))

def forestSnapshot (active : List AgentRelationship) : DelegationForestSnapshot Rest :=
  let relationships := sort (compareRelationships platform) active
  let sortedAgents := sort (compareAgents platform) agents
  { rootAgentId
    agents := sortedAgents
    relationships
    rootAgentIds := rootAgentIds (agents.map (·.agentId)) active
    directChildAgentIdsByParent := directChildren platform active
    snapshotFingerprint := "sha256:" ++ platform.snapshotHash rootAgentId sortedAgents relationships }

def checkRootAgent : Except String Unit :=
  require (∃ rootAgent ∈ agentById agents rootAgentId, rootAgent.agentType = .knowbee)
    "Root agent must exist and have knowbee agent type."

def checkAgentNames : Except String Unit :=
  match findAgentNameNamespaceConflict platform [] agents with
  | some normalizedAgentName =>
    .error ("Agent name must be unique: " ++ normalizedAgentName ++ ".")
  | none => .ok ()

def checkAgents : Except String Unit := do
  checkAgentIds [] agents
  checkRootAgent rootAgentId agents
  checkAgentNames platform agents

def checkForest (agentIds : List String) (active : List AgentRelationship) :
    Except String Unit := do
  checkRelationships agentIds [] active
  require (rootAgentId ∉ active.map (·.childAgentId)) "The main root agent must remain parentless."
  assertNoCycles agentIds active

def validateDelegationForestSnapshot (relationships : List AgentRelationship) :
    Except String (DelegationForestSnapshot Rest) := do
  let rootAgentId ← requireText rootAgentId "Root agent ID"
  require (agents ≠ []) "Delegation forest requires at least one agent."
  let agents ← forestAgents agents
  checkAgents platform rootAgentId agents
  checkForest rootAgentId (agents.map (·.agentId)) (activeOnly relationships)
  return forestSnapshot platform rootAgentId agents (activeOnly relationships)

end

end

inductive DelegationForestDenialReason where
  | snapshotFingerprintMismatch | callerUnknown | targetUnknown | callerInactive | targetInactive
  | targetNotDirectChild | delegationDisabled | redelegationDenied | directChildPolicyRequired
  | targetNotAllowed

inductive DelegationForestAuthorization where
  | allowed (authorizationReceiptId snapshotFingerprint callerAgentName targetAgentName : String)
  | denied (reasonCode : DelegationForestDenialReason)

def inheritedNames : List String :=
  ["__defineGetter__", "__defineSetter__", "__lookupGetter__", "__lookupSetter__", "__proto__",
    "constructor", "hasOwnProperty", "isPrototypeOf", "propertyIsEnumerable", "toLocaleString",
    "toString", "valueOf"]

/-- The children of a caller in a snapshot; where the caller has none and is named like
what every object inherits, looking for a child in that throws. -/
def snapshotChildren (snapshot : DelegationForestSnapshot Rest) (callerAgentId : String) :
    Option (List String) :=
  match snapshot.directChildAgentIdsByParent.find? (·.1 = callerAgentId) with
  | some entry => some entry.2
  | none => if callerAgentId ∈ inheritedNames then none else some []

/-- The reason the policy of a caller denies a target, if it does. -/
def policyDenial (caller : DelegationForestAgent Rest) (targetAgentId : String) :
    Option DelegationForestDenialReason :=
  match caller.agentType, caller.delegationPolicy with
  | .knowbee, _ => none
  | .subAgent, none => some .delegationDisabled
  | .subAgent, some policy =>
    if ¬policy.enabled then some .delegationDisabled
    else if policy.redelegationAllowed ≠ some true then some .redelegationDenied
    else if policy.directChildOnly ≠ some true then some .directChildPolicyRequired
    else if ∃ allowed ∈ policy.allowedChildAgentIds, targetAgentId ∉ allowed then
      some .targetNotAllowed
    else none

/-- `authorizeDelegationInForest`; nothing where it throws. -/
def authorizeDelegationInForest (platform : ForestPlatform Rest)
    (snapshot : DelegationForestSnapshot Rest)
    (expectedSnapshotFingerprint callerAgentId targetAgentId : String) :
    Option DelegationForestAuthorization :=
  if expectedSnapshotFingerprint ≠ snapshot.snapshotFingerprint then
    some (.denied .snapshotFingerprintMismatch)
  else
    match agentById snapshot.agents callerAgentId, agentById snapshot.agents targetAgentId with
    | none, _ => some (.denied .callerUnknown)
    | some _, none => some (.denied .targetUnknown)
    | some caller, some target =>
      if caller.status ≠ .enabled then some (.denied .callerInactive)
      else if target.status ≠ .enabled then some (.denied .targetInactive)
      else
        match snapshotChildren snapshot caller.agentId with
        | none => none
        | some children =>
          if target.agentId ∉ children then some (.denied .targetNotDirectChild)
          else
            match policyDenial caller target.agentId with
            | some reasonCode => some (.denied reasonCode)
            | none =>
              some (.allowed
                ("delegation-forest:" ++ String.ofList ((platform.receiptHash
                  snapshot.snapshotFingerprint caller.agentId target.agentId).toList.take 24))
                snapshot.snapshotFingerprint caller.agentName target.agentName)

end

end Knowbee.Delegation
