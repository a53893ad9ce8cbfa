import Knowbee.JavaScript

/-!
# Relationships of agents

The contract of `sub-agent-orchestration.ts` for a relationship of two agents.  A
value that is not one of an enumeration is its case `other`.
-/

namespace Knowbee.Delegation

inductive AgentRelationshipStatus where
  | active | disabled | archived | other
  deriving DecidableEq

inductive RelationshipType where
  | parentChild
  | other
  deriving DecidableEq

structure AgentRelationship where
  (edgeId parentAgentId childAgentId : String)
  relationshipType : RelationshipType
  status : AgentRelationshipStatus
  sortOrder : JsNumber
  (createdAt updatedAt : Option Int)

structure ContractIssue where
  (path message : String)

/-- `hasNonEmptyString`: what it reports of a text. -/
def hasNonEmptyString (value key : String) : List ContractIssue :=
  if jsTrim value ≠ "" then [] else [⟨"$." ++ key, key ++ " must be a non-empty string."⟩]

def isFiniteFromZero : JsNumber → Bool
  | .finite value => 0 ≤ value
  | _ => false

def validateAgentRelationship (value : AgentRelationship) : List ContractIssue :=
  hasNonEmptyString value.edgeId "edgeId" ++
    hasNonEmptyString value.parentAgentId "parentAgentId" ++
    hasNonEmptyString value.childAgentId "childAgentId" ++
    (if value.relationshipType ≠ .parentChild then
      [⟨"$.relationshipType", "relationshipType must be parent_child."⟩] else []) ++
    (if value.parentAgentId = value.childAgentId then
      [⟨"$.childAgentId", "parentAgentId and childAgentId must be different."⟩] else []) ++
    (if value.status = .other then
      [⟨"$.status", "status must be active, disabled, or archived."⟩] else []) ++
    (if isFiniteFromZero value.sortOrder then []
    else [⟨"$.sortOrder", "sortOrder must be a finite number greater than or equal to 0."⟩])

structure AgentRelationship.Valid (value : AgentRelationship) : Prop where
  edgeId : jsTrim value.edgeId ≠ ""
  parentAgentId : jsTrim value.parentAgentId ≠ ""
  childAgentId : jsTrim value.childAgentId ≠ ""
  relationshipType : value.relationshipType = .parentChild
  different : value.parentAgentId ≠ value.childAgentId
  status : value.status ≠ .other
  sortOrder : isFiniteFromZero value.sortOrder

lemma hasNonEmptyString_eq_nil {value key : String} :
    hasNonEmptyString value key = [] ↔ jsTrim value ≠ "" := by
  unfold hasNonEmptyString
  split_ifs with text
  · simp [text]
  · simp [text]

lemma validateAgentRelationship_eq_nil {value : AgentRelationship} :
    validateAgentRelationship value = [] ↔ value.Valid := by
  unfold validateAgentRelationship
  simp only [List.append_eq_nil_iff, hasNonEmptyString_eq_nil, ite_eq_right_iff, ite_eq_left_iff,
    imp_false, not_not, List.cons_ne_nil]
  constructor
  · rintro ⟨⟨⟨⟨⟨⟨edgeId, parent⟩, child⟩, type⟩, different⟩, status⟩, sortOrder⟩
    exact ⟨edgeId, parent, child, type, different, status, sortOrder⟩
  · rintro ⟨edgeId, parent, child, type, different, status, sortOrder⟩
    exact ⟨⟨⟨⟨⟨⟨edgeId, parent⟩, child⟩, type⟩, different⟩, status⟩, sortOrder⟩

variable (relationships : List AgentRelationship)

def activeOnly : List AgentRelationship := relationships.filter (·.status = .active)

def EdgeOf (parent child : String) : Prop :=
  ∃ relationship ∈ relationships, relationship.status = .active ∧
    relationship.parentAgentId = parent ∧ relationship.childAgentId = child

def SingleParent : Prop :=
  ∀ first second child, EdgeOf relationships first child → EdgeOf relationships second child →
    first = second

end Knowbee.Delegation
