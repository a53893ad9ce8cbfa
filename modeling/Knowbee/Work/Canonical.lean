import Knowbee.JavaScript

/-!
# The canonical work aggregate

Work moves between its states along the edges of one table, and its aggregate keeps the receipt of
every move.  The use case loads an aggregate, applies one event to it and saves the result by
compare-and-swap; the repository replays the receipts of whatever it reads or writes.
-/

namespace Knowbee.Work

inductive CanonicalWorkState where
  | requestReceived | solutionAnalyzed | policyValidated | executing | awaitingApproval
  | resultReview | succeeded | partiallySucceeded | userInputRequired | blocked | exhausted
  | cancelled | userReport
  deriving DecidableEq

inductive CanonicalWorkEvent where
  | diagnosisAccepted | analysisRevised | policyAllowed | executionStarted | approvalRequested
  | approvalConsumed | approvalDeniedOrExpired | attemptRecorded | allCriteriaVerified
  | someCriteriaVerified | recoveryAccepted | inputRequired | userInputReceived | policyBlocked
  | resultBlocked | pathsExhausted | userCancelled | reportDelivered

def canonicalWorkTransitions : CanonicalWorkState → CanonicalWorkEvent → Option CanonicalWorkState
  | .requestReceived, .diagnosisAccepted => some .solutionAnalyzed
  | .requestReceived, .inputRequired => some .userInputRequired
  | .requestReceived, .userCancelled => some .cancelled
  | .solutionAnalyzed, .analysisRevised => some .solutionAnalyzed
  | .solutionAnalyzed, .policyAllowed => some .policyValidated
  | .solutionAnalyzed, .inputRequired => some .userInputRequired
  | .solutionAnalyzed, .policyBlocked => some .blocked
  | .solutionAnalyzed, .userCancelled => some .cancelled
  | .policyValidated, .executionStarted => some .executing
  | .policyValidated, .inputRequired => some .userInputRequired
  | .policyValidated, .policyBlocked => some .blocked
  | .policyValidated, .userCancelled => some .cancelled
  | .executing, .approvalRequested => some .awaitingApproval
  | .executing, .attemptRecorded => some .resultReview
  | .executing, .inputRequired => some .userInputRequired
  | .executing, .policyBlocked => some .blocked
  | .executing, .userCancelled => some .cancelled
  | .awaitingApproval, .approvalConsumed => some .executing
  | .awaitingApproval, .approvalDeniedOrExpired => some .blocked
  | .awaitingApproval, .userCancelled => some .cancelled
  | .resultReview, .allCriteriaVerified => some .succeeded
  | .resultReview, .someCriteriaVerified => some .partiallySucceeded
  | .resultReview, .recoveryAccepted => some .solutionAnalyzed
  | .resultReview, .inputRequired => some .userInputRequired
  | .resultReview, .policyBlocked => some .blocked
  | .resultReview, .resultBlocked => some .blocked
  | .resultReview, .pathsExhausted => some .exhausted
  | .resultReview, .userCancelled => some .cancelled
  | .succeeded, .reportDelivered => some .userReport
  | .partiallySucceeded, .recoveryAccepted => some .solutionAnalyzed
  | .partiallySucceeded, .reportDelivered => some .userReport
  | .partiallySucceeded, .userCancelled => some .cancelled
  | .userInputRequired, .userInputReceived => some .solutionAnalyzed
  | .userInputRequired, .userCancelled => some .cancelled
  | .blocked, .reportDelivered => some .userReport
  | .exhausted, .reportDelivered => some .userReport
  | .cancelled, .reportDelivered => some .userReport
  | _, _ => none

/-- The reasons for which an event is not accepted. -/
inductive TransitionRefusal where
  | receiptRequired | transitionNotAllowed | terminalStateLocked

inductive CanonicalWorkTransitionDecision where
  | accepted (previousState : CanonicalWorkState) (event : CanonicalWorkEvent)
      (nextState : CanonicalWorkState) (receiptRef : String)
  | refused (currentState : CanonicalWorkState) (event : CanonicalWorkEvent)
      (reasonCode : TransitionRefusal)

def transitionCanonicalWorkState (currentState : CanonicalWorkState) (event : CanonicalWorkEvent)
    (receiptRef : String) : CanonicalWorkTransitionDecision :=
  if jsTrim receiptRef = "" then .refused currentState event .receiptRequired
  else if currentState = .userReport then .refused currentState event .terminalStateLocked
  else match canonicalWorkTransitions currentState event with
    | none => .refused currentState event .transitionNotAllowed
    | some nextState => .accepted currentState event nextState (jsTrim receiptRef)

lemma transition_accepted {currentState previousState nextState : CanonicalWorkState}
    {event event' : CanonicalWorkEvent} {receiptRef receiptRef' : String}
    (accepted : transitionCanonicalWorkState currentState event receiptRef =
      .accepted previousState event' nextState receiptRef') :
    previousState = currentState ∧ event' = event ∧ receiptRef' = jsTrim receiptRef ∧
      jsTrim receiptRef ≠ "" ∧ currentState ≠ .userReport ∧
      canonicalWorkTransitions currentState event = some nextState := by
  unfold transitionCanonicalWorkState at accepted
  by_cases blank : jsTrim receiptRef = ""
  · rw [if_pos blank] at accepted
    cases accepted
  rw [if_neg blank] at accepted
  by_cases final : currentState = .userReport
  · rw [if_pos final] at accepted
    cases accepted
  rw [if_neg final] at accepted
  cases edge : canonicalWorkTransitions currentState event with
  | none =>
    rw [edge] at accepted
    cases accepted
  | some next =>
    rw [edge] at accepted
    cases accepted
    exact ⟨rfl, rfl, rfl, blank, final, rfl⟩

lemma no_edge_of_userReport (event : CanonicalWorkEvent) :
    canonicalWorkTransitions .userReport event = none := by
  cases event <;> rfl

structure CanonicalWorkTransitionReceipt where
  revision : Nat
  event : CanonicalWorkEvent
  (previousState nextState : CanonicalWorkState)
  receiptRef : String

structure CanonicalWorkAggregate where
  (workId rootRunId : String)
  state : CanonicalWorkState
  revision : Nat
  transitions : List CanonicalWorkTransitionReceipt

inductive CanonicalWorkAggregateTransitionResult where
  | applied (aggregate : CanonicalWorkAggregate) (receipt : CanonicalWorkTransitionReceipt)
  | staleRevision (currentRevision : Nat)
  | refused (reasonCode : TransitionRefusal)

def required (value field : String) : Except String String :=
  if jsTrim value = "" then .error (field ++ " is required.") else .ok (jsTrim value)

/-- `revision`: a number that is a non-negative safe integer. -/
def revision (value : JsNumber) (field : String) : Except String Nat :=
  match value with
  | .finite number =>
    if number.isInt ∧ isSafeInteger number.num ∧ 0 ≤ number.num then .ok number.num.toNat
    else .error (field ++ " must be a non-negative integer.")
  | _ => .error (field ++ " must be a non-negative integer.")

def createCanonicalWorkAggregate (workId rootRunId : String) :
    Except String CanonicalWorkAggregate := do
  let workId ← required workId "Work ID"
  let rootRunId ← required rootRunId "Root run ID"
  return {
    workId
    rootRunId
    state := .requestReceived
    revision := 0
    transitions := []
  }

def applyCanonicalWorkEvent (aggregate : CanonicalWorkAggregate) (expectedRevision : JsNumber)
    (event : CanonicalWorkEvent) (receiptRef : String) :
    Except String CanonicalWorkAggregateTransitionResult := do
  let expectedRevision ← revision expectedRevision "Expected revision"
  if expectedRevision ≠ aggregate.revision then return .staleRevision aggregate.revision
  match transitionCanonicalWorkState aggregate.state event receiptRef with
  | .refused _ _ reasonCode => return .refused reasonCode
  | .accepted previousState event nextState receiptRef =>
    let receipt : CanonicalWorkTransitionReceipt := {
      revision := aggregate.revision + 1
      event
      previousState
      nextState
      receiptRef
    }
    return .applied
      { aggregate with
        state := nextState
        revision := receipt.revision
        transitions := aggregate.transitions ++ [receipt] }
      receipt

inductive CanonicalWaitingKind where
  | approval
  | userInput

inductive CanonicalFinalOutcome where
  | succeeded | partially | blocked | exhausted | cancelled

inductive ProjectedRunStatus where
  | queued | running | awaitingApproval | awaitingUser | completed | failed | cancelled

structure CanonicalRunStatusProjection where
  canonicalState : CanonicalWorkState
  runStatus : ProjectedRunStatus

inductive ProjectionRefusal where
  | waitingKindRequired
  | finalReportOutcomeRequired

def projectCanonicalWorkStateToRunStatus (state : CanonicalWorkState)
    (waitingKind : Option CanonicalWaitingKind) (finalOutcome : Option CanonicalFinalOutcome) :
    Except ProjectionRefusal CanonicalRunStatusProjection :=
  match state with
  | .requestReceived => .ok ⟨state, .queued⟩
  | .solutionAnalyzed | .policyValidated | .executing | .resultReview | .succeeded
  | .partiallySucceeded | .blocked | .exhausted => .ok ⟨state, .running⟩
  | .awaitingApproval => .ok ⟨state, .awaitingApproval⟩
  | .userInputRequired =>
    match waitingKind with
    | none => .error .waitingKindRequired
    | some .approval => .ok ⟨state, .awaitingApproval⟩
    | some .userInput => .ok ⟨state, .awaitingUser⟩
  | .cancelled => .ok ⟨state, .cancelled⟩
  | .userReport =>
    match finalOutcome with
    | none => .error .finalReportOutcomeRequired
    | some .succeeded | some .partially => .ok ⟨state, .completed⟩
    | some .cancelled => .ok ⟨state, .cancelled⟩
    | some .blocked | some .exhausted => .ok ⟨state, .failed⟩

/-- `CanonicalWorkPersistenceCorruptionError`. -/
def corrupt : String := "Canonical work persistence is corrupt."

/-- The receipts that replaying finds, from a state and a number of receipts on,
and the state they lead to. -/
def replay : CanonicalWorkState → Nat → List CanonicalWorkTransitionReceipt →
    Except String (CanonicalWorkState × List CanonicalWorkTransitionReceipt)
  | state, _, [] => .ok (state, [])
  | state, index, item :: rest =>
    if item.revision ≠ index + 1 ∨ item.previousState ≠ state then .error corrupt
    else match transitionCanonicalWorkState state item.event item.receiptRef with
      | .refused _ _ _ => .error corrupt
      | .accepted previousState event nextState receiptRef =>
        if item.nextState ≠ nextState then .error corrupt
        else do
          let (last, receipts) ← replay nextState (index + 1) rest
          return (last, ⟨index + 1, event, previousState, nextState, receiptRef⟩ :: receipts)

def parseAggregate (row : CanonicalWorkAggregate) : Except String CanonicalWorkAggregate :=
  if jsTrim row.workId = "" ∨ jsTrim row.rootRunId = "" then .error corrupt
  else if ¬isSafeInteger row.revision then .error corrupt
  else if row.transitions.length ≠ row.revision then .error corrupt
  else do
    let (state, transitions) ← replay .requestReceived 0 row.transitions
    if state ≠ row.state then .error corrupt
    return { row with state, transitions }

abbrev CanonicalWorkRows : Type := String → Option CanonicalWorkAggregate

namespace CanonicalWorkRows

def write (rows : CanonicalWorkRows) (row : CanonicalWorkAggregate) : CanonicalWorkRows :=
  Function.update rows row.workId (some row)

def create (rows : CanonicalWorkRows) (aggregate : CanonicalWorkAggregate) :
    Except String (CanonicalWorkRows × Bool) := do
  let _ ← parseAggregate aggregate
  if aggregate.revision ≠ 0 ∨ aggregate.state ≠ .requestReceived then .error corrupt
  match rows aggregate.workId with
  | none => return (rows.write aggregate, true)
  | some _ => return (rows, false)

def load (rows : CanonicalWorkRows) (workId : String) :
    Except String (Option CanonicalWorkAggregate) :=
  match rows workId with
  | none => .ok none
  | some row => (parseAggregate row).map some

end CanonicalWorkRows

inductive SaveAnswer where
  | saved
  | revisionConflict (currentRevision : Nat)

def CanonicalWorkRows.save (rows : CanonicalWorkRows) (aggregate : CanonicalWorkAggregate)
    (expectedRevision : Nat) : Except String (CanonicalWorkRows × SaveAnswer) := do
  let _ ← parseAggregate aggregate
  if aggregate.revision ≠ expectedRevision + 1 then .error corrupt
  match rows aggregate.workId with
  | none => return (rows, .revisionConflict expectedRevision)
  | some row =>
    if row.revision = expectedRevision then
      -- the update leaves the column of the root run as it is
      return (rows.write { aggregate with rootRunId := row.rootRunId }, .saved)
    else return (rows, .revisionConflict row.revision)

structure CanonicalWorkTransitionUseCaseInput where
  workId : String
  expectedRevision : JsNumber
  event : CanonicalWorkEvent
  receiptRef : String
  waitingKind : Option CanonicalWaitingKind
  finalOutcome : Option CanonicalFinalOutcome

inductive UseCaseRefusal where
  | aggregateNotFound
  | aggregateIdentityMismatch
  | staleRevision (currentRevision : Nat)
  | transition (reasonCode : TransitionRefusal)
  | projection (reasonCode : ProjectionRefusal)

inductive CanonicalWorkTransitionUseCaseResult where
  | applied (aggregate : CanonicalWorkAggregate) (runProjection : CanonicalRunStatusProjection)
  | rejected (reasonCode : UseCaseRefusal)
  | conflict (currentRevision : Nat)

structure PendingSave where
  aggregate : CanonicalWorkAggregate
  expectedRevision : Nat
  projection : CanonicalRunStatusProjection

/-- `executeCanonicalWorkTransition` on what it has loaded, up to its save. -/
def decideCanonicalWorkTransition (current : Option CanonicalWorkAggregate)
    (input : CanonicalWorkTransitionUseCaseInput) :
    Except String (CanonicalWorkTransitionUseCaseResult ⊕ PendingSave) :=
  match current with
  | none => .ok (.inl (.rejected .aggregateNotFound))
  | some current =>
    if current.workId ≠ input.workId then .ok (.inl (.rejected .aggregateIdentityMismatch))
    else match applyCanonicalWorkEvent current input.expectedRevision input.event
        input.receiptRef with
      | .error thrown => .error thrown
      | .ok (.staleRevision currentRevision) =>
        .ok (.inl (.rejected (.staleRevision currentRevision)))
      | .ok (.refused reasonCode) => .ok (.inl (.rejected (.transition reasonCode)))
      | .ok (.applied aggregate _) =>
        match projectCanonicalWorkStateToRunStatus aggregate.state input.waitingKind
            input.finalOutcome with
        | .error reasonCode => .ok (.inl (.rejected (.projection reasonCode)))
        | .ok projection =>
          .ok (.inr { aggregate, expectedRevision := current.revision, projection })

def PendingSave.answer (pending : PendingSave) : SaveAnswer → CanonicalWorkTransitionUseCaseResult
  | .saved => .applied pending.aggregate pending.projection
  | .revisionConflict currentRevision => .conflict currentRevision

end Knowbee.Work
