import Knowbee.Lib.Call
import Knowbee.SubSession.Group

/-!
# The call of a sub-session

`runSubSession` of `sub-session-runner.ts`, from the insertion of its record on.  Between any two
operations the controller may be aborted and the handler may emit progress, also after it has
returned.  An operation that throws does so because the choice of the environment says so; what is
recorded safely, by a function that catches, is left out.
-/

namespace Knowbee

variable {R : Type}

/-- What is thrown; `isAbortLike` of it is all that matters. -/
structure ThrownError where
  abortLike : Bool
  deriving DecidableEq

/-- The record of the sub-session in memory and the statuses that were stored,
and the controller of the call. -/
structure SubSessionWorld where
  status : SubSessionStatus
  persisted : List SubSessionStatus
  (listening aborted handlerCalled : Bool)

namespace SubSessionWorld

def created : SubSessionWorld := ⟨.created, [.created], false, false, false⟩

/-- `changeStatus`: `transitionSubSessionStatus`, then `updateSubSession`, which
fails when it is said to. -/
def changeStatus (world : SubSessionWorld) (target : SubSessionStatus)
    (updateFails : Option ThrownError) : Except ThrownError Unit × SubSessionWorld :=
  if !world.status.canTransition target then (.error ⟨false⟩, world)
  else
    match updateFails with
    | some error => (.error error, { world with status := target })
    | none => (.ok (), { world with status := target, persisted := world.persisted ++ [target] })

/-- What is done to a call from outside: an abort that the controller hears, or
progress with another status than the current one. -/
inductive Interference where
  | abort
  | emitProgress (status : SubSessionStatus) (updateFails : Option ThrownError)

def interfere (world : SubSessionWorld) : Interference → SubSessionWorld
  | .abort => { world with aborted := world.aborted || world.listening }
  | .emitProgress status updateFails =>
    if world.handlerCalled ∧ status ≠ world.status then (world.changeStatus status updateFails).2
    else world

end SubSessionWorld

inductive ReviewStatus where
  | completed | needsRevision | failed
  deriving DecidableEq

def ReviewStatus.status : ReviewStatus → SubSessionStatus
  | .completed => .completed
  | .needsRevision => .needsRevision
  | .failed => .failed

/-- What is read of a `SubAgentResultReview`. -/
structure SubAgentResultReview where
  status : ReviewStatus
  (verdict parentIntegrationStatus : String)
  feedbackRequested : Bool
  deriving DecidableEq

inductive ParentEvent where
  | created | handoff | queued | modelResolved | started | progressSummary
  | lateResultSuppressed
  | resultDiagnosisBlocked (detail : String)
  | childResultReceived | aggregationStarted
  | reviewVerdict (verdict parentIntegrationStatus : String)
  | result (status : SubSessionStatus)
  | resultSuppressed | feedbackRequested
  | cancelled
  | failed (reasonCode : String)
  | postTerminalError (reasonCode : String)

inductive LedgerEvent where
  | created | completed | failed | resultSuppressed | progressSummarized

/-- Whether what is thrown is caught by the `try` block of the call. -/
inductive Place where
  | guarded
  | unguarded

/-- The operations of a call; `cancelIfAborted` and `enterCatch` look at the
controller and the status and change the status before anything else happens. -/
inductive RunnerOp where
  | appendParentEvent (place : Place) (event : ParentEvent)
  | recordLedgerEvent (place : Place) (event : LedgerEvent)
  | flushProgress
  | changeStatus (target : SubSessionStatus)
  | parentAborted
  | isParentCancelled
  | listen
  | callHandler
  | awaitHandler
  | cancelIfAborted
  | isParentFinalized
  | reviewResultReport
  | auditResult
  | aggregate
  | enterCatch (error : ThrownError)
  | readStatus

/-- What the `catch` block does first. -/
inductive CatchDecision where
  | cancelling (changed : Except ThrownError Unit)
  | terminal (status : SubSessionStatus)
  | failing (changed : Except ThrownError Unit)

/-- `auditResult` answers why a result is not valid, if it is not. -/
def RunnerAns (R : Type) : RunnerOp → Type
  | .appendParentEvent _ _ => Except ThrownError Unit
  | .recordLedgerEvent _ _ => Except ThrownError Unit
  | .flushProgress => Bool
  | .changeStatus _ => Except ThrownError Unit
  | .parentAborted => Bool
  | .isParentCancelled => Except ThrownError Bool
  | .listen => Unit
  | .callHandler => Unit
  | .awaitHandler => Except ThrownError R
  | .cancelIfAborted => Option (Except ThrownError Unit)
  | .isParentFinalized => Except ThrownError Bool
  | .reviewResultReport => Except ThrownError SubAgentResultReview
  | .auditResult => Except ThrownError (Option String)
  | .aggregate => Except ThrownError Unit
  | .enterCatch _ => CatchDecision
  | .readStatus => SubSessionStatus

/-- What the environment decides: what it does before an operation, whether the
operation throws, and what it answers. -/
structure RunnerChoice (R : Type) where
  meanwhile : List SubSessionWorld.Interference
  (throws updateFails : Option ThrownError)
  answer : Bool
  result : R
  review : SubAgentResultReview
  auditFailure : Option String

def throwOr {α : Type} (throws : Option ThrownError) (value : α) : Except ThrownError α :=
  match throws with
  | some error => .error error
  | none => .ok value

namespace SubSessionWorld

/-- The world as an operation finds it. -/
def meanwhile (world : SubSessionWorld) (choice : RunnerChoice R) : SubSessionWorld :=
  choice.meanwhile.foldl interfere world

def perform (choice : RunnerChoice R) (world : SubSessionWorld) :
    (op : RunnerOp) → RunnerAns R op × SubSessionWorld
  | .appendParentEvent _ _ => (throwOr choice.throws (), world)
  | .recordLedgerEvent _ _ => (throwOr choice.throws (), world)
  | .flushProgress => (choice.answer, world)
  | .changeStatus target => world.changeStatus target choice.updateFails
  | .parentAborted => (choice.answer, world)
  | .isParentCancelled => (throwOr choice.throws choice.answer, world)
  | .listen => ((), { world with listening := true })
  | .callHandler => ((), { world with handlerCalled := true })
  | .awaitHandler => (throwOr choice.throws choice.result, world)
  | .cancelIfAborted =>
    if world.aborted then
      let (changed, world) := world.changeStatus .cancelled choice.updateFails
      (some changed, world)
    else (none, world)
  | .isParentFinalized => (throwOr choice.throws choice.answer, world)
  | .reviewResultReport => (throwOr choice.throws choice.review, world)
  | .auditResult => (throwOr choice.throws choice.auditFailure, world)
  | .aggregate => (throwOr choice.throws (), world)
  | .enterCatch error =>
    if world.aborted ∨ error.abortLike then
      let (changed, world) := world.changeStatus .cancelled choice.updateFails
      (.cancelling changed, world)
    else if world.status ∈ [.completed, .failed, .cancelled] then (.terminal world.status, world)
    else
      let (changed, world) := world.changeStatus .failed choice.updateFails
      (.failing changed, world)
  | .readStatus => (world.status, world)

def handle (choice : RunnerChoice R) (world : SubSessionWorld) (op : RunnerOp) :
    RunnerAns R op × SubSessionWorld :=
  (world.meanwhile choice).perform choice op

end SubSessionWorld

structure SubSessionErrorReport where
  reasonCode : String
  retryable : Bool
  deriving DecidableEq

structure SubSessionRunDetails (R : Type) where
  resultReport : Option R
  review : Option SubAgentResultReview
  errorReport : Option SubSessionErrorReport
  suppressionReasonCode : Option String
  deriving DecidableEq

abbrev RunnerOutcome (R : Type) : Type := SubSessionRunOutcome (SubSessionRunDetails R)

abbrev RunnerProg (R α : Type) : Type := Throwing RunnerOp (RunnerAns R) ThrownError α

namespace SubSessionRunner

def runnerStep (op : RunnerOp) : RunnerProg R (RunnerAns R op) := .perform op

def appendParentEvent (place : Place) (event : ParentEvent) : RunnerProg R Unit :=
  .attempt (.appendParentEvent place event) id

def recordLedgerEvent (place : Place) (event : LedgerEvent) : RunnerProg R Unit :=
  .attempt (.recordLedgerEvent place event) id

def changeStatus (target : SubSessionStatus) : RunnerProg R Unit :=
  .attempt (.changeStatus target) id

/-- `flushProgressBatch`: an event and an entry of the ledger when there is a batch. -/
def flushProgressBatch (place : Place) : RunnerProg R Unit := do
  let batch : Bool ← runnerStep .flushProgress
  if batch then
    appendParentEvent place .progressSummary
    recordLedgerEvent place .progressSummarized

/-- What follows the change to `cancelled`, before the start and after. -/
def finishCancelled (place : Place) (reasonCode : String) : RunnerProg R (RunnerOutcome R) := do
  flushProgressBatch place
  appendParentEvent place .cancelled
  recordLedgerEvent place .failed
  return ⟨.cancelled, none, none, some ⟨reasonCode, false⟩, none⟩

def cancelBeforeStart : RunnerProg R (RunnerOutcome R) := do
  changeStatus .cancelled
  finishCancelled .unguarded "parent_run_cancelled"

def executeWithModelPolicy (hasModelSnapshot : Bool) : RunnerProg R R := do
  if hasModelSnapshot then
    let _ : Unit ← runnerStep .callHandler
    let result ← .attempt .awaitHandler id
    recordLedgerEvent .guarded .completed
    return result
  else throw ⟨false⟩

/-- The end of a call whose parent has its final answer. -/
def suppressLateResult : RunnerProg R (RunnerOutcome R) := do
  changeStatus .completed
  flushProgressBatch .guarded
  appendParentEvent .guarded .lateResultSuppressed
  recordLedgerEvent .guarded .resultSuppressed
  let status : SubSessionStatus ← runnerStep .readStatus
  return ⟨status, none, none, none, some "parent_finalized"⟩

/-- The end of a call whose result has no valid diagnosis. -/
def blockResult (result : R) (review : SubAgentResultReview) (detail : String) :
    RunnerProg R (RunnerOutcome R) := do
  changeStatus .failed
  flushProgressBatch .guarded
  appendParentEvent .guarded (.resultDiagnosisBlocked detail)
  recordLedgerEvent .guarded .failed
  return ⟨.failed, some result, some review, some ⟨"result_diagnosis_required", true⟩, none⟩

/-- The end of a call whose result goes to the parent. -/
def integrateResult (result : R) (review : SubAgentResultReview) :
    RunnerProg R (RunnerOutcome R) := do
  changeStatus review.status.status
  flushProgressBatch .guarded
  appendParentEvent .guarded (.reviewVerdict review.verdict review.parentIntegrationStatus)
  .attempt .aggregate id
  appendParentEvent .guarded (.result review.status.status)
  recordLedgerEvent .guarded (if review.status = .failed then .failed else .completed)
  recordLedgerEvent .guarded .resultSuppressed
  appendParentEvent .guarded .resultSuppressed
  if review.feedbackRequested then appendParentEvent .guarded .feedbackRequested
  let status : SubSessionStatus ← runnerStep .readStatus
  return ⟨status, some result, some review, none, none⟩

/-- The `try` block. -/
def execute (hasModelSnapshot : Bool) : RunnerProg R (RunnerOutcome R) := do
  changeStatus .running
  appendParentEvent .guarded .started
  let result ← executeWithModelPolicy hasModelSnapshot
  let cancelled : Option (Except ThrownError Unit) ← runnerStep .cancelIfAborted
  match cancelled with
  | some (.error error) => throw error
  | some (.ok _) => finishCancelled .guarded "sub_session_cancelled"
  | none =>
    if ← .attempt .isParentFinalized id then suppressLateResult
    else
      let review ← .attempt .reviewResultReport id
      match ← .attempt .auditResult id with
      | some detail => blockResult result review detail
      | none => integrateResult result review

/-- The `catch` block. -/
def handleError (error : ThrownError) : RunnerProg R (RunnerOutcome R) := do
  let decision : CatchDecision ← runnerStep (.enterCatch error)
  match decision with
  | .cancelling (.error error) => throw error
  | .cancelling (.ok _) => finishCancelled .unguarded "sub_session_cancelled"
  | .terminal _ =>
    appendParentEvent .unguarded (.postTerminalError "sub_session_handler_error")
    let status : SubSessionStatus ← runnerStep .readStatus
    return ⟨status, none, none, some ⟨"sub_session_handler_error", true⟩, none⟩
  | .failing (.error error) => throw error
  | .failing (.ok _) =>
    flushProgressBatch .unguarded
    appendParentEvent .unguarded (.failed "sub_session_handler_error")
    recordLedgerEvent .unguarded .failed
    return ⟨.failed, none, none, some ⟨"sub_session_handler_error", true⟩, none⟩

/-- The part of `runSubSession` from the insertion of its record on. -/
def runCreated (hasModelSnapshot : Bool) : RunnerProg R (RunnerOutcome R) := do
  appendParentEvent .unguarded .created
  appendParentEvent .unguarded .handoff
  recordLedgerEvent .unguarded .created
  changeStatus .queued
  appendParentEvent .unguarded .queued
  if hasModelSnapshot then appendParentEvent .unguarded .modelResolved
  let aborted : Bool ← runnerStep .parentAborted
  let cancelled ← if aborted then pure true else .attempt .isParentCancelled id
  if cancelled then cancelBeforeStart
  else
    let _ : Unit ← runnerStep .listen
    tryCatch (execute hasModelSnapshot) handleError

end SubSessionRunner

/-- A call with its record inserted, in its environment. -/
abbrev SubSessionCall (R : Type) : Type :=
  Call SubSessionWorld RunnerOp (RunnerAns R) (Except ThrownError (RunnerOutcome R))

def SubSessionCall.start (R : Type) (hasModelSnapshot : Bool) : SubSessionCall R :=
  (.created, (SubSessionRunner.runCreated hasModelSnapshot).run)

/-- The next operation of a call or, after its end, what its handler still does. -/
abbrev SubSessionCall.step : SubSessionCall R → RunnerChoice R → SubSessionCall R × Unit :=
  callStep SubSessionWorld.handle fun choice world => world.meanwhile choice

abbrev SubSessionCall.run : SubSessionCall R → List (RunnerChoice R) → SubSessionCall R :=
  Machine.run SubSessionCall.step

def SubSessionCall.outcome (call : SubSessionCall R) :
    Option (Except ThrownError (RunnerOutcome R)) :=
  match call.2 with
  | .ret ended => some ended
  | .call _ _ => none

end Knowbee
