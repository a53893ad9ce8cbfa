import Knowbee.Rust

/-!
# The lifecycle of a request

`request_lifecycle.rs`: the states a command goes through, from its receipt over
its run to its terminal outcome and the response, and the cancellation that may
interrupt it on the way.
-/

namespace Knowbee

inductive ActiveStage where
  | received | validated | authorized | admitted | queued | running | postChecking
  deriving DecidableEq

inductive TerminalOutcome where
  | succeeded | failed | blocked | cancelled | effectStateUnknown
  deriving DecidableEq

inductive CancellationReason where
  | userRequested | deadlineExceeded | runtimeShutdown
  deriving DecidableEq

inductive RequestState where
  | received | validated | authorized | admitted | queued | running | postChecking
  | cancellationRequested (interrupted : ActiveStage) (reason : CancellationReason)
  | cancelling (interrupted : ActiveStage) (reason : CancellationReason)
  | terminal (outcome : TerminalOutcome)
  | responseQueued (outcome : TerminalOutcome)
  | responded (outcome : TerminalOutcome)
  deriving DecidableEq

inductive RequestEvent where
  | validate
  | authorize
  /-- `Admit`. -/
  | admitRequest
  | enqueue
  | start
  | beginPostCheck
  | requestCancellation (reason : CancellationReason)
  | beginCancellation
  | complete (outcome : TerminalOutcome)
  | queueResponse
  | markResponded
  deriving DecidableEq

inductive TransitionRejection where
  | invalidTransition | duplicateCancellation | cancellationNotRequested | alreadyTerminal
  | duplicateResponse | alreadyResponded

inductive TransitionOutcome where
  | applied (state : RequestState)
  | rejected (rejection : TransitionRejection)

/-- The stage an active state is at, or was interrupted at. -/
def activeStage : RequestState → Option ActiveStage
  | .received => some .received
  | .validated => some .validated
  | .authorized => some .authorized
  | .admitted => some .admitted
  | .queued => some .queued
  | .running => some .running
  | .postChecking => some .postChecking
  | .cancellationRequested stage _ => some stage
  | .cancelling stage _ => some stage
  | _ => none

def completeUninterrupted (state : RequestState) (outcome : TerminalOutcome) : TransitionOutcome :=
  match outcome with
  | .cancelled => .rejected .cancellationNotRequested
  | .failed => .applied (.terminal .failed)
  | .blocked => .applied (.terminal .blocked)
  | outcome =>
    if state = .running ∨ state = .postChecking then .applied (.terminal outcome)
    else .rejected .invalidTransition

def reduce (state : RequestState) (event : RequestEvent) : TransitionOutcome :=
  match state, event with
  | .responded _, _ => .rejected .alreadyResponded
  | .terminal outcome, .queueResponse => .applied (.responseQueued outcome)
  | .responseQueued outcome, .markResponded => .applied (.responded outcome)
  | .responseQueued _, .queueResponse => .rejected .duplicateResponse
  | .terminal _, _ => .rejected .alreadyTerminal
  | .responseQueued _, _ => .rejected .alreadyTerminal
  | .received, .validate => .applied .validated
  | .validated, .authorize => .applied .authorized
  | .authorized, .admitRequest => .applied .admitted
  | .admitted, .enqueue => .applied .queued
  | .queued, .start => .applied .running
  | .running, .beginPostCheck => .applied .postChecking
  | .cancellationRequested _ _, .requestCancellation _ => .rejected .duplicateCancellation
  | .cancelling _ _, .requestCancellation _ => .rejected .duplicateCancellation
  | current, .requestCancellation reason =>
    match activeStage current with
    | some stage => .applied (.cancellationRequested stage reason)
    | none => .rejected .alreadyTerminal
  | .cancellationRequested interrupted reason, .beginCancellation =>
    .applied (.cancelling interrupted reason)
  | .cancellationRequested _ _, .complete outcome => .applied (.terminal outcome)
  | .cancelling _ _, .complete outcome => .applied (.terminal outcome)
  | current, .complete outcome => completeUninterrupted current outcome
  | _, _ => .rejected .invalidTransition

def terminalOutcome : RequestState → Option TerminalOutcome
  | .terminal outcome => some outcome
  | .responseQueued outcome => some outcome
  | .responded outcome => some outcome
  | _ => none

end Knowbee
