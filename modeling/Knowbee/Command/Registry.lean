import Knowbee.Cancellation.Binding
import Knowbee.Command.Lifecycle
import Knowbee.Lib.SortedMap

/-!
# The registry of active commands

`cancellation.rs`: the commands a process runs, each with a lifecycle and a
cancellation signal that its executor shares through a handle, and the outcomes
of the latest terminal commands.

A handle outlives the entry of its command, so the state keeps every command
ever registered and a handle is its position; the active commands are the
positions bound to a command id.
-/

namespace Knowbee

def maxTerminalCommands : Nat := 512

def CancellationReasonKind.toReason : CancellationReasonKind → CancellationReason
  | userRequested => .userRequested
  | deadlineExceeded => .deadlineExceeded
  | runtimeShutdown => .runtimeShutdown

/-- A command as it was registered, with the lifecycle and the cancellation flag
its handle shares. -/
structure ActiveCommand where
  cancellationId : Option String
  cancelToken : String
  target : Option CommandTargetBinding
  lifecycle : RequestState
  cancelled : Bool
  deriving DecidableEq

/-- The position of a command in the order of registration. -/
abbrev ActiveCommandHandle : Type := Nat

structure TerminalCommandReceipt where
  cancelTokenDigest : String
  target : Option CommandTargetBinding
  outcome : TerminalOutcome

inductive ActiveCommandRegistration where
  | registered (handle : ActiveCommandHandle)
  | alreadyActive
  | unbound
  deriving DecidableEq

inductive CancellationRequestResult where
  | accepted | duplicate | alreadyTerminal | bindingMismatch | notActive | rejected

inductive CancellationProbeResult where
  | active | duplicate | alreadyTerminal | bindingMismatch | notActive | rejected

def cancelTokenDigest (sha256 : Sha256) (cancelToken : String) : String :=
  (sha256 cancelToken.toUTF8).text

/-- `ActiveCommandRegistry`: what its mutex guards, and what its handles share. -/
structure ActiveCommandRegistry where
  commands : List ActiveCommand
  active : SortedMap String ActiveCommandHandle
  terminal : SortedMap String TerminalCommandReceipt
  terminalOrder : List String
  shutdownRequested : Bool

namespace ActiveCommandRegistry

def empty : ActiveCommandRegistry := ⟨[], .empty, .empty, [], false⟩

variable (registry : ActiveCommandRegistry)

variable (handle : ActiveCommandHandle)

def transition (event : RequestEvent) : TransitionOutcome × ActiveCommandRegistry :=
  match registry.commands[handle]? with
  | none => (.rejected .invalidTransition, registry)
  | some command =>
    match reduce command.lifecycle event with
    | .rejected rejection => (.rejected rejection, registry)
    | .applied state =>
      (.applied state,
        { registry with
          commands := registry.commands.set handle { command with lifecycle := state } })

def cancelSignal : ActiveCommandRegistry :=
  { registry with
    commands := registry.commands.modify handle fun command => { command with cancelled := true } }

/-- Requests the cancellation of an active command and, once the lifecycle has
taken it, sets the signal. -/
def requestActiveCancellation (reason : CancellationReason) :
    CancellationRequestResult × ActiveCommandRegistry :=
  match registry.transition handle (.requestCancellation reason) with
  | (.applied _, after) => (.accepted, after.cancelSignal handle)
  | (.rejected .duplicateCancellation, after) => (.duplicate, after)
  | (.rejected .alreadyTerminal, after) => (.alreadyTerminal, after)
  | (.rejected _, after) => (.rejected, after)

def probeActiveCancellation : CancellationProbeResult :=
  match (registry.commands[handle]?).map ActiveCommand.lifecycle with
  | some (.cancellationRequested _ _) => .duplicate
  | some (.terminal _) => .alreadyTerminal
  | some _ => .active
  | none => .rejected

def runningEvents : List RequestEvent := [.validate, .authorize, .admitRequest, .enqueue, .start]

def applyAll (state : RequestState) : List RequestEvent → Option RequestState
  | [] => some state
  | event :: events =>
    match reduce state event with
    | .applied next => applyAll next events
    | .rejected _ => none

def hasCancellationId (cancellationId : String) (handle : ActiveCommandHandle) : Bool :=
  (registry.commands[handle]?).any fun command => command.cancellationId == some cancellationId

def registerInternal (commandId : String) (cancellationId : Option String) (cancelToken : String)
    (target : Option CommandTargetBinding) (startRunning : Bool) :
    ActiveCommandRegistration × ActiveCommandRegistry :=
  match boundedBinding commandId, boundedBinding cancelToken,
      applyAll .received (if startRunning then runningEvents else []) with
  | some commandId, some cancelToken, some lifecycle =>
    if (registry.active.get? commandId).isSome ∨ cancellationId.any fun candidate =>
        registry.active.values.any (registry.hasCancellationId candidate) then
      (.alreadyActive, registry)
    else
      let handle := registry.commands.length
      let registered := {
        commands := registry.commands ++ [⟨cancellationId, cancelToken, target, lifecycle, false⟩]
        active := registry.active.insert commandId handle
        terminal := registry.terminal.erase commandId
        terminalOrder := registry.terminalOrder.filter (· ≠ commandId)
        shutdownRequested := registry.shutdownRequested
      }
      if registry.shutdownRequested then
        (.registered handle, (registered.requestActiveCancellation handle .runtimeShutdown).2)
      else (.registered handle, registered)
  | _, _, _ => (.unbound, registry)

def register (registry : ActiveCommandRegistry) (commandId cancelToken : Option String) :
    ActiveCommandRegistration × ActiveCommandRegistry :=
  match commandId.bind boundedBinding, cancelToken.bind boundedBinding with
  | some commandId, some cancelToken =>
    registry.registerInternal commandId none cancelToken none false
  | _, _ => (.unbound, registry)

variable (target : CommandTargetBinding)

def registerBound (cancelToken : String) : ActiveCommandRegistration × ActiveCommandRegistry :=
  registry.registerInternal target.commandId none cancelToken (some target) false

variable (cancellationId cancelToken : String)

/-- The registrations under a signed cancellation id, as received or running. -/
def registerWithCancellationId (startRunning : Bool) :
    ActiveCommandRegistration × ActiveCommandRegistry :=
  match boundedBinding cancellationId with
  | none => (.unbound, registry)
  | some cancellationId =>
    registry.registerInternal target.commandId (some cancellationId) cancelToken (some target)
      startRunning

def requestCancellation (commandId cancelToken : String) :
    CancellationRequestResult × ActiveCommandRegistry :=
  match boundedBinding commandId, boundedBinding cancelToken with
  | some commandId, some cancelToken =>
    match registry.active.get? commandId with
    | none => (.notActive, registry)
    | some handle =>
      if (registry.commands[handle]?).map ActiveCommand.cancelToken ≠ some cancelToken then
        (.notActive, registry)
      else registry.requestActiveCancellation handle .userRequested
  | _, _ => (.notActive, registry)

variable (sha256 : Sha256)

/-- What the terminal receipts say of a command that is not active, for a
request and for a probe of its cancellation. -/
def terminalResult {R : Type} (registry : ActiveCommandRegistry) (target : CommandTargetBinding)
    (cancelToken : String) (alreadyTerminal bindingMismatch notActive : R) : R :=
  match registry.terminal.get? target.commandId with
  | some receipt =>
    if receipt.target = some target ∧
        receipt.cancelTokenDigest = cancelTokenDigest sha256 cancelToken then
      alreadyTerminal
    else bindingMismatch
  | none => notActive

/-- The registration at the handle is the one a cancellation names. -/
def matchesCancellation (cancellation : ExactCancellationRequest) : Bool :=
  (registry.commands[handle]?).any fun command =>
    command.target == some cancellation.target && command.cancelToken == cancellation.cancelToken

def requestExactCancellation (registry : ActiveCommandRegistry)
    (cancellation : ExactCancellationRequest) : CancellationRequestResult × ActiveCommandRegistry :=
  match registry.active.get? cancellation.target.commandId with
  | none =>
    (registry.terminalResult sha256 cancellation.target cancellation.cancelToken .alreadyTerminal
      .bindingMismatch .notActive, registry)
  | some handle =>
    if !registry.matchesCancellation handle cancellation then (.bindingMismatch, registry)
    else registry.requestActiveCancellation handle cancellation.reasonKind.toReason

def probeExactCancellation (registry : ActiveCommandRegistry)
    (cancellation : ExactCancellationRequest) : CancellationProbeResult :=
  match registry.active.get? cancellation.target.commandId with
  | none =>
    registry.terminalResult sha256 cancellation.target cancellation.cancelToken .alreadyTerminal
      .bindingMismatch .notActive
  | some handle =>
    if !registry.matchesCancellation handle cancellation then .bindingMismatch
    else registry.probeActiveCancellation handle

def remove (commandId : Option String) : ActiveCommandRegistry :=
  match commandId.bind boundedBinding with
  | none => registry
  | some commandId => { registry with active := registry.active.erase commandId }

/-- Forgets the oldest terminal commands beyond the retention limit. -/
def expire (terminal : SortedMap String TerminalCommandReceipt) (order : List String) :
    SortedMap String TerminalCommandReceipt × List String :=
  let excess := order.length - maxTerminalCommands
  ((order.take excess).foldl SortedMap.erase terminal, order.drop excess)

def finalizeAndRemove (registry : ActiveCommandRegistry) (commandId : Option String) :
    ActiveCommandRegistry :=
  match commandId.bind boundedBinding with
  | none => registry
  | some commandId =>
    match registry.active.get? commandId with
    | none => registry
    | some handle =>
      let removed := { registry with active := registry.active.erase commandId }
      match registry.commands[handle]? with
      | none => removed
      | some command =>
        match terminalOutcome command.lifecycle with
        | none => removed
        | some outcome =>
          let receipt := ⟨cancelTokenDigest sha256 command.cancelToken, command.target, outcome⟩
          match expire (registry.terminal.insert commandId receipt)
              (registry.terminalOrder.filter (· ≠ commandId) ++ [commandId]) with
          | (terminal, terminalOrder) => { removed with terminal, terminalOrder }

def requestRuntimeShutdown : ActiveCommandRegistry :=
  registry.active.values.foldl
    (fun registry handle => (registry.requestActiveCancellation handle .runtimeShutdown).2)
    { registry with shutdownRequested := true }

/-- The calls that may change the registry, those of its handles included. -/
inductive Call where
  | register (commandId cancelToken : Option String)
  | registerBound (target : CommandTargetBinding) (cancelToken : String)
  | registerWithCancellationId (target : CommandTargetBinding) (cancellationId cancelToken : String)
      (startRunning : Bool)
  | transition (handle : ActiveCommandHandle) (event : RequestEvent)
  | requestCancellation (commandId cancelToken : String)
  | requestExactCancellation (cancellation : ExactCancellationRequest)
  | remove (commandId : Option String)
  | finalizeAndRemove (commandId : Option String)
  | requestRuntimeShutdown
  deriving DecidableEq

def afterCall (registry : ActiveCommandRegistry) : Call → ActiveCommandRegistry
  | .register commandId cancelToken => (registry.register commandId cancelToken).2
  | .registerBound target cancelToken => (registry.registerBound target cancelToken).2
  | .registerWithCancellationId target cancellationId cancelToken startRunning =>
    (registry.registerWithCancellationId target cancellationId cancelToken startRunning).2
  | .transition handle event => (registry.transition handle event).2
  | .requestCancellation commandId cancelToken =>
    (registry.requestCancellation commandId cancelToken).2
  | .requestExactCancellation cancellation =>
    (registry.requestExactCancellation sha256 cancellation).2
  | .remove commandId => registry.remove commandId
  | .finalizeAndRemove commandId => registry.finalizeAndRemove sha256 commandId
  | .requestRuntimeShutdown => registry.requestRuntimeShutdown

end ActiveCommandRegistry

end Knowbee
