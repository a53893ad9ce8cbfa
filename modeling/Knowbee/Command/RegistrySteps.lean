import Knowbee.Command.Registry

/-!
# What a call does to the registry

A call moves each command by at most one event of its lifecycle, or changes the entry of one
command id (`afterCall_effect`).
-/

namespace Knowbee

open List

/-! ## Lifecycles -/

def Requested : RequestState → Prop
  | .cancellationRequested _ _ => True
  | _ => False

/-- A cancellation was requested and the request is not terminal yet. -/
def Interrupted : RequestState → Prop
  | .cancellationRequested _ _ => True
  | .cancelling _ _ => True
  | _ => False

/-- The request can be cancelled no more: it is interrupted or has an outcome. -/
def Settled (state : RequestState) : Prop :=
  Interrupted state ∨ (terminalOutcome state).isSome = true

lemma Requested.interrupted {state : RequestState} (requested : Requested state) :
    Interrupted state := by
  cases state <;> trivial

lemma reduce_requestCancellation (state : RequestState) (reason : CancellationReason) :
    (∃ stage, reduce state (.requestCancellation reason) =
      .applied (.cancellationRequested stage reason)) ∨
    (Settled state ∧ ∃ rejection, reduce state (.requestCancellation reason) =
      .rejected rejection) := by
  cases state <;> simp [reduce, activeStage, Settled, Interrupted, terminalOutcome]

lemma requested_of_reduce {state next : RequestState} {reason : CancellationReason}
    (moved : reduce state (.requestCancellation reason) = .applied next) :
    Requested next ∧ ¬Settled state := by
  cases state <;> simp_all [reduce, activeStage, Settled, Interrupted, terminalOutcome] <;>
    subst moved <;> trivial

lemma completeUninterrupted_ends {state next : RequestState} {outcome : TerminalOutcome}
    (moved : completeUninterrupted state outcome = .applied next) :
    (terminalOutcome next).isSome = true := by
  unfold completeUninterrupted at moved
  split at moved
  · cases moved
  · cases moved; rfl
  · cases moved; rfl
  · split_ifs at moved
    cases moved
    rfl

lemma reduce_interrupted {state next : RequestState} {event : RequestEvent}
    (moved : reduce state event = .applied next)
    (other : ∀ reason, event ≠ .requestCancellation reason) (interrupted : Interrupted next) :
    Interrupted state ∧ ¬Requested next := by
  unfold reduce at moved
  split at moved
  -- the cancellation requests
  case h_13 => exact absurd rfl (other _)
  case h_14 => exact absurd rfl (other _)
  case h_15 => exact absurd rfl (other _)
  -- a requested cancellation begins
  case h_16 => cases moved; exact ⟨trivial, id⟩
  -- an uninterrupted request completes
  case h_19 =>
    have ended := completeUninterrupted_ends moved
    cases next <;> simp_all [Interrupted, terminalOutcome]
  all_goals cases moved; try exact interrupted.elim

lemma reduce_settled {state next : RequestState} {event : RequestEvent}
    (moved : reduce state event = .applied next) (settled : Settled state) : Settled next := by
  cases state with
  | terminal outcome => cases event <;> cases moved; exact .inr rfl
  | responseQueued outcome => cases event <;> cases moved; exact .inr rfl
  | responded outcome => cases event <;> cases moved
  | cancellationRequested stage reason =>
    cases event <;> cases moved
    · exact .inl trivial
    · exact .inr rfl
  | cancelling stage reason =>
    cases event <;> cases moved
    exact .inr rfl
  | _ => simp [Settled, Interrupted, terminalOutcome] at settled

namespace ActiveCommandRegistry

/-! ## Moves of commands -/

/-- What becomes of a command: it stays, moves by an event, or has its
cancellation requested and its signal set. -/
inductive CommandMove (sent : Prop) (command : ActiveCommand) : ActiveCommand → Prop where
  | stays : CommandMove sent command command
  | moved {event : RequestEvent} {state : RequestState} :
      reduce command.lifecycle event = .applied state →
      (∀ reason, event = .requestCancellation reason → sent) →
      CommandMove sent command { command with lifecycle := state }
  | cancelled {reason : CancellationReason} {state : RequestState} :
      reduce command.lifecycle (.requestCancellation reason) = .applied state →
      CommandMove sent command { command with lifecycle := state, cancelled := true }

/-- A command is left alone, or cancelled through the registry. -/
def CancelMove (command later : ActiveCommand) : Prop :=
  later = command ∨ ∃ reason state,
    reduce command.lifecycle (.requestCancellation reason) = .applied state ∧
      later = { command with lifecycle := state, cancelled := true }

/-- Each command moves as the relation says. -/
structure Moved (move : ActiveCommandHandle → ActiveCommand → ActiveCommand → Prop)
    (commands later : List ActiveCommand) : Prop where
  length : later.length = commands.length
  move (handle : ActiveCommandHandle) (command : ActiveCommand) :
    commands[handle]? = some command →
    ∃ changed, later[handle]? = some changed ∧ move handle command changed

section Moved

variable {move : ActiveCommandHandle → ActiveCommand → ActiveCommand → Prop}
  {commands later : List ActiveCommand} {handle : ActiveCommandHandle}

lemma Moved.origin (moved : Moved move commands later) {changed : ActiveCommand}
    (found : later[handle]? = some changed) :
    ∃ command, commands[handle]? = some command ∧ move handle command changed := by
  have bound : handle < commands.length := by
    rw [← moved.length]
    exact (List.getElem?_eq_some_iff.mp found).1
  have here : commands[handle]? = some commands[handle] := getElem?_eq_getElem bound
  obtain ⟨other, found', step⟩ := moved.move handle _ here
  cases found.symm.trans found'
  exact ⟨_, here, step⟩

lemma moved_same (stays : ∀ handle command, move handle command command) :
    Moved move commands commands where
  length := rfl
  move handle command found := ⟨command, found, stays handle command⟩

lemma moved_set {command changed : ActiveCommand} (found : commands[handle]? = some command)
    (stays : ∀ handle command, move handle command command)
    (step : move handle command changed) : Moved move commands (commands.set handle changed) where
  length := length_set
  move other old here := by
    rw [getElem?_set]
    by_cases same : handle = other
    · subst same
      cases found.symm.trans here
      have bound : handle < commands.length := (List.getElem?_eq_some_iff.mp found).1
      exact ⟨changed, by simp [bound], step⟩
    · exact ⟨old, by rw [if_neg same, here], stays other old⟩

lemma Moved.imp {weaker : ActiveCommandHandle → ActiveCommand → ActiveCommand → Prop}
    (moved : Moved move commands later)
    (imp : ∀ handle command changed, move handle command changed → weaker handle command changed) :
    Moved weaker commands later where
  length := moved.length
  move handle command found := by
    obtain ⟨changed, here, step⟩ := moved.move handle command found
    exact ⟨changed, here, imp _ _ _ step⟩

end Moved

lemma CancelMove.commandMove {command later : ActiveCommand}
    (move : CancelMove command later) (sent : Prop) : CommandMove sent command later := by
  rcases move with rfl | ⟨reason, state, moved, rfl⟩
  · exact .stays
  · exact .cancelled moved

lemma CancelMove.trans {first second third : ActiveCommand} (early : CancelMove first second)
    (late : CancelMove second third) : CancelMove first third := by
  rcases early with rfl | ⟨reason, state, moved, rfl⟩
  · exact late
  · rcases late with rfl | ⟨_, _, again, -⟩
    · exact .inr ⟨reason, state, moved, rfl⟩
    · exact absurd (.inl (requested_of_reduce moved).1.interrupted) (requested_of_reduce again).2

lemma CommandMove.settled {sent : Prop} {command later : ActiveCommand}
    (move : CommandMove sent command later) (settled : Settled command.lifecycle) :
    Settled later.lifecycle := by
  cases move with
  | stays => exact settled
  | moved step => exact reduce_settled step settled
  | cancelled step => exact reduce_settled step settled

lemma CommandMove.keeps {sent : Prop} {command later : ActiveCommand}
    (move : CommandMove sent command later) :
    later.cancellationId = command.cancellationId ∧ later.target = command.target ∧
      later.cancelToken = command.cancelToken ∧
      (command.cancelled = true → later.cancelled = true) := by
  cases move with
  | stays => exact ⟨rfl, rfl, rfl, id⟩
  | moved => exact ⟨rfl, rfl, rfl, id⟩
  | cancelled => exact ⟨rfl, rfl, rfl, fun _ => rfl⟩

/-! ## Transitions and cancellations -/

section

variable (registry : ActiveCommandRegistry) (handle : ActiveCommandHandle)

include registry handle

lemma transition_cases (event : RequestEvent) :
    (∃ rejection, registry.transition handle event = (.rejected rejection, registry) ∧
      ∀ command, registry.commands[handle]? = some command →
        reduce command.lifecycle event = .rejected rejection) ∨
    ∃ command state, registry.commands[handle]? = some command ∧
      reduce command.lifecycle event = .applied state ∧
      registry.transition handle event = (.applied state,
        { registry with
          commands := registry.commands.set handle { command with lifecycle := state } }) := by
  unfold transition
  cases found : registry.commands[handle]? with
  | none => exact .inl ⟨_, rfl, nofun⟩
  | some command =>
    cases moved : reduce command.lifecycle event with
    | rejected rejection =>
      refine .inl ⟨rejection, by simp [moved], ?_⟩
      rintro other ⟨⟩
      exact moved
    | applied state => exact .inr ⟨command, state, rfl, moved, by simp [moved]⟩

lemma requestActive_cases (reason : CancellationReason) :
    (∃ result, registry.requestActiveCancellation handle reason = (result, registry) ∧
      result ≠ .accepted ∧ ∀ command, registry.commands[handle]? = some command →
        Settled command.lifecycle) ∨
    ∃ command state, registry.commands[handle]? = some command ∧
      reduce command.lifecycle (.requestCancellation reason) = .applied state ∧
      registry.requestActiveCancellation handle reason = (.accepted, { registry with
        commands := registry.commands.set handle
          { command with lifecycle := state, cancelled := true } }) := by
  unfold requestActiveCancellation
  rcases transition_cases registry handle (.requestCancellation reason) with
    ⟨rejection, same, refused⟩ | ⟨command, state, found, moved, same⟩
  · have settled command (found : registry.commands[handle]? = some command) :
        Settled command.lifecycle := by
      rcases reduce_requestCancellation command.lifecycle reason with ⟨stage, applied⟩ | ⟨ended, -⟩
      · rw [refused command found] at applied
        cases applied
      · exact ended
    rw [same]
    cases rejection <;> exact .inl ⟨_, rfl, nofun, settled⟩
  · refine .inr ⟨command, state, found, moved, ?_⟩
    rw [same]
    have bound : handle < registry.commands.length := (List.getElem?_eq_some_iff.mp found).1
    simp [cancelSignal, modify_eq_set_getElem?, bound]

lemma requestActive_moved (reason : CancellationReason) :
    ∃ commands, (registry.requestActiveCancellation handle reason).2 =
        { registry with commands } ∧
      Moved (fun _ => CancelMove) registry.commands commands ∧
      ∀ command, commands[handle]? = some command → Settled command.lifecycle := by
  rcases registry.requestActive_cases handle reason with
    ⟨result, same, -, settled⟩ | ⟨command, state, found, moved, same⟩
  · exact ⟨registry.commands, by rw [same], moved_same fun _ _ => .inl rfl, settled⟩
  · refine ⟨_, by rw [same], moved_set found (fun _ _ => .inl rfl) (.inr ⟨_, _, moved, rfl⟩), ?_⟩
    intro changed here
    have bound : handle < registry.commands.length := (List.getElem?_eq_some_iff.mp found).1
    simp only [getElem?_set, bound, if_true] at here
    cases here
    exact .inl (requested_of_reduce moved).1.interrupted

end

lemma requestAll_moved (reason : CancellationReason) (handles : List ActiveCommandHandle) :
    ∀ registry : ActiveCommandRegistry,
      ∃ commands, handles.foldl (fun registry handle =>
          (registry.requestActiveCancellation handle reason).2) registry =
          { registry with commands } ∧
        Moved (fun _ => CancelMove) registry.commands commands ∧
        ∀ handle ∈ handles, ∀ command, commands[handle]? = some command →
          Settled command.lifecycle := by
  induction handles with
  | nil => exact fun registry => ⟨_, rfl, moved_same fun _ _ => .inl rfl, nofun⟩
  | cons first rest ih =>
    intro registry
    obtain ⟨middle, same, moved, settled⟩ := registry.requestActive_moved first reason
    obtain ⟨commands, folded, moved', settled'⟩ := ih { registry with commands := middle }
    refine ⟨commands, ?_, ⟨moved'.length.trans moved.length, ?_⟩, ?_⟩
    · rw [foldl_cons, same, folded]
    · intro handle command found
      obtain ⟨step, found', early⟩ := moved.move handle command found
      obtain ⟨last, found'', late⟩ := moved'.move handle step found'
      exact ⟨last, found'', early.trans late⟩
    · intro handle member command found
      rcases mem_cons.mp member with rfl | member
      · obtain ⟨step, here, late⟩ := moved'.origin found
        exact (late.commandMove False).settled (settled step here)
      · exact settled' handle member command found

/-! ## Calls -/

/-- A command as it is registered: its signal is set if and only if its
cancellation was requested at once. -/
def Fresh (command : ActiveCommand) : Prop :=
  (command.cancelled = false ∧ ¬Interrupted command.lifecycle) ∨
    (command.cancelled = true ∧ Requested command.lifecycle)

/-- What a call does to the registry.  The handles in `sent` are those it moves
by a cancellation request of their own. -/
inductive Effect (sent : ActiveCommandHandle → Prop) (before : ActiveCommandRegistry) :
    ActiveCommandRegistry → Prop where
  | moved {commands : List ActiveCommand} :
      Moved (fun handle => CommandMove (sent handle)) before.commands commands →
      Effect sent before { before with commands }
  | registered {commandId : String} {command : ActiveCommand} :
      before.active.get? commandId = none → Fresh command →
      (before.shutdownRequested = true → command.cancelled = true) →
      (∀ cancellationId, command.cancellationId = some cancellationId →
        ∀ other handle, before.active.get? other = some handle →
          before.hasCancellationId cancellationId handle = false) →
      Effect sent before {
        commands := before.commands ++ [command]
        active := before.active.insert commandId before.commands.length
        terminal := before.terminal.erase commandId
        terminalOrder := before.terminalOrder.filter (· ≠ commandId)
        shutdownRequested := before.shutdownRequested }
  | removed {commandId : String} :
      Effect sent before { before with active := before.active.erase commandId }
  | finalized {commandId : String} {handle : ActiveCommandHandle}
      {receipt : TerminalCommandReceipt} :
      before.active.get? commandId = some handle →
      Effect sent before { before with
        active := before.active.erase commandId
        terminal := (expire (before.terminal.insert commandId receipt)
          (before.terminalOrder.filter (· ≠ commandId) ++ [commandId])).1
        terminalOrder := (expire (before.terminal.insert commandId receipt)
          (before.terminalOrder.filter (· ≠ commandId) ++ [commandId])).2 }
  | stopped {commands : List ActiveCommand} :
      Moved (fun _ => CancelMove) before.commands commands →
      (∀ commandId handle command, before.active.get? commandId = some handle →
        commands[handle]? = some command → Settled command.lifecycle) →
      Effect sent before { before with commands, shutdownRequested := true }

section Effect

variable {sent : ActiveCommandHandle → Prop} {sha256 : Sha256}

lemma Effect.same (registry : ActiveCommandRegistry) : Effect sent registry registry :=
  .moved (moved_same fun _ _ => .stays)

lemma requestActive_effect (registry : ActiveCommandRegistry) (handle : ActiveCommandHandle)
    (reason : CancellationReason) :
    Effect sent registry (registry.requestActiveCancellation handle reason).2 := by
  obtain ⟨commands, same, moved, -⟩ := registry.requestActive_moved handle reason
  rw [same]
  exact .moved (moved.imp fun _ _ _ move => move.commandMove _)

lemma applyAll_received {startRunning : Bool} {lifecycle : RequestState}
    (applied : applyAll .received (if startRunning then runningEvents else []) = some lifecycle) :
    ¬Settled lifecycle := by
  cases startRunning <;> cases applied <;> simp [Settled, Interrupted, terminalOutcome]

lemma requestActive_last {registry : ActiveCommandRegistry} {commands : List ActiveCommand}
    {reason : CancellationReason} {state : RequestState} (command : ActiveCommand)
    (moved : reduce command.lifecycle (.requestCancellation reason) = .applied state)
    (last : registry.commands = commands ++ [command]) :
    (registry.requestActiveCancellation commands.length reason).2 = { registry with
      commands := commands ++ [{ command with lifecycle := state, cancelled := true }] } := by
  simp [requestActiveCancellation, transition, moved, cancelSignal, modify_eq_set_getElem?,
    last]

/-- A registration is refused, or its command is entered under a new handle; in
a registry that was shut down it is cancelled at once. -/
inductive Registers (before : ActiveCommandRegistry) :
    ActiveCommandRegistration × ActiveCommandRegistry → Prop where
  | refused {answer : ActiveCommandRegistration} :
      (∀ handle, answer ≠ .registered handle) → Registers before (answer, before)
  | entered {after : ActiveCommandRegistry} :
      (∀ sent, Effect sent before after) →
      (before.shutdownRequested = true → ∃ command,
        after.commands[before.commands.length]? = some command ∧ command.cancelled = true) →
      Registers before (.registered before.commands.length, after)

lemma Registers.effect {before : ActiveCommandRegistry}
    {answer : ActiveCommandRegistration × ActiveCommandRegistry}
    (registers : Registers before answer) : Effect sent before answer.2 := by
  cases registers with
  | refused => exact .same before
  | entered effect => exact effect sent

section

variable (registry : ActiveCommandRegistry)
include registry

lemma registerInternal_registers (commandId : String)
    (cancellationId : Option String) (cancelToken : String) (target : Option CommandTargetBinding)
    (startRunning : Bool) :
    Registers registry
      (registry.registerInternal commandId cancellationId cancelToken target startRunning) := by
  unfold registerInternal
  split
  case h_2 => exact .refused nofun
  case h_1 commandId cancelToken lifecycle _ _ started =>
    split_ifs with taken stopping
    · exact .refused nofun
    all_goals
      have fresh : ¬Settled lifecycle := applyAll_received started
      obtain ⟨absent, unnamed⟩ := not_or.mp taken
      have absent : registry.active.get? commandId = none := by simpa using absent
      have unnamed name (here : cancellationId = some name) other
          handle (found : registry.active.get? other = some handle) :
          registry.hasCancellationId name handle = false := by
        subst here
        by_contra named
        refine unnamed (Option.any_eq_true _ _ |>.mpr ⟨name, rfl, any_eq_true.mpr ?_⟩)
        exact ⟨handle, SortedMap.mem_values.mpr ⟨other, found⟩, by simpa using named⟩
    · obtain ⟨stage, moved⟩ | ⟨settled, -⟩ := reduce_requestCancellation lifecycle .runtimeShutdown
      · simp only
        rw [requestActive_last ⟨cancellationId, cancelToken, target, lifecycle, false⟩ moved]
        rotate_left
        · rfl
        exact .entered (fun _ => .registered absent (.inr ⟨rfl, trivial⟩) (fun _ => rfl) unnamed)
          fun _ => ⟨_, getElem?_concat_length, rfl⟩
      · exact absurd settled fresh
    · exact .entered (fun _ => .registered absent (.inl ⟨rfl, fun now => fresh (.inl now)⟩)
        (fun now => absurd now stopping) unnamed) fun now => absurd now stopping

lemma registerWithCancellationId_registers
    (target : CommandTargetBinding) (cancellationId cancelToken : String) (startRunning : Bool) :
    Registers registry
      (registry.registerWithCancellationId target cancellationId cancelToken startRunning) := by
  unfold registerWithCancellationId
  cases boundedBinding cancellationId with
  | none => exact .refused nofun
  | some cancellationId => exact registerInternal_registers _ _ _ _ _ _

lemma register_registers (commandId cancelToken : Option String) :
    Registers registry (registry.register commandId cancelToken) := by
  unfold register
  split
  · exact registerInternal_registers _ _ _ _ _ _
  · exact .refused nofun

lemma finalizeAndRemove_effect (commandId : Option String) :
    Effect sent registry (registry.finalizeAndRemove sha256 commandId) := by
  unfold finalizeAndRemove
  cases bound : commandId.bind boundedBinding with
  | none => exact .same registry
  | some commandId =>
    cases active : registry.active.get? commandId with
    | none =>
      simp only [active]
      exact .same registry
    | some handle =>
      cases found : registry.commands[handle]? with
      | none =>
        simp only [active, found]
        exact .removed
      | some command =>
        cases ended : terminalOutcome command.lifecycle with
        | none =>
          simp only [active, found, ended]
          exact .removed
        | some outcome =>
          simp only [active, found, ended]
          exact .finalized active

lemma requestRuntimeShutdown_effect : Effect sent registry registry.requestRuntimeShutdown := by
  obtain ⟨commands, same, moved, settled⟩ := requestAll_moved .runtimeShutdown
    registry.active.values { registry with shutdownRequested := true }
  unfold requestRuntimeShutdown
  rw [same]
  exact .stopped moved fun commandId handle command active =>
    settled handle (SortedMap.mem_values.mpr ⟨commandId, active⟩) command

end

/-- The handles a call moves by a cancellation request of their own. -/
def Call.sends (call : Call) (handle : ActiveCommandHandle) : Prop :=
  ∃ reason, call = .transition handle (.requestCancellation reason)

lemma afterCall_effect (registry : ActiveCommandRegistry) (call : Call) :
    Effect call.sends registry (registry.afterCall sha256 call) := by
  cases call with
  | register commandId cancelToken => exact (registry.register_registers _ _).effect
  | registerBound target cancelToken => exact (registry.registerInternal_registers _ _ _ _ _).effect
  | registerWithCancellationId target cancellationId cancelToken startRunning =>
    exact (registry.registerWithCancellationId_registers _ _ _ _).effect
  | transition handle event =>
    simp only [afterCall]
    rcases registry.transition_cases handle event with
      ⟨rejection, same, -⟩ | ⟨command, state, found, moved, same⟩
    · rw [same]
      exact .same registry
    · rw [same]
      refine .moved (moved_set found (fun _ _ => .stays) (.moved moved ?_))
      rintro reason rfl
      exact ⟨reason, rfl⟩
  | requestCancellation commandId cancelToken =>
    simp only [afterCall, requestCancellation]
    split
    · cases registry.active.get? _ with
      | none => exact .same registry
      | some handle =>
        simp only
        split_ifs
        · exact .same registry
        · exact requestActive_effect _ _ _
    · exact .same registry
  | requestExactCancellation cancellation =>
    simp only [afterCall, requestExactCancellation]
    cases registry.active.get? cancellation.target.commandId with
    | none => exact .same registry
    | some handle =>
      simp only
      split_ifs
      · exact .same registry
      · exact requestActive_effect _ _ _
  | remove commandId =>
    simp only [afterCall, remove]
    cases commandId.bind boundedBinding with
    | none => exact .same registry
    | some commandId => exact .removed
  | finalizeAndRemove commandId => exact registry.finalizeAndRemove_effect commandId
  | requestRuntimeShutdown => exact registry.requestRuntimeShutdown_effect

end Effect

end ActiveCommandRegistry

end Knowbee
