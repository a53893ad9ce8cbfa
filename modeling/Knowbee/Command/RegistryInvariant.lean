import Mathlib.Data.List.Induction
import Knowbee.Command.RegistrySteps

/-!
# The invariants of the registry

In every registry that calls can reach, the active and the terminal commands are
apart and the terminal ones are bounded (`reached_indexed`); signals and
lifecycles agree as long as no handle requests a cancellation by itself
(`reached_signalled`); and after the shutdown nothing keeps running
(`stopped_settled`, `stopped_registration`).
-/

namespace Knowbee

open List SortedMap

namespace ActiveCommandRegistry

def reached (sha256 : Sha256) (calls : List Call) : ActiveCommandRegistry :=
  calls.foldl (fun registry call => registry.afterCall sha256 call) empty

lemma reached_append (sha256 : Sha256) (calls : List Call) (call : Call) :
    reached sha256 (calls ++ [call]) = (reached sha256 calls).afterCall sha256 call := by
  simp [reached]

/-! ## Active and terminal commands -/

/-- The active and the terminal commands are apart, the order lists the terminal
ones once each and within the limit, and cancellation ids are unique. -/
structure Indexed (registry : ActiveCommandRegistry) : Prop where
  disjoint (commandId : String) :
    (registry.active.get? commandId).isSome = true → registry.terminal.get? commandId = none
  order (commandId : String) :
    (registry.terminal.get? commandId).isSome = true ↔ commandId ∈ registry.terminalOrder
  nodup : registry.terminalOrder.Nodup
  bounded : registry.terminalOrder.length ≤ maxTerminalCommands
  known (commandId : String) (handle : ActiveCommandHandle) :
    registry.active.get? commandId = some handle → handle < registry.commands.length
  unique (cancellationId first second : String) (handle other : ActiveCommandHandle) :
    registry.active.get? first = some handle → registry.active.get? second = some other →
    registry.hasCancellationId cancellationId handle = true →
    registry.hasCancellationId cancellationId other = true → first = second

attribute [local irreducible] maxTerminalCommands

section Indexed

variable {registry before after : ActiveCommandRegistry} {handle : ActiveCommandHandle}
  {commandId cancellationId : String} {commands : List ActiveCommand} {order : List String}

lemma expire_order {terminal : SortedMap String TerminalCommandReceipt} (nodup : order.Nodup)
    (listed : (terminal.get? commandId).isSome = true ↔ commandId ∈ order) :
    ((expire terminal order).1.get? commandId).isSome = true ↔
      commandId ∈ (expire terminal order).2 := by
  unfold expire
  generalize order.length - maxTerminalCommands = excess
  simp only [get?_foldl_erase]
  rw [← take_append_drop excess order] at nodup listed
  have apart := (nodup_append.mp nodup).2.2
  by_cases expired : commandId ∈ order.take excess
  · have forgotten : commandId ∉ order.drop excess := fun kept => apart _ expired _ kept rfl
    simp [expired, forgotten]
  · rw [if_neg expired, listed, mem_append]
    exact or_iff_right expired

lemma expire_nodup (terminal : SortedMap String TerminalCommandReceipt) (nodup : order.Nodup) :
    (expire terminal order).2.Nodup :=
  nodup.sublist (drop_sublist _ _)

lemma expire_length (terminal : SortedMap String TerminalCommandReceipt) (order : List String) :
    (expire terminal order).2.length ≤ maxTerminalCommands := by
  simp only [expire, length_drop]
  omega

lemma expire_none {terminal : SortedMap String TerminalCommandReceipt}
    (absent : terminal.get? commandId = none) :
    (expire terminal order).1.get? commandId = none := by
  simp [expire, get?_foldl_erase, absent, ite_self]

lemma moved_hasCancellationId {sent : ActiveCommandHandle → Prop}
    (moved : Moved (fun handle => CommandMove (sent handle)) before.commands after.commands)
    (handle : ActiveCommandHandle) :
    after.hasCancellationId cancellationId handle =
      before.hasCancellationId cancellationId handle := by
  unfold hasCancellationId
  cases found : before.commands[handle]? with
  | none =>
    have beyond : after.commands[handle]? = none := by
      rw [List.getElem?_eq_none_iff, moved.length]
      exact List.getElem?_eq_none_iff.mp found
    rw [beyond]
  | some command =>
    obtain ⟨later, here, move⟩ := moved.move handle command found
    simp [here, move.keeps.1]

lemma Indexed.moved (indexed : Indexed before) (sent : ActiveCommandHandle → Prop)
    (moved : Moved (fun handle => CommandMove (sent handle)) before.commands after.commands)
    (active : after.active = before.active) (terminal : after.terminal = before.terminal)
    (order : after.terminalOrder = before.terminalOrder) : Indexed after where
  disjoint commandId := by
    rw [active, terminal]
    exact indexed.disjoint commandId
  order commandId := by
    rw [terminal, order]
    exact indexed.order commandId
  nodup := order ▸ indexed.nodup
  bounded := order ▸ indexed.bounded
  known commandId handle found := by
    rw [moved.length]
    exact indexed.known commandId handle (active ▸ found)
  unique cancellationId first second handle other found found' named named' := by
    rw [active] at found found'
    rw [moved_hasCancellationId moved] at named named'
    exact indexed.unique cancellationId first second handle other found found' named named'

lemma get?_of_erase {active : SortedMap String ActiveCommandHandle} {removed : String}
    (found : (active.erase removed).get? commandId = some handle) :
    commandId ≠ removed ∧ active.get? commandId = some handle := by
  rw [get?_erase] at found
  split_ifs at found with same
  exact ⟨same, found⟩

lemma Indexed.removed (indexed : Indexed before) :
    Indexed { before with active := before.active.erase commandId } where
  disjoint id active := by
    obtain ⟨handle, found⟩ := Option.isSome_iff_exists.mp active
    exact indexed.disjoint id (Option.isSome_iff_exists.mpr ⟨handle, (get?_of_erase found).2⟩)
  order := indexed.order
  nodup := indexed.nodup
  bounded := indexed.bounded
  known id handle found := indexed.known id handle (get?_of_erase found).2
  unique name first second handle other found found' named named' :=
    indexed.unique name first second handle other (get?_of_erase found).2
      (get?_of_erase found').2 named named'

lemma Indexed.finalized (indexed : Indexed before) (absent : before.active.get? commandId = none)
    (receipt : TerminalCommandReceipt) : Indexed { before with
      terminal := (expire (before.terminal.insert commandId receipt)
        (before.terminalOrder.filter (· ≠ commandId) ++ [commandId])).1
      terminalOrder := (expire (before.terminal.insert commandId receipt)
        (before.terminalOrder.filter (· ≠ commandId) ++ [commandId])).2 } := by
  have nodup : (before.terminalOrder.filter (· ≠ commandId) ++ [commandId]).Nodup := by
    rw [nodup_append]
    exact ⟨indexed.nodup.filter _, by simp, by simp⟩
  refine ⟨?_, ?_, expire_nodup (before.terminal.insert commandId receipt) nodup,
    expire_length (before.terminal.insert commandId receipt) _, indexed.known, indexed.unique⟩
  · intro id active
    apply expire_none
    rw [get?_insert, if_neg (by rintro rfl; simp [absent] at active)]
    exact indexed.disjoint id active
  · intro id
    refine expire_order nodup ?_
    by_cases same : id = commandId
    · simp [same]
    · simpa [same] using indexed.order id

lemma Indexed.registered {command : ActiveCommand} (indexed : Indexed before)
    (absent : before.active.get? commandId = none)
    (unnamed : ∀ cancellationId, command.cancellationId = some cancellationId →
      ∀ other handle, before.active.get? other = some handle →
        before.hasCancellationId cancellationId handle = false) : Indexed {
      commands := before.commands ++ [command]
      active := before.active.insert commandId before.commands.length
      terminal := before.terminal.erase commandId
      terminalOrder := before.terminalOrder.filter (· ≠ commandId)
      shutdownRequested := before.shutdownRequested } := by
  have cases_get? {id : String} {handle : ActiveCommandHandle}
      (found : (before.active.insert commandId before.commands.length).get? id = some handle) :
      (id = commandId ∧ handle = before.commands.length) ∨
        (id ≠ commandId ∧ before.active.get? id = some handle) := by
    rw [get?_insert] at found
    split_ifs at found with same
    · exact .inl ⟨same, (Option.some.inj found).symm⟩
    · exact .inr ⟨same, found⟩
  refine ⟨?_, ?_, indexed.nodup.filter _, ?_, ?_, ?_⟩
  · intro id active
    rw [get?_erase]
    split_ifs with same
    · rfl
    · rw [get?_insert, if_neg same] at active
      exact indexed.disjoint id active
  · intro id
    by_cases same : id = commandId
    · simp [same]
    · simpa [same] using indexed.order id
  · exact (length_filter_le _ _).trans indexed.bounded
  · intro id handle found
    rw [length_append, length_singleton]
    rcases cases_get? found with ⟨-, rfl⟩ | ⟨-, old⟩
    · exact Nat.lt_succ_self _
    · exact Nat.lt_succ_of_lt (indexed.known id handle old)
  · intro name first second handle other found found' named named'
    have carries_old {handle : ActiveCommandHandle} {id : String}
        (old : before.active.get? id = some handle) (named : ((before.commands ++
          [command])[handle]?).any (fun command => command.cancellationId == some name) = true) :
        before.hasCancellationId name handle = true := by
      rwa [getElem?_append_left (indexed.known id handle old)] at named
    have carries_new (named : ((before.commands ++ [command])[before.commands.length]?).any
        (fun command => command.cancellationId == some name) = true) :
        command.cancellationId = some name := by
      simpa using named
    rcases cases_get? found with ⟨rfl, rfl⟩ | ⟨-, old⟩ <;>
      rcases cases_get? found' with ⟨rfl, rfl⟩ | ⟨-, old'⟩
    · rfl
    · have no := unnamed name (carries_new named) second other old'
      rw [carries_old old' named'] at no
      cases no
    · have no := unnamed name (carries_new named') first handle old
      rw [carries_old old named] at no
      cases no
    · exact indexed.unique name first second handle other old old' (carries_old old named)
        (carries_old old' named')

lemma Effect.indexed {sent : ActiveCommandHandle → Prop} (effect : Effect sent before after)
    (indexed : Indexed before) : Indexed after := by
  cases effect with
  | moved moved => exact indexed.moved sent moved rfl rfl rfl
  | stopped moved =>
    exact indexed.moved sent (moved.imp fun _ _ _ move => move.commandMove _) rfl rfl rfl
  | registered absent _ _ unnamed => exact indexed.registered absent unnamed
  | removed => exact indexed.removed
  | finalized found => exact indexed.removed.finalized (by simp) _

lemma empty_indexed : Indexed empty where
  disjoint _ _ := rfl
  order _ := by simp [empty]
  nodup := nodup_nil
  bounded := Nat.zero_le _
  known _ _ found := by simp [empty] at found
  unique _ _ _ _ _ found := by simp [empty] at found

lemma reached_indexed (sha256 : Sha256) (calls : List Call) : Indexed (reached sha256 calls) := by
  induction calls using reverseRecOn with
  | nil => exact empty_indexed
  | append_singleton calls call ih =>
    rw [reached_append]
    exact ((reached sha256 calls).afterCall_effect call).indexed ih

end Indexed

/-! ## Signals and lifecycles -/

/-- Some calls of the run led the command of the handle to a requested
cancellation. -/
def Passed (sha256 : Sha256) (calls : List Call) (handle : ActiveCommandHandle) : Prop :=
  ∃ earlier, earlier <+: calls ∧
    ∃ command, (reached sha256 earlier).commands[handle]? = some command ∧
      Requested command.lifecycle

/-- The holder of the handle sent the cancellation request by itself. -/
def Sent (calls : List Call) (handle : ActiveCommandHandle) : Prop :=
  ∃ call ∈ calls, call.sends handle

/-- A set signal stems from a requested cancellation; a requested cancellation
has set the signal unless the handle requested it; and no other request is
interrupted. -/
structure SignalFits (sha256 : Sha256) (calls : List Call) (handle : ActiveCommandHandle)
    (command : ActiveCommand) : Prop where
  passed : command.cancelled = true → Passed sha256 calls handle
  cancelled : Passed sha256 calls handle → ¬Sent calls handle → command.cancelled = true
  interrupted : Interrupted command.lifecycle → Passed sha256 calls handle

section Signals

variable {before after : ActiveCommandRegistry} {handle : ActiveCommandHandle}
  {sent : ActiveCommandHandle → Prop} {sha256 : Sha256} {calls : List Call} {call : Call}
  {command later : ActiveCommand}

lemma Passed.append (passed : Passed sha256 calls handle) (call : Call) :
    Passed sha256 (calls ++ [call]) handle := by
  obtain ⟨earlier, here, requested⟩ := passed
  exact ⟨earlier, here.trans (prefix_append _ _), requested⟩

lemma passed_now (found : (reached sha256 calls).commands[handle]? = some command)
    (requested : Requested command.lifecycle) : Passed sha256 calls handle :=
  ⟨calls, prefix_rfl, command, found, requested⟩

/-- A command passed its requested cancellation before the last call, or stands
there after it. -/
lemma Passed.last (passed : Passed sha256 (calls ++ [call]) handle) :
    Passed sha256 calls handle ∨
      ∃ command, (reached sha256 (calls ++ [call])).commands[handle]? = some command ∧
        Requested command.lifecycle := by
  obtain ⟨earlier, here, requested⟩ := passed
  rcases prefix_concat_iff.mp here with rfl | before
  · exact .inr requested
  · exact .inl ⟨earlier, before, requested⟩

lemma Effect.origin (effect : Effect sent before after)
    (found : after.commands[handle]? = some later) :
    (∃ command, before.commands[handle]? = some command ∧
      CommandMove (sent handle) command later) ∨
    (before.commands.length ≤ handle ∧ Fresh later) := by
  cases effect with
  | moved moved => exact .inl (moved.origin found)
  | registered _ fresh =>
    by_cases bound : handle < before.commands.length
    · rw [getElem?_append_left bound] at found
      exact .inl ⟨later, found, .stays⟩
    · rw [getElem?_append_right (not_lt.mp bound), getElem?_singleton] at found
      split_ifs at found
      cases found
      exact .inr ⟨not_lt.mp bound, fresh⟩
  | removed => exact .inl ⟨later, found, .stays⟩
  | finalized => exact .inl ⟨later, found, .stays⟩
  | stopped moved =>
    obtain ⟨command, here, move⟩ := moved.origin found
    exact .inl ⟨command, here, move.commandMove _⟩

lemma Effect.length_le (effect : Effect sent before after) :
    before.commands.length ≤ after.commands.length := by
  cases effect with
  | moved moved => exact moved.length.ge
  | registered => simp
  | removed => exact le_rfl
  | finalized => exact le_rfl
  | stopped moved => exact moved.length.ge

lemma Passed.known : ∀ {calls : List Call}, Passed sha256 calls handle →
    handle < (reached sha256 calls).commands.length := by
  intro calls
  induction calls using reverseRecOn with
  | nil =>
    rintro ⟨earlier, here, command, found, -⟩
    rw [prefix_nil.mp here] at found
    cases found
  | append_singleton calls call ih =>
    intro passed
    rcases passed.last with earlier | ⟨command, found, -⟩
    · rw [reached_append]
      exact (ih earlier).trans_le ((reached sha256 calls).afterCall_effect call).length_le
    · exact (List.getElem?_eq_some_iff.mp found).1

lemma SignalFits.moved (fits : SignalFits sha256 calls handle command)
    (move : CommandMove (call.sends handle) command later)
    (found : (reached sha256 (calls ++ [call])).commands[handle]? = some later) :
    SignalFits sha256 (calls ++ [call]) handle later := by
  have now requested : Passed sha256 (calls ++ [call]) handle :=
    passed_now found requested
  have unsent (quiet : ¬Sent (calls ++ [call]) handle) : ¬Sent calls handle ∧
      ¬call.sends handle := by
    refine ⟨fun ⟨sender, member, sends⟩ => quiet ⟨sender, by simp [member], sends⟩, fun sends => ?_⟩
    exact quiet ⟨call, by simp, sends⟩
  have last (passed : Passed sha256 (calls ++ [call]) handle) :
      Passed sha256 calls handle ∨ Requested later.lifecycle := by
    rcases passed.last with earlier | ⟨other, here, requested⟩
    · exact .inl earlier
    · cases found.symm.trans here
      exact .inr requested
  cases move with
  | stays =>
    refine ⟨fun set => (fits.passed set).append call, fun passed quiet => ?_,
      fun interrupted => (fits.interrupted interrupted).append call⟩
    rcases last passed with earlier | requested
    · exact fits.cancelled earlier (unsent quiet).1
    · exact fits.cancelled (fits.interrupted requested.interrupted) (unsent quiet).1
  | @moved event state step sends =>
    by_cases request : ∃ reason, event = .requestCancellation reason
    · obtain ⟨reason, rfl⟩ := request
      have requested := (requested_of_reduce step).1
      exact ⟨fun _ => now requested, fun _ quiet => absurd (sends reason rfl) (unsent quiet).2,
        fun _ => now requested⟩
    · have other : ∀ reason, event ≠ .requestCancellation reason := not_exists.mp request
      refine ⟨fun set => (fits.passed set).append call, fun passed quiet => ?_,
        fun interrupted => (fits.interrupted ?_).append call⟩
      · rcases last passed with earlier | requested
        · exact fits.cancelled earlier (unsent quiet).1
        · exact absurd requested (reduce_interrupted step other requested.interrupted).2
      · exact (reduce_interrupted step other interrupted).1
  | cancelled step =>
    have requested := (requested_of_reduce step).1
    exact ⟨fun _ => now requested, fun _ _ => rfl, fun _ => now requested⟩

lemma reached_signals (sha256 : Sha256) (calls : List Call) :
    ∀ (handle : ActiveCommandHandle) (command : ActiveCommand),
      (reached sha256 calls).commands[handle]? = some command →
      SignalFits sha256 calls handle command := by
  induction calls using reverseRecOn with
  | nil => exact fun _ _ found => by cases found
  | append_singleton calls call ih =>
    intro handle later found
    have after := found
    rw [reached_append] at after
    rcases ((reached sha256 calls).afterCall_effect call).origin after with
      ⟨command, here, move⟩ | ⟨new, fresh⟩
    · exact (ih handle command here).moved move found
    · rcases fresh with ⟨unset, uninterrupted⟩ | ⟨set, requested⟩
      · refine ⟨fun set => absurd set (by simp [unset]), fun passed _ => ?_,
          fun interrupted => absurd interrupted uninterrupted⟩
        rcases passed.last with earlier | ⟨other, here, requested⟩
        · exact absurd earlier.known (not_lt.mpr new)
        · cases found.symm.trans here
          exact absurd requested.interrupted uninterrupted
      · exact ⟨fun _ => passed_now found requested, fun _ _ => set,
          fun _ => passed_now found requested⟩

end Signals

/-! ## After the shutdown -/

/-- Once the shutdown was requested, every active command is settled. -/
def StoppedSettled (registry : ActiveCommandRegistry) : Prop :=
  registry.shutdownRequested = true →
    ∀ (commandId : String) (handle : ActiveCommandHandle) (command : ActiveCommand),
      registry.active.get? commandId = some handle → registry.commands[handle]? = some command →
      Settled command.lifecycle

section Shutdown

variable {before after : ActiveCommandRegistry} {sent : ActiveCommandHandle → Prop}
  {sha256 : Sha256} {calls : List Call}

lemma Effect.shutdown (effect : Effect sent before after)
    (stopped : before.shutdownRequested = true) : after.shutdownRequested = true := by
  cases effect with
  | stopped => rfl
  | _ => exact stopped

lemma Effect.stoppedSettled (effect : Effect sent before after) (indexed : Indexed before)
    (settled : StoppedSettled before) : StoppedSettled after := by
  cases effect with
  | moved moved =>
    intro stopped commandId handle later active found
    obtain ⟨command, here, move⟩ := moved.origin found
    exact move.settled (settled stopped commandId handle command active here)
  | @registered commandId command absent fresh cancelled unnamed =>
    intro stopped id handle later active found
    rw [get?_insert] at active
    split_ifs at active with same
    · cases active
      cases getElem?_concat_length.symm.trans found
      rcases fresh with ⟨unset, -⟩ | ⟨-, requested⟩
      · rw [cancelled stopped] at unset
        cases unset
      · exact .inl requested.interrupted
    · rw [getElem?_append_left (indexed.known id handle active)] at found
      exact settled stopped id handle later active found
  | removed =>
    intro stopped commandId handle command active found
    exact settled stopped commandId handle command (get?_of_erase active).2 found
  | finalized =>
    intro stopped commandId handle command active found
    exact settled stopped commandId handle command (get?_of_erase active).2 found
  | stopped moved all => exact fun _ => all

lemma reached_stoppedSettled (sha256 : Sha256) (calls : List Call) :
    StoppedSettled (reached sha256 calls) := by
  induction calls using reverseRecOn with
  | nil => exact fun stopped => by cases stopped
  | append_singleton calls call ih =>
    rw [reached_append]
    exact ((reached sha256 calls).afterCall_effect call).stoppedSettled
      (reached_indexed sha256 calls) ih

lemma reached_shutdown (requested : .requestRuntimeShutdown ∈ calls) :
    (reached sha256 calls).shutdownRequested = true := by
  induction calls using reverseRecOn with
  | nil => cases requested
  | append_singleton calls call ih =>
    rw [reached_append]
    rcases mem_append.mp requested with earlier | now
    · exact ((reached sha256 calls).afterCall_effect call).shutdown (ih earlier)
    · cases mem_singleton.mp now
      obtain ⟨commands, same, -⟩ := requestAll_moved .runtimeShutdown
        (reached sha256 calls).active.values
        { reached sha256 calls with shutdownRequested := true }
      rw [afterCall, requestRuntimeShutdown, same]

def SignalSet (registry : ActiveCommandRegistry) (handle : ActiveCommandHandle) : Prop :=
  ∃ command, registry.commands[handle]? = some command ∧ command.cancelled = true

lemma Registers.signalSet {answer : ActiveCommandRegistration × ActiveCommandRegistry}
    {handle : ActiveCommandHandle} (registers : Registers before answer)
    (stopped : before.shutdownRequested = true) (accepted : answer.1 = .registered handle) :
    answer.2.SignalSet handle := by
  cases registers with
  | refused other => exact absurd accepted (other handle)
  | entered _ cancelled =>
    cases accepted
    exact cancelled stopped

end Shutdown

/-! ## Exact cancellations -/

def ActiveMatch (registry : ActiveCommandRegistry) (cancellation : ExactCancellationRequest) :
    Prop :=
  ∃ handle command, registry.active.get? cancellation.target.commandId = some handle ∧
    registry.commands[handle]? = some command ∧ command.target = some cancellation.target ∧
    command.cancelToken = cancellation.cancelToken

/-- The target is not active, and its terminal receipt is the one the
cancellation names. -/
def TerminalMatch (sha256 : Sha256) (registry : ActiveCommandRegistry)
    (cancellation : ExactCancellationRequest) : Prop :=
  registry.active.get? cancellation.target.commandId = none ∧
    ∃ receipt, registry.terminal.get? cancellation.target.commandId = some receipt ∧
      receipt.target = some cancellation.target ∧
      receipt.cancelTokenDigest = cancelTokenDigest sha256 cancellation.cancelToken

section Exact

variable {registry : ActiveCommandRegistry} {sha256 : Sha256}
  {cancellation : ExactCancellationRequest}

lemma activeMatch_of_matches {handle : ActiveCommandHandle}
    (active : registry.active.get? cancellation.target.commandId = some handle)
    (named : registry.matchesCancellation handle cancellation = true) :
    registry.ActiveMatch cancellation := by
  obtain ⟨command, found, same⟩ := Option.any_eq_true _ _ |>.mp named
  simp only [Bool.and_eq_true, beq_iff_eq] at same
  exact ⟨handle, command, active, found, same.1, same.2⟩

/-- The terminal receipts confirm only the binding they hold. -/
lemma terminalResult_cases {R : Type} {alreadyTerminal bindingMismatch notActive : R}
    (absent : registry.active.get? cancellation.target.commandId = none) :
    let result := registry.terminalResult sha256 cancellation.target cancellation.cancelToken
      alreadyTerminal bindingMismatch notActive
    result = alreadyTerminal ∧ registry.TerminalMatch sha256 cancellation ∨
      result = bindingMismatch ∨ result = notActive := by
  unfold terminalResult
  cases found : registry.terminal.get? cancellation.target.commandId with
  | none => exact .inr (.inr rfl)
  | some receipt =>
    dsimp only
    split_ifs with same
    · exact .inl ⟨rfl, absent, receipt, found, same.1, same.2⟩
    · exact .inr (.inl rfl)

lemma requestExact_match (sha256 : Sha256) :
    let result := (registry.requestExactCancellation sha256 cancellation).1
    registry.ActiveMatch cancellation ∨
      result = .alreadyTerminal ∧ registry.TerminalMatch sha256 cancellation ∨
      result = .bindingMismatch ∨ result = .notActive := by
  unfold requestExactCancellation
  cases active : registry.active.get? cancellation.target.commandId with
  | none => exact .inr (terminalResult_cases active)
  | some handle =>
    dsimp only
    split_ifs with other
    · exact .inr (.inr (.inl rfl))
    · exact .inl (activeMatch_of_matches active (by simpa using other))

lemma probeExact_match (sha256 : Sha256) :
    let result := registry.probeExactCancellation sha256 cancellation
    registry.ActiveMatch cancellation ∨
      result = .alreadyTerminal ∧ registry.TerminalMatch sha256 cancellation ∨
      result = .bindingMismatch ∨ result = .notActive := by
  unfold probeExactCancellation
  cases active : registry.active.get? cancellation.target.commandId with
  | none => exact .inr (terminalResult_cases active)
  | some handle =>
    dsimp only
    split_ifs with other
    · exact .inr (.inr (.inl rfl))
    · exact .inl (activeMatch_of_matches active (by simpa using other))

end Exact

/-! ## The registry as a whole -/

/-- The signal of a command is set only if its lifecycle passed through a
requested cancellation, and exactly then as long as its handle never requested
one by itself. -/
def SignalsExact (sha256 : Sha256) (calls : List Call) : Prop :=
  ∀ handle command, (reached sha256 calls).commands[handle]? = some command →
    (command.cancelled = true → Passed sha256 calls handle) ∧
    (¬Sent calls handle → (command.cancelled = true ↔ Passed sha256 calls handle))

/-- Every active command is cancelled or terminal, or its handle has requested
the cancellation by itself. -/
def NothingRuns (sha256 : Sha256) (calls : List Call) : Prop :=
  ∀ commandId handle command, (reached sha256 calls).active.get? commandId = some handle →
    (reached sha256 calls).commands[handle]? = some command →
    command.cancelled = true ∨ (terminalOutcome command.lifecycle).isSome = true ∨
      Sent calls handle

/-- Whatever is registered is cancelled when the registration returns. -/
def RegistersCancelled (registry : ActiveCommandRegistry) : Prop :=
  (∀ commandId cancelToken handle,
    (registry.register commandId cancelToken).1 = .registered handle →
      (registry.register commandId cancelToken).2.SignalSet handle) ∧
  (∀ target cancelToken handle,
    (registry.registerBound target cancelToken).1 = .registered handle →
      (registry.registerBound target cancelToken).2.SignalSet handle) ∧
  ∀ target cancellationId cancelToken startRunning handle,
    (registry.registerWithCancellationId target cancellationId cancelToken startRunning).1 =
      .registered handle →
    (registry.registerWithCancellationId target cancellationId cancelToken
      startRunning).2.SignalSet handle

/-- Exact requests and probes find a command only under the binding they name. -/
def ExactAnswers (sha256 : Sha256) (registry : ActiveCommandRegistry) : Prop :=
  ∀ cancellation : ExactCancellationRequest,
    ((registry.requestExactCancellation sha256 cancellation).1 = .accepted →
      registry.ActiveMatch cancellation) ∧
    ((registry.requestExactCancellation sha256 cancellation).1 = .alreadyTerminal →
      registry.ActiveMatch cancellation ∨ registry.TerminalMatch sha256 cancellation) ∧
    (registry.probeExactCancellation sha256 cancellation = .active →
      registry.ActiveMatch cancellation) ∧
    (registry.probeExactCancellation sha256 cancellation = .alreadyTerminal →
      registry.ActiveMatch cancellation ∨ registry.TerminalMatch sha256 cancellation)

lemma signalsExact (sha256 : Sha256) (calls : List Call) : SignalsExact sha256 calls := by
  intro handle command found
  have fits := reached_signals sha256 calls handle command found
  exact ⟨fits.passed, fun quiet => ⟨fits.passed, fun passed => fits.cancelled passed quiet⟩⟩

lemma nothingRuns {sha256 : Sha256} {calls : List Call}
    (requested : .requestRuntimeShutdown ∈ calls) : NothingRuns sha256 calls := by
  intro commandId handle command active found
  have fits := reached_signals sha256 calls handle command found
  rcases reached_stoppedSettled sha256 calls (reached_shutdown requested) commandId handle command
    active found with interrupted | ended
  · by_cases sender : Sent calls handle
    · exact .inr (.inr sender)
    · exact .inl (fits.cancelled (fits.interrupted interrupted) sender)
  · exact .inr (.inl ended)

lemma registersCancelled {registry : ActiveCommandRegistry}
    (stopped : registry.shutdownRequested = true) : registry.RegistersCancelled :=
  ⟨fun _ _ _ => (registry.register_registers _ _).signalSet stopped,
    fun _ _ _ => (registry.registerInternal_registers _ _ _ _ _).signalSet stopped,
    fun _ _ _ _ _ => (registry.registerWithCancellationId_registers _ _ _ _).signalSet stopped⟩

lemma exactAnswers (sha256 : Sha256) (registry : ActiveCommandRegistry) :
    registry.ExactAnswers sha256 :=
  fun _ => ⟨fun accepted => (requestExact_match sha256).resolve_right (by simp [accepted]),
    fun terminal => (requestExact_match sha256).imp_right fun other =>
      (other.resolve_right (by simp [terminal])).2,
    fun active => (probeExact_match sha256).resolve_right (by simp [active]),
    fun terminal => (probeExact_match sha256).imp_right fun other =>
      (other.resolve_right (by simp [terminal])).2⟩

/-- What the registry guarantees in every state that calls can reach. -/
theorem registry_consistent (sha256 : Sha256) (calls : List Call) :
    Indexed (reached sha256 calls) ∧ SignalsExact sha256 calls ∧
    (.requestRuntimeShutdown ∈ calls →
      NothingRuns sha256 calls ∧ (reached sha256 calls).RegistersCancelled) ∧
    (reached sha256 calls).ExactAnswers sha256 :=
  ⟨reached_indexed sha256 calls, signalsExact sha256 calls,
    fun requested => ⟨nothingRuns requested, registersCancelled (reached_shutdown requested)⟩,
    exactAnswers sha256 _⟩

def sampleSha256 : Sha256 := fun _ =>
  ⟨"0000000000000000000000000000000000000000000000000000000000000000", by decide, by decide⟩

/-- A handle that requests the cancellation moves the lifecycle without the
signal. -/
def handleCancels : List Call :=
  [.register (some "command") (some "token"),
    .transition 0 (.requestCancellation .userRequested)]

/-- The shutdown finds a command terminal that was not removed yet. -/
def stopsAfterFailure : List Call :=
  [.register (some "command") (some "token"), .transition 0 (.complete .failed),
    .requestRuntimeShutdown]

/-- Signals do not follow every lifecycle, and the shutdown neither cancels every
active command nor ends registrations. -/
theorem signal_left_behind :
    ¬(∀ calls commandId handle command,
      (reached sampleSha256 calls).active.get? commandId = some handle →
      (reached sampleSha256 calls).commands[handle]? = some command →
      (command.cancelled = true ↔ Passed sampleSha256 calls handle)) ∧
    ¬(∀ calls commandId handle command, .requestRuntimeShutdown ∈ calls →
      (reached sampleSha256 calls).active.get? commandId = some handle →
      (reached sampleSha256 calls).commands[handle]? = some command →
      command.cancelled = true) ∧
    ¬(∀ calls commandId cancelToken handle, .requestRuntimeShutdown ∈ calls →
      ((reached sampleSha256 calls).register commandId cancelToken).1 ≠ .registered handle) := by
  refine ⟨fun claim => ?_, fun claim => ?_, fun claim => ?_⟩
  · have unset := claim handleCancels "command" 0
      ⟨none, "token", none, .cancellationRequested .received .userRequested, false⟩
      (by decide) (by decide)
    have passed : Passed sampleSha256 handleCancels 0 :=
      ⟨handleCancels, prefix_rfl, ⟨none, "token", none,
        .cancellationRequested .received .userRequested, false⟩, by decide, trivial⟩
    exact absurd (unset.mpr passed) (by decide)
  · have set := claim stopsAfterFailure "command" 0
      ⟨none, "token", none, .terminal .failed, false⟩ (by decide) (by decide)
      (by decide)
    exact absurd set (by decide)
  · exact claim [.requestRuntimeShutdown] (some "command") (some "token") 0 (by decide)
      (by decide)

end ActiveCommandRegistry

end Knowbee
