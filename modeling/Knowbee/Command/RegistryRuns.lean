import Knowbee.Command.RegistrySteps

/-!
# What the registry keeps

Every command stays registered under its handle with its target and its token,
and a cancellation signal that was set stays set (`Keeps`); an exact
cancellation that is accepted has set the signal of the command it names
(`requestExact_accepted`).
-/

namespace Knowbee

namespace ActiveCommandRegistry

variable {registry before after : ActiveCommandRegistry} {handle : ActiveCommandHandle}
  {sha256 : Sha256} {cancellation : ExactCancellationRequest}

/-- Every command stays what it was registered as, and signals stay set. -/
def Keeps (before after : ActiveCommandRegistry) : Prop :=
  ∀ (handle : ActiveCommandHandle) (command : ActiveCommand),
    before.commands[handle]? = some command →
    ∃ later : ActiveCommand, after.commands[handle]? = some later ∧ later.target = command.target ∧
      later.cancelToken = command.cancelToken ∧
      (command.cancelled = true → later.cancelled = true)

/-- A command that was registered for the target and the token of the
cancellation has had its signal set. -/
def Signalled (registry : ActiveCommandRegistry) (cancellation : ExactCancellationRequest) : Prop :=
  ∃ (handle : ActiveCommandHandle) (command : ActiveCommand),
    registry.commands[handle]? = some command ∧ command.target = some cancellation.target ∧
    command.cancelToken = cancellation.cancelToken ∧ command.cancelled = true

lemma Keeps.signalled (keeps : before.Keeps after) (signalled : before.Signalled cancellation) :
    after.Signalled cancellation := by
  obtain ⟨handle, command, found, target, token, set⟩ := signalled
  obtain ⟨later, later_found, same_target, same_token, still⟩ := keeps handle command found
  exact ⟨handle, later, later_found, same_target.trans target, same_token.trans token, still set⟩

lemma Moved.keeps (sent : ActiveCommandHandle → Prop)
    (moved : Moved (fun handle => CommandMove (sent handle)) before.commands after.commands) :
    before.Keeps after := by
  intro handle command found
  obtain ⟨later, here, move⟩ := moved.move handle command found
  exact ⟨later, here, move.keeps.2⟩

lemma Effect.keeps {sent : ActiveCommandHandle → Prop} (effect : Effect sent before after) :
    before.Keeps after := by
  cases effect with
  | moved moved => exact moved.keeps sent
  | registered =>
    intro handle command found
    have bound : handle < before.commands.length := (List.getElem?_eq_some_iff.mp found).1
    exact ⟨command, by rw [List.getElem?_append_left bound, found], rfl, rfl, id⟩
  | removed => exact fun _ command found => ⟨command, found, rfl, rfl, id⟩
  | finalized => exact fun _ command found => ⟨command, found, rfl, rfl, id⟩
  | stopped moved => exact Moved.keeps sent (moved.imp fun _ _ _ move => move.commandMove _)

lemma afterCall_keeps (registry : ActiveCommandRegistry) (call : Call) :
    registry.Keeps (registry.afterCall sha256 call) :=
  (registry.afterCall_effect call).keeps

lemma requestExact_keeps (registry : ActiveCommandRegistry)
    (cancellation : ExactCancellationRequest) :
    registry.Keeps (registry.requestExactCancellation sha256 cancellation).2 :=
  registry.afterCall_keeps (.requestExactCancellation cancellation)

lemma requestExact_accepted
    (accepted : (registry.requestExactCancellation sha256 cancellation).1 = .accepted) :
    (registry.requestExactCancellation sha256 cancellation).2.Signalled cancellation := by
  unfold requestExactCancellation at accepted ⊢
  cases found : registry.active.get? cancellation.target.commandId with
  | none =>
    simp only [found, terminalResult] at accepted
    split at accepted
    · split_ifs at accepted
    · cases accepted
  | some handle =>
    simp only [found] at accepted ⊢
    split_ifs at accepted ⊢ with other
    · have named : registry.matchesCancellation handle cancellation = true := by simpa using other
      obtain ⟨command, here, same⟩ := Option.any_eq_true _ _ |>.mp named
      simp only [Bool.and_eq_true, beq_iff_eq] at same
      obtain ⟨target, token⟩ := same
      rcases registry.requestActive_cases handle cancellation.reasonKind.toReason with
        ⟨result, same, refused, -⟩ | ⟨other, state, found', -, same⟩
      · rw [same] at accepted
        exact absurd accepted refused
      · cases here.symm.trans found'
        have bound : handle < registry.commands.length := (List.getElem?_eq_some_iff.mp here).1
        rw [same]
        exact ⟨handle, _, List.getElem?_set_self bound, target, token, rfl⟩

end ActiveCommandRegistry

end Knowbee
