import Knowbee.SubSession.LifecycleRuns
import Knowbee.SubSession.Writers

/-!
# One table of transitions for all writers

Every change of a stored status is one of `SUB_SESSION_STATUS_TRANSITIONS` in a run whose writers
write what follows the stored status: a copy that is written back is the stored one, an approval
finds a sub-session that has not started, and a refusal finds one that has not ended
(`stored_status_sound`).
-/

namespace Knowbee

open List SubSessionStatus RunSubSessions Machine

namespace RunSubSessions

variable {table table' : RunSubSessions} {input : SubSessionContract} {status : SubSessionStatus}

lemma getRunSubSession_updated (written : table.updateRunSubSession input status = some table')
    (subSessionId : String) : table'.getRunSubSession subSessionId =
      (table.getRunSubSession subSessionId).map (updatedRow input status) := by
  unfold updateRunSubSession at written
  split_ifs at written with updatable
  cases written
  unfold getRunSubSession
  rw [find?_map]
  congr 2
  funext row
  simp only [Function.comp, updatedRow_subSessionId]

lemma getRunSubSession_inserted {row : DbRunSubSession} {subSessionId : String} (number : Nat)
    (found : table.getRunSubSession subSessionId = some row) :
    (table.insertRunSubSession input number).2.getRunSubSession subSessionId = some row := by
  unfold insertRunSubSession
  dsimp only
  split_ifs with free
  · unfold getRunSubSession at found ⊢
    rw [find?_append, found]
    rfl
  · exact found

lemma subSessionId_of_found {row : DbRunSubSession} {subSessionId : String}
    (found : table.getRunSubSession subSessionId = some row) : row.subSessionId = subSessionId := by
  have named := find?_some found
  exact of_decide_eq_true named

end RunSubSessions

namespace StatusWriters

variable {writers : StatusWriters} {store store' : SubSessionStore}

/-- Every stored status stays or is followed by one that may follow it. -/
def Follows (store store' : SubSessionStore) : Prop :=
  ∀ subSessionId row, store.table.getRunSubSession subSessionId = some row →
    ∃ row', store'.table.getRunSubSession subSessionId = some row' ∧
      row.status.canTransition row'.status = true

lemma Follows.refl (store : SubSessionStore) : Follows store store :=
  fun _ row found => ⟨row, found, canTransition_self row.status⟩

lemma follows_update {contract : SubSessionContract} {status : SubSessionStatus}
    {table' : RunSubSessions}
    (written : store.table.updateRunSubSession contract status = some table')
    (follows : ∀ row, store.table.getRunSubSession contract.subSessionId = some row →
      row.status.canTransition status = true) (same : store'.table = table') :
    Follows store store' := by
  intro subSessionId row found
  rw [same, getRunSubSession_updated written, found]
  refine ⟨_, rfl, ?_⟩
  unfold updatedRow
  split_ifs with hit
  · rw [subSessionId_of_found found] at hit
    exact follows row (hit ▸ found)
  · exact canTransition_self row.status

lemma follows_startRunner (writers : StatusWriters) (command : CommandRequest) :
    Follows writers.store (writers.startRunner command).store := by
  unfold startRunner
  dsimp only
  split_ifs with replayed
  · exact Follows.refl _
  · exact fun subSessionId row found => ⟨row,
      getRunSubSession_inserted _ found, canTransition_self _⟩

/-- The copy of a call of the runner is the stored one. -/
def CopyCurrent (writers : StatusWriters) (number : Nat) : Prop :=
  ∀ own ∈ writers.runners[number]?, ∀ status ∈ writers.stored own.1.subSessionId,
    status = own.2.status

variable {number : Nat}

lemma follows_write {contract : SubSessionContract} {world : SubSessionWorld}
    {target : SubSessionStatus} {updateFails : Option ThrownError}
    (current : ∀ row, store.table.getRunSubSession contract.subSessionId = some row → row.status =
      world.status) :
    Follows store (store.write number contract world (world.changeStatus target updateFails).2) := by
  have unchanged (persisted : List SubSessionStatus) :
      persisted.drop persisted.length = [] := drop_length
  unfold SubSessionStore.write SubSessionWorld.changeStatus
  cases allowed : world.status.canTransition target with
  | false =>
    simp only [Bool.not_false, if_true, unchanged, foldl_nil]
    exact Follows.refl store
  | true =>
    cases updateFails with
    | some error =>
      simp only [Bool.not_true, Bool.false_eq_true, if_false, unchanged, foldl_nil]
      exact Follows.refl store
    | none =>
      simp only [Bool.not_true, Bool.false_eq_true, if_false, drop_left, foldl_cons,
        foldl_nil]
      unfold SubSessionStore.update
      split
      · exact Follows.refl store
      · rename_i table written
        refine follows_update written (fun row found => ?_) rfl
        rw [current row found]
        exact allowed

lemma follows_changeStatus {target : SubSessionStatus} {updateFails : Option ThrownError}
    (current : writers.CopyCurrent number) :
    Follows writers.store (writers.changeStatus number target updateFails).store := by
  unfold changeStatus
  split
  · exact Follows.refl _
  · rename_i contract world found
    refine follows_write fun row stored => ?_
    refine current (contract, world) found row.status ?_
    rw [StatusWriters.stored, stored]
    rfl

/-- A decision that is taken finds a sub-session whose status may be replaced: one that
has not started, for an approval, and else one that has not ended. -/
def DecisionFits (writers : StatusWriters) (input : ApprovalDecisionInput) : Prop :=
  (updateCapabilityDelegationLifecycle writers.delegations input.delegationId
      input.decision.status).1.ok = true →
    ∀ subSessionId ∈ input.subSessionId, ∀ status ∈ writers.stored subSessionId,
      if input.decision = .approve then status ∈ [.created, .queued]
      else status ∉ [.completed, .needsRevision, .failed]

lemma decidedStatus_follows {decision : CapabilityApprovalDecision} {status : SubSessionStatus}
    (fits : if decision = .approve then status ∈ [.created, .queued]
      else status ∉ [.completed, .needsRevision, .failed]) :
    status.canTransition (decidedStatus decision.status) = true := by
  revert fits
  cases decision <;> cases status <;> decide

lemma follows_applyDecision {input : ApprovalDecisionInput} (fits : writers.DecisionFits input) :
    Follows writers.store (writers.applyCapabilityDelegationApprovalDecision input).2.store := by
  unfold applyCapabilityDelegationApprovalDecision
  dsimp only
  split_ifs with refused throws
  · exact Follows.refl _
  · exact Follows.refl _
  have ok : (updateCapabilityDelegationLifecycle writers.delegations input.delegationId
      input.decision.status).1.ok = true := by
    rw [Bool.not_eq_true', Bool.not_eq_false] at refused
    exact refused
  unfold decideSubSession
  split
  · exact Follows.refl _
  · rename_i subSessionId named
    split_ifs with empty
    · exact Follows.refl _
    · split
      · exact Follows.refl _
      · rename_i subSession found
        unfold update
        cases written : writers.store.table.updateRunSubSession subSession.contract
            (decidedStatus input.decision.status) with
        | none => exact Follows.refl _
        | some table =>
          refine follows_update written (fun row stored => ?_) rfl
          have same : subSession.contract.subSessionId = subSessionId :=
            subSessionId_of_found found
          rw [same, found] at stored
          cases stored
          refine decidedStatus_follows (fits ok subSessionId named subSession.status ?_)
          rw [StatusWriters.stored, found]
          rfl

/-- The copy that a recovery comes to is the stored one. -/
def RecoveryCurrent (writers : StatusWriters) (number : Nat) : Prop :=
  ∀ recovery ∈ writers.recoveries[number]?, ∀ copy ∈ recovery.head?,
    ∀ status ∈ writers.stored copy.subSessionId, status = copy.status

lemma canTransition_failed_of_active {status : SubSessionStatus} (active : status.isActive = true) :
    status.canTransition .failed = true := by
  revert active
  cases status <;> decide

lemma follows_recoverNext {updateFails : Bool} (current : writers.RecoveryCurrent number) :
    Follows writers.store (writers.recoverNext number updateFails).store := by
  unfold recoverNext
  split
  · exact Follows.refl _
  · exact Follows.refl _
  · rename_i copy rest found
    unfold classifySubSessionRecovery
    cases active : copy.status.isActive with
    | false => exact Follows.refl _
    | true =>
      cases updateFails with
      | true => exact Follows.refl _
      | false =>
        simp only [if_true, ne_eq, not_true_eq_false, if_false, Bool.false_eq_true]
        unfold update
        cases written : writers.store.table.updateRunSubSession copy.contract .failed with
        | none => exact Follows.refl _
        | some table =>
          refine follows_update written (fun row stored => ?_) rfl
          have same : row.status = copy.status := by
            refine current _ found copy rfl row.status ?_
            rw [StatusWriters.stored]
            exact congrArg (Option.map _) stored
          rw [same]
          exact canTransition_failed_of_active active

/-- What is written follows what is stored. -/
def Current (writers : StatusWriters) : StatusAction → Prop
  | .changeStatus number _ _ => writers.CopyCurrent number
  | .applyDecision input => writers.DecisionFits input
  | .recoverNext number _ => writers.RecoveryCurrent number
  | .startRunner _ | .startRecovery _ => True

lemma follows_step {action : StatusAction} (current : writers.Current action) :
    Follows writers.store (writers.step action).1.store := by
  cases action with
  | startRunner command => exact follows_startRunner writers command
  | changeStatus number target updateFails => exact follows_changeStatus current
  | applyDecision input => exact follows_applyDecision current
  | startRecovery subSessionIds => exact Follows.refl _
  | recoverNext number updateFails => exact follows_recoverNext current

lemma stored_terminal {actions : List StatusAction}
    (current : Along step Current writers actions) {subSessionId : String}
    {status : SubSessionStatus} (terminal : status.isReplayable = true)
    (ended : writers.stored subSessionId = some status) :
    (writers.run actions).stored subSessionId = some status := by
  have kept : ∀ writers action, writers.stored subSessionId = some status →
      Current writers action → (step writers action).1.stored subSessionId = some status := by
    intro writers action ended current
    obtain ⟨row, found, rfl⟩ := Option.map_eq_some_iff.mp ended
    obtain ⟨row', found', follows⟩ := follows_step current subSessionId row found
    rw [StatusWriters.stored, found', Option.map_some,
      eq_of_canTransition terminal follows]
  exact run_invariant_along kept ended current

/-- Every change of a stored status is one of `SUB_SESSION_STATUS_TRANSITIONS`, and a
terminal status stays, in a run whose writers write what follows what is stored. -/
theorem stored_status_sound (table : RunSubSessions) (delegations : List CapabilityDelegation)
    (actions : List StatusAction)
    (current : Along step Current (start table delegations) actions) :
    (∀ first action rest, actions = first ++ action :: rest → ∀ subSessionId old new,
      ((start table delegations).run first).stored subSessionId = some old →
      ((start table delegations).run (first ++ [action])).stored subSessionId = some new →
      old ≠ new → new ∈ old.transitions) ∧
    (∀ first rest, actions = first ++ rest → ∀ subSessionId old, old.isReplayable = true →
      ((start table delegations).run first).stored subSessionId = some old →
      ((start table delegations).run actions).stored subSessionId = some old) := by
  constructor
  · rintro first action rest rfl subSessionId old new before after changed
    have here := (along_append.mp current).2.1
    obtain ⟨row, found, rfl⟩ := Option.map_eq_some_iff.mp before
    obtain ⟨row', found', follows⟩ := follows_step here subSessionId row found
    have same : ((start table delegations).run (first ++ [action])).stored subSessionId =
        some row'.status := by
      rw [run, run_append, stored]
      exact congrArg (Option.map _) found'
    rw [same] at after
    cases after
    exact (of_decide_eq_true follows).resolve_left changed
  · rintro first rest rfl subSessionId old terminal ended
    rw [run, run_append]
    exact stored_terminal (along_append.mp current).2 terminal ended

end StatusWriters

section Samples

open StatusWriters

instance (writers : StatusWriters) (action : StatusAction) : Decidable (writers.Current action) :=
  match action with
  | .changeStatus _ _ _ => inferInstanceAs (Decidable (∀ _ ∈ _, ∀ _ ∈ _, _ = _))
  | .applyDecision _ => inferInstanceAs (Decidable (_ = _ → ∀ _ ∈ _, ∀ _ ∈ _, ite _ _ _))
  | .recoverNext _ _ => inferInstanceAs (Decidable (∀ _ ∈ _, ∀ _ ∈ _, ∀ _ ∈ _, _ = _))
  | .startRunner _ => .isTrue trivial
  | .startRecovery _ => .isTrue trivial

def noSubSessions : RunSubSessions := ⟨[], List.Pairwise.nil⟩

def requestedDelegation : List CapabilityDelegation := [⟨"delegation", .requested⟩]

/-- A sub-session that waits for the approval of its delegation. -/
def awaitingRun : List StatusAction :=
  [.startRunner ⟨"sub", "run", "key"⟩, .changeStatus 0 .queued none, .changeStatus 0 .running none,
    .changeStatus 0 .awaitingApproval none]

def decision (decision : CapabilityApprovalDecision) : StatusAction :=
  .applyDecision ⟨"delegation", decision, some "sub", false⟩

theorem stored_status_sound_refused :
    ((start noSubSessions requestedDelegation).run (awaitingRun ++ [decision .deny] ++
        [.startRecovery ["sub"], .recoverNext 0 false])).stored "sub" = some .cancelled := by
  refine (stored_status_sound noSubSessions requestedDelegation _ ?_).2
    (awaitingRun ++ [decision .deny]) _ rfl "sub" .cancelled rfl ?_
  · decide
  · decide

/-- A late expiry replaces `completed`, and an approval puts a sub-session that waits
for it back to `queued`. -/
theorem decisions_break_table :
    (((start noSubSessions requestedDelegation).run
        (awaitingRun ++ [.changeStatus 0 .completed none])).stored "sub" = some .completed ∧
      ((start noSubSessions requestedDelegation).run
        (awaitingRun ++ [.changeStatus 0 .completed none] ++ [decision .expire])).stored "sub" =
          some .cancelled ∧
      cancelled ∉ completed.transitions) ∧
    ((start noSubSessions requestedDelegation).run awaitingRun).stored "sub" =
        some .awaitingApproval ∧
      ((start noSubSessions requestedDelegation).run (awaitingRun ++ [decision .approve])).stored
        "sub" = some .queued ∧
      queued ∉ awaitingApproval.transitions := by
  decide

end Samples

end Knowbee
