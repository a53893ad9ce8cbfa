import Mathlib.Data.List.Chain
import Knowbee.SubSession.Lifecycle

/-!
# Runs of the call of a sub-session

While the store works, the stored statuses follow the table of transitions and
the last of them is the status in memory, whatever the handler, the review and
the environment do.  A call that returns has settled: its status is terminal and
is kept.  It does not reject while the events outside the `try` block are
recorded and the `catch` block finds a status that it can leave or keep
(`lifecycle_sound`).
-/

namespace Knowbee

open List SubSessionCall SubSessionWorld SubSessionStatus Machine

variable {R : Type}

/-! ## Statuses -/

namespace SubSessionStatus

lemma canTransition_self (status : SubSessionStatus) : status.canTransition status = true := by
  simp [canTransition]

lemma eq_of_canTransition {source target : SubSessionStatus}
    (terminal : source.isReplayable = true) (allowed : source.canTransition target = true) :
    target = source := by
  cases source <;> cases target <;> first
    | rfl
    | exact absurd terminal (by decide)
    | exact absurd allowed (by decide)

lemma canTransition_cancelled_iff (status : SubSessionStatus) :
    status.canTransition .cancelled = true ↔
      status ≠ .needsRevision ∧ status ≠ .completed ∧ status ≠ .failed := by
  cases status <;> decide

lemma canTransition_failed_iff {status : SubSessionStatus}
    (live : status ∉ [completed, failed, cancelled]) :
    status.canTransition .failed = true ↔ status ≠ .needsRevision := by
  revert live
  cases status <;> decide

end SubSessionStatus

/-- Each stored status may follow the one before it. -/
def FollowsTable (persisted : List SubSessionStatus) : Prop :=
  persisted.IsChain fun source target => source.canTransition target = true

namespace SubSessionWorld

/-- The stored statuses follow the table, and the last is the one in memory. -/
structure Sound (world : SubSessionWorld) : Prop where
  follows : FollowsTable world.persisted
  last : world.persisted.getLast? = some world.status

lemma Sound.created : created.Sound := ⟨isChain_singleton _, rfl⟩

lemma changeStatus_cases (world : SubSessionWorld) (target : SubSessionStatus) :
    (world.status.canTransition target = true ∧
        world.changeStatus target none =
          (.ok (), { world with status := target, persisted := world.persisted ++ [target] })) ∨
      (world.status.canTransition target = false ∧
        world.changeStatus target none = (.error ⟨false⟩, world)) := by
  unfold changeStatus
  cases allowed : world.status.canTransition target with
  | true => exact .inl ⟨rfl, rfl⟩
  | false => exact .inr ⟨rfl, rfl⟩

lemma changeStatus_ok_iff (world : SubSessionWorld) (target : SubSessionStatus) :
    (world.changeStatus target none).1 = .ok () ↔ world.status.canTransition target = true := by
  rcases world.changeStatus_cases target with ⟨allowed, changed⟩ | ⟨refused, same⟩
  · simp [changed, allowed]
  · simp [same, refused]

lemma Sound.changeStatus {world : SubSessionWorld} (sound : world.Sound)
    (target : SubSessionStatus) : (world.changeStatus target none).2.Sound := by
  rcases world.changeStatus_cases target with ⟨allowed, changed⟩ | ⟨-, refused⟩
  · rw [changed]
    refine ⟨?_, getLast?_concat⟩
    refine isChain_append.mpr ⟨sound.follows, isChain_singleton _, ?_⟩
    intro before last after first
    rw [sound.last] at last
    cases Option.mem_some.mp last
    cases first
    exact allowed
  · rw [refused]
    exact sound

lemma Sound.interfere {world : SubSessionWorld} {interference : Interference}
    (sound : world.Sound)
    (works : ∀ status error, interference ≠ .emitProgress status (some error)) :
    (world.interfere interference).Sound := by
  cases interference with
  | abort => exact ⟨sound.follows, sound.last⟩
  | emitProgress status updateFails =>
    cases updateFails with
    | some error => exact absurd rfl (works status error)
    | none =>
      simp only [SubSessionWorld.interfere]
      split_ifs
      · exact sound.changeStatus status
      · exact sound

end SubSessionWorld

/-! ## How far a call is -/

/-- How far a call is: before its handler it knows its status, then the handler
may change it, and a terminal status is known again. -/
inductive CallStage where
  | starting (status : SubSessionStatus)
  | live
  | settled (status : SubSessionStatus)

namespace CallStage

/-- After a change of status that was stored. -/
def changed (stage : CallStage) (target : SubSessionStatus) : CallStage :=
  if target.isReplayable then .settled target
  else match stage with
    | .starting _ => .starting target
    | stage => stage

def Holds (world : SubSessionWorld) : CallStage → Prop
  | .starting status => world.status = status ∧ world.handlerCalled = false
  | .live => True
  | .settled status => world.status = status ∧ status.isReplayable = true

lemma Holds.interfere {world : SubSessionWorld} {stage : CallStage}
    {interference : SubSessionWorld.Interference} (holds : stage.Holds world)
    (works : ∀ status error, interference ≠ .emitProgress status (some error)) :
    stage.Holds (world.interfere interference) := by
  cases interference with
  | abort => cases stage <;> exact holds
  | emitProgress status updateFails =>
    cases updateFails with
    | some error => exact absurd rfl (works status error)
    | none =>
      simp only [SubSessionWorld.interfere]
      split_ifs with emits
      · cases stage with
        | starting known => exact absurd emits.1 (by simp [holds.2])
        | live => trivial
        | settled known =>
          -- a terminal status has no other to go to
          rcases world.changeStatus_cases status with ⟨allowed, -⟩ | ⟨-, refused⟩
          · have same : status = world.status :=
              eq_of_canTransition (holds.1 ▸ holds.2) allowed
            exact absurd same emits.2
          · simp only [refused]
            exact holds
      · exact holds

lemma Holds.changed {world : SubSessionWorld} {stage : CallStage} {target : SubSessionStatus}
    (holds : stage.Holds world) (allowed : world.status.canTransition target = true) :
    (stage.changed target).Holds
      { world with status := target, persisted := world.persisted ++ [target] } := by
  unfold CallStage.changed
  split_ifs with terminal
  · exact ⟨rfl, terminal⟩
  · cases stage with
    | starting known => exact ⟨rfl, holds.2⟩
    | live => trivial
    | settled known =>
      have same : target = world.status :=
        eq_of_canTransition (holds.1 ▸ holds.2) allowed
      rw [same, holds.1] at terminal
      exact absurd holds.2 terminal

end CallStage

/-! ## What the environment may do -/

variable (call : SubSessionCall R)

/-- The call asks next whether its parent run was cancelled. -/
def SubSessionCall.asksParent : Bool :=
  match call.2 with
  | .call .isParentCancelled _ => true
  | _ => false

/-- The store takes every change of status, and the parent run can be read before
the start. -/
def StoreWorks (choice : RunnerChoice R) : Prop :=
  choice.updateFails = none ∧
    (∀ status error, .emitProgress status (some error) ∉ choice.meanwhile) ∧
    (call.asksParent = true → choice.throws = none)

/-- The statuses that the `catch` block can leave or keep. -/
def CatchSettles (world : SubSessionWorld) (error : ThrownError) : Prop :=
  world.status ≠ .needsRevision ∧
    (world.aborted = true ∨ error.abortLike = true →
      world.status ≠ .completed ∧ world.status ≠ .failed)

/-- Outside the `try` block the events are recorded, and the `catch` block finds a
status that it can leave or keep. -/
def Handled (choice : RunnerChoice R) : Prop :=
  match call.2 with
  | .call (.appendParentEvent .unguarded _) _ => choice.throws = none
  | .call (.recordLedgerEvent .unguarded _) _ => choice.throws = none
  | .call (.enterCatch error) _ => CatchSettles (call.1.meanwhile choice) error
  | _ => True

/-- The `catch` block changes or keeps the status. -/
def CatchDecision.Settled : CatchDecision → Prop
  | .cancelling changed => changed = .ok ()
  | .terminal _ => True
  | .failing changed => changed = .ok ()

lemma enterCatch_settled (world : SubSessionWorld) {choice : RunnerChoice R}
    (works : choice.updateFails = none) (error : ThrownError) :
    CatchDecision.Settled (world.perform choice (.enterCatch error)).1 ↔
      CatchSettles world error := by
  rw [CatchSettles]
  simp only [perform, works]
  split_ifs with cancels terminal
  · simp [CatchDecision.Settled, changeStatus_ok_iff,
      canTransition_cancelled_iff, cancels, forall_const]
  · simp only [CatchDecision.Settled, cancels, false_implies, and_true, true_iff]
    rintro same
    rw [same] at terminal
    exact absurd terminal (by decide)
  · simp only [CatchDecision.Settled, changeStatus_ok_iff, cancels, false_implies,
      and_true]
    exact canTransition_failed_iff terminal

/-! ## What a call is held to -/

/-- What an answer makes of the stage. -/
def CallStage.next (stage : CallStage) : (op : RunnerOp) → RunnerAns R op → CallStage
  | .changeStatus target, .ok _ => stage.changed target
  | .callHandler, _ => match stage with
    | .starting _ => .live
    | stage => stage
  | .cancelIfAborted, some (.ok _) => stage.changed .cancelled
  | .enterCatch _, .cancelling (.ok _) => stage.changed .cancelled
  | .enterCatch _, .terminal status => .settled status
  | .enterCatch _, .failing (.ok _) => stage.changed .failed
  | _, _ => stage

/-- The handler is called once, before it may have changed the status. -/
def CallStage.may (stage : CallStage) : RunnerOp → Prop
  | .callHandler => ∃ status, stage = .starting status
  | _ => True

/-- What may be taken for granted of an answer, where the store works and where
every step is handled. -/
def CallStage.gets (works strict : Prop) (stage : CallStage) :
    (op : RunnerOp) → RunnerAns R op → Prop
  | .appendParentEvent place _, recorded => place = .unguarded → strict → recorded = .ok ()
  | .recordLedgerEvent place _, recorded => place = .unguarded → strict → recorded = .ok ()
  | .changeStatus target, changed => ∀ status, stage = .starting status →
      status.canTransition target = true → works → changed = .ok ()
  | .isParentCancelled, answer => works → ∃ cancelled, answer = .ok cancelled
  | .enterCatch _, decision => strict → decision.Settled
  | .readStatus, status => ∀ known, stage = .settled known → works → status = known
  | _, _ => True

def lifecycleRules (R : Type) (works strict : Prop) : Rules Unit RunnerOp (RunnerAns R) CallStage :=
  ⟨fun _ => .starting .created, CallStage.next, CallStage.may, CallStage.gets works strict⟩

def Returns (works : Prop) (stage : CallStage) (outcome : RunnerOutcome R) : Prop :=
  works → stage = .settled outcome.status

/-- Outside the `try` block something is thrown only when the store failed or a
step was not handled. -/
def Rejects (works strict : Prop) (place : Place) (_ : CallStage) (_ : ThrownError) : Prop :=
  place = .unguarded → works → ¬strict

namespace SubSessionRunner

open Throwing

variable {works strict : Prop} {place : Place} {stage : CallStage}

/-- Where the program returns, the stage is the second one. -/
abbrev Leads (R : Type) {α : Type} (works strict : Prop) (place : Place) (stage after : CallStage)
    (prog : RunnerProg R α) : Prop :=
  Meets (lifecycleRules R works strict) (fun reached _ => reached = after)
    (Rejects works strict place) stage prog

/-- The outcome that the program returns is that of its stage. -/
abbrev Concludes (R : Type) (works strict : Prop) (place : Place) (stage : CallStage)
    (prog : RunnerProg R (RunnerOutcome R)) : Prop :=
  Meets (lifecycleRules R works strict) (Returns works) (Rejects works strict place) stage prog

lemma appendParentEvent_meets (place : Place) (event : ParentEvent) :
    Leads R works strict place stage stage (appendParentEvent place event) := by
  refine Meets.attempt trivial fun recorded gets => ?_
  cases recorded with
  | ok _ => rfl
  | error error => exact fun unguarded _ handled => nomatch gets unguarded handled

lemma recordLedgerEvent_meets (place : Place) (event : LedgerEvent) :
    Leads R works strict place stage stage (recordLedgerEvent place event) := by
  refine Meets.attempt trivial fun recorded gets => ?_
  cases recorded with
  | ok _ => rfl
  | error error => exact fun unguarded _ handled => nomatch gets unguarded handled

lemma flushProgressBatch_meets (place : Place) :
    Leads R works strict place stage stage (flushProgressBatch place) := by
  refine Meets.bind (fun after _ => after = stage) (Meets.perform trivial fun _ _ => rfl) ?_
  rintro _ batch rfl
  refine Meets.ite (fun _ => ?_) fun _ => Meets.pure rfl
  refine (appendParentEvent_meets place _).andThen fun _ => ?_
  exact recordLedgerEvent_meets place _

lemma changeStatus_meets {status target : SubSessionStatus}
    (allowed : status.canTransition target = true) :
    Leads R works strict place (.starting status) ((CallStage.starting status).changed target)
      (changeStatus target) := by
  refine Meets.attempt trivial fun changed gets => ?_
  cases changed with
  | ok _ => rfl
  | error error => exact fun _ working => nomatch gets status rfl allowed working

lemma settle_meets {target : SubSessionStatus} (terminal : target.isReplayable = true) :
    Leads R works strict .guarded stage (.settled target) (changeStatus target) := by
  refine Meets.attempt trivial fun changed _ => ?_
  cases changed with
  | ok _ => exact if_pos terminal
  | error error => exact nofun

lemma finishCancelled_meets (place : Place) (reasonCode : String) :
    Concludes R works strict place (.settled .cancelled) (finishCancelled place reasonCode) := by
  refine (flushProgressBatch_meets place).andThen fun _ => ?_
  refine (appendParentEvent_meets place _).andThen fun _ => ?_
  refine (recordLedgerEvent_meets place _).andThen fun _ => ?_
  exact Meets.pure fun _ => rfl

lemma cancelBeforeStart_meets :
    Concludes R works strict .unguarded (.starting .queued) cancelBeforeStart := by
  refine (changeStatus_meets rfl).andThen fun _ => ?_
  exact finishCancelled_meets .unguarded _

lemma guarded_meets {α : Type} {op : RunnerOp} {thrown : RunnerAns R op → Except ThrownError α}
    (may : stage.may op) (same : ∀ ans : RunnerAns R op, stage.next op ans = stage) :
    Leads R works strict .guarded stage stage (Throwing.attempt op thrown) := by
  refine Meets.attempt may fun ans _ => ?_
  cases thrown ans with
  | ok _ => exact same ans
  | error error => exact nofun

lemma readStatus_meets {status : SubSessionStatus} {throws : CallStage → ThrownError → Prop} :
    Meets (lifecycleRules R works strict) (fun after read => after = .settled status ∧ (works →
      read = status))
      throws (.settled status) (runnerStep .readStatus) :=
  Meets.perform trivial fun _ gets => ⟨rfl, gets status rfl⟩

variable (hasModelSnapshot : Bool)

lemma executeWithModelPolicy_meets :
    Leads R works strict .guarded (.starting .running) .live (executeWithModelPolicy hasModelSnapshot) := by
  refine Meets.ite (fun _ => ?_) fun _ => Meets.throw nofun
  refine Meets.bind (fun after _ => after = .live) (Meets.perform ⟨_, rfl⟩ fun _ _ => rfl) ?_
  rintro _ - rfl
  refine Meets.andThen (guarded_meets trivial fun _ => rfl) fun result => ?_
  refine (recordLedgerEvent_meets .guarded _).andThen fun _ => ?_
  exact Meets.pure rfl

lemma suppressLateResult_meets : Concludes R works strict .guarded stage
      (suppressLateResult : RunnerProg R (RunnerOutcome R)) := by
  refine (settle_meets rfl).andThen fun _ => ?_
  refine (flushProgressBatch_meets .guarded).andThen fun _ => ?_
  refine (appendParentEvent_meets .guarded _).andThen fun _ => ?_
  refine (recordLedgerEvent_meets .guarded _).andThen fun _ => ?_
  refine Meets.bind _ readStatus_meets ?_
  rintro _ _ ⟨rfl, same⟩
  exact Meets.pure fun working => congrArg CallStage.settled (same working).symm

lemma blockResult_meets (result : R) (review : SubAgentResultReview) (detail : String) :
    Concludes R works strict .guarded stage (blockResult result review detail) := by
  refine (settle_meets rfl).andThen fun _ => ?_
  refine (flushProgressBatch_meets .guarded).andThen fun _ => ?_
  refine (appendParentEvent_meets .guarded _).andThen fun _ => ?_
  refine (recordLedgerEvent_meets .guarded _).andThen fun _ => ?_
  exact Meets.pure fun _ => rfl

lemma integrateResult_meets (result : R) (review : SubAgentResultReview) :
    Concludes R works strict .guarded stage (integrateResult result review) := by
  have terminal : review.status.status.isReplayable = true := by cases review.status <;> rfl
  refine (settle_meets terminal).andThen fun _ => ?_
  refine (flushProgressBatch_meets .guarded).andThen fun _ => ?_
  refine (appendParentEvent_meets .guarded _).andThen fun _ => ?_
  refine Meets.andThen (guarded_meets trivial fun _ => rfl) fun _ => ?_
  refine (appendParentEvent_meets .guarded _).andThen fun _ => ?_
  refine (recordLedgerEvent_meets .guarded _).andThen fun _ => ?_
  refine (recordLedgerEvent_meets .guarded _).andThen fun _ => ?_
  refine (appendParentEvent_meets .guarded _).andThen fun _ => ?_
  have ending : Concludes R works strict .guarded (.settled review.status.status) (do
        let status : SubSessionStatus ← runnerStep .readStatus
        return ⟨status, some result, some review, none, none⟩) := by
    refine Meets.bind _ readStatus_meets ?_
    rintro _ _ ⟨rfl, same⟩
    exact Meets.pure fun working => congrArg CallStage.settled (same working).symm
  refine Meets.ite (fun _ => ?_) fun _ => ending
  refine (appendParentEvent_meets .guarded _).andThen fun _ => ?_
  exact ending

lemma execute_meets :
    Concludes R works strict .guarded (.starting .queued) (execute hasModelSnapshot) := by
  refine (changeStatus_meets rfl).andThen fun _ => ?_
  refine (appendParentEvent_meets .guarded _).andThen fun _ => ?_
  refine (executeWithModelPolicy_meets hasModelSnapshot).andThen fun result => ?_
  let aborts (after : CallStage) (cancelled : Option (Except ThrownError Unit)) : Prop :=
    cancelled = some (.ok ()) → after = .settled .cancelled
  refine Meets.bind aborts (Meets.perform trivial fun cancelled _ same => ?_) ?_
  · rw [same]
    rfl
  rintro after cancelled stopped
  rcases cancelled with _ | error | _
  · refine Meets.andThen (guarded_meets trivial fun _ => rfl) fun finalized => ?_
    refine Meets.ite (fun _ => suppressLateResult_meets) fun _ => ?_
    refine Meets.andThen (guarded_meets trivial fun _ => rfl) fun review => ?_
    refine Meets.bind _ (guarded_meets trivial fun _ => rfl) ?_
    rintro _ (_ | detail) rfl
    · exact integrateResult_meets result review
    · exact blockResult_meets result review detail
  · exact Meets.throw nofun
  · rw [stopped rfl]
    exact finishCancelled_meets .guarded _

lemma handleError_meets (error : ThrownError) : Concludes R works strict .unguarded stage
      (handleError error : RunnerProg R (RunnerOutcome R)) := by
  let decided (after : CallStage) (decision : CatchDecision) : Prop :=
    (strict → decision.Settled) ∧
      match decision with
      | .cancelling changed => changed = .ok () → after = .settled .cancelled
      | .terminal status => after = .settled status
      | .failing changed => changed = .ok () → after = .settled .failed
  refine Meets.bind decided (Meets.perform trivial fun decision settled => ⟨settled, ?_⟩) ?_
  · cases decision with
    | cancelling changed => exact fun same => same ▸ rfl
    | terminal status => rfl
    | failing changed => exact fun same => same ▸ rfl
  rintro after decision ⟨settled, stands⟩
  rcases decision with (thrown | _) | status | (thrown | _)
  · exact Meets.throw fun _ _ handled => nomatch settled handled
  · rw [stands rfl]
    exact finishCancelled_meets .unguarded _
  · rw [stands]
    refine (appendParentEvent_meets .unguarded _).andThen fun _ => ?_
    refine Meets.bind _ readStatus_meets ?_
    rintro _ _ ⟨rfl, same⟩
    exact Meets.pure fun working => congrArg CallStage.settled (same working).symm
  · exact Meets.throw fun _ _ handled => nomatch settled handled
  · rw [stands rfl]
    refine (flushProgressBatch_meets .unguarded).andThen fun _ => ?_
    refine (appendParentEvent_meets .unguarded _).andThen fun _ => ?_
    refine (recordLedgerEvent_meets .unguarded _).andThen fun _ => ?_
    exact Meets.pure fun _ => rfl

lemma runCreated_meets :
    Concludes R works strict .unguarded (.starting .created) (runCreated hasModelSnapshot) := by
  refine (appendParentEvent_meets .unguarded _).andThen fun _ => ?_
  refine (appendParentEvent_meets .unguarded _).andThen fun _ => ?_
  refine (recordLedgerEvent_meets .unguarded _).andThen fun _ => ?_
  refine (changeStatus_meets rfl).andThen fun _ => ?_
  refine (appendParentEvent_meets .unguarded _).andThen fun _ => ?_
  have onward (cancelled : Bool) : Concludes R works strict .unguarded (.starting .queued) (do
        if cancelled then cancelBeforeStart
        else
          let _ : Unit ← runnerStep .listen
          tryCatch (execute hasModelSnapshot) handleError) := by
    refine Meets.ite (fun _ => cancelBeforeStart_meets) fun _ => ?_
    refine Meets.bind (fun after _ => after = .starting .queued)
      (Meets.perform trivial fun _ _ => rfl) ?_
    rintro _ - rfl
    exact Meets.tryCatch (execute_meets hasModelSnapshot) fun _ error _ => handleError_meets error
  have asking : Concludes R works strict .unguarded (.starting .queued) (do
        let aborted : Bool ← runnerStep .parentAborted
        let cancelled ← if aborted then pure true else .attempt .isParentCancelled id
        if cancelled then cancelBeforeStart
        else
          let _ : Unit ← runnerStep .listen
          tryCatch (execute hasModelSnapshot) handleError) := by
    refine Meets.bind (fun after _ => after = .starting .queued)
      (Meets.perform trivial fun _ _ => rfl) ?_
    rintro _ aborted rfl
    refine Meets.ite (fun _ => onward true) fun _ => ?_
    refine Meets.bind (fun after _ => after = .starting .queued)
      (Meets.attempt trivial fun answer gets => ?_) ?_
    · cases answer with
      | ok cancelled => rfl
      | error error => exact fun _ working => nomatch gets working
    rintro _ cancelled rfl
    exact onward cancelled
  refine Meets.ite (fun _ => ?_) fun _ => asking
  refine (appendParentEvent_meets .unguarded _).andThen fun _ => ?_
  exact asking

end SubSessionRunner

/-! ## Runs -/

/-- The invariant of a call: its world is sound, and its stage holds of it. -/
def CallStage.Inv (world : SubSessionWorld) (stage : CallStage) : Prop :=
  world.Sound ∧ stage.Holds world

namespace CallStage

variable {world : SubSessionWorld} {stage : CallStage} {choice : RunnerChoice R}

lemma Inv.meanwhile (inv : stage.Inv world)
    (works : ∀ status error, .emitProgress status (some error) ∉ choice.meanwhile) :
    stage.Inv (world.meanwhile choice) := by
  unfold SubSessionWorld.meanwhile
  generalize choice.meanwhile = meanwhile at works
  induction meanwhile generalizing world with
  | nil => exact inv
  | cons interference rest ih =>
    have here : ∀ status error, interference ≠ .emitProgress status (some error) :=
      fun status error same => works status error (same ▸ mem_cons_self)
    refine ih ⟨?_, inv.2.interfere here⟩ fun status error later =>
      works status error (mem_cons_of_mem _ later)
    exact inv.1.interfere here

lemma Inv.changeStatus (inv : stage.Inv world) (target : SubSessionStatus) :
    ((world.changeStatus target none).1 = .ok () ∧
        (stage.changed target).Inv (world.changeStatus target none).2) ∨
      ((world.changeStatus target none).1 = .error ⟨false⟩ ∧
        stage.Inv (world.changeStatus target none).2) := by
  have sound := inv.1.changeStatus target
  rcases world.changeStatus_cases target with ⟨allowed, changed⟩ | ⟨-, refused⟩
  · rw [changed] at sound ⊢
    exact .inl ⟨rfl, sound, inv.2.changed allowed⟩
  · rw [refused]
    exact .inr ⟨rfl, inv⟩

end CallStage

lemma lifecycle_keeps (strict : Prop) :
    (lifecycleRules R True strict).Keeps handle
      (fun choice world => world.meanwhile choice)
      (fun (call : SubSessionCall R) choice =>
        StoreWorks call choice ∧ (strict → Handled call choice))
      fun world stage => stage.Inv world where
  after inv permits := inv.meanwhile permits.1.2.1
  call {world stage op next choice} inv permits _ := by
    obtain ⟨⟨works, calm, readable⟩, handled⟩ := permits
    have met : stage.Inv (world.meanwhile choice) := inv.meanwhile calm
    simp only [handle]
    cases op with
    | appendParentEvent place event =>
      refine ⟨fun unguarded strictly => ?_, met⟩
      subst unguarded
      have recorded : choice.throws = none := handled strictly
      exact congrArg (fun throws => throwOr throws ()) recorded
    | recordLedgerEvent place event =>
      refine ⟨fun unguarded strictly => ?_, met⟩
      subst unguarded
      have recorded : choice.throws = none := handled strictly
      exact congrArg (fun throws => throwOr throws ()) recorded
    | flushProgress => exact ⟨trivial, met⟩
    | changeStatus target =>
      simp only [perform, works]
      refine ⟨?_, ?_⟩
      · rintro status rfl allowed -
        exact (changeStatus_ok_iff _ _).mpr (met.2.1 ▸ allowed)
      · rcases met.changeStatus target with ⟨changed, kept⟩ | ⟨refused, kept⟩
        · rw [changed]
          exact kept
        · rw [refused]
          exact kept
    | parentAborted => exact ⟨trivial, met⟩
    | isParentCancelled =>
      refine ⟨fun _ => ⟨choice.answer, ?_⟩, met⟩
      exact congrArg (fun throws => throwOr throws choice.answer) (readable rfl)
    | listen => exact ⟨trivial, ⟨met.1.follows, met.1.last⟩, by cases stage <;> exact met.2⟩
    | callHandler =>
      refine ⟨trivial, ⟨met.1.follows, met.1.last⟩, ?_⟩
      cases stage with
      | starting status => trivial
      | live => trivial
      | settled status => exact met.2
    | awaitHandler => exact ⟨trivial, met⟩
    | cancelIfAborted =>
      refine ⟨trivial, ?_⟩
      simp only [perform, works]
      split_ifs
      · rcases met.changeStatus .cancelled with ⟨changed, kept⟩ | ⟨refused, kept⟩
        · simp only [changed]
          exact kept
        · simp only [refused]
          exact kept
      · exact met
    | isParentFinalized => exact ⟨trivial, met⟩
    | reviewResultReport => exact ⟨trivial, met⟩
    | auditResult => exact ⟨trivial, met⟩
    | aggregate => exact ⟨trivial, met⟩
    | enterCatch error =>
      refine ⟨fun strictly => (enterCatch_settled _ works error).mpr (handled strictly), ?_⟩
      simp only [perform, works]
      split_ifs with cancels terminal
      · rcases met.changeStatus .cancelled with ⟨changed, kept⟩ | ⟨refused, kept⟩
        · simp only [changed]
          exact kept
        · simp only [refused]
          exact kept
      · refine ⟨met.1, rfl, ?_⟩
        revert terminal
        cases (world.meanwhile choice).status <;> decide
      · rcases met.changeStatus .failed with ⟨changed, kept⟩ | ⟨refused, kept⟩
        · simp only [changed]
          exact kept
        · simp only [refused]
          exact kept
    | readStatus =>
      refine ⟨?_, met⟩
      rintro status rfl -
      exact met.2.1

lemma lifecycle_carried (strict : Prop) {hasModelSnapshot : Bool} {choices : List (RunnerChoice R)}
    (along : Along step
      (fun call choice => StoreWorks call choice ∧ (strict → Handled call choice))
      (start R hasModelSnapshot) choices) :
    (lifecycleRules R True strict).Carries (fun world stage => stage.Inv world)
      (Throwing.Ends (Returns True) (Rejects True strict .unguarded))
      ((start R hasModelSnapshot).run choices) :=
  (lifecycle_keeps strict).run along
    ⟨.starting .created, ⟨.created, rfl, rfl⟩, SubSessionRunner.runCreated_meets _⟩

lemma SubSessionCall.ended {call : SubSessionCall R} {ended : Except ThrownError (RunnerOutcome R)}
    (came : call.outcome = some ended) : call.2 = .ret ended := by
  obtain ⟨world, value | ⟨op, next⟩⟩ := call
  · exact congrArg Prog.ret (Option.some.inj came)
  · exact nomatch came

/-- In every run in which the store works, the stored statuses follow the table,
a call that returns has settled with the last of them, it does not reject while
its steps are handled, and it ends. -/
theorem lifecycle_sound {hasModelSnapshot : Bool} {choices : List (RunnerChoice R)}
    (works : Along step StoreWorks
      (start R hasModelSnapshot) choices) :
    let call := (start R hasModelSnapshot).run choices
    FollowsTable call.1.persisted ∧
      (∀ outcome, call.outcome = some (.ok outcome) →
        outcome.status.isReplayable = true ∧
          call.1.persisted.getLast? = some outcome.status) ∧
      (Along step Handled (start R hasModelSnapshot)
        choices → ∀ error, call.outcome ≠ some (.error error)) ∧
      ∀ more : Nat → RunnerChoice R, ∃ count,
        (call.run ((List.range count).map more)).outcome.isSome := by
  intro call
  obtain ⟨stage, ⟨sound, holds⟩, obeys⟩ := lifecycle_carried False
    (works.mono fun _ _ here => ⟨here, False.elim⟩)
  refine ⟨sound.follows, fun outcome returned => ?_, fun handled error rejected => ?_, fun more => ?_⟩
  · rw [ended returned] at obeys
    have settled : stage = .settled outcome.status := obeys trivial
    rw [settled] at holds
    exact ⟨holds.2, holds.1 ▸ sound.last⟩
  · obtain ⟨ending, _, rejects⟩ := lifecycle_carried True
      ((works.and handled).mono fun _ _ here => ⟨here.1, fun _ => here.2⟩)
    rw [ended rejected] at rejects
    have unhandled : ¬True := rejects rfl trivial
    exact unhandled trivial
  · obtain ⟨count, value, ended⟩ : ∃ count value,
        (call.run ((List.range count).map more)).2 = .ret value :=
      Prog.call_ends call.2 call.1 more
    refine ⟨count, ?_⟩
    unfold outcome
    rw [ended]
    rfl

/-! ## A handled run, and one that is not -/

namespace LifecycleRun

/-- Nothing happens meanwhile, nothing fails, and every question is answered no. -/
def quiet : RunnerChoice Unit :=
  ⟨[], none, none, false, (), ⟨.completed, "accept", "integrated", false⟩, none⟩

/-- As `quiet`, and the review asks for a revision. -/
def revising : RunnerChoice Unit :=
  { quiet with review := ⟨.needsRevision, "revise", "blocked", true⟩ }

/-- As `quiet`, and the operation throws. -/
def throwing : RunnerChoice Unit := { quiet with throws := some ⟨false⟩ }

/-- The event of the verdict is not recorded, after the status `needs_revision`
was stored. -/
def unrecorded : List (RunnerChoice Unit) :=
  List.replicate 16 quiet ++ revising :: List.replicate 3 quiet ++ [throwing, quiet]

lemma quiet_works (call : SubSessionCall Unit) : StoreWorks call quiet :=
  ⟨rfl, fun _ _ => not_mem_nil, fun _ => rfl⟩

lemma revising_works (call : SubSessionCall Unit) : StoreWorks call revising :=
  ⟨rfl, fun _ _ => not_mem_nil, fun _ => rfl⟩

end LifecycleRun

open LifecycleRun in
theorem lifecycle_sound_quiet :
    let call := (start Unit true).run (replicate 27 quiet)
    call.outcome.isSome ∧ FollowsTable call.1.persisted ∧
      (∀ outcome, call.outcome = some (.ok outcome) →
        outcome.status.isReplayable = true ∧
          call.1.persisted.getLast? = some outcome.status) ∧
      (Along step Handled (start Unit true)
        (replicate 27 quiet) → ∀ error, call.outcome ≠ some (.error error)) ∧
      ∀ more : Nat → RunnerChoice Unit, ∃ count,
        (call.run ((List.range count).map more)).outcome.isSome :=
  ⟨by decide, lifecycle_sound (along_of_mem
    (fun _ member call => eq_of_mem_replicate member ▸ quiet_works call) _)⟩

open LifecycleRun in
/-- A call whose status `needs_revision` was stored rejects when the event of the
verdict is not recorded: the `catch` block tries to fail it. -/
theorem needs_revision_rejects :
    let call := (start Unit true).run unrecorded
    Along step StoreWorks (start Unit true) unrecorded ∧
      call.1.persisted = [.created, .queued, .running, .needsRevision] ∧
      call.outcome = some (.error ⟨false⟩) := by
  refine ⟨along_append.mpr ⟨?_, ?_, quiet_works _, trivial⟩, by decide,
    by decide⟩
  · refine along_of_mem (fun choice member call => ?_) _
    have chosen : choice = quiet ∨ choice = revising := by
      simp only [mem_append, mem_cons, mem_replicate] at member
      tauto
    rcases chosen with rfl | rfl
    · exact quiet_works call
    · exact revising_works call
  · have asks : asksParent ((start Unit true).run
        (replicate 16 quiet ++ revising :: replicate 3 quiet)) = false := by
      decide
    exact ⟨rfl, fun _ _ => not_mem_nil, fun asked => absurd (asks ▸ asked) Bool.false_ne_true⟩

end Knowbee
