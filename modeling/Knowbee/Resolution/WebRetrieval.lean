import Mathlib.Data.List.Induction
import Mathlib.Data.List.Nodup
import Knowbee.Lib.Machine

/-!
# The web retrieval machine

`web-retrieval-state-machine.ts`: a failure, a block and a cancellation are taken in
every state that is not final, before the table of the other events.  A failure asks
for another plan whatever was in progress, so what is verified at the end was found
by an attempt that was planned after the last failure (`retrieval_sound`).
-/

namespace Knowbee.WebRetrieval

open List

inductive Attempt where
  | search | fetch
  deriving DecidableEq

/-- `SEARCH_PLANNED`, `SEARCHING`, `CANDIDATES_READY` are the states of a search,
`FETCH_PLANNED`, `FETCHING`, `EVIDENCE_READY` those of a fetch. -/
inductive WebRetrievalState where
  | diagnosed
  | planned (attempt : Attempt)
  | started (attempt : Attempt)
  | ready (attempt : Attempt)
  | verifying | rediagnosing | completed | blocked | cancelled
  deriving DecidableEq

structure WebRetrievalMachine where
  state : WebRetrievalState
  attemptFingerprints : List String
  lastFailureReasonCode : Option String

/-- What fails is an attempt, or else the verification. -/
inductive WebRetrievalEvent where
  | planned (attempt : Attempt) (attemptFingerprint : String)
  | started (attempt : Attempt)
  | succeeded (attempt : Attempt)
  | verificationStarted | verificationCompleted
  | failed (attempt : Option Attempt) (reasonCode : String)
  | blocked (reasonCode : String)
  | cancelled

inductive WebRetrievalRejection where
  | transitionInvalid | attemptDuplicate | terminalState

def createWebRetrievalMachine : WebRetrievalMachine := ⟨.diagnosed, [], none⟩

/-- `TERMINAL`. -/
def WebRetrievalState.isTerminal : WebRetrievalState → Bool
  | .completed | .blocked | .cancelled => true
  | _ => false

/-- An event in the table `transitions`. -/
def move (machine : WebRetrievalMachine) (before after : WebRetrievalState) :
    Except WebRetrievalRejection WebRetrievalMachine :=
  if machine.state ≠ before then .error .transitionInvalid else .ok { machine with state := after }

def transitionWebRetrieval (machine : WebRetrievalMachine) (event : WebRetrievalEvent) :
    Except WebRetrievalRejection WebRetrievalMachine :=
  if machine.state.isTerminal then .error .terminalState
  else
    let isReady := machine.state = .ready .search ∨ machine.state = .ready .fetch
    match event with
    | .cancelled => .ok { machine with state := .cancelled }
    | .blocked reasonCode =>
      .ok { machine with state := .blocked, lastFailureReasonCode := some reasonCode }
    | .failed _ reasonCode =>
      .ok { machine with state := .rediagnosing, lastFailureReasonCode := some reasonCode }
    | .planned attempt attemptFingerprint =>
      if attemptFingerprint ∈ machine.attemptFingerprints then .error .attemptDuplicate
      else if machine.state = .diagnosed ∨ machine.state = .rediagnosing ∨
          attempt = .fetch ∧ isReady then
        .ok { machine with
          state := .planned attempt
          attemptFingerprints := machine.attemptFingerprints ++ [attemptFingerprint] }
      else .error .transitionInvalid
    | .verificationStarted =>
      if isReady then .ok { machine with state := .verifying } else .error .transitionInvalid
    | .started attempt => move machine (.planned attempt) (.started attempt)
    | .succeeded attempt => move machine (.started attempt) (.ready attempt)
    | .verificationCompleted => move machine .verifying .completed

def next (machine : WebRetrievalMachine) (event : WebRetrievalEvent) : WebRetrievalMachine × Unit :=
  match transitionWebRetrieval machine event with
  | .error _ => (machine, ())
  | .ok machine => (machine, ())

abbrev run (events : List WebRetrievalEvent) : WebRetrievalMachine :=
  Machine.run next createWebRetrievalMachine events

def WebRetrievalEvent.isFailure : WebRetrievalEvent → Bool
  | .failed _ _ => true
  | _ => false

/-- The last attempt that was accepted is of this kind, and nothing failed since. -/
def Open (attempt : Attempt) (events : List WebRetrievalEvent) : Prop :=
  ∃ before fingerprint since, events = before ++ .planned attempt fingerprint :: since ∧
    (run (before ++ [.planned attempt fingerprint])).attemptFingerprints =
      (run before).attemptFingerprints ++ [fingerprint] ∧
    (run events).attemptFingerprints = (run before).attemptFingerprints ++ [fingerprint] ∧
    ∀ event ∈ since, event.isFailure = false

/-- An attempt succeeded that was planned after the last failure. -/
def Succeeded (events : List WebRetrievalEvent) : Prop :=
  ∃ before attempt since, events = before ++ .succeeded attempt :: since ∧
    (∃ machine, transitionWebRetrieval (run before) (.succeeded attempt) = .ok machine) ∧
    Open attempt before ∧ ∀ event ∈ since, event.isFailure = false

def Stands (events : List WebRetrievalEvent) : WebRetrievalState → Prop
  | .planned attempt | .started attempt => Open attempt events
  | .ready _ | .verifying => Succeeded events
  | _ => True

variable {machine after : WebRetrievalMachine} {event : WebRetrievalEvent} {attempt : Attempt}
  {events : List WebRetrievalEvent}

lemma move_eq_ok {before state : WebRetrievalState}
    (accepted : move machine before state = .ok after) :
    machine.state = before ∧ after = { machine with state } := by
  unfold move at accepted
  split_ifs at accepted with other
  cases accepted
  exact ⟨not_not.mp other, rfl⟩

lemma failure_accepted (unended : machine.state.isTerminal = false) (attempt : Option Attempt)
    (reasonCode : String) : transitionWebRetrieval machine (.failed attempt reasonCode) =
      .ok { machine with state := .rediagnosing, lastFailureReasonCode := some reasonCode } :=
  if_neg (Bool.eq_false_iff.mp unended)

lemma run_accepted (accepted : transitionWebRetrieval (run events) event = .ok after) :
    run (events ++ [event]) = after := by
  rw [run, Machine.run_append, Machine.run, Machine.run, next, accepted]

lemma run_rejected {rejection : WebRetrievalRejection}
    (rejected : transitionWebRetrieval (run events) event = .error rejection) :
    run (events ++ [event]) = run events := by
  rw [run, Machine.run_append, Machine.run, Machine.run, next, rejected]

lemma Open.concat (opened : Open attempt events) (calm : event.isFailure = false)
    (same : (run (events ++ [event])).attemptFingerprints = (run events).attemptFingerprints) :
    Open attempt (events ++ [event]) := by
  obtain ⟨before, fingerprint, since, rfl, planned, last, quiet⟩ := opened
  refine ⟨before, fingerprint, since ++ [event], by simp, planned, same.trans last, ?_⟩
  simpa [or_imp, forall_and] using ⟨quiet, calm⟩

lemma Succeeded.concat (succeeded : Succeeded events) (calm : event.isFailure = false) :
    Succeeded (events ++ [event]) := by
  obtain ⟨before, attempt, since, rfl, accepted, opened, quiet⟩ := succeeded
  refine ⟨before, attempt, since ++ [event], by simp, accepted, opened, ?_⟩
  simpa [or_imp, forall_and] using ⟨quiet, calm⟩

lemma Stands.accept (stands : Stands events (run events).state)
    (accepted : transitionWebRetrieval (run events) event = .ok after) :
    Stands (events ++ [event]) after.state ∧
      (after.attemptFingerprints = (run events).attemptFingerprints ∨
        ∃ fingerprint ∉ (run events).attemptFingerprints,
          after.attemptFingerprints = (run events).attemptFingerprints ++ [fingerprint]) ∧
      (after.state = .completed → (run events).state = .verifying) := by
  have ran := run_accepted accepted
  have outcome := accepted
  unfold transitionWebRetrieval at accepted
  split_ifs at accepted
  dsimp only at accepted
  cases event with
  | cancelled | blocked reasonCode | failed kind reasonCode =>
    cases accepted
    exact ⟨trivial, .inl rfl, nofun⟩
  | planned attempt fingerprint =>
    dsimp only at accepted
    split_ifs at accepted with known
    cases accepted
    exact ⟨⟨events, fingerprint, [], rfl, by rw [ran], by rw [ran], nofun⟩,
      .inr ⟨fingerprint, known, rfl⟩, nofun⟩
  | started attempt =>
    obtain ⟨state, rfl⟩ := move_eq_ok accepted
    rw [state] at stands
    exact ⟨Open.concat stands rfl (by rw [ran]), .inl rfl, nofun⟩
  | succeeded attempt =>
    obtain ⟨state, rfl⟩ := move_eq_ok accepted
    rw [state] at stands
    exact ⟨⟨events, attempt, [], rfl, ⟨_, outcome⟩, stands, nofun⟩, .inl rfl, nofun⟩
  | verificationStarted =>
    dsimp only at accepted
    split_ifs at accepted with ready
    cases accepted
    rcases ready with state | state <;> rw [state] at stands <;>
      exact ⟨Succeeded.concat stands rfl, .inl rfl, nofun⟩
  | verificationCompleted =>
    obtain ⟨state, rfl⟩ := move_eq_ok accepted
    exact ⟨trivial, .inl rfl, fun _ => state⟩

lemma stands_run (events : List WebRetrievalEvent) : Stands events (run events).state := by
  induction events using reverseRecOn with
  | nil => trivial
  | append_singleton events event ih =>
    cases outcome : transitionWebRetrieval (run events) event with
    | ok after =>
      rw [run_accepted outcome]
      exact (ih.accept outcome).1
    | error rejection =>
      have same := run_rejected outcome
      rw [same]
      -- A failure is rejected only at the end, where the history does not matter.
      have calm : event.isFailure = false ∨ (run events).state.isTerminal = true := by
        cases event with
        | failed kind reasonCode =>
          refine .inr (by_contra fun unended => ?_)
          cases outcome.symm.trans (failure_accepted (by simpa using unended) kind reasonCode)
        | _ => exact .inl rfl
      cases state : (run events).state <;> rw [state] at ih calm <;>
        first
          | trivial
          | exact Open.concat ih (calm.resolve_right nofun) (by rw [same])
          | exact Succeeded.concat ih (calm.resolve_right nofun)

lemma fingerprints_concat (events : List WebRetrievalEvent) (event : WebRetrievalEvent) :
    (run events).attemptFingerprints <+: (run (events ++ [event])).attemptFingerprints ∧
      ((run events).attemptFingerprints.Nodup →
        (run (events ++ [event])).attemptFingerprints.Nodup) := by
  cases outcome : transitionWebRetrieval (run events) event with
  | error rejection =>
    rw [run_rejected outcome]
    exact ⟨prefix_refl _, id⟩
  | ok after =>
    rw [run_accepted outcome]
    obtain ⟨-, same | ⟨fingerprint, new, more⟩, -⟩ := (stands_run events).accept outcome
    · rw [same]
      exact ⟨prefix_refl _, id⟩
    · rw [more]
      refine ⟨prefix_append _ _, fun distinct => ?_⟩
      refine nodup_append.mpr ⟨distinct, nodup_singleton _, fun other member last here => ?_⟩
      rw [mem_singleton.mp here]
      exact ne_of_mem_of_not_mem member new

/-- What holds after some events, also of more events and of the next one. -/
structure Sound (events : List WebRetrievalEvent) : Prop where
  distinct : (run events).attemptFingerprints.Nodup
  grows (more : List WebRetrievalEvent) :
    (run events).attemptFingerprints <+: (run (events ++ more)).attemptFingerprints
  final (more : List WebRetrievalEvent) : (run events).state.isTerminal = true →
    run (events ++ more) = run events
  completes (event : WebRetrievalEvent) (after : WebRetrievalMachine) :
    transitionWebRetrieval (run events) event = .ok after → after.state = .completed →
      (run events).state = .verifying ∧ Succeeded events
  fails (attempt : Option Attempt) (reasonCode : String) (after : WebRetrievalMachine) :
    transitionWebRetrieval (run events) (.failed attempt reasonCode) = .ok after ↔
      (run events).state.isTerminal = false ∧ after =
        { run events with state := .rediagnosing, lastFailureReasonCode := some reasonCode }

/-- After every sequence of events the attempts are distinct, only more are made later,
and what has ended stays; a verification completes what was found since the last
failure, and a failure is taken unless the machine has ended. -/
theorem retrieval_sound (events : List WebRetrievalEvent) : Sound events where
  distinct := by
    induction events using reverseRecOn with
    | nil => exact nodup_nil
    | append_singleton events event ih => exact (fingerprints_concat events event).2 ih
  grows more := by
    induction more using reverseRecOn with
    | nil => simp only [append_nil, prefix_refl]
    | append_singleton more event ih =>
      rw [← append_assoc]
      exact ih.trans (fingerprints_concat _ event).1
  final more ended := by
    induction more using reverseRecOn with
    | nil => rw [append_nil]
    | append_singleton more event ih =>
      rw [← append_assoc, run_rejected (if_pos (ih ▸ ended)), ih]
  completes event after accepted completed := by
    have stands := stands_run events
    have state := (stands.accept accepted).2.2 completed
    rw [state] at stands
    exact ⟨state, stands⟩
  fails attempt reasonCode after := by
    cases ended : (run events).state.isTerminal with
    | true => simp [transitionWebRetrieval, ended]
    | false =>
      rw [failure_accepted ended, Except.ok.injEq, and_iff_right rfl]
      exact eq_comm

/-- A search that has succeeded may still fail, and takes the plan of a fetch with it. -/
theorem late_failure_accepted :
    ¬∀ events reasonCode after, transitionWebRetrieval (run events) (.failed (some .search)
        reasonCode) = .ok after →
      (run events).state = .planned .search ∨ (run events).state = .started .search := by
  intro inProgress
  exact absurd (inProgress [.planned .search "search", .started .search, .succeeded .search,
    .planned .fetch "fetch"] "late" _ rfl) (by decide)

end Knowbee.WebRetrieval
