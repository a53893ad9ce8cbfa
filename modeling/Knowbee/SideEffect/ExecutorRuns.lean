import Knowbee.SideEffect.Executor

/-!
# Concurrent executors

Any number of executors over one repository.  A transition that finds its own
receipt already saved is answered as applied, and two executors that built equal
receipts for the start of the effect cannot tell whose it is.  Unless that
happens the effect of a scope is run at most once (`effect_at_most_once`); where
it happens it is run twice (`equal_receipts_run_twice`).
-/

namespace Knowbee

open List Prog.Obeys SideEffectStep

namespace SideEffectExecutors

variable {Tid T : Type}

/-! ## The pool -/

/-- The repository and the scopes whose effect was run, the latest first. -/
structure World where
  store : SideEffectStore
  effects : List String

/-- What the ports answer at one step. -/
structure Ports (T : Type) where
  receipt : SideEffectOperationReceipt
  cancelled : Bool
  effect : SideEffectResult T
  observation : SideEffectObservation
  compensation : CompensationResult
  verification : CompensationVerification

def handle (ports : Ports T) (world : World) : (op : SideEffectStep T) → op.Answer T × World
  | .loadByScope scopeId => (world.store.loadByScope scopeId, world)
  | .create aggregate =>
    ((world.store.create aggregate).1, { world with store := (world.store.create aggregate).2 })
  | .loadReceipt receiptId => (world.store.loadReceipt receiptId, world)
  | .saveTransition aggregate expectedRevision receipt =>
    ((world.store.saveTransition aggregate expectedRevision receipt).1,
      { world with store := (world.store.saveTransition aggregate expectedRevision receipt).2 })
  | .createReceipt _ _ _ _ => (ports.receipt, world)
  | .isCancelled => (ports.cancelled, world)
  | .executeEffect identity =>
    (ports.effect, { world with effects := identity.scopeId :: world.effects })
  | .observePostState _ => (ports.observation, world)
  | .observeCurrentPostState _ => (ports.observation, world)
  | .compensate _ => (ports.compensation, world)
  | .verifyCompensation => (ports.verification, world)

/-- Executors over a repository that outlives them. -/
def executors (T : Type) : Process SideEffectInput (SideEffectStep T) (Answer T)
    (SideEffectOperationExecutionResult T) World (Ports T) Unit where
  program := executeSideEffectOperation
  handle := handle
  fail := fun _ world => world

abbrev ExecutorPool (Tid T : Type) : Type :=
  Pool Tid SideEffectInput (SideEffectStep T) (Answer T)
    (SideEffectOperationExecutionResult T) World

def idle : ExecutorPool Tid T := Process.idle ⟨.empty, []⟩

/-- The receipt an executor built last, if that was for the start of its
effect. -/
def startReceipt :
    List ((op : SideEffectStep T) × op.Answer T) → Option SideEffectOperationReceipt
  | [] => none
  | ⟨.createReceipt _ event _ _, receipt⟩ :: _ => if event = .startEffect then some receipt else none
  | _ :: past => startReceipt past

/-- An executor that wants to start its effect is about to find a receipt equal
to its own in the repository. -/
def Replays (pool : ExecutorPool Tid T) : Process.Event Tid SideEffectInput (Ports T) Unit → Prop
  | .step tid _ =>
    match pool.threads tid with
    | some ⟨_, past, .call (.loadReceipt receiptId) _⟩ =>
      match startReceipt past with
      | some receipt =>
        receipt.receiptId = receiptId ∧ pool.state.store.loadReceipt receiptId = .ok (some receipt)
      | none => False
    | _ => False
  | .spawn _ _ => False
  | .fault _ => False

/-! ## The discipline of an executor -/

/-- The scope of an executor, whether it has saved the start of the effect and
not run it yet, and the receipt it built for that start. -/
structure Summary where
  scope : String
  started : Bool
  built : Option SideEffectOperationReceipt

def StartsEffect (aggregate : SideEffectOperationAggregate) : Prop :=
  aggregate.transitions.getLast?.map (·.event) = some .startEffect

instance (aggregate : SideEffectOperationAggregate) : Decidable (StartsEffect aggregate) :=
  inferInstanceAs (Decidable (_ = _))

def rules (T : Type) : Rules SideEffectInput (SideEffectStep T) (Answer T) Summary where
  start input := ⟨input.identity.scopeId, false, none⟩
  next
    | g, .createReceipt _ event _ _, receipt =>
      { g with built := if event = .startEffect then some receipt else none }
    | g, .saveTransition aggregate _ _, result =>
      if result = .saved ∧ StartsEffect aggregate then { g with started := true } else g
    | g, .executeEffect _, _ => { g with started := false }
    | g, _, _ => g
  may
    | g, .create aggregate => aggregate.revision = 0 ∧ aggregate.identity.scopeId = g.scope
    | g, .saveTransition aggregate expectedRevision _ =>
      aggregate.identity.scopeId = g.scope ∧ aggregate.revision = expectedRevision + 1 ∧
        aggregate.state ≠ .reserved ∧ (StartsEffect aggregate → expectedRevision = 0)
    | g, .executeEffect identity => identity.scopeId = g.scope ∧ g.started = true
    | _, _ => True
  gets
    | _, .loadByScope scopeId, found => ∀ row, found = .ok (some row) →
      row.identity.scopeId = scopeId ∧ (row.state = .reserved → row.revision = 0)
    | g, .loadReceipt receiptId, found => ∀ receipt, g.built = some receipt →
      receipt.receiptId = receiptId → found ≠ .ok (some receipt)
    | _, _, _ => True

lemma summary_built (thread : Thread SideEffectInput (SideEffectStep T)
    (Answer T) (SideEffectOperationExecutionResult T)) :
    ((rules T).summary thread).built = startReceipt thread.past := by
  obtain ⟨job, past, prog⟩ := thread
  induction past with
  | nil => rfl
  | cons answered past ih =>
    obtain ⟨op, ans⟩ := answered
    rw [Rules.summary_cons (rules T) job op ans past prog prog]
    cases op with
    | createReceipt identity event operationRevision evidence => rfl
    | saveTransition aggregate expectedRevision receipt =>
      simp only [rules, startReceipt]
      split_ifs <;> exact ih
    | _ => exact ih

/-! ## Programs that obey -/

section

variable {g : Summary} {aggregate : SideEffectOperationAggregate}

/-- Every result will do. -/
abbrev Any {α : Type} : Summary → α → Prop := fun _ _ => True

/-- What a transition owes: the aggregate of the executor's own scope, and that
a start was saved by the executor itself. -/
def Applies (scope : String) (event : SideEffectOperationEvent) (g : Summary) :
    TransitionSideEffectOperationResult → Prop
  | .applied aggregate => g.scope = scope ∧ aggregate.identity.scopeId = scope ∧
      (event = .startEffect → g.started = true)
  | .rejected _ _ => True
  | .threw _ => True

variable {event : SideEffectOperationEvent}

lemma saveSideEffectTransition_obeys {current : SideEffectOperationAggregate}
    {expectedRevision : Nat} {receipt : SideEffectOperationReceipt}
    (own : current.identity.scopeId = g.scope)
    (fresh : current.state = .reserved → current.revision = 0) :
    (saveSideEffectTransition (T := T) current expectedRevision event receipt).Obeys (rules T)
      (Applies g.scope event) g := by
  unfold saveSideEffectTransition
  refine .ite (fun _ => trivial) fun level => .ite (fun _ => trivial) fun _ => ?_
  rcases decided : transitionSideEffectOperation current.state event receipt.receiptId with
    ⟨previousState, decided_event, nextState, receiptRef⟩ | ⟨state, refused, reasonCode⟩
  · obtain ⟨rfl, after⟩ := transition_accepted decided
    have same : current.revision = expectedRevision := not_not.mp level
    refine ⟨⟨own, congrArg (· + 1) same, after_ne_reserved after, fun starts => ?_⟩, ?_⟩
    · simp only [StartsEffect, getLast?_concat, Option.map_some, Option.some.injEq] at starts
      subst starts
      rw [← same]
      exact fresh (reserved_of_after_startEffect after)
    · intro result _
      cases result with
      | refused reasonCode currentRevision => exact trivial
      | threw message => exact trivial
      | saved =>
        refine ⟨?_, own, fun starts => ?_⟩
        · simp only [rules]
          split_ifs <;> rfl
        · subst starts
          simp [rules, StartsEffect]
  · exact trivial

lemma transitionReserved_obeys {operationId scopeId : String} {expectedRevision : Nat}
    {receipt : SideEffectOperationReceipt} (own : scopeId = g.scope)
    (built : event = .startEffect → g.built = some receipt) :
    (transitionReservedSideEffectOperation (T := T) operationId scopeId expectedRevision event
      receipt).Obeys (rules T) (Applies g.scope event) g := by
  unfold transitionReservedSideEffectOperation
  refine perform trivial fun found row => ?_
  rcases found with message | _ | current
  · exact trivial
  · exact trivial
  · obtain ⟨named, fresh⟩ := row current rfl
    have here : current.identity.scopeId = g.scope := named.trans own
    have saves : (saveSideEffectTransition (T := T) current expectedRevision event receipt).Obeys
        (rules T) (Applies g.scope event) g := saveSideEffectTransition_obeys here fresh
    refine .ite (fun _ => trivial) fun _ => .ite (fun _ => ?_) fun _ => saves
    refine perform trivial fun persisted unlike => ?_
    cases persisted with
    | error message => exact trivial
    | ok persisted =>
      refine .ite (fun _ => .ite (fun same => ?_) fun _ => trivial) fun _ => saves
      refine ⟨rfl, here, fun starts => ?_⟩
      -- A receipt that was built for the start is not the one that is persisted.
      exact absurd (congrArg Except.ok same) (unlike receipt (built starts) rfl)

lemma transition_obeys {evidence : Option SideEffectEvidence}
    {onApplied : SideEffectOperationAggregate → SideEffectProg T (SideEffectOperationExecutionResult T)}
    (own : aggregate.identity.scopeId = g.scope)
    (onward : ∀ g' aggregate', g'.scope = g.scope → aggregate'.identity.scopeId = g.scope → (event
      = .startEffect → g'.started = true) → (onApplied aggregate').Obeys (rules T) Any g') :
    (transition aggregate event evidence onApplied).Obeys (rules T) Any g := by
  unfold transition
  refine perform trivial fun receipt _ => ?_
  refine bind _ (transitionReserved_obeys own fun starts => ?_) fun g' result applies => ?_
  · simp [rules, if_pos starts]
  · cases result with
    | rejected reasonCode currentRevision => exact trivial
    | threw message => exact trivial
    | applied aggregate' =>
      obtain ⟨same, named, started⟩ := applies
      exact onward g' aggregate' same named started

lemma transition_returns {evidence : Option SideEffectEvidence}
    {result : SideEffectOperationAggregate → SideEffectOperationExecutionResult T}
    (own : aggregate.identity.scopeId = g.scope) :
    (transition aggregate event evidence fun aggregate => return result aggregate).Obeys (rules T)
      Any g :=
  transition_obeys own fun _ _ _ _ _ => trivial

variable {input : SideEffectInput} {authorization : SideEffectOperationAuthorization}

section

variable (own : aggregate.identity.scopeId = g.scope)
include own

lemma verifyResumed_obeys {effectReceiptRef : String}
    {effectReceipt : SideEffectOperationReceipt} :
    (verifyResumed (T := T) input authorization effectReceiptRef effectReceipt aggregate).Obeys
      (rules T) Any g := by
  unfold verifyResumed
  refine perform trivial fun observation _ => ?_
  cases decideResumedSideEffectVerification input.identity.targetFingerprint
      authorization.expectedEffectFingerprint effectReceiptRef observation with
  | verified receiptRefs => exact transition_returns own
  | failed reasonCode =>
    refine transition_obeys own fun g' aggregate' same named _ => ?_
    exact transition_returns (named.trans same.symm)

lemma resumeVerification_obeys :
    (resumeVerification (T := T) input authorization aggregate).Obeys (rules T) Any g := by
  unfold resumeVerification
  refine .ite (fun _ => trivial) fun _ => ?_
  cases latestReceiptRef aggregate fun event => event = .recordEffect with
  | none => exact trivial
  | some effectReceiptRef =>
    refine perform trivial fun persisted _ => ?_
    rcases persisted with message | _ | effectReceipt
    · exact trivial
    · exact trivial
    · refine .ite (fun _ => trivial) fun _ => .ite (fun _ => ?_) fun _ => verifyResumed_obeys own
      refine transition_obeys own fun g' aggregate' same named _ => ?_
      exact verifyResumed_obeys (named.trans same.symm)

lemma remediate_obeys {value : T} {decision : SideEffectVerificationDecision}
    {recoveryEvidence : Option String} :
    (remediate input value decision recoveryEvidence aggregate).Obeys (rules T) Any g := by
  unfold remediate
  refine .ite (fun _ => transition_returns own) fun _ => ?_
  refine transition_obeys own fun g' aggregate' same named _ => ?_
  refine perform trivial fun compensation _ => ?_
  have here : aggregate'.identity.scopeId = g'.scope := named.trans same.symm
  refine .ite (fun _ => ?_) fun _ => ?_
  · refine perform trivial fun verification _ => ?_
    exact .ite (fun _ => transition_returns here) fun _ => transition_returns here
  · exact .ite (fun _ => transition_returns here) fun _ => transition_returns here

lemma verifyEffect_obeys {effect : SideEffectResult T} {effectReceiptRef : String} :
    (verifyEffect input authorization effect effectReceiptRef aggregate).Obeys (rules T) Any g := by
  unfold verifyEffect
  refine transition_obeys own fun g' aggregate' same named _ => ?_
  refine perform trivial fun observation _ => ?_
  have here : aggregate'.identity.scopeId = g'.scope := named.trans same.symm
  simp only
  cases decideSideEffectVerification ⟨effect.success, input.identity.targetFingerprint,
      effect.resultFingerprint, effect.recordedAt, effectReceiptRef⟩ observation
      (some authorization.expectedEffectFingerprint) with
  | verified receiptRefs => exact transition_returns here
  | failed reasonCode =>
    refine transition_obeys here fun g'' aggregate'' same' named' _ => ?_
    exact remediate_obeys (named'.trans same'.symm)

lemma runEffect_obeys (named : input.identity.scopeId = g.scope) (started : g.started = true) :
    (runEffect (T := T) input authorization aggregate).Obeys (rules T) Any g := by
  unfold runEffect
  refine perform ⟨named, started⟩ fun effect _ => ?_
  have here : aggregate.identity.scopeId =
      ((rules T).next g (.executeEffect input.identity) effect).scope := own
  cases effect.preEffectRejection with
  | some rejection => exact transition_returns here
  | none =>
    refine transition_obeys here fun g' aggregate' same named _ => ?_
    have there : aggregate'.identity.scopeId = g'.scope := named.trans same.symm
    cases receiptRefOf aggregate'.transitions.getLast? with
    | none => exact trivial
    | some effectReceiptRef =>
      refine perform trivial fun cancelled _ => ?_
      refine .ite (fun _ => ?_) fun _ => verifyEffect_obeys there
      refine transition_obeys there fun g'' aggregate'' same' named' _ => ?_
      exact verifyEffect_obeys (named'.trans same'.symm)

lemma startEffect_obeys (named : input.identity.scopeId = g.scope) :
    (startEffect (T := T) input authorization aggregate).Obeys (rules T) Any g := by
  unfold startEffect
  refine perform trivial fun cancelled _ => ?_
  refine .ite (fun _ => transition_returns own) fun _ => ?_
  refine transition_obeys own fun g' aggregate' same named' started => ?_
  have here : aggregate'.identity.scopeId = g'.scope := named'.trans same.symm
  refine perform trivial fun cancelled _ => ?_
  refine .ite (fun _ => transition_returns here) fun _ => ?_
  exact runEffect_obeys here (named.trans same.symm) (started rfl)

lemma continueOperation_obeys (named : input.identity.scopeId = g.scope) :
    (continueOperation (T := T) input authorization aggregate).Obeys (rules T) Any g := by
  unfold continueOperation
  cases aggregate.state with
  | reserved => exact startEffect_obeys own named
  | effectRecorded => exact resumeVerification_obeys own
  | verifying => exact resumeVerification_obeys own
  | cancelRequested => exact resumeVerification_obeys own
  | _ => exact trivial

end

/-- What a reservation owes: the aggregate of the executor's own scope. -/
def Reserves (g : Summary) (g' : Summary) : ReserveSideEffectOperationResult → Prop
  | .reserved aggregate => g' = g ∧ aggregate.identity.scopeId = g.scope
  | .existing aggregate => g' = g ∧ aggregate.identity.scopeId = g.scope
  | .rejected _ => True
  | .threw _ => True

lemma reserve_obeys {identity : SideEffectOperationIdentity}
    (named : identity.scopeId = g.scope) :
    (reserveSideEffectOperation (T := T) identity).Obeys (rules T) (Reserves g) g := by
  unfold reserveSideEffectOperation
  refine perform trivial fun found _ => ?_
  rcases found with message | _ | current
  · exact trivial
  · refine perform ⟨rfl, named⟩ fun created _ => ?_
    refine .ite (fun _ => ⟨rfl, named⟩) fun _ => ?_
    refine perform trivial fun raced _ => ?_
    rcases raced with message | _ | raced
    · exact trivial
    · exact trivial
    · exact .ite (fun same => ⟨rfl, same ▸ named⟩) fun _ => trivial
  · exact .ite (fun same => ⟨rfl, same ▸ named⟩) fun _ => trivial

lemma execute_obeys (input : SideEffectInput) :
    (executeSideEffectOperation (T := T) input).Obeys (rules T) Any ((rules T).start input) := by
  unfold executeSideEffectOperation
  cases validateSideEffectOperationAuthorization input.identity input.authorization with
  | error reasonCode => exact trivial
  | ok authorization =>
    refine bind _ (reserve_obeys rfl) fun g result reserves => ?_
    cases result with
    | rejected reasonCode => exact trivial
    | threw message => exact trivial
    | reserved aggregate =>
      obtain ⟨rfl, own⟩ := reserves
      exact continueOperation_obeys own rfl
    | existing aggregate =>
      obtain ⟨rfl, own⟩ := reserves
      exact continueOperation_obeys own rfl

end

/-! ## The invariant -/

/-- The executor has saved the start of the effect of `scope` and not run it
yet. -/
def StartedAt (gs : Tid → Option Summary) (tid : Tid) (scope : String) : Prop :=
  ∃ g, gs tid = some g ∧ g.started = true ∧ g.scope = scope

/-- A scope whose effect was started or run has left its first revision, and its
effect was run at most once, by the only executor that started it. -/
structure Safe (world : World) (gs : Tid → Option Summary) : Prop where
  rows : ∀ scope row, world.store.operations.get? scope = some row →
    row.identity.scopeId = scope ∧ (row.state = .reserved → row.revision = 0)
  moved : ∀ scope, (scope ∈ world.effects ∨ ∃ tid, StartedAt gs tid scope) →
    ∃ row, world.store.operations.get? scope = some row ∧ row.revision ≠ 0
  unspent : ∀ tid scope, StartedAt gs tid scope → scope ∉ world.effects
  single : ∀ tid tid' scope, StartedAt gs tid scope → StartedAt gs tid' scope → tid = tid'
  once : world.effects.Nodup

section

variable {world : World} {gs gs' : Tid → Option Summary} {tid : Tid} {g g' : Summary}

lemma Safe.mono (safe : Safe world gs)
    (fewer : ∀ tid scope, StartedAt gs' tid scope → StartedAt gs tid scope) : Safe world gs' where
  rows := safe.rows
  moved scope started := by
    apply safe.moved scope
    rcases started with ran | ⟨tid, started⟩
    · exact .inl ran
    · exact .inr ⟨tid, fewer tid scope started⟩
  unspent tid scope started := safe.unspent tid scope (fewer tid scope started)
  single tid tid' scope one other :=
    safe.single tid tid' scope (fewer tid scope one) (fewer tid' scope other)
  once := safe.once

lemma Safe.create (safe : Safe world gs) {aggregate : SideEffectOperationAggregate}
    (fresh : aggregate.revision = 0) :
    Safe { world with store := (world.store.create aggregate).2 } gs := by
  unfold SideEffectStore.create
  split_ifs with taken
  · exact safe
  · have free : world.store.operations.get? aggregate.identity.scopeId = none := by
      rcases found : world.store.operations.get? aggregate.identity.scopeId with _ | row
      · rfl
      · exact absurd (.inl (by rw [found]; rfl)) taken
    refine ⟨fun scope row found => ?_, fun scope started => ?_, safe.unspent, safe.single, safe.once⟩
    · rw [SortedMap.get?_insert] at found
      split_ifs at found with same
      · cases found
        exact ⟨same.symm, fun _ => fresh⟩
      · exact safe.rows scope row found
    · obtain ⟨row, found, later⟩ := safe.moved scope started
      have other : scope ≠ aggregate.identity.scopeId := by
        rintro rfl
        rw [free] at found
        cases found
      exact ⟨row, by rw [SortedMap.get?_insert, if_neg other, found], later⟩

section

variable [DecidableEq Tid]

lemma startedAt_update {scope : String} {other : Tid} {summary : Option Summary}
    (started : StartedAt (Function.update gs tid summary) other scope) :
    (other = tid ∧ ∃ g, summary = some g ∧ g.started = true ∧ g.scope = scope) ∨
      other ≠ tid ∧ StartedAt gs other scope := by
  obtain ⟨g, found, started, named⟩ := started
  by_cases same : other = tid
  · subst same
    rw [Function.update_self] at found
    exact .inl ⟨rfl, g, found, started, named⟩
  · rw [Function.update_of_ne same] at found
    exact .inr ⟨same, g, found, started, named⟩

lemma Safe.update (safe : Safe world gs) (found : gs tid = some g) (same : g'.scope = g.scope)
    (fewer : g'.started = true → g.started = true) :
    Safe world (Function.update gs tid (some g')) := by
  refine safe.mono fun other scope started => ?_
  rcases startedAt_update started with ⟨rfl, summary, eq, now, named⟩ | ⟨-, before⟩
  · cases eq
    exact ⟨g, found, fewer now, same ▸ named⟩
  · exact before

lemma Safe.replace (safe : Safe world gs) {summary : Option Summary}
    (idle : ∀ g, summary = some g → g.started = false) :
    Safe world (Function.update gs tid summary) := by
  refine safe.mono fun other scope started => ?_
  rcases startedAt_update started with ⟨-, g, eq, now, -⟩ | ⟨-, before⟩
  · rw [idle g eq] at now
    cases now
  · exact before

lemma Safe.save (safe : Safe world gs) (found : gs tid = some g)
    {aggregate : SideEffectOperationAggregate} {expectedRevision : Nat}
    {receipt : SideEffectOperationReceipt}
    (may : (rules T).may g (.saveTransition aggregate expectedRevision receipt)) :
    Safe { world with store := (world.store.saveTransition aggregate expectedRevision receipt).2 }
      (Function.update gs tid (some ((rules T).next g
        (.saveTransition aggregate expectedRevision receipt)
        (world.store.saveTransition aggregate expectedRevision receipt).1))) := by
  obtain ⟨own, onward, unreserved, first⟩ := may
  rcases world.store.saveTransition_cases aggregate expectedRevision receipt with
    ⟨refused, same⟩ | ⟨row, stored, level, -, result⟩
  · rw [same]
    apply safe.update found
    · simp [rules, refused, false_and]
    · simp only [rules, refused, false_and, if_false]
      exact id
  · have named : (aggregate.identity.scopeId) = g.scope := own
    have saved := congrArg Prod.fst result
    have operations := congrArg (·.2.operations) result
    simp only at saved operations
    have rows : ∀ scope row', (world.store.saveTransition aggregate expectedRevision
        receipt).2.operations.get? scope = some row' →
        row'.identity.scopeId = scope ∧ (row'.state = .reserved → row'.revision = 0) := by
      intro scope row' here
      rw [operations, SortedMap.get?_insert] at here
      split_ifs at here with same
      · cases here
        exact ⟨(safe.rows _ row stored).1.trans same.symm, fun reserved => absurd reserved unreserved⟩
      · exact safe.rows scope row' here
    have moved : ∀ scope, (scope = g.scope ∨ scope ∈ world.effects ∨ ∃ tid, StartedAt gs tid scope) →
        ∃ row', (world.store.saveTransition aggregate expectedRevision
          receipt).2.operations.get? scope = some row' ∧ row'.revision ≠ 0 := by
      intro scope started
      rw [operations]
      simp only [SortedMap.get?_insert]
      by_cases same : scope = aggregate.identity.scopeId
      · refine ⟨_, if_pos same, ?_⟩
        simp only [onward]
        omega
      · rcases started with here | started
        · exact absurd (here.trans named.symm) same
        · obtain ⟨row', before, later⟩ := safe.moved scope started
          exact ⟨row', by rw [if_neg same, before], later⟩
    by_cases starts : StartsEffect aggregate
    · -- The row was at its first revision, so nothing was started or run.
      have zero : row.revision = 0 := level.trans (first starts)
      have unmoved : ¬(g.scope ∈ world.effects ∨ ∃ tid, StartedAt gs tid g.scope) := by
        intro started
        obtain ⟨row', here, later⟩ := safe.moved g.scope started
        rw [← named, stored] at here
        cases here
        exact later zero
      obtain ⟨unspent, unstarted⟩ := not_or.mp unmoved
      simp only [rules, saved, starts, and_self, if_true]
      refine ⟨rows, fun scope started => moved scope ?_, fun other scope started => ?_,
        fun one other scope first second => ?_, safe.once⟩
      · rcases started with ran | ⟨other, started⟩
        · exact .inr (.inl ran)
        · rcases startedAt_update started with ⟨-, summary, eq, -, here⟩ | ⟨-, before⟩
          · cases eq
            exact .inl here.symm
          · exact .inr (.inr ⟨other, before⟩)
      · rcases startedAt_update started with ⟨-, summary, eq, -, here⟩ | ⟨-, before⟩
        · cases eq
          exact here ▸ unspent
        · exact safe.unspent other scope before
      · rcases startedAt_update first with ⟨rfl, summary, eq, -, here⟩ | ⟨-, before⟩
        · cases eq
          rcases startedAt_update second with ⟨same, -⟩ | ⟨-, before⟩
          · exact same.symm
          · exact absurd ⟨other, (show g.scope = scope from here) ▸ before⟩ unstarted
        · rcases startedAt_update second with ⟨rfl, summary, eq, -, here⟩ | ⟨-, before'⟩
          · cases eq
            exact absurd ⟨one, (show g.scope = scope from here) ▸ before⟩ unstarted
          · exact safe.single one other scope before before'
    · have kept : (rules T).next g (.saveTransition aggregate expectedRevision receipt)
          (world.store.saveTransition aggregate expectedRevision receipt).1 = g := by
        simp [rules, starts, and_false]
      rw [kept, Function.update_eq_self_iff.mpr found.symm]
      refine ⟨rows, fun scope started => moved scope (.inr started), ?_, safe.single, safe.once⟩
      exact safe.unspent

lemma Safe.effect (safe : Safe world gs) (found : gs tid = some g) (started : g.started = true) :
    Safe { world with effects := g.scope :: world.effects }
      (Function.update gs tid (some { g with started := false })) := by
  have here : StartedAt gs tid g.scope := ⟨g, found, started, rfl⟩
  refine ⟨safe.rows, fun scope ran => ?_, fun other scope now => ?_,
    fun one other scope first second => ?_, nodup_cons.mpr ⟨safe.unspent _ _ here, safe.once⟩⟩
  · rcases ran with ran | ⟨other, now⟩
    · rcases mem_cons.mp ran with rfl | before
      · exact safe.moved g.scope (.inr ⟨tid, here⟩)
      · exact safe.moved scope (.inl before)
    · rcases startedAt_update now with ⟨-, summary, eq, bad, -⟩ | ⟨-, before⟩
      · cases eq
        cases bad
      · exact safe.moved scope (.inr ⟨other, before⟩)
  · rcases startedAt_update now with ⟨-, summary, eq, bad, -⟩ | ⟨different, before⟩
    · cases eq
      cases bad
    · intro ran
      rcases mem_cons.mp ran with rfl | earlier
      · exact different (safe.single other tid g.scope before here)
      · exact safe.unspent other scope before earlier
  · rcases startedAt_update first with ⟨-, summary, eq, bad, -⟩ | ⟨-, before⟩
    · cases eq
      cases bad
    · rcases startedAt_update second with ⟨-, summary, eq, bad, -⟩ | ⟨-, before'⟩
      · cases eq
        cases bad
      · exact safe.single one other scope before before'

/-- Executors whose starts are not answered from a receipt that is equal to
theirs uphold safety. -/
lemma upholds : (rules T).Upholds (executors T) Any
    (fun (pool : ExecutorPool Tid T) event => ¬Replays pool event)
    (fun world _ gs => Safe world gs) where
  program := execute_obeys
  spawn safe free := safe.replace fun g eq => by
    cases eq
    rfl
  ret safe _ _ := safe.replace fun _ held => nomatch held
  fault safe := safe.mono fun tid scope started => by
    obtain ⟨g, found, -⟩ := started
    cases found
  call {pool tid thread op onward choice} safe found running permits may := by
    have summary : (rules T).summaries pool tid = some ((rules T).summary thread) := by
      simp [Rules.summaries, found, Option.map_some]
    have goes_on {g' : Summary} (same : g'.scope = ((rules T).summary thread).scope)
        (fewer : g'.started = true → ((rules T).summary thread).started = true) :
        Safe pool.state (Function.update ((rules T).summaries pool) tid (some g')) :=
      safe.update summary same fewer
    cases op with
    | loadByScope scopeId =>
      refine ⟨fun aggregate loaded => ?_, goes_on rfl id⟩
      obtain ⟨row, stored, hydrated⟩ := SideEffectStore.loadByScope_some _ loaded
      obtain ⟨identity, state, revision, -⟩ := hydrate_ok hydrated
      rw [identity, state, revision]
      exact safe.rows scopeId row stored
    | loadReceipt receiptId =>
      refine ⟨fun receipt built same stored => permits ?_, goes_on rfl id⟩
      subst same
      rw [summary_built] at built
      obtain ⟨job, past, prog⟩ := thread
      subst running
      simp only [Replays, found, built]
      exact ⟨trivial, stored⟩
    | create aggregate =>
      have unchanged := @goes_on ((rules T).summary thread) rfl id
      exact ⟨trivial, unchanged.create may.1⟩
    | saveTransition aggregate expectedRevision receipt => exact ⟨trivial, safe.save summary may⟩
    | executeEffect identity =>
      refine ⟨trivial, ?_⟩
      obtain ⟨named, started⟩ := may
      simp only [executors, handle, named]
      exact safe.effect summary started
    | _ => exact ⟨trivial, goes_on rfl id⟩

end

end

/-- In every run of any number of executors in which no start of an effect is
answered from a persisted receipt that is equal to the executor's own, the
effect of a scope is run at most once. -/
theorem effect_at_most_once [DecidableEq Tid]
    (events : List (Process.Event Tid SideEffectInput (Ports T) Unit))
    (distinct : Machine.Along (executors T).step (fun pool event => ¬Replays pool event) idle
      events) (scope : String) :
    ((executors T).run (idle : ExecutorPool Tid T) events).state.effects.count scope ≤ 1 := by
  have unstarted : ∀ (tid : Tid) scope, ¬StartedAt (fun _ => none) tid scope :=
    fun _ _ started => nomatch started.choose_spec.1
  have safe : Safe ⟨.empty, []⟩ (fun _ : Tid => none) := by
    refine ⟨fun scope row found => ?_, fun scope started => ?_, fun tid scope started => ?_,
      fun tid tid' scope started => ?_, nodup_nil⟩
    · rw [SideEffectStore.empty, SortedMap.get?_empty] at found
      cases found
    · rcases started with ran | ⟨tid, started⟩
      · cases ran
      · exact absurd started (unstarted tid scope)
    · exact absurd started (unstarted tid scope)
    · exact absurd started (unstarted tid scope)
  have kept := upholds.run (Rules.kept_idle safe) distinct
  exact nodup_iff_count.mp kept.inv.once scope

/-! ## Equal receipts -/

def sampleFingerprint (digit : Char) : String :=
  "sha256:" ++ String.ofList (List.replicate 64 digit)

def sampleIdentity : SideEffectOperationIdentity where
  operationId := "operation:run-1:step-1:files:aaaaaaaaaaaaaaaa:bbbbbbbbbbbbbbbb"
  scopeId := "operation-scope:run-1:step-1:files:aaaaaaaaaaaaaaaa"
  runId := "run-1"
  workId := "work-1"
  stepKey := "step-1"
  adapterId := "files"
  targetFingerprint := sampleFingerprint 'a'
  paramsFingerprint := sampleFingerprint 'b'

def sampleInput : SideEffectInput where
  identity := sampleIdentity
  compensationSupport := .irreversible
  observesCurrentPostState := false
  compensates := false
  verifiesCompensation := false
  authorization := some {
    policyDecisionId := "decision-1"
    policyReceiptRef := "policy-receipt-1"
    __ := sampleIdentity
    runId := "run-1"
    adapterId := "files"
    effectClass := .localWrite
    scopeFingerprint := sampleFingerprint 'c'
    expectedEffectFingerprint := sampleFingerprint 'd'
  }

/-- The receipt of the start at one time, from the authorization both have. -/
def sampleReceipt : SideEffectOperationReceipt where
  schemaVersion := 1
  receiptId := "side-effect-receipt:" ++
    "operation%3Arun-1%3Astep-1%3Afiles%3Aaaaaaaaaaaaaaaaa%3Abbbbbbbbbbbbbbbb" ++
    ":1:eeeeeeeeeeeeeeeeeeeeeeee"
  operationId := sampleIdentity.operationId
  workId := "work-1"
  event := .startEffect
  kind := .authorization
  evidenceFingerprint := sampleFingerprint 'e'
  evidenceRefs := ["policy-receipt-1"]
  operationRevision := 1
  issuedAt := 1700000000000

def samplePorts : Ports Unit where
  receipt := sampleReceipt
  cancelled := false
  effect := ⟨(), true, sampleFingerprint 'f', 1700000000001, none, none⟩
  observation := ⟨true, sampleIdentity.targetFingerprint, sampleFingerprint 'd',
    sampleFingerprint 'd', 1700000000002, none⟩
  compensation := ⟨false, "none"⟩
  verification := ⟨false, "none"⟩

/-- The steps of two executors in the given order, with the ports of the second. -/
def sampleRun (second : Ports Unit) (order : List Nat) :
    List (Process.Event Nat SideEffectInput (Ports Unit) Unit) :=
  [.spawn 0 sampleInput, .spawn 1 sampleInput] ++
    order.map fun tid => .step tid (if tid = 0 then samplePorts else second)

/-- The ports of an executor that builds its receipt later. -/
def laterPorts : Ports Unit :=
  { samplePorts with
    receipt := { sampleReceipt with receiptId := "receipt-2", issuedAt := 1700000000003 } }

set_option maxRecDepth 4000 in
/-- The second executor finds the operation reserved, and then moved by the first. -/
theorem effect_at_most_once_sample :
    ((executors Unit).run (idle : ExecutorPool Nat Unit) (sampleRun laterPorts
      [0, 0, 1, 0, 0, 0, 0, 0, 0, 1, 1, 1, 1, 1])).state.effects.count sampleIdentity.scopeId ≤ 1 :=
  effect_at_most_once (sampleRun laterPorts [0, 0, 1, 0, 0, 0, 0, 0, 0, 1, 1, 1, 1, 1])
    ⟨id, id, id, id, id, id, id, id, id, id, id, id, id, id,
      (fun replays => by cases replays.2), id, trivial⟩ sampleIdentity.scopeId

/-- Two executors that build equal receipts for the start of the effect both run
it: the second finds the transition of the first, takes it for its own and goes
on. -/
theorem equal_receipts_run_twice :
    ((executors Unit).run (idle : ExecutorPool Nat Unit) (sampleRun samplePorts
      [0, 0, 0, 0, 1, 1, 1, 0, 0, 1, 1, 1, 1, 0, 0])).state.effects =
        [sampleIdentity.scopeId, sampleIdentity.scopeId] := by
  decide +kernel

end SideEffectExecutors

end Knowbee
