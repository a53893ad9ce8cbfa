import Knowbee.Cancellation.Agreement

/-!
# Runs of concurrent cancellations

The definite outcomes that the calls for one control return agree with each other and with the
receipt, as long as no call takes a receipt up that another is still to finalize
(`cancellation_agreement`).
-/

namespace Knowbee

open CasStore CancellationReceiptKey CancellationReceiptWire

namespace CancelCalls

open DurableCancellationStore

variable {Tid Raw : Type}

def Names (sha256 : Sha256) (control : V2ControlEnvelope) (key : CancellationReceiptKey)
    (cancellation : ExactCancellationRequest) : Prop :=
  exactCancellation control = some cancellation ∧
    newExact sha256 control.requestId cancellation = .ok key

/-- A call of the control takes a prepared receipt for an acceptance only where
the signal is set and no call may still finalize it otherwise. -/
def TakesUpAccepted (codec : CancellationCodec Raw) (capacity : Nat) {sha256 : Sha256}
    {control : V2ControlEnvelope} (pool : CancelPool Tid Raw sha256 control) :
    Process.Event Tid (CancelJob sha256 control) Choice Empty → Prop
  | .step tid _ => ∀ key cancellation thread op onward, Names sha256 control key cancellation →
      pool.threads tid = some thread → thread.prog = .call op onward →
      MayStep codec capacity key cancellation pool.state
        ((rules sha256 control key cancellation).summaries pool)
        ((rules sha256 control key cancellation).summary thread) op
  | _ => True

/-- The definite outcomes that were returned are one, which the receipt says in
memory and in the storage, and an acceptance is returned or stored with the
signal set. -/
structure Agreed (codec : CancellationCodec Raw) (capacity : Nat) {sha256 : Sha256}
    {control : V2ControlEnvelope} (pool : CancelPool Tid Raw sha256 control) : Prop where
  single : ∀ outcome outcome', Returned pool.returned outcome → Returned pool.returned outcome' →
    outcome = outcome'
  receipt : ∀ outcome, Returned pool.returned outcome → ∃ key cancellation stored,
    Names sha256 control key cancellation ∧
      (repository codec capacity).Stores pool.state.storage stored ∧
      Says (outcome? key pool.state.cache.records) outcome ∧ Says (outcome? key stored) outcome
  signalled : ∀ key cancellation stored, Names sha256 control key cancellation →
    (repository codec capacity).Stores pool.state.storage stored →
    (Returned pool.returned .accepted ∨ outcome? key pool.state.cache.records = some .accepted ∨
      outcome? key stored = some .accepted) → pool.state.registry.Signalled cancellation

section Runs

variable [DecidableEq Tid] {codec} {capacity} {sha256} {key : CancellationReceiptKey}
  {cancellation : ExactCancellationRequest} {control : V2ControlEnvelope}

lemma newExact_cancels {requestId : String} (named : newExact sha256
    requestId cancellation = .ok key) : key.terminalCommand = false := by
  unfold newExact new at named
  split_ifs at named
  · cases named
  · injection named with built
    rw [← built]

attribute [local irreducible] exactCancellation newExact

lemma upholds (ownerScope : V2CancelOwnerScope) (range : 0 < capacity ∧ capacity ≤ u32Max)
    (names : Names sha256 control key cancellation) :
    (rules sha256 control key cancellation).Upholds
      (calls codec capacity sha256 ownerScope control) Ends
      (TakesUpAccepted codec capacity : CancelPool Tid Raw sha256 control → _ → Prop)
      (Agreeing codec capacity key cancellation) where
  program := program_obeys ownerScope names.1 names.2
  spawn := by
    rintro world returned gs tid job ⟨stored, consistent, agrees⟩ -
    exact ⟨stored, consistent, agrees.goAway tid⟩
  call := by
    intro pool tid thread op onward choice agreeing found performs permits may
    exact agreeing.call range (newExact_cancels names.2) (by simp [Rules.summaries, found]) may
      (permits key cancellation thread op onward names found performs) choice
  ret := by
    rintro pool tid thread value ⟨stored, consistent, agrees⟩ found ends
    have told outcome
        (given : Returned ((thread.job, value) :: pool.returned) outcome) :
        Vouched (Returned pool.returned) ((rules sha256 control key cancellation).summaries pool)
          outcome := by
      obtain ⟨definite, job, acknowledged, member, rfl⟩ := given
      rcases List.mem_cons.mp member with here | before
      · cases here
        obtain ⟨receipt, settled, same⟩ := ends acknowledged rfl definite
        exact .inr ⟨tid, receipt, by simp [Rules.summaries, found, settled], same⟩
      · exact .inl ⟨definite, job, acknowledged, before, rfl⟩
    refine ⟨stored, consistent, (agrees.told told).mono fun other stage here => ?_⟩
    by_cases same : other = tid
    · subst same
      simp at here
    · rw [Function.update_of_ne same] at here
      exact .inl here
  fault := nofun

lemma upholds_unnamed (ownerScope : V2CancelOwnerScope)
    (unnamed : ∀ key cancellation, ¬Names sha256 control key cancellation) :
    Rules.free.Upholds
      (calls codec capacity sha256 ownerScope control)
      (fun _ result => ∀ acknowledged, result = some acknowledged → ¬Definite acknowledged.outcome)
      (TakesUpAccepted codec capacity : CancelPool Tid Raw sha256 control → _ → Prop)
      (fun _ returned _ => ∀ outcome, ¬Returned returned outcome) where
  program job := by
    have answers {outcome : CancelProg V2CancelOutcome} {failed : V2CancelOutcome}
        (same : outcome = pure failed) (indefinite : ¬Definite failed) :
        (do
          let answered ← (do
            let outcome ←
              if !ownerScope.matchesControl control then pure .targetMismatch else outcome
            return acknowledgement control outcome)
          return some answered : CancelProg (Option V2CancelAcknowledgement)).Obeys
          (Rules.free : Rules (CancelJob sha256 control) CancelStep CancelStep.Answer Unit)
          (fun _ result => ∀ acknowledged, result = some acknowledged →
            ¬Definite acknowledged.outcome) () := by
      subst same
      by_cases owns : ownerScope.matchesControl control
      · rw [if_neg (by simp [owns])]
        rintro acknowledged ⟨⟩
        exact indefinite
      · rw [if_pos (by simp [owns])]
        rintro acknowledged ⟨⟩
        simp [Definite, acknowledgement]
    cases job with
    | execute =>
      refine @answers _ .internalContractFailure ?_ (by simp [Definite])
      unfold applyExact
      cases cancels : exactCancellation control with
      | none => rfl
      | some cancellation =>
        cases named : newExact sha256 control.requestId cancellation with
        | ok key => exact absurd ⟨cancels, named⟩ (unnamed key cancellation)
        | error err => simp [applyDurable, named]
    | replay =>
      refine @answers _ .internalContractFailure ?_ (by simp [Definite])
      unfold replayDurable
      cases cancels : exactCancellation control with
      | none => rfl
      | some cancellation =>
        cases named : newExact sha256 control.requestId cancellation with
        | ok key => exact absurd ⟨cancels, named⟩ (unnamed key cancellation)
        | error err => simp [named]
    | store call _ => exact Prog.Obeys.perform trivial fun _ _ _ other => by cases other
    | registry call => exact Prog.Obeys.perform trivial fun _ _ _ other => by cases other
  spawn holds _ := holds
  call holds _ _ _ _ := ⟨trivial, holds⟩
  ret := by
    rintro pool tid thread value silent found ends outcome ⟨definite, job, acknowledged, member, rfl⟩
    rcases List.mem_cons.mp member with here | before
    · cases here
      exact ends acknowledged rfl definite
    · exact silent _ ⟨definite, job, acknowledged, before, rfl⟩
  fault silent := silent

/-- For every run of any number of calls for one control beside other calls, with
any fate of every write: the definite outcomes that were returned agree with each
other and with the receipt, and an acceptance is returned or stored with the signal
set, if no call takes up a receipt before it is to be accepted. -/
theorem cancellation_agreement (codec : CancellationCodec Raw) (capacity : Nat) (sha256 : Sha256)
    (ownerScope : V2CancelOwnerScope) (control : V2ControlEnvelope) (storage : Storage Raw)
    (receipts : CancellationReceipts) (registry : ActiveCommandRegistry)
    (starts : (repository codec capacity).Stores storage receipts)
    (signalled : ∀ key cancellation, Names sha256 control key cancellation →
      outcome? key receipts = some .accepted → registry.Signalled cancellation)
    (events : List (Process.Event Tid (CancelJob sha256 control) Choice Empty))
    (along : Machine.Along (calls codec capacity sha256 ownerScope control).step
      (TakesUpAccepted codec capacity)
      (Process.idle ⟨storage, ⟨storage.revision, receipts⟩, registry⟩) events) :
    Agreed codec capacity ((calls codec capacity sha256 ownerScope control).run
      (Process.idle ⟨storage, ⟨storage.revision, receipts⟩, registry⟩) events) := by
  obtain ⟨range, valid⟩ := bootstrap_ok starts
  by_cases named : ∃ key cancellation, Names sha256 control key cancellation
  · obtain ⟨key, cancellation, names⟩ := named
    have begins : Agreeing codec capacity key cancellation
        ⟨storage, ⟨storage.revision, receipts⟩, registry⟩
        ([] : List (CancelJob sha256 control × Option V2CancelAcknowledgement))
        fun _ : Tid => none := by
      refine ⟨receipts, .up starts valid, .fresh nofun ?_ (fun _ same _ => same) ?_⟩
      · rintro outcome ⟨-, job, acknowledged, member, -⟩
        cases member
      · rintro (held | held) <;> exact signalled key cancellation names held
    obtain ⟨-, stored, consistent, agrees⟩ :=
      (upholds ownerScope range names).run (Rules.kept_idle begins) along
    have same {key' : CancellationReceiptKey} {cancellation' : ExactCancellationRequest}
        (names' : Names sha256 control key' cancellation') :
        key' = key ∧ cancellation' = cancellation := by
      obtain ⟨cancels, named⟩ := names
      obtain ⟨cancels', named'⟩ := names'
      cases cancels.symm.trans cancels'
      cases named.symm.trans named'
      exact ⟨rfl, rfl⟩
    refine ⟨fun outcome outcome' given given' => ?_, fun outcome given => ?_,
      fun key' cancellation' stored' names' stores told => ?_⟩
    · obtain ⟨told, -⟩ := agrees.vouched outcome (.inl given)
      obtain ⟨told', -⟩ := agrees.vouched outcome' (.inl given')
      exact Option.some.inj (told.symm.trans told')
    · obtain ⟨told, told', -⟩ := agrees.vouched outcome (.inl given)
      exact ⟨key, cancellation, stored, names, consistent.stores, told, told'⟩
    · obtain ⟨rfl, rfl⟩ := same names'
      cases Repository.Stores.unique consistent.stores stores
      rcases told with given | filed
      · exact (agrees.vouched .accepted (.inl given)).2.2 rfl
      · exact agrees.accepted filed
  · have unnamed (key : CancellationReceiptKey) (cancellation : ExactCancellationRequest) :
        ¬Names sha256 control key cancellation := fun names => named ⟨key, cancellation, names⟩
    have begins (outcome : V2CancelOutcome) : ¬Returned
        ([] : List (CancelJob sha256 control × Option V2CancelAcknowledgement)) outcome := by
      rintro ⟨-, job, acknowledged, member, -⟩
      cases member
    have silent := ((upholds_unnamed ownerScope unnamed).run (Rules.kept_idle begins) along).inv
    exact ⟨fun outcome _ given => absurd given (silent outcome),
      fun outcome given => absurd given (silent outcome),
      fun key cancellation _ names => absurd names (unnamed key cancellation)⟩

end Runs

/-- SHA-256 where it is needed, on the token, the target and the scope of the
sample. -/
def sampleSha256 : Sha256 := fun bytes =>
  if bytes.size = 7 then
    ⟨"3f08aace122ee2368432c1ca23a049bc640bafbf00fdf33a52429f38ba12dbf9", by decide, by decide⟩
  else if bytes.size = 80 then
    ⟨"b1e554b27120a2109820b3f549d3ea4bcadcef1a13ff147bf99e267c77126fed", by decide, by decide⟩
  else
    ⟨"90cfc5606c588e80c5555e7c393246004afbf31a34e9e8a237133a38bf448a7c", by decide, by decide⟩

def sampleTarget : CommandTargetBinding where
  targetRequestId := "request-1"
  commandId := "command-1"
  operationId := "operation-1"
  targetSessionId := "session-1"
  targetFingerprint := "sha256:" ++ String.ofList (List.replicate 64 'a')
  idempotencyKey := "key-1"

def sampleScope : V2CancelOwnerScope where
  instanceId := "node-1"
  sessionId := sampleTarget.targetSessionId
  targetFingerprint := sampleTarget.targetFingerprint
  valid := by decide

def sampleControl : V2ControlEnvelope where
  messageId := "message-1"
  requestId := "cancel-request-1"
  commandId := "cancel-command-1"
  operationId := "cancel-operation-1"
  correlationId := "correlation-1"
  requesterId := "requester-1"
  targetInstanceId := sampleScope.instanceId
  targetSessionId := sampleScope.sessionId
  targetFingerprint := sampleScope.targetFingerprint
  idempotencyKey := "cancel-key-1"
  issuedAt := 1700000000000
  cancel := {
    targetRequestId := sampleTarget.targetRequestId
    targetCommandId := sampleTarget.commandId
    targetOperationId := sampleTarget.operationId
    targetIdempotencyKey := sampleTarget.idempotencyKey
    cancellationId := "cancellation-1"
    cancelToken := "token-1"
    reason := .userRequested
  }

def sampleRegistry : ActiveCommandRegistry :=
  (ActiveCommandRegistry.empty.registerWithCancellationId sampleTarget "cancellation-1" "token-1"
    true).2

def sampleCalls : Process (CancelJob sampleSha256 sampleControl) CancelStep CancelStep.Answer
    (Option V2CancelAcknowledgement) (World CancellationReceiptWire) Choice Empty :=
  calls (.plain schemaVersion) 4 sampleSha256 sampleScope sampleControl

/-- The jobs under the numbers 0, 1 and so on, and their steps in the given
order, every write of which is reported. -/
def sampleRun (jobs : List (CancelJob sampleSha256 sampleControl)) (order : List Nat) :
    CancelPool Nat CancellationReceiptWire sampleSha256 sampleControl :=
  sampleCalls.run (Process.idle ⟨⟨0, none⟩, ⟨0, .empty⟩, sampleRegistry⟩)
    ((jobs.zipIdx.map fun job => .spawn job.2 job.1) ++
      order.zipIdx.map fun tid => .step tid.1 ⟨.applied (tid.2 + 1), 1700000001000⟩)

set_option maxRecDepth 10000 in
/-- One call up to the acceptance it returns, and one that finds it filed. -/
theorem cancellation_agreement_redelivered :
    Agreed (.plain schemaVersion) 4
      (sampleRun [.execute, .execute] [0, 0, 0, 0, 0, 0, 0, 0, 1, 1]) := by
  refine cancellation_agreement (.plain schemaVersion) 4 sampleSha256
    sampleScope sampleControl ⟨0, none⟩ .empty sampleRegistry rfl ?_ _ ?_
  · intro key cancellation names held
    simp [outcome?, load] at held
  · refine ⟨trivial, trivial, ?_, ?_, ?_, ?_, ?_, ?_, ?_, ?_, ?_, ?_, trivial⟩
    all_goals
      rintro key cancellation thread op onward names found performs
      cases found
      cases performs
    any_goals exact trivial
    · -- Where the call begins the receipt there is none yet.
      rintro ⟨⟩
    · -- The call finalizes with the answer of the registry.
      rintro ⟨⟩

/-- A call prepares the receipt, another takes it up, and the command completes
before the first asks the registry. -/
def overtaken : CancelPool Nat CancellationReceiptWire sampleSha256 sampleControl :=
  sampleRun [.execute, .replay, .registry (.transition 0 (.complete .succeeded))]
    [0, 0, 0, 0, 1, 1, 1, 1, 2, 2, 0, 0, 0, 0]

/-- A receipt that is only prepared is taken up and returned as accepted, while
the call that prepared it finds the command complete and returns that. -/
theorem prepared_receipt_taken_up :
    ¬Agreed (.plain CancellationReceiptWire.schemaVersion) 4 overtaken ∧
      overtaken.returned.map (fun answered => answered.2.map V2CancelAcknowledgement.outcome) =
        [some .alreadyTerminal, none, some .accepted] ∧
      overtaken.state.registry.commands.map ActiveCommand.cancelled = [false] := by
  have ends :
      overtaken.returned.map (fun answered => answered.2.map V2CancelAcknowledgement.outcome) =
          [some .alreadyTerminal, none, some .accepted] ∧
        overtaken.state.registry.commands.map ActiveCommand.cancelled = [false] := by
    decide +kernel
  have outcomes := ends.1
  refine ⟨fun agreed => ?_, ends⟩
  have returned (outcome : V2CancelOutcome) (definite : Definite outcome)
      (member : some outcome ∈ overtaken.returned.map
        fun answered => answered.2.map V2CancelAcknowledgement.outcome) :
      Returned overtaken.returned outcome := by
    obtain ⟨⟨job, answer⟩, member, named⟩ := List.mem_map.mp member
    obtain ⟨acknowledged, rfl, same⟩ := Option.map_eq_some_iff.mp named
    exact ⟨definite, job, acknowledged, member, same⟩
  have accepted := returned .accepted (.inl rfl) (by simp [outcomes])
  have ended := returned .alreadyTerminal (.inr (.inr rfl)) (by simp [outcomes])
  cases agreed.single _ _ accepted ended


end CancelCalls

end Knowbee
