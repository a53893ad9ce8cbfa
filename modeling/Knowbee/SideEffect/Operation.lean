import Knowbee.JavaScript

/-!
# Side-effect operations

`side-effect-operation.ts`: the identity, the authorization and the receipts of
an operation with a side effect, and the table of its transitions.
-/

namespace Knowbee

inductive SideEffectOperationState where
  | reserved | effectStarted | effectRejected | effectRecorded | verifying | verified | verifyFailed
  | cancelRequested | compensating | compensated | manualIntervention
  deriving DecidableEq

def SideEffectOperationState.text : SideEffectOperationState → String
  | .reserved => "RESERVED"
  | .effectStarted => "EFFECT_STARTED"
  | .effectRejected => "EFFECT_REJECTED"
  | .effectRecorded => "EFFECT_RECORDED"
  | .verifying => "VERIFYING"
  | .verified => "VERIFIED"
  | .verifyFailed => "VERIFY_FAILED"
  | .cancelRequested => "CANCEL_REQUESTED"
  | .compensating => "COMPENSATING"
  | .compensated => "COMPENSATED"
  | .manualIntervention => "MANUAL_INTERVENTION"

inductive SideEffectOperationEvent where
  | startEffect | recordRejection | recordEffect | beginVerification | verificationPassed
  | verificationFailed | requestCancel | beginCompensation | compensationSucceeded
  | compensationFailed | markManual
  deriving DecidableEq

inductive SideEffectReceiptKind where
  | authorization | effect | observation | cancellation | compensation | manual
  deriving DecidableEq

def SideEffectOperationEvent.receiptKind : SideEffectOperationEvent → SideEffectReceiptKind
  | .startEffect => .authorization
  | .recordRejection => .effect
  | .recordEffect => .effect
  | .beginVerification => .observation
  | .verificationPassed => .observation
  | .verificationFailed => .observation
  | .requestCancel => .cancellation
  | .beginCompensation => .compensation
  | .compensationSucceeded => .compensation
  | .compensationFailed => .compensation
  | .markManual => .manual

structure SideEffectOperationReceipt where
  schemaVersion : Nat
  (receiptId operationId workId : String)
  event : SideEffectOperationEvent
  kind : SideEffectReceiptKind
  evidenceFingerprint : String
  evidenceRefs : List String
  operationRevision : Nat
  issuedAt : Int
  deriving DecidableEq

/-- The classes of `SideEffectClass` an authorization can name. -/
inductive StateChangingEffectClass where
  | localWrite | externalWrite | destructive | financial

structure SideEffectOperationIdentity where
  (operationId scopeId runId workId stepKey adapterId targetFingerprint paramsFingerprint : String)
  deriving DecidableEq

structure SideEffectOperationIdentityInput where
  (runId workId stepKey adapterId targetFingerprint paramsFingerprint : String)

def required (value field : String) : Except String String :=
  let normalized := jsTrim value
  if normalized.isEmpty then
    .error (field ++ " is required.")
  else .ok normalized

/-- The characters `encodeURIComponent` leaves as they are. -/
def isUriUnescaped (n : Nat) : Bool :=
  (0x41 ≤ n && n ≤ 0x5A) || (0x61 ≤ n && n ≤ 0x7A) || (0x30 ≤ n && n ≤ 0x39) ||
    [0x2D, 0x5F, 0x2E, 0x21, 0x7E, 0x2A, 0x27, 0x28, 0x29].contains n

def hexDigit (n : Nat) : Char := Char.ofNat (if n < 10 then 0x30 + n else 0x37 + n)

/-- A byte of the text, or its escape. -/
def encodeUriByte (byte : UInt8) : List Char :=
  if isUriUnescaped byte.toNat then [Char.ofNat byte.toNat]
  else ['%', hexDigit (byte.toNat / 16), hexDigit (byte.toNat % 16)]

/-- `encodeURIComponent`: every character that is left as it is is one byte. -/
def encodeURIComponent (value : String) : String :=
  String.ofList (value.toUTF8.data.toList.flatMap encodeUriByte)

/-- `value.slice(-count)` of a text with so many characters or more. -/
def sliceLast (count : Nat) (value : String) : String :=
  String.ofList (value.toList.drop (value.toList.length - count))

def buildSideEffectOperationIdentity (input : SideEffectOperationIdentityInput) :
    Except String SideEffectOperationIdentity := do
  let runId ← required input.runId "Run ID"
  let workId ← required input.workId "Work ID"
  let stepKey ← required input.stepKey "Step key"
  let adapterId ← required input.adapterId "Adapter ID"
  if !isHashReference input.targetFingerprint || !isHashReference input.paramsFingerprint then
    .error "Side-effect operation fingerprints must be SHA-256 references."
  else
    .ok {
      scopeId := "operation-scope:" ++ runId ++ ":" ++ stepKey ++ ":" ++
        encodeURIComponent adapterId ++ ":" ++ sliceLast 16 input.targetFingerprint
      operationId := "operation:" ++ runId ++ ":" ++ stepKey ++ ":" ++
        encodeURIComponent adapterId ++ ":" ++ sliceLast 16 input.targetFingerprint ++ ":" ++
        sliceLast 16 input.paramsFingerprint
      runId, workId, stepKey, adapterId
      __ := input
    }

lemma required_ok {value field text : String} (given : required value field = .ok text) :
    text = jsTrim value := by
  unfold required at given
  dsimp only at given
  split_ifs at given
  exact (Except.ok.inj given).symm

lemma build_trims {input : SideEffectOperationIdentityInput} {identity : SideEffectOperationIdentity}
    (built : buildSideEffectOperationIdentity input = .ok identity) :
    identity.runId = jsTrim input.runId ∧ identity.workId = jsTrim input.workId ∧
      identity.stepKey = jsTrim input.stepKey ∧ identity.adapterId = jsTrim input.adapterId ∧
      identity.targetFingerprint = input.targetFingerprint ∧
      identity.paramsFingerprint = input.paramsFingerprint := by
  unfold buildSideEffectOperationIdentity at built
  cases run : required input.runId "Run ID" with
  | error message => simp [run, bind, Except.bind] at built
  | ok runId =>
    cases work : required input.workId "Work ID" with
    | error message => simp [run, work, bind, Except.bind] at built
    | ok workId =>
      cases step : required input.stepKey "Step key" with
      | error message => simp [run, work, step, bind, Except.bind] at built
      | ok stepKey =>
        cases adapter : required input.adapterId "Adapter ID" with
        | error message => simp [run, work, step, adapter, bind, Except.bind] at built
        | ok adapterId =>
          simp only [run, work, step, adapter, bind, Except.bind] at built
          split_ifs at built
          cases built
          exact ⟨required_ok run, required_ok work, required_ok step, required_ok adapter, rfl, rfl⟩

structure SideEffectOperationAuthorization where
  (policyDecisionId policyReceiptRef operationId runId adapterId : String)
  effectClass : StateChangingEffectClass
  (targetFingerprint paramsFingerprint scopeFingerprint expectedEffectFingerprint : String)

def validateSideEffectOperationReceipt (receipt : SideEffectOperationReceipt)
    (identity : SideEffectOperationIdentity) (event : SideEffectOperationEvent)
    (operationRevision : Nat) : Bool :=
  receipt.schemaVersion == 1 &&
    !(jsTrim receipt.receiptId).isEmpty &&
    receipt.operationId == identity.operationId &&
    receipt.workId == identity.workId &&
    receipt.event == event &&
    receipt.kind == event.receiptKind &&
    receipt.operationRevision == operationRevision &&
    isSafeInteger receipt.operationRevision &&
    0 < receipt.operationRevision &&
    isSafeInteger receipt.issuedAt &&
    0 ≤ receipt.issuedAt &&
    isHashReference receipt.evidenceFingerprint &&
    !receipt.evidenceRefs.isEmpty &&
    !receipt.evidenceRefs.any (fun ref => (jsTrim ref).isEmpty) &&
    receipt.evidenceRefs.Nodup

def validateSideEffectOperationAuthorization (identity : SideEffectOperationIdentity) :
    Option SideEffectOperationAuthorization → Except String SideEffectOperationAuthorization
  | none => .error "side_effect_authorization_required"
  | some authorization =>
    if authorization.operationId ≠ identity.operationId ∨
        authorization.runId ≠ identity.runId ∨
        authorization.adapterId ≠ identity.adapterId ∨
        authorization.targetFingerprint ≠ identity.targetFingerprint ∨
        authorization.paramsFingerprint ≠ identity.paramsFingerprint then
      .error "side_effect_authorization_scope_mismatch"
    else if (jsTrim authorization.policyDecisionId).isEmpty ∨
        (jsTrim authorization.policyReceiptRef).isEmpty ∨
        ¬isHashReference authorization.scopeFingerprint ∨
        ¬isHashReference authorization.expectedEffectFingerprint then
      .error "side_effect_authorization_invalid"
    else .ok authorization

/-- `TRANSITIONS`. -/
def SideEffectOperationState.after :
    SideEffectOperationState → SideEffectOperationEvent → Option SideEffectOperationState
  | .reserved, .startEffect => some .effectStarted
  | .reserved, .requestCancel => some .cancelRequested
  | .effectStarted, .recordRejection => some .effectRejected
  | .effectStarted, .recordEffect => some .effectRecorded
  | .effectStarted, .requestCancel => some .cancelRequested
  | .effectRecorded, .beginVerification => some .verifying
  | .effectRecorded, .requestCancel => some .cancelRequested
  | .verifying, .verificationPassed => some .verified
  | .verifying, .verificationFailed => some .verifyFailed
  | .verifying, .requestCancel => some .cancelRequested
  | .verifyFailed, .beginCompensation => some .compensating
  | .verifyFailed, .markManual => some .manualIntervention
  | .cancelRequested, .beginVerification => some .verifying
  | .cancelRequested, .beginCompensation => some .compensating
  | .cancelRequested, .markManual => some .manualIntervention
  | .compensating, .compensationSucceeded => some .compensated
  | .compensating, .compensationFailed => some .manualIntervention
  | _, _ => none

def SideEffectOperationState.isTerminal : SideEffectOperationState → Bool
  | .verified => true
  | .compensated => true
  | .manualIntervention => true
  | .effectRejected => true
  | _ => false

inductive SideEffectTransitionRefusal where
  | receiptRequired | transitionNotAllowed | terminalStateLocked

inductive SideEffectOperationTransitionDecision where
  | accepted (previousState : SideEffectOperationState) (event : SideEffectOperationEvent)
      (nextState : SideEffectOperationState) (receiptRef : String)
  | refused (state : SideEffectOperationState) (event : SideEffectOperationEvent)
      (reasonCode : SideEffectTransitionRefusal)

def transitionSideEffectOperation (state : SideEffectOperationState)
    (event : SideEffectOperationEvent) (receiptRef : String) :
    SideEffectOperationTransitionDecision :=
  let receiptRef := jsTrim receiptRef
  if receiptRef.isEmpty then .refused state event .receiptRequired
  else if state.isTerminal then .refused state event .terminalStateLocked
  else
    match state.after event with
    | none => .refused state event .transitionNotAllowed
    | some nextState => .accepted state event nextState receiptRef

section

variable {state previousState nextState : SideEffectOperationState}
  {event decided : SideEffectOperationEvent}

lemma receipt_valid {receipt : SideEffectOperationReceipt} {identity : SideEffectOperationIdentity}
    {operationRevision : Nat}
    (valid : validateSideEffectOperationReceipt receipt identity event operationRevision = true) :
    receipt.operationId = identity.operationId ∧ receipt.event = event ∧
      receipt.operationRevision = operationRevision := by
  simp only [validateSideEffectOperationReceipt, Bool.and_eq_true, beq_iff_eq] at valid
  exact ⟨valid.1.1.1.1.1.1.1.1.1.1.1.1.2, valid.1.1.1.1.1.1.1.1.1.1.2, valid.1.1.1.1.1.1.1.1.2⟩

lemma after_ne_reserved (after : state.after event = some nextState) : nextState ≠ .reserved := by
  rintro rfl
  cases state <;> cases event <;> cases after

lemma reserved_of_after_startEffect (after : state.after .startEffect = some nextState) :
    state = .reserved := by
  cases state <;> first | rfl | cases after

lemma transition_accepted {given receiptRef : String}
    (accepted : transitionSideEffectOperation state event given =
      .accepted previousState decided nextState receiptRef) :
    decided = event ∧ state.after event = some nextState := by
  unfold transitionSideEffectOperation at accepted
  cases after : state.after event with
  | none =>
    simp only [after] at accepted
    split_ifs at accepted
  | some next =>
    simp only [after] at accepted
    split_ifs at accepted
    cases accepted
    exact ⟨rfl, rfl⟩

lemma transition_moves {given receiptRef : String}
    (accepted : transitionSideEffectOperation state event given =
      .accepted previousState decided nextState receiptRef) :
    state.isTerminal = false ∧ previousState = state ∧ receiptRef = jsTrim given := by
  unfold transitionSideEffectOperation at accepted
  simp only at accepted
  split_ifs at accepted with _ terminal
  cases after : state.after event with
  | none => simp only [after, reduceCtorEq] at accepted
  | some next =>
    simp only [after] at accepted
    cases accepted
    exact ⟨Bool.eq_false_iff.mpr terminal, rfl, rfl⟩

end

end Knowbee
