import Knowbee.Ledger.Events

/-!
# The delivery finalizer

`finalizeDeliveryForRun` of `message-ledger.ts` is asked before a run is
recorded as failed, cancelled or interrupted; where it finds a delivered answer,
`updateRunStatus` records the run as completed instead.
-/

namespace Knowbee.Ledger

open List

inductive RunStatus where
  | queued | running | awaitingApproval | awaitingUser | completed | failed | cancelled
  | interrupted
  deriving DecidableEq

def isExternalChannelProvider (source : String) : Bool :=
  ¬(source = "webui" ∨ source = "cli")

def eventSucceeded (event : LedgerEvent) : Bool :=
  event.status = .sent || event.status = .delivered || event.status = .succeeded

inductive DeliveryOutcome where
  | unchanged | success | partialSuccess
  deriving DecidableEq

/-- `confirmed` says whether the text of a detail parses to a record with
confirmed provider evidence, `finalizedDetail` is the text of the detail of a
finalized delivery. -/
structure DetailFormat where
  confirmed : String → Bool
  finalizedDetail : RunStatus → Option String → DeliveryOutcome → String

def messageLedgerEventHasRequiredDeliveryEvidence (format : DetailFormat) (event : LedgerEvent) :
    Bool :=
  if isExternalChannelProvider event.channel then
    match event.detailJson.filter (· ≠ "") with
    | none => false
    | some detail => format.confirmed detail
  else true

def eventFailed (event : LedgerEvent) : Bool :=
  event.status = .failed || event.status = .suppressed ||
    "_failed".toList.isSuffixOf event.eventKind.toList ||
    event.eventKind = "recovery_stop_generated"

/-- An event `finalizeDeliveryForRun` protects the run for. -/
def deliveredAnswer (format : DetailFormat) (event : LedgerEvent) : Bool :=
  event.eventKind = "text_delivered" && eventSucceeded event &&
    messageLedgerEventHasRequiredDeliveryEvidence format event

structure DeliveryFinalizerResult where
  shouldProtectDeliveredAnswer : Bool
  outcome : DeliveryOutcome
  runStatus : Option RunStatus
  summary : Option String

def DeliveryFinalizerResult.unchanged : DeliveryFinalizerResult := ⟨false, .unchanged, none, none⟩

def runFilter (runs : String → Option RunLedgerContext) (runId : String) : LedgerFilter :=
  match ((resolveRunLedgerContext runs (some runId)).bind (·.requestGroupId)).filter (· ≠ "") with
  | some requestGroupId => ⟨none, some requestGroupId⟩
  | none => ⟨some runId, none⟩

def runStatusText : RunStatus → String
  | .queued => "queued"
  | .running => "running"
  | .awaitingApproval => "awaiting_approval"
  | .awaitingUser => "awaiting_user"
  | .completed => "completed"
  | .failed => "failed"
  | .cancelled => "cancelled"
  | .interrupted => "interrupted"

def DeliveryOutcome.text : DeliveryOutcome → String
  | .unchanged => "unchanged"
  | .success => "success"
  | .partialSuccess => "partial_success"

def finalizedSummary : DeliveryOutcome → String
  | .partialSuccess => "응답은 이미 전달됐고, 후속 전달/복구 실패는 부분 실패로 기록했습니다."
  | _ => "응답 전달이 완료되어 후속 실패가 전체 실패로 덮어써지지 않았습니다."

def finalizedInput (format : DetailFormat) (runs : String → Option RunLedgerContext)
    (runId : String) (requestedStatus : RunStatus) (requestedSummary : Option String)
    (outcome : DeliveryOutcome) : MessageLedgerEventInput :=
  let resolved := resolveRunLedgerContext runs (some runId)
  { runId := some runId
    requestGroupId := some ((resolved.bind (·.requestGroupId)).getD runId)
    sessionKey := resolved.bind (·.sessionKey)
    channel := resolved.bind (·.channel)
    eventKind := "delivery_finalized"
    idempotencyKey := some
      ("delivery-finalized:" ++ runId ++ ":" ++ runStatusText requestedStatus ++ ":" ++ outcome.text)
    status := if outcome = .partialSuccess then .degraded else .succeeded
    summary := finalizedSummary outcome
    detailJson := some (format.finalizedDetail requestedStatus requestedSummary outcome) }

def RunStatus.finalizable (status : RunStatus) : Bool :=
  status = .failed || status = .cancelled || status = .interrupted

/-- `finalizeDeliveryForRun`; its event gets the given id and time. -/
def finalizeDeliveryForRun (format : DetailFormat) (runs : String → Option RunLedgerContext)
    (ledger : MessageLedger) (runId : String) (requestedStatus : RunStatus)
    (requestedSummary : Option String) (id : String) (now : Int) (fault : RecordFault) :
    MessageLedger × DeliveryFinalizerResult :=
  if requestedStatus.finalizable then
    let events := listMessageLedgerEvents ledger (runFilter runs runId) 1000
    if events.any (deliveredAnswer format) then
      let outcome : DeliveryOutcome := if events.any eventFailed then .partialSuccess else .success
      ((recordMessageLedgerEvent runs ledger
        (finalizedInput format runs runId requestedStatus requestedSummary outcome) id now fault).1,
        ⟨true, outcome, some .completed, some (finalizedSummary outcome)⟩)
    else (ledger, .unchanged)
  else (ledger, .unchanged)

/-- The status `updateRunStatus` goes on with. -/
def nextRunStatus (requestedStatus : RunStatus) (result : DeliveryFinalizerResult) : RunStatus :=
  if result.shouldProtectDeliveredAnswer then result.runStatus.getD requestedStatus
  else requestedStatus

def SeenFirst (runs : String → Option RunLedgerContext) (ledger : MessageLedger) (runId : String)
    (event : LedgerEvent) : Prop :=
  ((ledger.rows.filter ((runFilter runs runId).admits ·)).countP
    fun other => other.place < event.place) < 1000

instance (runs : String → Option RunLedgerContext) (ledger : MessageLedger) (runId : String)
    (event : LedgerEvent) : Decidable (SeenFirst runs ledger runId event) :=
  inferInstanceAs (Decidable (_ < _))

lemma places_nodup (ledger : MessageLedger) (filter : LedgerFilter) :
    ((ledger.rows.filter (filter.admits ·)).map (·.place)).Nodup := by
  have ids : ((ledger.rows.filter (filter.admits ·)).map (·.id)).Nodup :=
    ledger.ids.sublist (filter_sublist.map _)
  refine List.Nodup.of_map (fun place => (ofLex place).2) ?_
  rwa [map_map]

lemma mem_listMessageLedgerEvents {ledger : MessageLedger} {filter : LedgerFilter}
    {event : LedgerEvent} :
    event ∈ listMessageLedgerEvents ledger filter 1000 ↔
      (event ∈ ledger.rows ∧ filter.admits event) ∧
        ((ledger.rows.filter (filter.admits ·)).countP
          fun other => other.place < event.place) < 1000 := by
  unfold listMessageLedgerEvents
  rw [show max 1 (min 1000 1000) = 1000 from rfl,
    Window.mem_take_insertionSort (places_nodup ledger filter), mem_filter,
    decide_eq_true_iff]

def Answers (format : DetailFormat) (runs : String → Option RunLedgerContext)
    (ledger : MessageLedger) (runId : String) (event : LedgerEvent) : Prop :=
  (event ∈ ledger.rows ∧ (runFilter runs runId).admits event) ∧ deliveredAnswer format event

lemma any_deliveredAnswer (format : DetailFormat) (runs : String → Option RunLedgerContext)
    (ledger : MessageLedger) (runId : String) :
    (listMessageLedgerEvents ledger (runFilter runs runId) 1000).any (deliveredAnswer format) ↔
      ∃ event, Answers format runs ledger runId event ∧ SeenFirst runs ledger runId event := by
  rw [any_eq_true]
  constructor
  · rintro ⟨event, listed, delivered⟩
    obtain ⟨own, few⟩ := mem_listMessageLedgerEvents.mp listed
    exact ⟨event, ⟨own, delivered⟩, few⟩
  · rintro ⟨event, ⟨own, delivered⟩, few⟩
    exact ⟨event, mem_listMessageLedgerEvents.mpr ⟨own, few⟩, delivered⟩

section

variable (format : DetailFormat) (runs : String → Option RunLedgerContext) (ledger : MessageLedger)
  (runId : String) (requestedStatus : RunStatus) (requestedSummary : Option String) (id : String)
  (now : Int) (fault : RecordFault)

lemma nextRunStatus_of_seen (finalizable : requestedStatus.finalizable)
    (seen : ∃ event, Answers format runs ledger runId event ∧ SeenFirst runs ledger runId event) :
    nextRunStatus requestedStatus
      (finalizeDeliveryForRun format runs ledger runId requestedStatus requestedSummary id now
        fault).2 = .completed := by
  have found := (any_deliveredAnswer format runs ledger runId).mpr seen
  rw [finalizeDeliveryForRun, if_pos finalizable]
  simp only [if_pos found, nextRunStatus, if_true, Option.getD_some]

lemma nextRunStatus_of_not_seen
    (seen : ¬∃ event, Answers format runs ledger runId event ∧ SeenFirst runs ledger runId event) :
    nextRunStatus requestedStatus
      (finalizeDeliveryForRun format runs ledger runId requestedStatus requestedSummary id now
        fault).2 = requestedStatus := by
  have found := mt (any_deliveredAnswer format runs ledger runId).mp seen
  unfold finalizeDeliveryForRun
  split_ifs
  · simp only [if_neg found, nextRunStatus, DeliveryFinalizerResult.unchanged, Bool.false_eq_true,
      if_false]
  · simp only [nextRunStatus, DeliveryFinalizerResult.unchanged, Bool.false_eq_true, if_false]

lemma nextRunStatus_of_not_asked (asked : requestedStatus ∉ [RunStatus.failed, .cancelled]) :
    nextRunStatus requestedStatus
      (finalizeDeliveryForRun format runs ledger runId requestedStatus requestedSummary id now
        fault).2 ∉ [RunStatus.failed, .cancelled] := by
  by_cases seen : ∃ event, Answers format runs ledger runId event ∧ SeenFirst runs ledger runId event
  · by_cases finalizable : requestedStatus.finalizable
    · rw [nextRunStatus_of_seen format runs ledger runId _ _ _ _ _ finalizable seen]
      decide
    · rw [finalizeDeliveryForRun, if_neg finalizable]
      exact asked
  · rwa [nextRunStatus_of_not_seen format runs ledger runId _ _ _ _ _ seen]

/-- **Delivered answers** keep a run from being recorded as failed or cancelled
exactly where that is not asked for, or where fewer than a thousand events of the
run come before one of them. -/
theorem finalizeDeliveryForRun_protects_iff :
    ((∃ event, Answers format runs ledger runId event) →
        nextRunStatus requestedStatus
          (finalizeDeliveryForRun format runs ledger runId requestedStatus requestedSummary id now
            fault).2 ∉ [RunStatus.failed, .cancelled]) ↔
      requestedStatus ∉ [RunStatus.failed, .cancelled] ∨
        ((∃ event, Answers format runs ledger runId event) →
          ∃ event, Answers format runs ledger runId event ∧ SeenFirst runs ledger runId event) := by
  by_cases asked : requestedStatus ∈ [RunStatus.failed, .cancelled]
  · have finalizable : requestedStatus.finalizable := by
      revert asked
      cases requestedStatus <;> decide
    by_cases seen : ∃ event, Answers format runs ledger runId event ∧
        SeenFirst runs ledger runId event
    · rw [nextRunStatus_of_seen format runs ledger runId _ _ _ _ _ finalizable seen]
      exact ⟨fun _ => .inr fun _ => seen, fun _ _ => by decide⟩
    · rw [nextRunStatus_of_not_seen format runs ledger runId _ _ _ _ _ seen]
      exact ⟨fun kept => .inr fun answered => absurd asked (kept answered),
        fun kept answered => (kept.resolve_left (not_not_intro asked) answered).elim
          fun event both => absurd ⟨event, both⟩ seen⟩
  · exact ⟨fun _ => .inl asked,
      fun _ _ => nextRunStatus_of_not_asked format runs ledger runId _ _ _ _ _ asked⟩

end

/-- An event of a tool in the request group of a run. -/
def earlyEvent (place : Nat) : LedgerEvent where
  id := String.ofList (replicate place 'a')
  runId := some "run"
  requestGroupId := some "group"
  sessionKey := none
  threadKey := none
  channel := "webui"
  eventKind := "tool_done"
  deliveryKey := none
  idempotencyKey := none
  status := .succeeded
  summary := "done"
  detailJson := none
  createdAt := 0

def lateDelivery : LedgerEvent :=
  { earlyEvent 0 with
    id := "delivery"
    eventKind := "text_delivered"
    status := .delivered
    createdAt := 1 }

lemma earlyEvent_id_injective : Function.Injective fun place => (earlyEvent place).id :=
  fun first second same => by
    have lengths := congrArg (fun id => id.toList.length) same
    simpa [earlyEvent] using lengths

/-- A thousand events before a delivered answer. -/
def lateLedger : MessageLedger where
  rows := (range 1000).map earlyEvent ++ [lateDelivery]
  ids := by
    rw [map_append, map_map, map_singleton, nodup_append]
    refine ⟨nodup_range.map earlyEvent_id_injective, nodup_singleton _, ?_⟩
    rintro _ early _ late rfl
    obtain ⟨place, -, same⟩ := mem_map.mp early
    rw [mem_singleton] at late
    have chars : replicate place 'a' = "delivery".toList := by
      have texts := congrArg String.toList (same.trans late)
      simpa [earlyEvent, lateDelivery] using texts
    have first : 'd' ∈ replicate place 'a' := chars ▸ by decide
    exact absurd (eq_of_mem_replicate first) (by decide)
  keys := by
    have none : ((range 1000).map earlyEvent ++ [lateDelivery]).filterMap (·.indexedKey) = [] := by
      rw [filterMap_eq_nil_iff]
      intro event mem
      obtain early | late := mem_append.mp mem
      · obtain ⟨place, -, rfl⟩ := mem_map.mp early
        rfl
      · rw [mem_singleton.mp late]
        rfl
    exact none ▸ nodup_nil

def groupRuns (runId : String) : Option RunLedgerContext :=
  if runId = "run" then some ⟨"run", some "group", none, none⟩ else none

def plainFormat : DetailFormat := ⟨fun _ => false, fun _ _ _ => "\x7b\x7d"⟩

lemma lateDelivery_preceded :
    1000 ≤ (lateLedger.rows.filter ((runFilter groupRuns "run").admits ·)).countP
      fun other => other.place < lateDelivery.place := by
  have early : ∀ event ∈ (range 1000).map earlyEvent,
      (runFilter groupRuns "run").admits event ∧ event.place < lateDelivery.place := by
    intro event mem
    obtain ⟨place, -, rfl⟩ := mem_map.mp mem
    have filter : runFilter groupRuns "run" = ⟨none, some "group"⟩ := rfl
    refine ⟨?_, Prod.Lex.toLex_lt_toLex.mpr (.inl (by decide : (0 : Int) < 1))⟩
    rw [filter]
    exact ⟨by simp, by simp [earlyEvent]⟩
  rw [countP_filter]
  calc 1000 = ((range 1000).map earlyEvent).length := by
        rw [length_map, length_range]
    _ = ((range 1000).map earlyEvent).countP _ :=
        (countP_eq_length.mpr fun event mem => by
          simpa using (early event mem).symm).symm
    _ ≤ _ := (sublist_append_left _ _).countP_le

/-- A run fails although its answer was delivered. -/
theorem deliveredAnswer_counterexample :
    ¬∀ (format : DetailFormat) (runs : String → Option RunLedgerContext) (ledger : MessageLedger)
      (runId : String) (requestedStatus : RunStatus) (requestedSummary : Option String)
      (id : String) (now : Int) (fault : RecordFault),
      (∃ event, Answers format runs ledger runId event) →
        nextRunStatus requestedStatus
          (finalizeDeliveryForRun format runs ledger runId requestedStatus requestedSummary id now
            fault).2 ∉ [RunStatus.failed, .cancelled] := by
  intro protects
  have answer : Answers plainFormat groupRuns lateLedger "run" lateDelivery :=
    ⟨⟨mem_append_right _ (mem_singleton_self _), by decide⟩, by decide⟩
  have unseen : ¬∃ event, Answers plainFormat groupRuns lateLedger "run" event ∧
      SeenFirst groupRuns lateLedger "run" event := by
    rintro ⟨event, ⟨⟨held, -⟩, delivered⟩, few⟩
    obtain early | late := mem_append.mp held
    · obtain ⟨place, -, rfl⟩ := mem_map.mp early
      exact absurd delivered (by simp [deliveredAnswer, earlyEvent])
    · rw [mem_singleton.mp late] at few
      exact absurd few (Nat.not_lt.mpr lateDelivery_preceded)
  refine protects plainFormat groupRuns lateLedger "run" .failed none "final" 2 .none
    ⟨lateDelivery, answer⟩ ?_
  rw [nextRunStatus_of_not_seen plainFormat groupRuns lateLedger "run" _ _ _ _ _ unseen]
  decide

end Knowbee.Ledger
