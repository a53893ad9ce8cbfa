import Knowbee.Ledger.Events
import Knowbee.Lib.Machine

/-!
# Admission of deliveries

`reserveMessageDeliveryAdmission` of `message-ledger.ts` inserts an event under the delivery's key
and reads the event of the key when nothing was inserted; `completeMessageDeliveryAdmission` and
`cancelMessageDeliveryAdmission` change an event that is still an attempt.
-/

namespace Knowbee.Ledger

open List Machine

inductive DeliveryEnd where
  | delivered | failed | suppressed

def DeliveryEnd.eventKind : DeliveryEnd → String
  | .delivered => "text_delivered"
  | .failed => "text_delivery_failed"
  | .suppressed => "text_delivery_suppressed"

def DeliveryEnd.status : DeliveryEnd → LedgerStatus
  | .delivered => .delivered
  | .failed => .failed
  | .suppressed => .suppressed

def DeliveryEnd.summary : DeliveryEnd → String
  | .delivered => "응답 텍스트 전달 완료"
  | .failed => "응답 텍스트 전달 실패"
  | .suppressed => "final delivery cancelled before provider invocation"

def DeliveryEnd.transition (ending : DeliveryEnd) (detailJson : Option String) : Transition :=
  ⟨ending.eventKind, ending.status, ending.summary, detailJson⟩

/-- The event of a delivery that was attempted and has no outcome yet. -/
def Attempted (event : LedgerEvent) : Prop :=
  event.eventKind = "delivery_attempted" ∧ event.status = .started

instance (event : LedgerEvent) : Decidable (Attempted event) := inferInstanceAs (Decidable (_ ∧ _))

def DeliveryEnd.Recorded (ending : DeliveryEnd) (event : LedgerEvent) : Prop :=
  event.eventKind = ending.eventKind ∧ event.status = ending.status

/-- The ledger, and the callers that are about to read the event of a key. -/
structure AdmissionStore where
  ledger : MessageLedger
  refused : List String

inductive AdmissionAction where
  | reserve (runs : String → Option RunLedgerContext) (input : MessageLedgerEventInput)
      (id : String) (now : Int) (fault : RecordFault)
  | read (caller : Nat)
  | record (runs : String → Option RunLedgerContext) (input : MessageLedgerEventInput)
      (id : String) (now : Int) (fault : RecordFault)
  | complete (idempotencyKey : String) (delivered : Bool) (detailJson : Option String) (fault : Bool)
  | cancel (idempotencyKey : String) (detailJson : Option String) (fault : Bool)
  | restart

/-- What a caller is told; `ended` carries the rows that were changed. -/
inductive AdmissionObservation where
  | none
  | admitted (idempotencyKey id : String)
  | existing (event : LedgerEvent)
  | persistenceUnavailable
  | ended (ids : List String) (ending : DeliveryEnd) (answer : Bool)

/-- The event `reserveMessageDeliveryAdmission` records. -/
def admissionInput (input : MessageLedgerEventInput) (idempotencyKey : String) :
    MessageLedgerEventInput :=
  { input with
    idempotencyKey := some idempotencyKey
    eventKind := "delivery_attempted"
    status := .started
    summary := "final delivery admitted" }

variable (runs : String → Option RunLedgerContext)

/-- The insert of `reserveMessageDeliveryAdmission`. -/
def reserveMessageDeliveryAdmission (store : AdmissionStore) (input : MessageLedgerEventInput)
    (id : String) (now : Int) (fault : RecordFault) : AdmissionStore × AdmissionObservation :=
  match (input.idempotencyKey.map jsTrim).filter (· ≠ "") with
  | none => (store, .persistenceUnavailable)
  | some idempotencyKey =>
    match recordMessageLedgerEvent runs store.ledger (admissionInput input idempotencyKey) id now
      fault with
    | (ledger, some eventId) => ({ store with ledger }, .admitted idempotencyKey eventId)
    | (ledger, none) => ({ ledger, refused := store.refused ++ [idempotencyKey] }, .none)

variable (store : AdmissionStore)

def readExistingAdmission (caller : Nat) : AdmissionStore × AdmissionObservation :=
  match store.refused[caller]? with
  | none => (store, .none)
  | some idempotencyKey =>
    ({ store with refused := store.refused.eraseIdx caller },
      match findMessageLedgerEventByIdempotencyKey store.ledger (some idempotencyKey) with
      | none => .persistenceUnavailable
      | some event => .existing event)

variable (idempotencyKey : String)

/-- The transition of an admission to an outcome, which may throw before it. -/
def endMessageDeliveryAdmission (ending : DeliveryEnd) (detailJson : Option String) (fault : Bool) :
    AdmissionStore × AdmissionObservation :=
  if fault then (store, .ended [] ending false)
  else
    let changed := transitionMessageLedgerEvent store.ledger idempotencyKey "delivery_attempted"
      .started (ending.transition detailJson)
    ({ store with ledger := changed.1 }, .ended changed.2 ending (changed.2.length = 1))

def completeMessageDeliveryAdmission (delivered : Bool) (detailJson : Option String) (fault : Bool) :
    AdmissionStore × AdmissionObservation :=
  endMessageDeliveryAdmission store idempotencyKey (if delivered then .delivered else .failed)
    detailJson fault

def cancelMessageDeliveryAdmission (detailJson : Option String) (fault : Bool) :
    AdmissionStore × AdmissionObservation :=
  endMessageDeliveryAdmission store idempotencyKey .suppressed detailJson fault

def admissionStep : AdmissionAction → AdmissionStore × AdmissionObservation
  | .reserve runs input id now fault =>
    reserveMessageDeliveryAdmission runs store input id now fault
  | .read caller => readExistingAdmission store caller
  | .record runs input id now fault =>
    ({ store with ledger := (recordMessageLedgerEvent runs store.ledger input id now fault).1 },
      .none)
  | .complete idempotencyKey delivered detailJson fault =>
    completeMessageDeliveryAdmission store idempotencyKey delivered detailJson fault
  | .cancel idempotencyKey detailJson fault =>
    cancelMessageDeliveryAdmission store idempotencyKey detailJson fault
  | .restart => ({ store with refused := [] }, .none)

/-- What a later row says of an earlier one: an attempt may get an outcome, and
any other row stays as it is. -/
inductive Follows (before after : LedgerEvent) : Prop where
  | same (same : after = before)
  | ended (attempted : Attempted before) (ending : DeliveryEnd) (detailJson : Option String)
      (transition : after = (ending.transition detailJson).apply before)

lemma DeliveryEnd.not_attempted {ending : DeliveryEnd} {event : LedgerEvent}
    (recorded : ending.Recorded event) : ¬Attempted event := by
  rintro ⟨-, started⟩
  have status : ending.status = .started := recorded.2 ▸ started
  cases ending <;> cases status

lemma DeliveryEnd.recorded_apply (ending : DeliveryEnd) (detailJson : Option String)
    (event : LedgerEvent) : ending.Recorded ((ending.transition detailJson).apply event) :=
  ⟨rfl, rfl⟩

namespace Follows

variable {before after last : LedgerEvent}

lemma id_eq (follows : Follows before after) : after.id = before.id := by
  cases follows with
  | same same => rw [same]
  | ended _ _ _ transition => rw [transition]; rfl

lemma key_eq (follows : Follows before after) : after.idempotencyKey = before.idempotencyKey := by
  cases follows with
  | same same => rw [same]
  | ended _ _ _ transition => rw [transition]; rfl

lemma eq_of_not_attempted (follows : Follows before after) (past : ¬Attempted before) :
    after = before := by
  cases follows with
  | same same => exact same
  | ended attempted => exact absurd attempted past

lemma trans (first : Follows before after) (second : Follows after last) :
    Follows before last := by
  cases first with
  | same same => exact same ▸ second
  | ended attempted ending detailJson transition =>
    have recorded : ending.Recorded after := transition ▸ ending.recorded_apply detailJson before
    have past : ¬Attempted after := DeliveryEnd.not_attempted recorded
    exact .ended attempted ending detailJson ((second.eq_of_not_attempted past).trans transition)

end Follows

/-- Every row of the first ledger has one that follows it in the second. -/
def Continues (first second : MessageLedger) : Prop :=
  ∀ row ∈ first.rows, ∃ later ∈ second.rows, Follows row later

lemma Continues.refl (ledger : MessageLedger) : Continues ledger ledger :=
  fun row held => ⟨row, held, .same rfl⟩

lemma Continues.trans {first second third : MessageLedger} (former : Continues first second)
    (latter : Continues second third) : Continues first third := by
  intro row held
  obtain ⟨next, held', follows⟩ := former row held
  obtain ⟨last, held'', follows'⟩ := latter next held'
  exact ⟨last, held'', follows.trans follows'⟩

lemma recordMessageLedgerEvent_continues (ledger : MessageLedger)
    (input : MessageLedgerEventInput) (id : String) (now : Int) (fault : RecordFault) :
    Continues ledger (recordMessageLedgerEvent runs ledger input id now fault).1 := by
  obtain same | ⟨-, stored, answer, same, rows, -⟩ :=
    recordMessageLedgerEvent_cases runs ledger input id now fault
  · rw [same]
    exact .refl ledger
  · rw [same]
    intro row held
    exact ⟨row, rows ▸ mem_append_left _ held, .same rfl⟩

lemma transitionRow_follows (ending : DeliveryEnd) (detailJson : Option String)
    (row : LedgerEvent) : Follows row (transitionRow idempotencyKey "delivery_attempted" .started
      (ending.transition detailJson) row) := by
  unfold transitionRow
  split_ifs with found
  · exact .ended found.2 ending detailJson rfl
  · exact .same rfl

lemma endMessageDeliveryAdmission_continues (ending : DeliveryEnd) (detailJson : Option String)
    (fault : Bool) : Continues store.ledger
      (endMessageDeliveryAdmission store idempotencyKey ending detailJson fault).1.ledger := by
  unfold endMessageDeliveryAdmission
  split_ifs
  · exact .refl _
  · intro row held
    exact ⟨_, mem_map_of_mem held, transitionRow_follows idempotencyKey ending detailJson row⟩

/-- What the insert of a reservation does: nothing, or it stores a row whose key
was free. -/
lemma reserveMessageDeliveryAdmission_cases (store : AdmissionStore)
    (input : MessageLedgerEventInput) (id : String) (now : Int) (fault : RecordFault) :
    ∃ next seen, reserveMessageDeliveryAdmission runs store input id now fault = (next, seen) ∧
      (next.ledger = store.ledger ∧ (seen = .none ∨ seen = .persistenceUnavailable) ∨
        ∃ key, key ≠ "" ∧
          store.ledger.Fresh (ledgerRow runs (admissionInput input key) id now) ∧
          next.ledger.rows = store.ledger.rows ++ [ledgerRow runs (admissionInput input key) id now] ∧
          (seen = .none ∨ seen = .admitted key id)) := by
  unfold reserveMessageDeliveryAdmission
  cases trimmed : (input.idempotencyKey.map jsTrim).filter (· ≠ "") with
  | none => exact ⟨_, _, rfl, .inl ⟨rfl, .inr rfl⟩⟩
  | some key =>
    have named : key ≠ "" := by simpa using (Option.filter_eq_some_iff.mp trimmed).2
    obtain same | ⟨fresh, stored, answer, same, rows, answered⟩ :=
      recordMessageLedgerEvent_cases runs store.ledger (admissionInput input key) id now fault
    · simp only [same]
      exact ⟨_, _, rfl, .inl ⟨rfl, .inl rfl⟩⟩
    · simp only [same]
      obtain rfl | rfl := answered
      · exact ⟨_, _, rfl, .inr ⟨key, named, fresh, rows, .inl rfl⟩⟩
      · exact ⟨_, _, rfl, .inr ⟨key, named, fresh, rows, .inr rfl⟩⟩

/-- Rows of a ledger stay in it, and only attempts change. -/
lemma admissionStep_continues (action : AdmissionAction) :
    Continues store.ledger (admissionStep store action).1.ledger := by
  cases action with
  | reserve runs input id now fault =>
    obtain ⟨next, seen, same, kept | ⟨key, -, -, rows, -⟩⟩ :=
      reserveMessageDeliveryAdmission_cases runs store input id now fault
    · simp only [admissionStep, same, kept.1]
      exact .refl _
    · simp only [admissionStep, same]
      intro row held
      exact ⟨row, rows ▸ mem_append_left _ held, .same rfl⟩
  | read caller =>
    simp only [admissionStep, readExistingAdmission]
    cases store.refused[caller]? <;> exact .refl _
  | record runs input id now fault =>
    exact recordMessageLedgerEvent_continues runs store.ledger input id now fault
  | complete idempotencyKey delivered detailJson fault =>
    exact endMessageDeliveryAdmission_continues store idempotencyKey _ detailJson fault
  | cancel idempotencyKey detailJson fault =>
    exact endMessageDeliveryAdmission_continues store idempotencyKey _ detailJson fault
  | restart => exact .refl _

variable (actions : List AdmissionAction)

lemma run_continues : Continues store.ledger (run admissionStep store actions).ledger := by
  have keep : ∀ reached action,
      Continues store.ledger reached.ledger →
        Continues store.ledger (admissionStep reached action).1.ledger :=
    fun reached action continues => continues.trans (admissionStep_continues reached action)
  exact run_invariant keep (.refl _) actions

/-- What an observation says about the ledger it is made in. -/
def AdmissionObservation.Holds : AdmissionObservation → MessageLedger → Prop
  | .admitted key id, ledger =>
    key ≠ "" ∧ ∃ row ∈ ledger.rows, row.id = id ∧ row.idempotencyKey = some key ∧
      (Attempted row ∨ ∃ ending : DeliveryEnd, ending.Recorded row)
  | .ended ids ending _, ledger =>
    ∀ id ∈ ids, ∃ row ∈ ledger.rows, row.id = id ∧ ending.Recorded row
  | _, _ => True

lemma AdmissionObservation.Holds.continues {seen : AdmissionObservation}
    {first second : MessageLedger} (holds : seen.Holds first)
    (continues : Continues first second) : seen.Holds second := by
  cases seen with
  | admitted key id =>
    obtain ⟨named, row, held, same, keyed, outcome⟩ := holds
    obtain ⟨later, held', follows⟩ := continues row held
    refine ⟨named, later, held', follows.id_eq.trans same, follows.key_eq.trans keyed, ?_⟩
    cases follows with
    | same same => exact same ▸ outcome
    | ended _ ending detailJson transition =>
      exact .inr ⟨ending, transition ▸ ending.recorded_apply detailJson row⟩
  | ended ids ending answer =>
    intro id mem
    obtain ⟨row, held, same, recorded⟩ := holds id mem
    obtain ⟨later, held', follows⟩ := continues row held
    have kept := follows.eq_of_not_attempted (DeliveryEnd.not_attempted recorded)
    exact ⟨later, held', kept ▸ same, kept ▸ recorded⟩
  | none | existing _ | persistenceUnavailable => trivial

/-- The rows a transition changed are attempts before it, and have the outcome after it. -/
lemma endMessageDeliveryAdmission_ended (ending : DeliveryEnd) (detailJson : Option String)
    (fault : Bool) : ∃ next ids answer,
      endMessageDeliveryAdmission store idempotencyKey ending detailJson fault =
          (next, .ended ids ending answer) ∧
        ∀ id ∈ ids, ∃ row ∈ store.ledger.rows, row.id = id ∧ Attempted row ∧
          ∃ later ∈ next.ledger.rows, later.id = id ∧ ending.Recorded later := by
  unfold endMessageDeliveryAdmission
  split_ifs
  · exact ⟨_, _, _, rfl, by simp⟩
  · refine ⟨_, _, _, rfl, fun id mem => ?_⟩
    obtain ⟨row, found, rfl⟩ := mem_map.mp mem
    obtain ⟨held, matched⟩ := mem_filter.mp found
    have matched := of_decide_eq_true matched
    refine ⟨row, held, rfl, matched.2, _, mem_map_of_mem held, ?_, ?_⟩
    · rw [transitionRow, if_pos matched]
      rfl
    · rw [transitionRow, if_pos matched]
      exact ending.recorded_apply detailJson row

/-- Answers of a run that exclude each other. -/
def AdmissionObservation.Apart : AdmissionObservation → AdmissionObservation → Prop
  | .admitted key _, .admitted key' _ => key ≠ key'
  | .ended ids _ _, .ended ids' _ _ => ids.Disjoint ids'
  | _, _ => True

lemma AdmissionObservation.apart_none (seen : AdmissionObservation) : seen.Apart .none := by
  cases seen <;> trivial

lemma endMessageDeliveryAdmission_spec (ending : DeliveryEnd) (detailJson : Option String)
    (fault : Bool) :
    (endMessageDeliveryAdmission store idempotencyKey ending detailJson fault).2.Holds
        (endMessageDeliveryAdmission store idempotencyKey ending detailJson fault).1.ledger ∧
      ∀ seen : AdmissionObservation, seen.Holds store.ledger →
        seen.Apart (endMessageDeliveryAdmission store idempotencyKey ending detailJson fault).2 := by
  obtain ⟨next, ids, answer, same, changed⟩ :=
    endMessageDeliveryAdmission_ended store idempotencyKey ending detailJson fault
  rw [same]
  refine ⟨fun id mem => ?_, fun seen holds => ?_⟩
  · obtain ⟨-, -, -, -, later, held, named, recorded⟩ := changed id mem
    exact ⟨later, held, named, recorded⟩
  · cases seen with
    | ended earlier ending' _ =>
      intro id mem mem'
      obtain ⟨row, held, named, recorded⟩ := holds id mem
      obtain ⟨row', held', named', attempted, -⟩ := changed id mem'
      have one : row = row' := MessageLedger.row_ext held held' (named.trans named'.symm)
      exact DeliveryEnd.not_attempted recorded (one ▸ attempted)
    | none | existing _ | persistenceUnavailable | admitted _ _ => trivial

lemma admissionStep_spec (action : AdmissionAction) :
    (admissionStep store action).2.Holds (admissionStep store action).1.ledger ∧
      ∀ seen : AdmissionObservation, seen.Holds store.ledger →
        seen.Apart (admissionStep store action).2 := by
  cases action with
  | reserve runs input id now fault =>
    obtain ⟨next, seen, same, ⟨-, rfl | rfl⟩ | ⟨key, named, fresh, rows, rfl | rfl⟩⟩ :=
      reserveMessageDeliveryAdmission_cases runs store input id now fault
    · simp only [admissionStep, same]
      exact ⟨trivial, fun seen _ => seen.apart_none⟩
    · simp only [admissionStep, same]
      exact ⟨trivial, fun seen _ => by cases seen <;> trivial⟩
    · simp only [admissionStep, same]
      exact ⟨trivial, fun seen _ => seen.apart_none⟩
    · simp only [admissionStep, same]
      have indexed (row : LedgerEvent) (keyed : row.idempotencyKey = some key) :
          row.indexedKey = some key := by
        rw [LedgerEvent.indexedKey, keyed]
        simp [named]
      refine ⟨⟨named, _, rows ▸ mem_append_right _ (mem_singleton_self _), rfl, rfl,
        .inl ⟨rfl, rfl⟩⟩, fun seen holds => ?_⟩
      cases seen with
      | admitted earlier _ =>
        obtain ⟨-, row, held, -, keyed, -⟩ := holds
        rintro rfl
        exact fresh.2 earlier (indexed _ rfl)
          (mem_filterMap.mpr ⟨row, held, indexed row keyed⟩)
      | none | existing _ | persistenceUnavailable | ended _ _ _ => trivial
  | read caller =>
    simp only [admissionStep, readExistingAdmission]
    cases store.refused[caller]? with
    | none => exact ⟨trivial, fun seen _ => seen.apart_none⟩
    | some key =>
      cases found : findMessageLedgerEventByIdempotencyKey store.ledger (some key) <;>
      · simp only [found]
        exact ⟨trivial, fun seen _ => by cases seen <;> trivial⟩
  | record runs input id now fault => exact ⟨trivial, fun seen _ => seen.apart_none⟩
  | complete idempotencyKey delivered detailJson fault =>
    exact endMessageDeliveryAdmission_spec store idempotencyKey _ detailJson fault
  | cancel idempotencyKey detailJson fault =>
    exact endMessageDeliveryAdmission_spec store idempotencyKey _ detailJson fault
  | restart => exact ⟨trivial, fun seen _ => seen.apart_none⟩

lemma trace_holds :
    ∀ seen ∈ trace admissionStep store actions,
      seen.Holds (run admissionStep store actions).ledger := by
  induction actions generalizing store with
  | nil => simp [trace]
  | cons action rest ih =>
    intro seen mem
    obtain rfl | later := mem_cons.mp mem
    · exact (admissionStep_spec store action).1.continues (run_continues _ rest)
    · exact ih _ seen later

lemma trace_apart : (trace admissionStep store actions).Pairwise AdmissionObservation.Apart :=
  trace_pairwise (fun _ => True) (fun seen reached => seen.Holds reached.ledger)
    (fun _ _ _ => trivial) (fun reached action _ => (admissionStep_spec reached action).1)
    (fun _ reached action _ holds => holds.continues (admissionStep_continues reached action))
    (fun seen reached action _ holds => (admissionStep_spec reached action).2 seen holds)
    trivial actions

/-- **Admission is at most once.**  In every run, two admissions are of different
keys, two outcomes are of different rows, what was admitted or ended is in the
ledger of the end so, and a row that is no attempt stays as it is. -/
theorem deliveryAdmission_once (store : AdmissionStore) (before after : List AdmissionAction) :
    (trace admissionStep store (before ++ after)).Pairwise AdmissionObservation.Apart ∧
      (∀ seen ∈ trace admissionStep store before,
        seen.Holds (run admissionStep store (before ++ after)).ledger) ∧
      ∀ row ∈ (run admissionStep store before).ledger.rows, ¬Attempted row →
        row ∈ (run admissionStep store (before ++ after)).ledger.rows := by
  have onward : Continues (run admissionStep store before).ledger
      (run admissionStep store (before ++ after)).ledger := by
    rw [run_append]
    exact run_continues _ after
  refine ⟨trace_apart store _, fun seen mem => ?_, fun row held past => ?_⟩
  · exact (trace_holds store before seen mem).continues onward
  · obtain ⟨later, held', follows⟩ := onward row held
    exact follows.eq_of_not_attempted past ▸ held'

end Knowbee.Ledger
