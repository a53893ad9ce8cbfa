import Knowbee.Mqtt.CommandPump
import Mathlib.Data.List.Flatten

/-!
# Runs of the command pump

Any order of accepted and refused publications, completed jobs and polls, with reconnects,
shutdowns and stops.  What the pump keeps of publications mirrors what the client holds
(`PublicationTracking.Mirrors`) as long as it hears of them, which it does not while it subscribes
again: a poll there drops what it reports.
-/

namespace Knowbee

open List MqttClient MqttV2CommandPump PublicationTracking

/-! ## The client -/

namespace MqttClient

variable {client after : MqttClient} {event : PolledEvent}

inductive Reports (client : MqttClient) : PolledEvent → MqttClient → Prop where
  | sent (packetId : PacketId) (publish : AcceptedPublish) (rest : List AcceptedPublish) :
      client.inFlight.get? packetId = none → client.channel = publish :: rest →
      Reports client (.outgoingPublish packetId)
        { client with channel := rest, inFlight := client.inFlight.insert packetId publish }
  | resent (packetId : PacketId) (publish : AcceptedPublish) :
      client.inFlight.get? packetId = some publish →
      Reports client (.outgoingPublish packetId) client
  | acknowledges (packetId : PacketId) (publish : AcceptedPublish) :
      client.inFlight.get? packetId = some publish →
      Reports client (.incomingPubAck packetId)
        { client with
          inFlight := client.inFlight.erase packetId
          acknowledged := client.acknowledged ++ [publish] }
  | connAck : Reports client .incomingConnAck client
  | publish : Reports client .incomingPublish client
  | other : Reports client .other client
  | failed (recoverable : Bool) : Reports client (.failed recoverable) client

lemma reports_of_report (reports : client.report event = some after) :
    client.Reports event after := by
  cases event with
  | outgoingPublish packetId =>
    simp only [report] at reports
    rcases flight : client.inFlight.get? packetId with _ | publish
    · rcases channel : client.channel with _ | ⟨publish, rest⟩
      · simp only [flight, channel] at reports
        cases reports
      · simp only [flight, channel] at reports
        cases reports
        exact .sent packetId publish rest flight channel
    · simp only [flight] at reports
      cases reports
      exact .resent packetId publish flight
  | incomingPubAck packetId =>
    obtain ⟨publish, flight, rfl⟩ := Option.map_eq_some_iff.mp reports
    exact .acknowledges packetId publish flight
  | incomingConnAck => cases reports; exact .connAck
  | incomingPublish => cases reports; exact .publish
  | other => cases reports; exact .other
  | failed recoverable => cases reports; exact .failed recoverable

/-- Every accepted publication is acknowledged, in flight or not sent yet. -/
def Accounted (client : MqttClient) : Prop :=
  client.accepted.Perm (client.acknowledged ++ (client.inFlight.values ++ client.channel))

lemma Accounted.accept (accounted : Accounted client) (publish : AcceptedPublish) :
    Accounted (client.accept publish) := by
  have more := accounted.append_right [publish]
  rw [append_assoc, append_assoc] at more
  exact more

lemma Accounted.report (accounted : Accounted client) (reports : client.Reports event after) :
    Accounted after := by
  cases reports with
  | sent packetId publish rest flight channel =>
    unfold Accounted at accounted ⊢
    rw [channel] at accounted
    have moved : (client.inFlight.values ++ publish :: rest).Perm
        ((client.inFlight.insert packetId publish).values ++ rest) :=
      perm_middle.trans ((SortedMap.values_insert_perm flight).symm.append_right rest)
    exact accounted.trans (moved.append_left _)
  | acknowledges packetId publish flight =>
    have moved : (client.inFlight.values ++ client.channel).Perm
        ([publish] ++ ((client.inFlight.erase packetId).values ++ client.channel)) :=
      (SortedMap.values_erase_perm flight).append_right _
    have later := accounted.trans (moved.append_left client.acknowledged)
    rw [← append_assoc] at later
    exact later
  | _ => exact accounted

lemma Reports.accepted (reports : client.Reports event after) :
    after.accepted = client.accepted := by
  cases reports <;> rfl

lemma acceptedFrom_own (client : MqttClient) (publish : AcceptedPublish) :
    (client.accept publish).acceptedFrom publish.origin =
      client.acceptedFrom publish.origin ++ [(publish.place, publish.message)] := by
  have here : [publish].filter (·.origin = publish.origin) = [publish] :=
    filter_cons_of_pos (decide_eq_true rfl)
  unfold acceptedFrom accept
  rw [filter_append, map_append, here]
  rfl

lemma acceptedFrom_other (client : MqttClient) (publish : AcceptedPublish)
    {origin : PublishOrigin} (other : publish.origin ≠ origin) :
    (client.accept publish).acceptedFrom origin = client.acceptedFrom origin := by
  have none : [publish].filter (·.origin = origin) = [] :=
    filter_cons_of_neg fun same => other (of_decide_eq_true same)
  unfold acceptedFrom accept
  rw [filter_append, map_append, none]
  exact append_nil _

/-- The client reports that a publication was sent for the first time, or that one
was acknowledged. -/
def tells (client : MqttClient) : PolledEvent → Bool
  | .outgoingPublish packetId => (client.inFlight.get? packetId).isNone && !client.channel.isEmpty
  | .incomingPubAck packetId => (client.inFlight.get? packetId).isSome
  | _ => false

lemma Reports.of_not_tells (reports : client.Reports event after)
    (silent : client.tells event = false) : after = client := by
  cases reports with
  | sent packetId publish rest flight channel =>
    simp only [tells, flight, channel] at silent
    cases silent
  | acknowledges packetId publish flight =>
    simp only [tells, flight] at silent
    cases silent
  | _ => rfl

end MqttClient

/-! ## Tracking -/

namespace PublicationTracking

variable {tracking : PublicationTracking} {client : MqttClient} {event : PolledEvent}

/-- The receipts that wait are those of the publications that wait, by position and
by packet id, and those of acknowledged publications were marked, in order. -/
structure Mirrors (tracking : PublicationTracking) : Prop where
  pending : tracking.pendingOutgoing = tracking.client.channel.map (·.message.receiptId)
  awaiting (packetId : PacketId) : tracking.awaitingPuback.get? packetId =
    (tracking.client.inFlight.get? packetId).map (·.message.receiptId)
  marked : tracking.marked = tracking.client.acknowledged.filterMap (·.message.receiptId)
  accounted : tracking.client.Accounted

variable {receiptId : Option String}

lemma Mirrors.push (mirrors : Mirrors tracking) (publish : AcceptedPublish)
    (own : publish.message.receiptId = receiptId) : Mirrors (tracking.push publish receiptId) := by
  refine ⟨?_, mirrors.awaiting, mirrors.marked, mirrors.accounted.accept publish⟩
  unfold PublicationTracking.push accept
  rw [map_append, mirrors.pending, ← own]
  rfl

variable {packetId : PacketId}

lemma track_sent (tracking : PublicationTracking) {rest : List (Option String)}
    (fresh : tracking.awaitingPuback.get? packetId = none)
    (pending : tracking.pendingOutgoing = receiptId :: rest) (marks : V2DeliveryPublishResult) :
    trackDeliveryEvent tracking (.outgoingPublish packetId) marks =
      ({ tracking with
        pendingOutgoing := rest
        awaitingPuback := tracking.awaitingPuback.insert packetId receiptId }, .ok ()) := by
  simp [trackDeliveryEvent, fresh, pending, Option.isSome_none, Bool.false_eq_true]

lemma track_client (tracking : PublicationTracking) (event : PolledEvent)
    (marks : V2DeliveryPublishResult) :
    (trackDeliveryEvent tracking event marks).1.client = tracking.client := by
  unfold trackDeliveryEvent
  split
  · split_ifs
    · rfl
    · split <;> rfl
  · split
    · rfl
    · dsimp only
      split <;> rfl
  · rfl

lemma track_resent (tracking : PublicationTracking)
    (waits : tracking.awaitingPuback.get? packetId = some receiptId)
    (marks : V2DeliveryPublishResult) :
    trackDeliveryEvent tracking (.outgoingPublish packetId) marks = (tracking, .ok ()) := by
  simp [trackDeliveryEvent, waits, Option.isSome_some]

lemma track_acknowledged (tracking : PublicationTracking)
    (waits : tracking.awaitingPuback.get? packetId = some receiptId)
    (marks : V2DeliveryPublishResult) :
    (trackDeliveryEvent tracking (.incomingPubAck packetId) marks).1 =
      { tracking with
        awaitingPuback := tracking.awaitingPuback.erase packetId
        marked := tracking.marked ++ receiptId.toList } := by
  rcases receiptId with _ | receiptId
  · simp [trackDeliveryEvent, waits, Option.toList_none, append_nil]
  · simp [trackDeliveryEvent, waits, Option.toList_some]

lemma Mirrors.track (mirrors : Mirrors tracking) (reports : tracking.client.Reports event client)
    (marks : V2DeliveryPublishResult) :
    Mirrors (trackDeliveryEvent { tracking with client } event marks).1 ∧
      ∀ packetId, event = .outgoingPublish packetId →
        (trackDeliveryEvent { tracking with client } event marks).2 = .ok () := by
  obtain ⟨pending, awaiting, marked, accounted⟩ := mirrors
  have accounted' := accounted.report reports
  cases reports with
  | sent packetId publish rest flight channel =>
    have fresh : tracking.awaitingPuback.get? packetId = none := by
      rw [awaiting, flight]
      rfl
    rw [channel, map_cons] at pending
    have taken := track_sent { tracking with client := { tracking.client with
      channel := rest
      inFlight := tracking.client.inFlight.insert packetId publish } } fresh pending marks
    rw [taken]
    refine ⟨⟨rfl, fun other => ?_, marked, accounted'⟩, fun _ _ => rfl⟩
    simp only [SortedMap.get?_insert]
    split_ifs
    · rfl
    · exact awaiting other
  | resent packetId publish flight =>
    have waits : tracking.awaitingPuback.get? packetId = some publish.message.receiptId := by
      rw [awaiting, flight]
      rfl
    rw [track_resent tracking waits]
    exact ⟨⟨pending, awaiting, marked, accounted⟩, fun _ _ => rfl⟩
  | acknowledges packetId publish flight =>
    have waits : tracking.awaitingPuback.get? packetId = some publish.message.receiptId := by
      rw [awaiting, flight]
      rfl
    have marks' := track_acknowledged { tracking with client := { tracking.client with
      inFlight := tracking.client.inFlight.erase packetId
      acknowledged := tracking.client.acknowledged ++ [publish] } } waits marks
    rw [marks']
    refine ⟨⟨pending, fun other => ?_, ?_, accounted'⟩, nofun⟩
    · simp only [SortedMap.get?_erase]
      split_ifs
      · rfl
      · exact awaiting other
    · have last : [publish].filterMap (·.message.receiptId) = publish.message.receiptId.toList := by
        cases receipt : publish.message.receiptId <;> simp [receipt]
      rw [marked, filterMap_append, last]
  | _ => exact ⟨⟨pending, awaiting, marked, accounted⟩, nofun⟩

end PublicationTracking

/-! ## Outboxes -/

namespace PumpOutboxes

variable {outboxes : PumpOutboxes} {client : MqttClient}

/-- Every outbox gave its messages in order, each once, and holds the others that
were put into it and not withdrawn. -/
structure Delivers (outboxes : PumpOutboxes) (client : MqttClient) : Prop where
  projections : outboxes.projections.Exact (client.acceptedFrom .projection)
    (outboxes.projectionOutbox.map untrackedEntry)
  responses : outboxes.responses.Exact (client.acceptedFrom .response) outboxes.responseOutbox
  artifacts : outboxes.artifacts.Exact (client.acceptedFrom .artifact)
    ((chunks outboxes.artifactBatches).map untrackedEntry)

lemma Delivers.report (delivers : Delivers outboxes client) {event : PolledEvent}
    {after : MqttClient} (reports : client.Reports event after) : Delivers outboxes after := by
  have same origin : after.acceptedFrom origin = client.acceptedFrom origin := by
    rw [acceptedFrom, acceptedFrom, reports.accepted]
  obtain ⟨projections, responses, artifacts⟩ := delivers
  rw [← same] at projections responses artifacts
  exact ⟨projections, responses, artifacts⟩

lemma Delivers.of_accept (publish : AcceptedPublish) {after : PumpOutboxes}
    (projections : after.projections.Exact (client.acceptedFrom .projection ++
        if publish.origin = .projection then [(publish.place, publish.message)] else [])
      (after.projectionOutbox.map untrackedEntry))
    (responses : after.responses.Exact (client.acceptedFrom .response ++
        if publish.origin = .response then [(publish.place, publish.message)] else [])
      after.responseOutbox)
    (artifacts : after.artifacts.Exact (client.acceptedFrom .artifact ++
        if publish.origin = .artifact then [(publish.place, publish.message)] else [])
      ((chunks after.artifactBatches).map untrackedEntry)) :
    Delivers after (client.accept publish) := by
  have shares origin : client.acceptedFrom origin ++
      (if publish.origin = origin then [(publish.place, publish.message)] else []) =
        (client.accept publish).acceptedFrom origin := by
    split_ifs with own
    · subst own
      exact (client.acceptedFrom_own publish).symm
    · rw [append_nil]
      exact (client.acceptedFrom_other publish own).symm
  rw [shares] at projections responses artifacts
  exact ⟨projections, responses, artifacts⟩

end PumpOutboxes

lemma untrackedEntry_place (start : Nat) (publishes : List MqttPublish) :
    (Outbox.place start publishes).map untrackedEntry =
      Outbox.place start (publishes.map (·.untracked)) := by
  induction publishes generalizing start with
  | nil => rfl
  | cons publish rest ih => exact congrArg _ (ih (start + 1))

lemma ite_cases {α : Type} {holds : α → Prop} {condition : Bool} {first second : α}
    (left : holds first) (right : holds second) :
    holds (if condition then first else second) := by
  cases condition
  · exact right
  · exact left

namespace MqttV2CommandPump

variable {pump : MqttV2CommandPump}

@[simp] lemma orStop_tracking (result : MqttV2CommandPump × Except MqttV2PumpError Unit) :
    (orStop result).toPublicationTracking = result.1.toPublicationTracking := by
  obtain ⟨pump, _ | _⟩ := result <;> rfl

@[simp] lemma orStop_outboxes (result : MqttV2CommandPump × Except MqttV2PumpError Unit) :
    (orStop result).toPumpOutboxes = result.1.toPumpOutboxes := by
  obtain ⟨pump, _ | _⟩ := result <;> rfl

/-! ### Polls -/

/-- A poll leaves the outboxes alone.  What the client reports is tracked, but not
while the pump subscribes. -/
lemma poll_cases (pump : MqttV2CommandPump) (event : PolledEvent)
    (marks : V2DeliveryPublishResult) :
    pump.poll event marks = pump ∨
      ∃ client, pump.client.Reports event client ∧
        (pump.poll event marks).toPumpOutboxes = pump.toPumpOutboxes ∧
        ((∃ topics, pump.phase = .subscribing topics ∧
            (pump.poll event marks).toPublicationTracking =
              { pump.toPublicationTracking with client }) ∨
          (pump.poll event marks).toPublicationTracking =
            (trackDeliveryEvent { pump.toPublicationTracking with client }
              event marks).1) := by
  rcases report : pump.client.report event with _ | client
  · left
    simp [poll, report]
  · have reports := reports_of_report report
    rcases phase : pump.phase with topics | _ | _ | result
    · right
      refine ⟨client, reports, ?_, .inl ⟨topics, rfl, ?_⟩⟩ <;>
        simp only [poll, report, phase] <;> cases event <;> rfl
    · right
      refine ⟨client, reports, ?_, .inr ?_⟩ <;> simp only [poll, report, phase]
      · cases event with
        | failed recoverable => cases recoverable <;> rfl
        | outgoingPublish packetId => exact orStop_outboxes _
        | incomingPubAck packetId => exact orStop_outboxes _
        | _ => rfl
      · cases event with
        | failed recoverable => cases recoverable <;> rfl
        | outgoingPublish packetId => exact orStop_tracking _
        | incomingPubAck packetId => exact orStop_tracking _
        | _ => rfl
    · right
      refine ⟨client, reports, ?_, .inr ?_⟩ <;> simp only [poll, report, phase]
      · cases event with
        | failed recoverable => rfl
        | _ => exact orStop_outboxes _
      · cases event with
        | failed recoverable => rfl
        | _ => exact orStop_tracking _
    · left
      simp [poll, report, phase]

/-! ### Outboxes -/

abbrev Delivers (pump : MqttV2CommandPump) : Prop := pump.toPumpOutboxes.Delivers pump.client

lemma replaceQueued_eq_some {publish : MqttPublish} {queue after : List (Nat × MqttPublish)}
    {old : Nat × MqttPublish} (replaced : replaceQueued publish queue = some (old, after)) :
    ∃ front back, queue = front ++ old :: back ∧ after = front ++ (old.1, publish) :: back := by
  induction queue generalizing after with
  | nil => cases replaced
  | cons queued rest ih =>
    simp only [replaceQueued] at replaced
    split_ifs at replaced with same
    · cases replaced
      exact ⟨[], rest, rfl, rfl⟩
    · obtain ⟨⟨old', after'⟩, later, equal⟩ := Option.map_eq_some_iff.mp replaced
      cases equal
      obtain ⟨front, back, split, split'⟩ := ih later
      exact ⟨queued :: front, back, congrArg _ split, congrArg _ split'⟩

lemma Delivers.enqueueRetainedProjection (delivers : Delivers pump) (publish : MqttPublish) :
    Delivers (pump.enqueueRetainedProjection publish) := by
  obtain ⟨projections, responses, artifacts⟩ := delivers
  unfold MqttV2CommandPump.enqueueRetainedProjection
  rcases replaced : replaceQueued publish pump.projectionOutbox with _ | ⟨old, after⟩
  · refine ⟨?_, responses, artifacts⟩
    have more := projections.give [publish.untracked]
    simp only [map_append]
    exact more
  · obtain ⟨front, back, queue, rfl⟩ := replaceQueued_eq_some replaced
    refine ⟨?_, responses, artifacts⟩
    rw [queue, map_append] at projections
    simp only [map_append]
    exact Outbox.Exact.renew projections publish.untracked

lemma Delivers.progressProjectionOutbox (delivers : Delivers pump) (accepts : Bool) :
    Delivers (pump.progressProjectionOutbox accepts) := by
  unfold MqttV2CommandPump.progressProjectionOutbox
  rcases outbox : pump.projectionOutbox with _ | ⟨publish, rest⟩
  · exact delivers
  · cases accepts with
    | false => exact delivers
    | true =>
      obtain ⟨projections, responses, artifacts⟩ := delivers
      rw [outbox, map_cons] at projections
      refine .of_accept ⟨.projection, publish.1, publish.2.untracked⟩ projections.accept ?_ ?_
      · exact (append_nil _).symm ▸ responses
      · exact (append_nil _).symm ▸ artifacts

lemma Delivers.progressResponseOutbox (delivers : Delivers pump) (accepts : Bool) :
    Delivers (pump.progressResponseOutbox accepts) := by
  unfold MqttV2CommandPump.progressResponseOutbox
  rcases outbox : pump.responseOutbox with _ | ⟨response, rest⟩
  · exact delivers
  · cases accepts with
    | false => exact delivers
    | true =>
      obtain ⟨projections, responses, artifacts⟩ := delivers
      rw [outbox] at responses
      refine .of_accept ⟨.response, response.1, response.2⟩ ?_ responses.accept ?_
      · exact (append_nil _).symm ▸ projections
      · exact (append_nil _).symm ▸ artifacts

lemma chunks_cons (batch : ArtifactPublishBatch) (batches : List ArtifactPublishBatch) :
    chunks (batch :: batches) = batch.publishes ++ chunks batches := flatMap_cons

section

variable (delivers : Delivers pump)
include delivers

lemma Delivers.progressArtifactBatch (accepts published : Bool) :
    Delivers (pump.progressArtifactBatch accepts published).1 := by
  unfold MqttV2CommandPump.progressArtifactBatch
  rcases queue : pump.artifactBatches with _ | ⟨batch, batches⟩
  · exact delivers
  · rcases front : batch.publishes with _ | ⟨publish, rest⟩
    · simp only [front]
      exact delivers
    · simp only [front]
      cases accepts with
      | false => exact delivers
      | true =>
        obtain ⟨projections, responses, artifacts⟩ := delivers
        rw [queue, chunks_cons, front, cons_append, map_cons] at artifacts
        have next := artifacts.accept
        simp only [Bool.not_true, Bool.false_eq_true, if_false]
        by_cases more : rest ≠ []
        · rw [if_pos more]
          refine .of_accept ⟨.artifact, publish.1, publish.2.untracked⟩ ?_ ?_ next
          · exact (append_nil _).symm ▸ projections
          · exact (append_nil _).symm ▸ responses
        · rw [if_neg more]
          rw [not_not.mp more, nil_append] at next
          refine .of_accept ⟨.artifact, publish.1, publish.2.untracked⟩ ?_ ?_ next
          · exact (append_nil _).symm ▸ projections
          · exact (append_nil _).symm ▸ responses

lemma Delivers.pushResponse (response : MqttV2EnqueuedPublish) :
    Delivers (pump.pushResponse response) :=
  ⟨delivers.projections, delivers.responses.give [response], delivers.artifacts⟩

lemma Delivers.removeBatches (removed : ArtifactPublishBatch → Bool) :
    Delivers (pump.removeBatches removed) := by
  have remains : (chunks (pump.artifactBatches.filter (!removed ·))).Sublist
      (chunks pump.artifactBatches) := filter_sublist.flatMap _
  have parts : (chunks (pump.artifactBatches.filter (!removed ·)) ++
      chunks (pump.artifactBatches.filter removed)).Perm (chunks pump.artifactBatches) := by
    unfold chunks
    rw [← flatMap_append]
    refine List.Perm.flatMap_right _ ?_
    exact perm_append_comm.trans (filter_append_perm removed pump.artifactBatches)
  refine ⟨delivers.projections, delivers.responses, ?_⟩
  refine delivers.artifacts.withdraw (remains.map _) ?_
  rw [← map_append]
  exact parts.map _

lemma Delivers.complete (job : CompletedJob) : Delivers (pump.complete job).1 := by
  cases job with
  | quiet => exact delivers
  | respond response registers =>
    unfold MqttV2CommandPump.complete
    dsimp only
    split
    · exact delivers
    · exact delivers.pushResponse _
  | artifactPrepared publishes artifactRef transferId =>
    refine ⟨delivers.projections, delivers.responses, ?_⟩
    have more := delivers.artifacts.give (publishes.map (·.untracked))
    rw [← untrackedEntry_place, ← map_append] at more
    have joined : chunks (pump.artifactBatches ++
        [⟨Outbox.place pump.artifacts.places publishes, artifactRef, transferId⟩]) =
        chunks pump.artifactBatches ++ Outbox.place pump.artifacts.places publishes := by
      unfold chunks
      rw [flatMap_append, flatMap_singleton]
    rw [← joined] at more
    exact more
  | artifactCancelled cancelled artifactRef transferId response registers =>
    unfold MqttV2CommandPump.complete
    dsimp only
    split
    · exact delivers
    · cases cancelled with
      | false => exact delivers.pushResponse _
      | true =>
        have fewer := delivers.removeBatches (ArtifactPublishBatch.isOf artifactRef transferId)
        exact fewer.pushResponse _

lemma Delivers.failArtifactBatch (failed : Bool) :
    Delivers (pump.failArtifactBatch failed).1 := by
  unfold MqttV2CommandPump.failArtifactBatch
  rcases queue : pump.artifactBatches with _ | ⟨batch, batches⟩
  · exact delivers
  · obtain ⟨projections, responses, artifacts⟩ := delivers
    rw [queue, chunks_cons, map_append] at artifacts
    exact ⟨projections, responses,
      artifacts.withdraw (sublist_append_right _ _) perm_append_comm⟩

lemma Delivers.clearProjections :
    Delivers { pump with
      projectionOutbox := []
      projections := pump.projections.withdraw (pump.projectionOutbox.map untrackedEntry) } :=
  ⟨delivers.projections.withdraw (nil_sublist _) (List.Perm.refl _), delivers.responses,
    delivers.artifacts⟩

lemma Delivers.poll (event : PolledEvent)
    (marks : V2DeliveryPublishResult) : Delivers (pump.poll event marks) := by
  rcases poll_cases pump event marks with same | ⟨client, reports, outboxes, tracking⟩
  · rw [same]
    exact delivers
  · have held : (pump.poll event marks).client = client := by
      rcases tracking with ⟨-, -, tracking⟩ | tracking
      · rw [tracking]
      · rw [tracking]
        exact track_client _ event marks
    rw [Delivers, outboxes, held]
    exact PumpOutboxes.Delivers.report delivers reports

lemma Delivers.next (event : Event) : Delivers (next pump event).1 := by
  have stopped result
      (holds : Delivers result.1) : Delivers (orStop result) := by
    obtain ⟨pump, _ | _⟩ := result <;> exact holds
  cases event with
  | trySubscribe accepts =>
    have subscribed : Delivers pump.subscribeNext := by
      unfold subscribeNext
      split <;> exact delivers
    exact ite_cases subscribed delivers
  | poll event marks => exact delivers.poll event marks
  | project publish => exact ite_cases (delivers.enqueueRetainedProjection publish) delivers
  | completes job => exact ite_cases (stopped _ (delivers.complete job)) delivers
  | progressProjection accepts =>
    exact ite_cases (delivers.progressProjectionOutbox accepts) delivers
  | progressResponse accepts => exact ite_cases (delivers.progressResponseOutbox accepts) delivers
  | progressArtifact accepts published =>
    exact ite_cases (stopped _ (delivers.progressArtifactBatch accepts published)) delivers
  | shutdown => exact ite_cases delivers delivers
  | failArtifactBatch failed =>
    exact ite_cases (stopped _ (delivers.failArtifactBatch failed)) delivers
  | clearProjections => exact ite_cases delivers.clearProjections delivers
  | stops result => exact delivers

end

lemma delivers_run (topics : List String) (events : List Event) :
    Delivers (run (start topics) events) := by
  have begins : Delivers (start topics) :=
    ⟨Outbox.exact_empty, Outbox.exact_empty, Outbox.exact_empty⟩
  have keep pump event (holds : Delivers pump) :
      Delivers (next pump event).1 := holds.next event
  exact Machine.run_invariant keep begins events

/-! ### Tracking -/

/-- While the pump subscribes nothing is reported that has to be tracked. -/
def Heard (pump : MqttV2CommandPump) : Event → Prop
  | .poll event _ => ∀ topics, pump.phase = .subscribing topics → pump.client.tells event = false
  | _ => True

abbrev Mirrors (pump : MqttV2CommandPump) : Prop := pump.toPublicationTracking.Mirrors

lemma Mirrors.poll (mirrors : Mirrors pump) {event : PolledEvent}
    {marks : V2DeliveryPublishResult} (heard : Heard pump (.poll event marks)) :
    Mirrors (pump.poll event marks) := by
  rcases poll_cases pump event marks with same | ⟨client, reports, -, tracking⟩
  · rw [same]
    exact mirrors
  · rcases tracking with ⟨topics, phase, tracking⟩ | tracking
    · rw [Mirrors, tracking, reports.of_not_tells (heard topics phase)]
      exact mirrors
    · rw [Mirrors, tracking]
      exact (PublicationTracking.Mirrors.track mirrors reports marks).1

lemma Mirrors.next (mirrors : Mirrors pump) (event : Event) (heard : Heard pump event) :
    Mirrors (next pump event).1 := by
  have stopped result
      (holds : Mirrors result.1) : Mirrors (orStop result) := by
    obtain ⟨pump, _ | _⟩ := result <;> exact holds
  cases event with
  | trySubscribe accepts =>
    have subscribed : Mirrors pump.subscribeNext := by
      unfold subscribeNext
      split <;> exact mirrors
    exact ite_cases subscribed mirrors
  | poll event marks => exact mirrors.poll heard
  | project publish =>
    have enqueued : Mirrors (pump.enqueueRetainedProjection publish) := by
      unfold enqueueRetainedProjection
      split <;> exact mirrors
    exact ite_cases enqueued mirrors
  | completes job =>
    have completed : Mirrors (pump.complete job).1 := by
      cases job with
      | quiet => exact mirrors
      | artifactPrepared publishes artifactRef transferId => exact mirrors
      | respond response registers =>
        unfold complete
        dsimp only
        split <;> exact mirrors
      | artifactCancelled cancelled artifactRef transferId response registers =>
        unfold complete
        dsimp only
        split
        · exact mirrors
        · cases cancelled <;> exact mirrors
    exact ite_cases (stopped _ completed) mirrors
  | progressProjection accepts =>
    have progressed : Mirrors (pump.progressProjectionOutbox accepts) := by
      unfold progressProjectionOutbox
      split
      · exact mirrors
      · cases accepts with
        | false => exact mirrors
        | true => exact PublicationTracking.Mirrors.push mirrors _ rfl
    exact ite_cases progressed mirrors
  | progressResponse accepts =>
    have progressed : Mirrors (pump.progressResponseOutbox accepts) := by
      unfold progressResponseOutbox
      split
      · exact mirrors
      · cases accepts with
        | false => exact mirrors
        | true => exact PublicationTracking.Mirrors.push mirrors _ rfl
    exact ite_cases progressed mirrors
  | progressArtifact accepts published =>
    have progressed : Mirrors (pump.progressArtifactBatch accepts published).1 := by
      unfold progressArtifactBatch
      split
      · exact mirrors
      · split
        · exact mirrors
        · cases accepts with
          | false => exact mirrors
          | true =>
            simp only [Bool.not_true, Bool.false_eq_true, if_false]
            split_ifs <;> exact PublicationTracking.Mirrors.push mirrors _ rfl
    exact ite_cases (stopped _ progressed) mirrors
  | shutdown => exact ite_cases mirrors mirrors
  | failArtifactBatch failed =>
    have failed : Mirrors (pump.failArtifactBatch failed).1 := by
      unfold failArtifactBatch
      split <;> exact mirrors
    exact ite_cases (stopped _ failed) mirrors
  | clearProjections => exact ite_cases mirrors mirrors
  | stops result => exact mirrors

lemma mirrors_run (topics : List String) (events : List Event)
    (along : Machine.Along next Heard (start topics) events) :
    Mirrors (run (start topics) events) := by
  have begins : Mirrors (start topics) := ⟨rfl, fun _ => rfl, rfl, List.Perm.refl _⟩
  have keep pump event (holds : Mirrors pump)
      heard : Mirrors (next pump event).1 := holds.next event heard
  exact Machine.run_invariant_along keep begins along

instance decidableHeard (pump : MqttV2CommandPump) (event : Event) : Decidable (Heard pump event) :=
  match event with
  | .poll event _ =>
    match phase : pump.phase with
    | .subscribing topics =>
      decidable_of_iff (pump.client.tells event = false)
        ⟨fun silent _ _ => silent, fun heard => heard topics phase⟩
    | .running | .draining | .stopped _ =>
      .isTrue fun _ subscribing => by rw [phase] at subscribing; cases subscribing
  | .trySubscribe _ | .project _ | .completes _ | .progressProjection _ | .progressResponse _
  | .progressArtifact .. | .shutdown | .failArtifactBatch _ | .clearProjections | .stops _ =>
    .isTrue trivial

/-- Where the pump hears of every publication, `mark_published` is called for the
receipts of acknowledged responses, in order and once for each that was accepted,
no sent packet lacks its entry, and the outboxes give their messages in order. -/
theorem publication_tracking_exact (topics : List String) (events : List Event)
    (along : Machine.Along next Heard (start topics) events) :
    (run (start topics) events).marked =
        (run (start topics) events).client.acknowledged.filterMap (·.message.receiptId) ∧
      List.Subperm (run (start topics) events).client.acknowledged
        (run (start topics) events).client.accepted ∧
      (∀ packetId client marks,
        (run (start topics) events).client.report (.outgoingPublish packetId) = some client →
        (trackDeliveryEvent
          { (run (start topics) events).toPublicationTracking with client }
          (.outgoingPublish packetId) marks).2 = .ok ()) ∧
      Delivers (run (start topics) events) := by
  have mirrors := mirrors_run topics events along
  have accounted := mirrors.accounted
  refine ⟨mirrors.marked, ?_, fun packetId client marks report => ?_, delivers_run topics events⟩
  · exact (sublist_append_left _ _).subperm.trans accounted.symm.subperm
  · have reports := reports_of_report report
    exact (PublicationTracking.Mirrors.track mirrors reports marks).2 packetId rfl

/-- A response is completed and accepted by the client. -/
def responds (receiptId : String) : List Event :=
  [.completes (.respond ⟨⟨"response", [], false⟩, some (queuedReceipt receiptId)⟩ .registered),
    .progressResponse true]

/-- The pump subscribes, is connected and gives a response to the client. -/
def connects : List Event :=
  [.trySubscribe true, .poll .incomingConnAck (.published 1)] ++ responds "receipt-1"

/-- A response is sent and acknowledged, also after the connection was made again. -/
def heardRun : List Event :=
  connects ++ [.poll (.outgoingPublish 1) (.published 1), .poll (.failed true) (.published 1),
    .poll .incomingConnAck (.published 1), .poll (.outgoingPublish 1) (.published 1),
    .trySubscribe true, .poll (.incomingPubAck 1) (.published 2)]

theorem publication_tracking_exact_heard :
    (run (start ["command"]) heardRun).marked =
        (run (start ["command"]) heardRun).client.acknowledged.filterMap (·.message.receiptId) ∧
      List.Subperm (run (start ["command"]) heardRun).client.acknowledged
        (run (start ["command"]) heardRun).client.accepted ∧
      (∀ packetId client marks,
        (run (start ["command"]) heardRun).client.report (.outgoingPublish packetId) = some client →
        (trackDeliveryEvent
          { (run (start ["command"]) heardRun).toPublicationTracking with client }
          (.outgoingPublish packetId) marks).2 = .ok ()) ∧
      Delivers (run (start ["command"]) heardRun) :=
  publication_tracking_exact ["command"] heardRun (by decide)

/-- The connection is lost before the response is sent, the channel is full when
the pump subscribes again, and the poll that makes room sends the response. -/
def missedRun : List Event :=
  connects ++ [.poll (.failed true) (.published 1), .poll .incomingConnAck (.published 1),
    .trySubscribe false, .poll (.outgoingPublish 1) (.published 1), .trySubscribe true] ++
    responds "receipt-2" ++
    [.poll (.outgoingPublish 2) (.published 1), .poll (.incomingPubAck 2) (.published 2)]

/-- The acknowledgement of the second response marks the receipt of the first. -/
theorem missed_publication_shifts :
    (run (start ["command"]) missedRun).client.acknowledged.filterMap (·.message.receiptId) =
        ["receipt-2"] ∧
      (run (start ["command"]) missedRun).marked = ["receipt-1"] := by
  decide

end MqttV2CommandPump

end Knowbee
