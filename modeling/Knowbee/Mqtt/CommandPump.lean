import Knowbee.Delivery.Receipt
import Knowbee.Lib.Outbox
import Mathlib.Order.Fin.Basic

/-!
# The command pump

`mqtt_v2_command_pump.rs`, as far as publications go.  Three outboxes take turns
at the request channel of the client, which accepts a publication or refuses it.
The event loop reports the packets it sends and those that are acknowledged, and
the pump matches them to the receipts of responses: a publication is known by
its position until it is sent, and then by its packet id.
-/

namespace Knowbee

/-- `u16`. -/
abbrev PacketId : Type := Fin 65536

/-- `MqttV2ProjectionPublish` and `MqttV2ArtifactChunkPublish`. -/
structure MqttPublish where
  topic : String
  payload : List UInt8
  retained : Bool

/-- `MqttV2EnqueuedPublish`: a response under the id of its delivery receipt. -/
structure MqttV2EnqueuedPublish extends MqttPublish where
  receiptId : Option String

def MqttPublish.untracked (publish : MqttPublish) : MqttV2EnqueuedPublish :=
  { publish with receiptId := none }

def untrackedEntry (entry : Nat × MqttPublish) : Nat × MqttV2EnqueuedPublish :=
  (entry.1, entry.2.untracked)

inductive PublishOrigin where
  | projection | response | artifact
  deriving DecidableEq

/-- A publication the client accepted.  The client is given the publication; the
outbox it came from, its place there and its receipt are kept beside it. -/
structure AcceptedPublish where
  origin : PublishOrigin
  place : Nat
  message : MqttV2EnqueuedPublish

/-- The client and its event loop: what was ever accepted, what of it waits to be
sent, what was sent and not acknowledged, and what was. -/
structure MqttClient where
  (accepted channel : List AcceptedPublish)
  inFlight : SortedMap PacketId AcceptedPublish
  acknowledged : List AcceptedPublish

inductive PolledEvent where
  | outgoingPublish (packetId : PacketId)
  | incomingPubAck (packetId : PacketId)
  | incomingConnAck
  | incomingPublish
  | other
  | failed (recoverable : Bool)

namespace MqttClient

def idle : MqttClient := ⟨[], [], .empty, []⟩

/-- `try_publish` where the channel has room. -/
def accept (client : MqttClient) (publish : AcceptedPublish) : MqttClient :=
  { client with
    accepted := client.accepted ++ [publish]
    channel := client.channel ++ [publish] }

/-- The client after it reported an event, if it can: publications are sent in the
order they were accepted in, under ids that are not in flight, a packet in flight
may be sent again, and only a packet in flight is acknowledged. -/
def report (client : MqttClient) : PolledEvent → Option MqttClient
  | .outgoingPublish packetId =>
    match client.inFlight.get? packetId, client.channel with
    | some _, _ => some client
    | none, [] => none
    | none, publish :: rest =>
      some { client with channel := rest, inFlight := client.inFlight.insert packetId publish }
  | .incomingPubAck packetId =>
    (client.inFlight.get? packetId).map fun publish =>
      { client with
        inFlight := client.inFlight.erase packetId
        acknowledged := client.acknowledged ++ [publish] }
  | _ => some client

/-- What was accepted from an outbox, under the places it had there. -/
def acceptedFrom (client : MqttClient) (origin : PublishOrigin) :
    List (Nat × MqttV2EnqueuedPublish) :=
  (client.accepted.filter (·.origin = origin)).map fun publish => (publish.place, publish.message)

end MqttClient

/-- The errors of the functions below; the pump can stop with others too. -/
inductive MqttV2PumpError where
  | subscribeFailed | publishFailed | deliveryStateFailed | artifactStateFailed | workerFailed
  | connectionFailed

/-- `ArtifactPublishBatch`, with the places of its chunks. -/
structure ArtifactPublishBatch where
  publishes : List (Nat × MqttPublish)
  (artifactRef transferId : String)

structure MqttV2ResponsePublish extends MqttPublish where
  deliveryReceipt : Option V2DeliveryReceipt

def ArtifactPublishBatch.isOf (artifactRef transferId : String) (batch : ArtifactPublishBatch) :
    Bool :=
  batch.artifactRef = artifactRef && batch.transferId = transferId

/-- What the pump is at: it subscribes to the topics that remain, runs its loop,
drains what is left after a shutdown, or has stopped. -/
inductive PumpPhase where
  | subscribing (topics : List String)
  | running
  | draining
  | stopped (result : Except MqttV2PumpError Unit)

/-- The queues of publications, and what was put into each of them. -/
structure PumpOutboxes where
  projectionOutbox : List (Nat × MqttPublish)
  responseOutbox : List (Nat × MqttV2EnqueuedPublish)
  artifactBatches : List ArtifactPublishBatch
  (projections responses artifacts : Outbox MqttV2EnqueuedPublish)

/-- The receipts of what the client accepted: those of publications that wait to be sent, in order,
and those of packets that wait for an acknowledgement. -/
structure PublicationTracking where
  client : MqttClient
  pendingOutgoing : List (Option String)
  awaitingPuback : SortedMap PacketId (Option String)
  marked : List String

structure MqttV2CommandPump extends PumpOutboxes, PublicationTracking where
  phase : PumpPhase
  subscriptionTopics : List String
  connectionGeneration : Nat

/-- What a job comes to: `handle_completion` up to the call of the delivery store,
whose answer is part of it. -/
inductive CompletedJob where
  | quiet
  | respond (response : MqttV2ResponsePublish) (registers : V2DeliveryRegisterResult)
  | artifactPrepared (publishes : List MqttPublish) (artifactRef transferId : String)
  | artifactCancelled (cancelled : Bool) (artifactRef transferId : String)
      (response : MqttV2ResponsePublish) (registers : V2DeliveryRegisterResult)

namespace PublicationTracking

def push (tracking : PublicationTracking) (publish : AcceptedPublish) (receiptId : Option String) :
    PublicationTracking :=
  { tracking with
    client := tracking.client.accept publish
    pendingOutgoing := tracking.pendingOutgoing ++ [receiptId] }

/-- `track_delivery_event`; `marks` is what `mark_published` returns.  The id that
is inserted is not among those that wait. -/
def trackDeliveryEvent (tracking : PublicationTracking) (event : PolledEvent)
    (marks : V2DeliveryPublishResult) : PublicationTracking × Except MqttV2PumpError Unit :=
  match event with
  | .outgoingPublish packetId =>
    if (tracking.awaitingPuback.get? packetId).isSome then (tracking, .ok ())
    else
      match tracking.pendingOutgoing with
      | [] => (tracking, .error .deliveryStateFailed)
      | receiptId :: rest =>
        ({ tracking with
          pendingOutgoing := rest
          awaitingPuback := tracking.awaitingPuback.insert packetId receiptId }, .ok ())
  | .incomingPubAck packetId =>
    match tracking.awaitingPuback.get? packetId with
    | none => (tracking, .ok ())
    | some receiptId =>
      let tracking := { tracking with awaitingPuback := tracking.awaitingPuback.erase packetId }
      match receiptId with
      | none => (tracking, .ok ())
      | some receiptId =>
        ({ tracking with marked := tracking.marked ++ [receiptId] },
          match marks with
          | .published _ | .duplicate _ | .alreadyAcknowledged _ => .ok ()
          | .notFound | .unavailable => .error .deliveryStateFailed)
  | _ => (tracking, .ok ())

end PublicationTracking

namespace MqttV2CommandPump

/-- The rest of `enqueue_subscriptions`. -/
def subscribe : List String → PumpPhase
  | [] => .running
  | topics => .subscribing topics

def start (topics : List String) : MqttV2CommandPump where
  phase := subscribe topics
  subscriptionTopics := topics
  connectionGeneration := 0
  client := .idle
  pendingOutgoing := []
  awaitingPuback := .empty
  projectionOutbox := []
  responseOutbox := []
  artifactBatches := []
  marked := []
  projections := .empty
  responses := .empty
  artifacts := .empty

def stop (pump : MqttV2CommandPump) (result : Except MqttV2PumpError Unit) : MqttV2CommandPump :=
  { pump with phase := .stopped result }

def orStop : MqttV2CommandPump × Except MqttV2PumpError Unit → MqttV2CommandPump
  | (pump, .ok ()) => pump
  | (pump, .error error) => pump.stop (.error error)

/-- A snapshot replaces the unsent one of its topic. -/
def replaceQueued (publish : MqttPublish) :
    List (Nat × MqttPublish) → Option ((Nat × MqttPublish) × List (Nat × MqttPublish))
  | [] => none
  | queued :: rest =>
    if queued.2.topic = publish.topic then some (queued, (queued.1, publish) :: rest)
    else (replaceQueued publish rest).map fun (old, after) => (old, queued :: after)

variable (pump : MqttV2CommandPump)

def enqueueRetainedProjection (publish : MqttPublish) : MqttV2CommandPump :=
  match replaceQueued publish pump.projectionOutbox with
  | some (old, outbox) =>
    { pump with
      projectionOutbox := outbox
      projections := pump.projections.renew old.1 old.2.untracked publish.untracked }
  | none =>
    { pump with
      projectionOutbox := pump.projectionOutbox ++ [(pump.projections.places, publish)]
      projections := pump.projections.give [publish.untracked] }

/-- `progress_projection_outbox`; `accepts` is the answer of `try_publish`. -/
def progressProjectionOutbox (accepts : Bool) : MqttV2CommandPump :=
  match pump.projectionOutbox with
  | [] => pump
  | publish :: rest =>
    if accepts then
      { pump with
        projectionOutbox := rest
        toPublicationTracking := pump.push ⟨.projection, publish.1, publish.2.untracked⟩ none }
    else pump

def progressResponseOutbox (accepts : Bool) : MqttV2CommandPump :=
  match pump.responseOutbox with
  | [] => pump
  | response :: rest =>
    if accepts then
      { pump with
        responseOutbox := rest
        toPublicationTracking :=
          pump.push ⟨.response, response.1, response.2⟩ response.2.receiptId }
    else pump

/-- `progress_artifact_batch`; `published` says whether the router takes the
completion of a batch. -/
def progressArtifactBatch (accepts published : Bool) :
    MqttV2CommandPump × Except MqttV2PumpError Unit :=
  match pump.artifactBatches with
  | [] => (pump, .ok ())
  | batch :: batches =>
    match batch.publishes with
    | [] => (pump, .error .artifactStateFailed)
    | publish :: rest =>
      if !accepts then (pump, .ok ())
      else
        let pump := { pump with
          toPublicationTracking := pump.push ⟨.artifact, publish.1, publish.2.untracked⟩ none }
        if rest ≠ [] then
          ({ pump with artifactBatches := { batch with publishes := rest } :: batches }, .ok ())
        else
          ({ pump with artifactBatches := batches },
            if published then .ok () else .error .artifactStateFailed)

def prepareResponse (response : MqttV2ResponsePublish) (registers : V2DeliveryRegisterResult) :
    Except MqttV2PumpError MqttV2EnqueuedPublish :=
  match response.deliveryReceipt with
  | none => .ok { response.toMqttPublish with receiptId := none }
  | some receipt =>
    match registers with
    | .registered | .duplicate =>
      .ok { response.toMqttPublish with receiptId := some receipt.receiptId }
    | .bindingMismatch | .saturated | .unavailable => .error .deliveryStateFailed

def pushResponse (response : MqttV2EnqueuedPublish) : MqttV2CommandPump :=
  { pump with
    responseOutbox := pump.responseOutbox ++ [(pump.responses.places, response)]
    responses := pump.responses.give [response] }

def chunks (batches : List ArtifactPublishBatch) : List (Nat × MqttPublish) :=
  batches.flatMap (·.publishes)

/-- `batches.retain`: the batches of a transfer are taken out. -/
def removeBatches (removed : ArtifactPublishBatch → Bool) : MqttV2CommandPump :=
  { pump with
    artifactBatches := pump.artifactBatches.filter (!removed ·)
    artifacts := pump.artifacts.withdraw
      ((chunks (pump.artifactBatches.filter removed)).map untrackedEntry) }

/-- `fail_artifact_batches` for the first batch; `failed` says whether the router
takes the failure. -/
def failArtifactBatch (failed : Bool) : MqttV2CommandPump × Except MqttV2PumpError Unit :=
  match pump.artifactBatches with
  | [] => (pump, .ok ())
  | batch :: batches =>
    ({ pump with
      artifactBatches := batches
      artifacts := pump.artifacts.withdraw (batch.publishes.map untrackedEntry) },
      if failed then .ok () else .error .artifactStateFailed)

/-- `handle_completion` and `apply_completion_action`. -/
def complete : CompletedJob → MqttV2CommandPump × Except MqttV2PumpError Unit
  | .quiet => (pump, .ok ())
  | .respond response registers =>
    match prepareResponse response registers with
    | .error error => (pump, .error error)
    | .ok enqueued => (pump.pushResponse enqueued, .ok ())
  | .artifactPrepared publishes artifactRef transferId =>
    ({ pump with
      artifactBatches := pump.artifactBatches ++
        [⟨Outbox.place pump.artifacts.places publishes, artifactRef, transferId⟩]
      artifacts := pump.artifacts.give (publishes.map (·.untracked)) }, .ok ())
  | .artifactCancelled cancelled artifactRef transferId response registers =>
    match prepareResponse response registers with
    | .error error => (pump, .error error)
    | .ok enqueued =>
      let pump := if cancelled then
          pump.removeBatches (ArtifactPublishBatch.isOf artifactRef transferId)
        else pump
      (pump.pushResponse enqueued, .ok ())

def track (pump : MqttV2CommandPump) (event : PolledEvent) (marks : V2DeliveryPublishResult) :
    MqttV2CommandPump × Except MqttV2PumpError Unit :=
  let (tracking, result) := pump.trackDeliveryEvent event marks
  ({ pump with toPublicationTracking := tracking }, result)

/-- A poll inside `enqueue_subscriptions`, which looks at nothing but publications
that come in. -/
def pollSubscribing : PolledEvent → MqttV2CommandPump
  | .incomingPublish => pump.stop (.error .subscribeFailed)
  | .failed _ => pump.stop (.error .subscribeFailed)
  | _ => pump

/-- A poll of the loop.  A connection after the first one subscribes again. -/
def pollRunning (event : PolledEvent) (marks : V2DeliveryPublishResult) : MqttV2CommandPump :=
  match event with
  | .failed true => pump
  | .failed false => pump.stop (.error .connectionFailed)
  | .incomingPublish => pump
  | .incomingConnAck =>
    { pump with
      phase := if 0 < pump.connectionGeneration then subscribe pump.subscriptionTopics
        else pump.phase
      connectionGeneration := pump.connectionGeneration + 1 }
  | event => orStop (pump.track event marks)

def pollDraining (event : PolledEvent) (marks : V2DeliveryPublishResult) : MqttV2CommandPump :=
  match event with
  | .failed _ => pump.stop (.error .connectionFailed)
  | event => orStop (pump.track event marks)

def poll (pump : MqttV2CommandPump) (event : PolledEvent) (marks : V2DeliveryPublishResult) :
    MqttV2CommandPump :=
  match pump.client.report event with
  | none => pump
  | some client =>
    let pump' := { pump with client }
    match pump.phase with
    | .subscribing _ => pump'.pollSubscribing event
    | .running => pump'.pollRunning event marks
    | .draining => pump'.pollDraining event marks
    | .stopped _ => pump

def subscribeNext : MqttV2CommandPump :=
  match pump.phase with
  | .subscribing (_ :: topics) => { pump with phase := subscribe topics }
  | _ => pump

def isActive : Bool :=
  match pump.phase with
  | .running | .draining => true
  | .subscribing _ | .stopped _ => false

inductive Event where
  | trySubscribe (accepts : Bool)
  | poll (event : PolledEvent) (marks : V2DeliveryPublishResult)
  | project (publish : MqttPublish)
  | completes (job : CompletedJob)
  | progressProjection (accepts : Bool)
  | progressResponse (accepts : Bool)
  | progressArtifact (accepts published : Bool)
  | shutdown
  | failArtifactBatch (failed : Bool)
  | clearProjections
  | stops (result : Except MqttV2PumpError Unit)

/-- A step.  Those of the loop and of the drains are taken in any order, and the
pump may stop at any time for a reason of its own. -/
def next : Event → MqttV2CommandPump × Unit
  | .trySubscribe accepts => (if accepts then pump.subscribeNext else pump, ())
  | .poll event marks => (pump.poll event marks, ())
  | .project publish => (if pump.isActive then pump.enqueueRetainedProjection publish else pump, ())
  | .completes job => (if pump.isActive then orStop (pump.complete job) else pump, ())
  | .progressProjection accepts =>
    (if pump.isActive then pump.progressProjectionOutbox accepts else pump, ())
  | .progressResponse accepts =>
    (if pump.isActive then pump.progressResponseOutbox accepts else pump, ())
  | .progressArtifact accepts published =>
    (if pump.isActive then orStop (pump.progressArtifactBatch accepts published) else pump, ())
  | .shutdown => (if pump.isActive then { pump with phase := .draining } else pump, ())
  | .failArtifactBatch failed =>
    (if pump.isActive then orStop (pump.failArtifactBatch failed) else pump, ())
  | .clearProjections =>
    (if pump.isActive then
      { pump with
        projectionOutbox := []
        projections := pump.projections.withdraw (pump.projectionOutbox.map untrackedEntry) }
    else pump, ())
  | .stops result => (pump.stop result, ())

abbrev run : MqttV2CommandPump → List Event → MqttV2CommandPump := Machine.run next

end MqttV2CommandPump

end Knowbee
