import Knowbee.Rust

/-!
# The topic namespace

`mqtt_v2_topics.rs`: the topics of one instance, session and requester.  A topic
is routed as inbound exactly when it was built as one (`routeInbound_eq_ok`),
and a built topic shows its identifiers between its slashes, which no identifier
contains: no topic is inbound for two sets, and nothing outbound is inbound
(`topic_namespace`).
-/

namespace Knowbee

open List String

inductive RoutedInboundTopic where
  | command | control | admin
  | artifactAck (transferId : String)

inductive MqttV2TopicError where
  | invalidIdentifier
  | notBoundTopic

/-- The topics of one instance, session and requester, as `MqttV2TopicSet::new`
admits them. -/
structure MqttV2TopicSet where
  (instanceId sessionId requesterId : String)
  valid : validateIdentifier instanceId = true ∧ validateIdentifier sessionId = true ∧
    validateIdentifier requesterId = true

namespace MqttV2TopicSet

variable (set : MqttV2TopicSet)

def sessionBase : String :=
  "yeonjang/v2/instances/" ++ set.instanceId ++ "/sessions/" ++ set.sessionId

def requesterBase : String := set.sessionBase ++ "/requesters/" ++ set.requesterId

def command : String := set.requesterBase ++ "/command"

def control : String := set.requesterBase ++ "/control"

def admin : String := set.requesterBase ++ "/admin"

def response : String := set.requesterBase ++ "/response"

def event : String := set.requesterBase ++ "/event"

def status : String := set.sessionBase ++ "/status"

def capabilities : String := set.sessionBase ++ "/capabilities"

def artifactChunk (transferId : String) : Except MqttV2TopicError String :=
  if !validateIdentifier transferId then .error .invalidIdentifier
  else .ok (set.requesterBase ++ "/artifact/" ++ transferId ++ "/chunk")

def artifactAck (transferId : String) : Except MqttV2TopicError String :=
  if !validateIdentifier transferId then .error .invalidIdentifier
  else .ok (set.requesterBase ++ "/artifact/" ++ transferId ++ "/ack")

/-- Routes only an exact command, control or admin topic, or an artifact
acknowledgement. -/
def routeInbound (topic : String) : Except MqttV2TopicError RoutedInboundTopic :=
  if topic = set.command then .ok .command
  else if topic = set.control then .ok .control
  else if topic = set.admin then .ok .admin
  else
    let start := set.requesterBase ++ "/artifact/"
    match (stripPrefix topic.toList start.toList).bind (stripSuffix · "/ack".toList) with
    | none => .error .notBoundTopic
    | some transferId =>
      if !validateIdentifier (ofList transferId) then .error .notBoundTopic
      else .ok (.artifactAck (ofList transferId))

def inbound : RoutedInboundTopic → Except MqttV2TopicError String
  | .command => .ok set.command
  | .control => .ok set.control
  | .admin => .ok set.admin
  | .artifactAck transferId => set.artifactAck transferId

inductive Outbound : String → Prop where
  | response : Outbound set.response
  | event : Outbound set.event
  | status : Outbound set.status
  | capabilities : Outbound set.capabilities
  | artifactChunk {transferId topic : String} : set.artifactChunk transferId = .ok topic →
      Outbound topic

end MqttV2TopicSet

def segments (topic : String) : List (List Char) := topic.toList.splitOn '/'

lemma slash_not_mem {value : String} (valid : validateIdentifier value = true) :
    '/' ∉ value.toList := by
  unfold validateIdentifier at valid
  cases chars : value.toList with
  | nil => exact not_mem_nil
  | cons first rest =>
    simp only [chars, Bool.and_eq_true] at valid
    obtain ⟨⟨⟨-, head⟩, tail⟩, -⟩ := valid
    intro member
    rcases mem_cons.mp member with rfl | later
    · exact absurd head (by decide)
    · exact absurd (all_eq_true.mp tail '/' later) (by decide)

lemma segments_append {first rest : String} (clean : '/' ∉ first.toList) :
    segments (first ++ ("/" ++ rest)) = first.toList :: segments rest := by
  have chars : (first ++ ("/" ++ rest)).toList = first.toList ++ '/' :: rest.toList := by
    simp [toList_append]
  rw [segments, chars]
  exact splitOn_append_cons_self_of_not_mem clean rest.toList

lemma segments_of_clean {topic : String} (clean : '/' ∉ topic.toList) :
    segments topic = [topic.toList] :=
  splitOn_eq_singleton clean

namespace MqttV2TopicSet

variable (set : MqttV2TopicSet) {other : MqttV2TopicSet} {topic transferId : String}

lemma segments_session (tail : String) : segments (set.sessionBase ++ ("/" ++ tail)) =
    "yeonjang".toList :: "v2".toList :: "instances".toList :: set.instanceId.toList ::
      "sessions".toList :: set.sessionId.toList :: segments tail := by
  have instance_clean := slash_not_mem set.valid.1
  have session_clean := slash_not_mem set.valid.2.1
  have parts : set.sessionBase ++ ("/" ++ tail) = "yeonjang" ++ ("/" ++ ("v2" ++ ("/" ++
      ("instances" ++ ("/" ++ (set.instanceId ++ ("/" ++ ("sessions" ++ ("/" ++
        (set.sessionId ++ ("/" ++ tail))))))))))) := by
    unfold sessionBase
    apply toList_inj.mp
    simp [toList_append]
  rw [parts, @segments_append "yeonjang" _ (by decide), @segments_append "v2" _ (by decide),
    @segments_append "instances" _ (by decide), segments_append instance_clean,
    @segments_append "sessions" _ (by decide), segments_append session_clean]

def below (tail : List (List Char)) : List (List Char) :=
  "yeonjang".toList :: "v2".toList :: "instances".toList :: set.instanceId.toList ::
    "sessions".toList :: set.sessionId.toList :: "requesters".toList ::
    set.requesterId.toList :: tail

lemma segments_requester (tail : String) :
    segments (set.requesterBase ++ ("/" ++ tail)) = set.below (segments tail) := by
  have requester_clean := slash_not_mem set.valid.2.2
  have parts : set.requesterBase ++ ("/" ++ tail) =
      set.sessionBase ++ ("/" ++ ("requesters" ++ ("/" ++ (set.requesterId ++ ("/" ++ tail))))) := by
    unfold requesterBase
    apply toList_inj.mp
    simp [toList_append]
  rw [parts, segments_session, @segments_append "requesters" _ (by decide),
    segments_append requester_clean]
  rfl

lemma below_injective {set other : MqttV2TopicSet} {tail tail' : List (List Char)}
    (same : set.below tail = other.below tail') : set = other ∧ tail = tail' := by
  obtain ⟨instance_id, session_id, requester_id, valid⟩ := set
  obtain ⟨instance_id', session_id', requester_id', valid'⟩ := other
  simp only [below, List.cons.injEq, toList_inj, true_and] at same
  obtain ⟨rfl, rfl, rfl, rfl⟩ := same
  exact ⟨rfl, rfl⟩

def routeSegments : RoutedInboundTopic → List (List Char)
  | .command => ["command".toList]
  | .control => ["control".toList]
  | .admin => ["admin".toList]
  | .artifactAck transferId => ["artifact".toList, transferId.toList, "ack".toList]

variable {set} {route route' : RoutedInboundTopic}

lemma artifactAck_eq_ok (built : set.artifactAck transferId = .ok topic) :
    validateIdentifier transferId = true ∧
      topic = set.requesterBase ++ "/artifact/" ++ transferId ++ "/ack" := by
  unfold artifactAck at built
  split_ifs at built with invalid
  exact ⟨by simpa using invalid, (Except.ok.inj built).symm⟩

lemma artifactChunk_eq_ok (built : set.artifactChunk transferId = .ok topic) :
    validateIdentifier transferId = true ∧
      topic = set.requesterBase ++ "/artifact/" ++ transferId ++ "/chunk" := by
  unfold artifactChunk at built
  split_ifs at built with invalid
  exact ⟨by simpa using invalid, (Except.ok.inj built).symm⟩

lemma segments_artifact (valid : validateIdentifier transferId = true) {last : String}
    (clean : '/' ∉ last.toList) :
    segments (set.requesterBase ++ "/artifact/" ++ transferId ++ ("/" ++ last)) =
      set.below ["artifact".toList, transferId.toList, last.toList] := by
  have parts : set.requesterBase ++ "/artifact/" ++ transferId ++ ("/" ++ last) =
      set.requesterBase ++ ("/" ++ ("artifact" ++ ("/" ++ (transferId ++ ("/" ++ last))))) := by
    apply toList_inj.mp
    simp [toList_append]
  rw [parts, segments_requester, @segments_append "artifact" _ (by decide),
    segments_append (slash_not_mem valid), segments_of_clean clean]

lemma segments_last {last : String} (clean : '/' ∉ last.toList) :
    segments (set.requesterBase ++ ("/" ++ last)) = set.below [last.toList] := by
  rw [segments_requester, segments_of_clean clean]

lemma segments_inbound (built : set.inbound route = .ok topic) :
    segments topic = set.below (routeSegments route) := by
  cases route with
  | command =>
    cases built
    exact @segments_last set "command" (by decide)
  | control =>
    cases built
    exact @segments_last set "control" (by decide)
  | admin =>
    cases built
    exact @segments_last set "admin" (by decide)
  | artifactAck transferId =>
    obtain ⟨valid, rfl⟩ := artifactAck_eq_ok built
    exact @segments_artifact set transferId valid "ack" (by decide)

lemma routeSegments_injective (same : routeSegments route = routeSegments route') :
    route = route' := by
  cases route <;> cases route' <;> simp_all [routeSegments, toList_inj]

lemma inbound_injective (built : set.inbound route = .ok topic)
    (built' : other.inbound route' = .ok topic) : set = other ∧ route = route' := by
  obtain ⟨same, tails⟩ := below_injective ((segments_inbound built).symm.trans
    (segments_inbound built'))
  exact ⟨same, routeSegments_injective tails⟩

lemma routeInbound_eq_ok : set.routeInbound topic = .ok route ↔ set.inbound route = .ok topic := by
  constructor
  · intro routed
    unfold routeInbound at routed
    split_ifs at routed with command control admin
    · cases routed
      exact congrArg _ command.symm
    · cases routed
      exact congrArg _ control.symm
    · cases routed
      exact congrArg _ admin.symm
    · cases stripped : (stripPrefix topic.toList (set.requesterBase ++ "/artifact/").toList).bind
        (stripSuffix · "/ack".toList) with
      | none =>
        simp only at routed
        rw [stripped] at routed
        cases routed
      | some transferId =>
        simp only at routed
        rw [stripped] at routed
        simp only at routed
        split_ifs at routed with invalid
        cases routed
        obtain ⟨rest, starts, ends⟩ := Option.bind_eq_some_iff.mp stripped
        rw [stripPrefix_eq_some] at starts
        rw [stripSuffix_eq_some] at ends
        have whole : topic =
            set.requesterBase ++ "/artifact/" ++ ofList transferId ++ "/ack" := by
          apply toList_inj.mp
          rw [starts, ends]
          simp [toList_append]
        rw [whole]
        exact if_neg invalid
  · intro built
    have only {route' : RoutedInboundTopic} (built' : set.inbound route' = .ok topic) :
        route = route' := (inbound_injective built built').2
    unfold routeInbound
    split_ifs with command control admin
    · rw [@only .command (congrArg _ command.symm)]
    · rw [@only .control (congrArg _ control.symm)]
    · rw [@only .admin (congrArg _ admin.symm)]
    · cases route with
      | command => exact absurd (Except.ok.inj built).symm command
      | control => exact absurd (Except.ok.inj built).symm control
      | admin => exact absurd (Except.ok.inj built).symm admin
      | artifactAck transferId =>
        obtain ⟨valid, rfl⟩ := artifactAck_eq_ok built
        have starts : stripPrefix
            (set.requesterBase ++ "/artifact/" ++ transferId ++ "/ack").toList
            (set.requesterBase ++ "/artifact/").toList =
              some (transferId.toList ++ "/ack".toList) := by
          rw [stripPrefix_eq_some]
          simp [toList_append]
        have ends : stripSuffix (transferId.toList ++ "/ack".toList) "/ack".toList =
            some transferId.toList := stripSuffix_eq_some.mpr rfl
        simp only [starts, Option.bind_some, ends, ofList_toList, valid]
        rfl

lemma outbound_ne_inbound (outbound : set.Outbound topic) : other.inbound route ≠ .ok topic := by
  intro built
  have inbound := segments_inbound built
  -- No route ends as an outbound topic below a requester does.
  have foreign {tail : List (List Char)} (same : segments topic = set.below tail)
      (ends : tail.getLast? = some "response".toList ∨ tail.getLast? = some "event".toList ∨
        tail.getLast? = some "chunk".toList) : False := by
    obtain ⟨-, rfl⟩ := below_injective (same.symm.trans inbound)
    cases route <;> simp [routeSegments] at ends
  -- A topic directly below a session has fewer segments.
  have shorter {last : String} (clean : '/' ∉ last.toList)
      (same : topic = set.sessionBase ++ ("/" ++ last)) : False := by
    rw [same, segments_session, segments_of_clean clean] at inbound
    have longer := congrArg List.length inbound
    cases route <;> simp [below, routeSegments] at longer
  cases outbound with
  | response => exact foreign (@segments_last set "response" (by decide)) (.inl rfl)
  | event => exact foreign (@segments_last set "event" (by decide)) (.inr (.inl rfl))
  | status => exact @shorter "status" (by decide) rfl
  | capabilities => exact @shorter "capabilities" (by decide) rfl
  | artifactChunk chunk =>
    obtain ⟨valid, rfl⟩ := artifactChunk_eq_ok chunk
    exact foreign (@segments_artifact set _ valid "chunk" (by decide)) (.inr (.inr rfl))

/-- No topic is inbound for two sets, nothing outbound is inbound for any set,
and every inbound topic is routed as what it was built for. -/
theorem topic_namespace (set : MqttV2TopicSet) :
    (∀ (other : MqttV2TopicSet) topic route route', set ≠ other →
      set.routeInbound topic = .ok route → other.routeInbound topic ≠ .ok route') ∧
    (∀ (other : MqttV2TopicSet) topic route, set.Outbound topic →
      other.routeInbound topic ≠ .ok route) ∧
    (∀ transferId, validateIdentifier transferId = true →
      ∃ topic, set.artifactAck transferId = .ok topic ∧
        set.routeInbound topic = .ok (.artifactAck transferId)) ∧
    set.routeInbound set.command = .ok .command ∧ set.routeInbound set.control = .ok .control ∧
    set.routeInbound set.admin = .ok .admin := by
  refine ⟨fun other topic route route' different routed routed' => ?_,
    fun other topic route outbound routed => ?_, fun transferId valid => ?_,
    routeInbound_eq_ok.mpr rfl, routeInbound_eq_ok.mpr rfl, routeInbound_eq_ok.mpr rfl⟩
  · rw [routeInbound_eq_ok] at routed routed'
    exact different (inbound_injective routed routed').1
  · rw [routeInbound_eq_ok] at routed
    exact outbound_ne_inbound outbound routed
  · have built : set.artifactAck transferId =
        .ok (set.requesterBase ++ "/artifact/" ++ transferId ++ "/ack") := if_neg (by simp [valid])
    exact ⟨_, built, routeInbound_eq_ok.mpr built⟩

end MqttV2TopicSet

end Knowbee
