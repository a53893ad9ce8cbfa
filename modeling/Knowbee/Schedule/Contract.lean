import Knowbee.JavaScript

/-!
# Schedule contracts and their keys

What a scheduled piece of work is: when it runs, what it does and where its result
goes.  A key is the hash of a projection in its canonical form, in which nulls, blank
strings and what is empty do not occur.
-/

namespace Knowbee

namespace Contract

/-- A value of JSON; a number as it prints, and no property for what is undefined. -/
inductive JsonValue where
  | null
  | bool (value : Bool)
  | number (printed : String)
  | string (value : String)
  | array (items : List JsonValue)
  | object (fields : List (String × JsonValue))

/-- The properties in the order of `Object.keys(value).sort()`. -/
def sortFields (fields : List (String × JsonValue)) : List (String × JsonValue) :=
  fields.insertionSort fun first second => utf16Units first.1 ≤ utf16Units second.1

mutual

/-- `canonicalizeValue` with the options that `toCanonicalJson` sets. -/
def canonicalizeValue : JsonValue → Option JsonValue
  | .null => none
  | .bool value => some (.bool value)
  | .number printed => some (.number printed)
  | .string value => if jsTrim value = "" then none else some (.string value)
  | .array items =>
    let items := canonicalizeItems items
    if items.isEmpty then none else some (.array items)
  | .object fields =>
    let fields := sortFields (canonicalizeFields fields)
    if fields.isEmpty then none else some (.object fields)

def canonicalizeItems : List JsonValue → List JsonValue
  | [] => []
  | item :: rest => (canonicalizeValue item).toList ++ canonicalizeItems rest

/-- The properties that are kept; an assignment to `__proto__` makes none. -/
def canonicalizeFields : List (String × JsonValue) → List (String × JsonValue)
  | [] => []
  | field :: rest => canonicalizeField field ++ canonicalizeFields rest

def canonicalizeField : String × JsonValue → List (String × JsonValue)
  | (key, value) =>
    if key = "__proto__" then [] else (canonicalizeValue value).toList.map (key, ·)

end

def toCanonicalJson (value : JsonValue) : JsonValue := (canonicalizeValue value).getD .null

/-- The hash of the prefix, a namespace and the printed value. -/
abbrev ContractHash : Type := String → JsonValue → String

variable (hash : ContractHash) (delivery : DeliveryContract)

def stableContractHash (value : JsonValue) (contractNamespace : String) : String :=
  contractNamespace ++ ":v1:" ++ hash contractNamespace (toCanonicalJson value)

inductive ScheduleKind where
  | oneTime
  | recurring
  deriving DecidableEq

def ScheduleKind.text : ScheduleKind → String
  | .oneTime => "one_time"
  | .recurring => "recurring"

inductive ResponseLanguageMode where
  | sameAsRequest | translation | languageComparison | multilingual

def ResponseLanguageMode.text : ResponseLanguageMode → String
  | .sameAsRequest => "same_as_request"
  | .translation => "translation"
  | .languageComparison => "language_comparison"
  | .multilingual => "multilingual"

inductive ScheduleMissedPolicy where
  | skip | catchUpOnce | nextOnly
  deriving DecidableEq

def ScheduleMissedPolicy.text : ScheduleMissedPolicy → String
  | .skip => "skip"
  | .catchUpOnce => "catch_up_once"
  | .nextOnly => "next_only"

inductive SchedulePayloadKind where
  | literalMessage | agentTask | toolTask | artifactDelivery

def SchedulePayloadKind.text : SchedulePayloadKind → String
  | .literalMessage => "literal_message"
  | .agentTask => "agent_task"
  | .toolTask => "tool_task"
  | .artifactDelivery => "artifact_delivery"

inductive DeliveryMode where
  | reply | directArtifact | channelMessage | none

def DeliveryMode.text : DeliveryMode → String
  | .reply => "reply"
  | .directArtifact => "direct_artifact"
  | .channelMessage => "channel_message"
  | .none => "none"

structure ScheduleTimeContract where
  (runAt cron : Option String)
  timezone : String
  missedPolicy : ScheduleMissedPolicy

/-- `taskContract` is the part of the intent that the projection takes. -/
structure SchedulePayloadContract where
  kind : SchedulePayloadKind
  (literalText toolName : Option String)
  (toolParams taskContract : Option JsonValue)
  artifactId : Option String

structure DeliveryContract where
  mode : DeliveryMode
  channel : String
  (sessionId threadId artifactId : Option String)
  explicitResend : Bool

structure ScheduleContract where
  kind : ScheduleKind
  responseLanguageMode : Option ResponseLanguageMode
  time : ScheduleTimeContract
  payload : SchedulePayloadContract
  delivery : DeliveryContract

/-- An object literal, in which an undefined property does not count. -/
def literal (fields : List (String × Option JsonValue)) : JsonValue :=
  .object (fields.filterMap fun field => field.2.map (field.1, ·))

def buildScheduleTimeProjection (time : ScheduleTimeContract) : JsonValue :=
  literal [("runAt", time.runAt.map .string), ("cron", time.cron.map .string),
    ("timezone", some (.string time.timezone)),
    ("missedPolicy", some (.string time.missedPolicy.text))]

def buildSchedulePayloadProjection (payload : SchedulePayloadContract) : JsonValue :=
  literal [("kind", some (.string payload.kind.text)),
    ("literalText", payload.literalText.map .string), ("toolName", payload.toolName.map .string),
    ("toolParams", payload.toolParams), ("taskContract", payload.taskContract),
    ("artifactId", payload.artifactId.map .string)]

def buildDeliveryProjection : JsonValue :=
  literal [("schemaVersion", some (.number "1")), ("mode", some (.string delivery.mode.text)),
    ("channel", some (.string delivery.channel)), ("sessionId", delivery.sessionId.map .string),
    ("threadId", delivery.threadId.map .string), ("artifactId", delivery.artifactId.map .string),
    ("explicitResend", if delivery.explicitResend then some (.bool true) else none)]

def buildDestinationProjection : JsonValue :=
  literal [("channel", some (.string delivery.channel)),
    ("sessionId", delivery.sessionId.map .string), ("threadId", delivery.threadId.map .string)]

def buildScheduleIdentityProjection (contract : ScheduleContract) : JsonValue :=
  literal [("schemaVersion", some (.number "1")), ("kind", some (.string contract.kind.text)),
    ("responseLanguageMode",
      some (.string (contract.responseLanguageMode.getD .sameAsRequest).text)),
    ("time", some (buildScheduleTimeProjection contract.time)),
    ("payload", some (buildSchedulePayloadProjection contract.payload)),
    ("delivery", some (buildDestinationProjection contract.delivery))]

def buildPayloadHash (payload : SchedulePayloadContract) : String :=
  stableContractHash hash (buildSchedulePayloadProjection payload) "payload"

def buildDeliveryKey : String :=
  stableContractHash hash (buildDeliveryProjection delivery) "delivery"

def buildScheduleIdentityKey (contract : ScheduleContract) : String :=
  stableContractHash hash (buildScheduleIdentityProjection contract) "schedule"

/-- A row of `schedules`, its `contract_json` as it parses. -/
structure DbSchedule where
  (id prompt cronExpression : String)
  timezone : Option String
  enabled : Bool
  targetChannel : String
  targetSessionId : Option String
  contract : Option ScheduleContract
  (identityKey payloadHash deliveryKey : Option String)
  createdAt : Int

end Contract

end Knowbee
