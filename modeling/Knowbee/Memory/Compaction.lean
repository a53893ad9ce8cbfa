import Knowbee.JavaScript
import Knowbee.Lib.Pairing
import Knowbee.Lib.TextLines

/-!
# Compaction of the root session

A compaction reads facts off the messages of the session, line by line, stores
them in a capsule together with a summary, and replaces the messages by two
rendered blocks and a tail of the old ones.
-/

namespace Knowbee.Memory

/-- A string, by its code units. -/
abbrev Text := List UInt16

def units (literal : String) : Text := literal.toList.map fun c => c.toNat.toUInt16

/-- `isTrimmed`, of a code unit. -/
def isTrimmedUnit (unit : UInt16) : Bool := isTrimmed (Char.ofNat unit.toNat)

def trim (value : Text) : Text := Lib.trimmed isTrimmedUnit value

def trimEnd (value : Text) : Text := value.rdropWhile isTrimmedUnit

/-- What `normalizeWhitespace` goes by: carriage returns are dropped, runs of
spaces and tabs squeezed and runs of line feeds capped. -/
def layout : Lib.Layout UInt16 where
  nl := 10
  space := 32
  kept unit := unit != 13
  blank unit := unit == 32 || unit == 9
  white := isTrimmedUnit
  kept_nl := rfl
  kept_space := rfl
  blank_space := rfl
  blank_nl := rfl
  white_nl := by decide
  white_of_blank unit blank := by
    rcases (Bool.or_eq_true _ _).mp blank with same | same
    · rw [beq_iff_eq.mp same]
      decide
    · rw [beq_iff_eq.mp same]
      decide

def normalizeWhitespace (value : Text) : Text := layout.tidied value

def join (separator : String) (values : List Text) : Text := (units separator).intercalate values

section Normalizing

variable (clean : Text → Text)

/-- `normalizeString`, by the way a text is cleaned. -/
def normalizeString (value : Text) : Option Text :=
  let trimmed := clean value
  if trimmed = [] then none else some trimmed

def normalizeValue (normalized : List Text) (value : Text) : List Text :=
  match normalizeString clean value with
  | none => normalized
  | some trimmed => if trimmed ∈ normalized then normalized else normalized ++ [trimmed]

/-- `normalizeStringArray`: cleaned texts, without the empty ones and repetitions. -/
def normalizeStrings (values : List Text) : List Text := values.foldl (normalizeValue clean) []

structure MemoryCapsuleArtifactRef where
  (artifactId path receiptId : Option Text)
  note : Text
  deriving DecidableEq

/-- A reference that is only a note. -/
def MemoryCapsuleArtifactRef.ofNote (note : Text) : MemoryCapsuleArtifactRef :=
  ⟨none, none, none, note⟩

/-- One value of `normalizeArtifactRefs`.  The text a reference is recognised by
tells any two references apart. -/
def normalizeRef (normalized : List MemoryCapsuleArtifactRef) (value : MemoryCapsuleArtifactRef) :
    List MemoryCapsuleArtifactRef :=
  match normalizeString clean value.note with
  | none => normalized
  | some note =>
    let next : MemoryCapsuleArtifactRef :=
      { artifactId := value.artifactId.bind (normalizeString clean)
        path := value.path.bind (normalizeString clean)
        receiptId := value.receiptId.bind (normalizeString clean)
        note }
    if next ∈ normalized then normalized else normalized ++ [next]

def normalizeRefs (values : List MemoryCapsuleArtifactRef) : List MemoryCapsuleArtifactRef :=
  values.foldl (normalizeRef clean) []

end Normalizing

def normalizeStringArray (values : List Text) : List Text :=
  normalizeStrings normalizeWhitespace values

def normalizeArtifactRefs (values : List MemoryCapsuleArtifactRef) :
    List MemoryCapsuleArtifactRef :=
  normalizeRefs normalizeWhitespace values

def truncateSnapshotSummary (summary : Text) (maxChars : Nat) : Text :=
  let normalized := normalizeWhitespace summary
  if normalized.length ≤ maxChars then normalized
  else trimEnd (normalized.take (maxChars - 1)) ++ units "…"

inductive Role where
  | user
  | assistant

def Role.text : Role → Text
  | .user => units "user"
  | .assistant => units "assistant"

/-- `MessageContent`.  The input of a tool call is given as it prints. -/
inductive MessageContent where
  | text (text : Text)
  | toolUse (id name input : Text)
  | toolResult (toolUseId content : Text)

inductive Content where
  | text (value : Text)
  | blocks (blocks : List MessageContent)

structure Message where
  role : Role
  content : Content

/-- What a block opens or closes. -/
def MessageContent.pairing? : MessageContent → Option (Lib.Pairing Text)
  | .text _ => none
  | .toolUse id _ _ => some (.opening id)
  | .toolResult toolUseId _ => some (.closing toolUseId)

/-- The tool calls and results of a message, in order. -/
def Message.pairings (message : Message) : List (Lib.Pairing Text) :=
  match message.content with
  | .text _ => []
  | .blocks blocks => blocks.filterMap MessageContent.pairing?

/-- One block of `hasBalancedToolUsePairs`. -/
def settleBlock (pendingToolUseIds : List Text) : MessageContent → List Text
  | .text _ => pendingToolUseIds
  | .toolUse id _ _ => pendingToolUseIds ++ [id]
  | .toolResult toolUseId _ => pendingToolUseIds.erase toolUseId

def settleMessage (pendingToolUseIds : List Text) (message : Message) : List Text :=
  match message.content with
  | .text _ => pendingToolUseIds
  | .blocks blocks => blocks.foldl settleBlock pendingToolUseIds

variable (messages : List Message) (preferredTailSize : Option JsNumber) (capsule : MemoryCapsule)
  (pinned : RootSessionPinnedWorkingSet) (summary : RootSessionStructuredSummary)

def hasBalancedToolUsePairs : Bool := messages.foldl settleMessage [] = []

def renderBlock : MessageContent → Text
  | .text text => text
  | .toolUse _ name input => units "[tool_use:" ++ name ++ units "] " ++ input
  | .toolResult toolUseId content => units "[tool_result:" ++ toolUseId ++ units "] " ++ content

def renderMessageForTranscript (message : Message) : Text :=
  match message.content with
  | .text value => normalizeWhitespace value
  | .blocks blocks => normalizeWhitespace (join "\n" (blocks.map renderBlock))

/-- Lines that are empty are dropped, so that a run of line feeds separates as
one does. -/
def extractStructuredMemoryLines : List Text :=
  messages.flatMap fun message =>
    Lib.contentLines layout.nl isTrimmedUnit (renderMessageForTranscript message)

/-- A line as key and value. -/
def readLine (line : Text) : Option (Text × Text) :=
  let separatorIndex := line.idxOf 58
  if separatorIndex = 0 ∨ separatorIndex = line.length then none
  else
    let key := trim (line.take separatorIndex)
    let rawValue := trim (line.drop (separatorIndex + 1))
    if rawValue = [] then none else some (key, rawValue)

def valuesOf (key : String) (lines : List Text) : List Text :=
  (lines.filterMap readLine).filterMap fun read => if read.1 = units key then some read.2 else none

/-- `RootSessionDeterministicState`, without its references to sources. -/
structure RootSessionDeterministicState where
  (activeTaskIds activeObjectives pendingApprovals pendingDelivery : List Text)
  (explicitTargetSelectors latestArtifactReceipts unresolvedResultReviewItems : List Text)
  (explicitUserCorrections retryDoNotRepeatBoundary finalDeliveryBlockReasons : List Text)
  (confirmedFacts mustKeepConstraints decisions recoveryStates : List Text)

/-- The active task a request group is, unless its name is blank. -/
def requestGroupTask (requestGroupId : Option Text) : List Text :=
  match requestGroupId with
  | none => []
  | some requestGroupId => if trim requestGroupId = [] then [] else [trim requestGroupId]

def extractRootSessionDeterministicState (requestGroupId : Option Text) :
    RootSessionDeterministicState :=
  let lines := extractStructuredMemoryLines messages
  let pushed := fun key => normalizeStringArray (valuesOf key lines)
  { activeTaskIds :=
      normalizeStringArray (requestGroupTask requestGroupId ++ valuesOf "active_task" lines)
    activeObjectives := pushed "objective"
    pendingApprovals := pushed "pending_approval"
    pendingDelivery := pushed "pending_delivery"
    explicitTargetSelectors := pushed "target_selector"
    latestArtifactReceipts := pushed "artifact_receipt"
    unresolvedResultReviewItems := pushed "result_review"
    explicitUserCorrections := pushed "user_correction"
    retryDoNotRepeatBoundary := pushed "retry_boundary"
    finalDeliveryBlockReasons := pushed "final_delivery_block"
    confirmedFacts := pushed "confirmed_fact"
    mustKeepConstraints := pushed "constraint"
    decisions := pushed "decision"
    recoveryStates := pushed "recovery_state" }

inductive RootSessionCompactionReasonCode where
  | blockedByPendingFinalization
  | blockedByCancellationOrRecovery

structure RootSessionPinnedWorkingSet where
  (activeObjectives confirmedFacts constraints decisions pendingItems : List Text)
  artifactRefs : List MemoryCapsuleArtifactRef
  blockedReasonCodes : List RootSessionCompactionReasonCode

def labelled (key : String) (items : List Text) : List Text :=
  items.map fun item => units key ++ units ":" ++ item

namespace RootSessionDeterministicState

variable (state : RootSessionDeterministicState)

/-- The items of the state as the sections of a working set and of a summary
list them. -/
def pendingItems : List Text :=
  labelled "pending_approval" state.pendingApprovals ++
    labelled "pending_delivery" state.pendingDelivery ++
    labelled "result_review" state.unresolvedResultReviewItems

def constraints : List Text :=
  state.mustKeepConstraints ++ labelled "target_selector" state.explicitTargetSelectors ++
    labelled "user_correction" state.explicitUserCorrections ++
    labelled "final_delivery_block" state.finalDeliveryBlockReasons

def decisionItems : List Text :=
  state.decisions ++ labelled "retry_boundary" state.retryDoNotRepeatBoundary

def objectives : List Text :=
  state.activeObjectives ++ labelled "active_task" state.activeTaskIds

end RootSessionDeterministicState

def buildRootSessionPinnedWorkingSet (state : RootSessionDeterministicState) :
    RootSessionPinnedWorkingSet where
  activeObjectives := normalizeStringArray state.objectives
  confirmedFacts := state.confirmedFacts
  constraints := normalizeStringArray state.constraints
  decisions := normalizeStringArray state.decisionItems
  pendingItems := normalizeStringArray state.pendingItems
  artifactRefs := normalizeArtifactRefs (state.latestArtifactReceipts.map .ofNote)
  blockedReasonCodes :=
    (if state.finalDeliveryBlockReasons = [] then [] else [.blockedByPendingFinalization]) ++
      if state.recoveryStates = [] then [] else [.blockedByCancellationOrRecovery]

structure RootSessionStructuredSummary where
  whatHappened : Text
  (currentGoal stillOpen confirmedFacts mustKeepConstraints artifactsAndReceipts : List Text)
  (toolSideEffectBoundary retryDoNotRepeat handoffReadyContext : List Text)

/-- `normalizeRootSessionStructuredSummary`, of the texts found in the answer of
a model. -/
def normalizeRootSessionStructuredSummary (value : RootSessionStructuredSummary) :
    RootSessionStructuredSummary where
  whatHappened := (normalizeString normalizeWhitespace value.whatHappened).getD []
  currentGoal := normalizeStringArray value.currentGoal
  stillOpen := normalizeStringArray value.stillOpen
  confirmedFacts := normalizeStringArray value.confirmedFacts
  mustKeepConstraints := normalizeStringArray value.mustKeepConstraints
  artifactsAndReceipts := normalizeStringArray value.artifactsAndReceipts
  toolSideEffectBoundary := normalizeStringArray value.toolSideEffectBoundary
  retryDoNotRepeat := normalizeStringArray value.retryDoNotRepeat
  handoffReadyContext := normalizeStringArray value.handoffReadyContext

def rootSessionSummaryMaxTranscriptChars : Nat := 10000

def rootSessionSummaryMaxMessageChars : Nat := 480

/-- The lines of `buildRootSessionSummaryTranscript` from a message on, within
the characters that remain. -/
def transcriptLines : Int → Nat → List Message → List Text
  | _, _, [] => []
  | remainingChars, index, message :: rest =>
    if remainingChars ≤ 0 then transcriptLines remainingChars (index + 1) rest
    else
      let rendered := renderMessageForTranscript message
      if rendered = [] then transcriptLines remainingChars (index + 1) rest
      else
        let line := units "[" ++ units (toString index) ++ units ":" ++ message.role.text ++
          units "] " ++ rendered.take rootSessionSummaryMaxMessageChars
        let clipped := line.take remainingChars.toNat
        clipped :: transcriptLines (remainingChars - (clipped.length + 1)) (index + 1) rest

def buildRootSessionSummaryTranscript : Text :=
  join "\n" (transcriptLines rootSessionSummaryMaxTranscriptChars 0 messages)

def buildFallbackRootSessionStructuredSummary : RootSessionStructuredSummary :=
  let transcript := buildRootSessionSummaryTranscript messages
  let lines := (transcript.splitOn layout.nl).filter fun line => trim line ≠ []
  let state := extractRootSessionDeterministicState messages none
  { whatHappened := truncateSnapshotSummary (join " " (lines.take 6)) 320
    currentGoal := normalizeStringArray state.objectives
    stillOpen := normalizeStringArray state.pendingItems
    confirmedFacts := state.confirmedFacts
    mustKeepConstraints := normalizeStringArray
      (state.mustKeepConstraints ++ labelled "target_selector" state.explicitTargetSelectors ++
        labelled "user_correction" state.explicitUserCorrections)
    artifactsAndReceipts := state.latestArtifactReceipts
    toolSideEffectBoundary := state.decisions
    retryDoNotRepeat := state.retryDoNotRepeatBoundary
    handoffReadyContext := normalizeStringArray
      (state.recoveryStates ++ labelled "final_delivery_block" state.finalDeliveryBlockReasons) }

/-- `buildRootSessionStructuredSummary`, of the first answer of a model that parses, if one does. -/
def buildRootSessionStructuredSummary (answer : Option RootSessionStructuredSummary) :
    RootSessionStructuredSummary :=
  if buildRootSessionSummaryTranscript messages = [] then
    buildFallbackRootSessionStructuredSummary messages
  else match answer with
    | none => buildFallbackRootSessionStructuredSummary messages
    | some answer => normalizeRootSessionStructuredSummary answer

def applyDeterministicStateToStructuredSummary (state : RootSessionDeterministicState)
    (summary : RootSessionStructuredSummary) : RootSessionStructuredSummary where
  whatHappened := summary.whatHappened
  currentGoal := normalizeStringArray (summary.currentGoal ++ state.objectives)
  stillOpen := normalizeStringArray (summary.stillOpen ++ state.pendingItems)
  confirmedFacts := normalizeStringArray (summary.confirmedFacts ++ state.confirmedFacts)
  mustKeepConstraints := normalizeStringArray (summary.mustKeepConstraints ++ state.constraints)
  artifactsAndReceipts :=
    normalizeStringArray (summary.artifactsAndReceipts ++ state.latestArtifactReceipts)
  toolSideEffectBoundary := normalizeStringArray (summary.toolSideEffectBoundary ++ state.decisions)
  retryDoNotRepeat :=
    normalizeStringArray (summary.retryDoNotRepeat ++ state.retryDoNotRepeatBoundary)
  handoffReadyContext := normalizeStringArray (summary.handoffReadyContext ++ state.recoveryStates)

structure CompactionPreservationEntry where
  (sourceRefs outputRefs : List Text)
  explicitEmpty : Bool

def CompactionPreservationEntry.of (sourceRefs outputRefs : List Text) :
    CompactionPreservationEntry where
  sourceRefs
  outputRefs := if sourceRefs = [] then [] else outputRefs
  explicitEmpty := sourceRefs = []

def buildCompactionPreservationEntries (state : RootSessionDeterministicState)
    (summary : RootSessionStructuredSummary) : List CompactionPreservationEntry :=
  [.of (normalizeStringArray state.objectives) summary.currentGoal,
    .of (normalizeStringArray state.constraints) summary.mustKeepConstraints,
    .of (normalizeStringArray state.decisionItems)
      (normalizeStringArray
        (summary.toolSideEffectBoundary ++ labelled "retry_boundary" summary.retryDoNotRepeat)),
    .of (normalizeStringArray state.pendingItems) summary.stillOpen,
    .of state.latestArtifactReceipts summary.artifactsAndReceipts,
    .of (labelled "user_correction" state.explicitUserCorrections) summary.mustKeepConstraints,
    .of (labelled "active_task" state.activeTaskIds) summary.currentGoal]

/-- An entry that `evaluateCompactionPreservation` finds preserved, with no
reference that is blank, which it throws at. -/
def CompactionPreservationEntry.preserved (entry : CompactionPreservationEntry) : Bool :=
  entry.sourceRefs.all (trim · ≠ []) && entry.outputRefs.all (trim · ≠ []) &&
    if entry.sourceRefs = [] then entry.explicitEmpty && entry.outputRefs = []
    else !entry.explicitEmpty &&
      entry.sourceRefs.all fun ref => trim ref ∈ entry.outputRefs.map trim

/-- `MemoryCapsule`, by the fields that the blocks are rendered from and the
ones extracted items are kept in. -/
structure MemoryCapsule where
  summary : Text
  (activeObjectives confirmedFacts decisions constraints pendingItems : List Text)
  artifactRefs : List MemoryCapsuleArtifactRef
  recoveryHints : List Text

def normalizeMemoryCapsule (input : MemoryCapsule) : MemoryCapsule where
  summary := (normalizeString trim input.summary).getD []
  activeObjectives := normalizeStrings trim input.activeObjectives
  confirmedFacts := normalizeStrings trim input.confirmedFacts
  decisions := normalizeStrings trim input.decisions
  constraints := normalizeStrings trim input.constraints
  pendingItems := normalizeStrings trim input.pendingItems
  artifactRefs := normalizeRefs trim input.artifactRefs
  recoveryHints := normalizeStrings trim input.recoveryHints

/-- `MemoryCapsuleDeterministicState`, whose fields are all given. -/
structure MemoryCapsuleDeterministicState where
  (activeObjectives confirmedFacts decisions constraints pendingItems : List Text)
  artifactRefs : List MemoryCapsuleArtifactRef

def applyMemoryCapsuleDeterministicState (input : MemoryCapsule)
    (state : MemoryCapsuleDeterministicState) : MemoryCapsule :=
  normalizeMemoryCapsule { state, normalizeMemoryCapsule input with }

def defaultSnapshotSummaryChars : Nat := 1200

def buildRootSessionCapsuleSummary : Text :=
  let parts := [summary.whatHappened,
    if summary.currentGoal = [] then [] else units "current_goal: " ++ join "; " summary.currentGoal,
    if summary.stillOpen = [] then [] else units "still_open: " ++ join "; " summary.stillOpen]
  truncateSnapshotSummary (join "\n" (parts.filter (· ≠ []))) defaultSnapshotSummaryChars

def buildCapsuleDeterministicState : MemoryCapsuleDeterministicState where
  activeObjectives := normalizeStringArray (pinned.activeObjectives ++ summary.currentGoal)
  confirmedFacts := normalizeStringArray (pinned.confirmedFacts ++ summary.confirmedFacts)
  decisions := normalizeStringArray
    (pinned.decisions ++ summary.toolSideEffectBoundary ++
      labelled "retry_boundary" summary.retryDoNotRepeat)
  constraints := normalizeStringArray (pinned.constraints ++ summary.mustKeepConstraints)
  pendingItems := normalizeStringArray (pinned.pendingItems ++ summary.stillOpen)
  artifactRefs :=
    normalizeArtifactRefs (pinned.artifactRefs ++ summary.artifactsAndReceipts.map .ofNote)

/-- The capsule that `persistRootSessionCompactionCapsule` stores. -/
def buildRootSessionCompactionCapsule (pinned : RootSessionPinnedWorkingSet) : MemoryCapsule :=
  applyMemoryCapsuleDeterministicState
    { summary := buildRootSessionCapsuleSummary summary
      activeObjectives := summary.currentGoal
      confirmedFacts := summary.confirmedFacts
      decisions := summary.toolSideEffectBoundary
      constraints := summary.mustKeepConstraints
      pendingItems := summary.stillOpen
      artifactRefs := normalizeArtifactRefs (summary.artifactsAndReceipts.map .ofNote)
      recoveryHints := summary.handoffReadyContext }
    (buildCapsuleDeterministicState pinned summary)

def renderSection (label : String) (values : List Text) : Text :=
  let normalized := normalizeStringArray values
  if normalized = [] then units label ++ units ": []"
  else units label ++ units ":\n" ++ join "\n" (normalized.map fun item => units "- " ++ item)

def renderPinnedWorkingSetPromptBlock : Text :=
  join "\n" (([units "[pinned_working_set]",
    renderSection "active_objectives" pinned.activeObjectives,
    renderSection "confirmed_facts" pinned.confirmedFacts,
    renderSection "constraints" pinned.constraints,
    renderSection "decisions" pinned.decisions,
    renderSection "pending_items" pinned.pendingItems,
    renderSection "artifact_refs" (pinned.artifactRefs.map (·.note))]).filter (· ≠ []))

def renderCompactedCapsulePromptBlock : Text :=
  join "\n" (([units "[latest_compacted_capsule]",
    units "summary:" ++ units " " ++ capsule.summary,
    renderSection "active_objectives" capsule.activeObjectives,
    renderSection "confirmed_facts" capsule.confirmedFacts,
    renderSection "constraints" capsule.constraints,
    renderSection "pending_items" capsule.pendingItems,
    renderSection "artifact_refs" (capsule.artifactRefs.map (·.note)),
    renderSection "recovery_hints" capsule.recoveryHints]).filter (· ≠ []))

def rootSessionCompactionDefaultTailSize : JsNumber := 8

def mathMin (a b : JsNumber) : JsNumber :=
  match a, b with
  | .nan, _ => .nan
  | _, .nan => .nan
  | a, b => if b.lt a then b else a

structure Rewriting where
  preferredTailSize : Option JsNumber
  (maintenanceRestoreBlock promptTimeRecallBlock : Option Text)

def tailSize (length : Nat) : JsNumber :=
  mathMin (JsNumber.max 0 (preferredTailSize.getD rootSessionCompactionDefaultTailSize).floor)
    (.ofNat length)

/-- How many messages the tail has: what is not a positive number counts none. -/
def tailCount (length : Nat) : Nat :=
  match tailSize preferredTailSize length with
  | .finite size => size.floor.toNat
  | _ => 0

/-- The messages `rewriteRootSessionActiveWindow` keeps. -/
def windowTail : List Message :=
  if (0 : JsNumber).lt (tailSize preferredTailSize messages.length) then
    messages.drop (messages.length - tailCount preferredTailSize messages.length)
  else []

def recallMessages : Option Text → List Message
  | some block => if block = [] then [] else [⟨.user, .text block⟩]
  | none => []

def rewriteRootSessionActiveWindow (rewriting : Rewriting) : List Message :=
  [⟨.user, .text (renderPinnedWorkingSetPromptBlock pinned)⟩,
    ⟨.user, .text (rewriting.maintenanceRestoreBlock.getD
      (renderCompactedCapsulePromptBlock capsule))⟩] ++
    recallMessages rewriting.promptTimeRecallBlock ++
    windowTail messages rewriting.preferredTailSize

/-- What `executeRootSessionCompaction` depends on: the answer of a model that
parses, if there is one, and whether the capsule is stored without an error. -/
structure RootSessionCompactionAttemptInput where
  messages : List Message
  requestGroupId : Option Text
  answer : Option RootSessionStructuredSummary
  stored : Bool

structure RootSessionCompactionExecutionResult where
  capsule : MemoryCapsule
  rewrittenMessages : List Message

/-- `executeRootSessionCompaction`, without a result where it throws. -/
def executeRootSessionCompaction (input : RootSessionCompactionAttemptInput) :
    Option RootSessionCompactionExecutionResult :=
  let state := extractRootSessionDeterministicState input.messages input.requestGroupId
  let workingSet := buildRootSessionPinnedWorkingSet state
  if workingSet.blockedReasonCodes ≠ [] then none
  else if !hasBalancedToolUsePairs input.messages then none
  else
    let modelSummary := buildRootSessionStructuredSummary input.messages input.answer
    let preservedSummary := applyDeterministicStateToStructuredSummary state modelSummary
    let entries := buildCompactionPreservationEntries state preservedSummary
    if !entries.all CompactionPreservationEntry.preserved then none
    else if !input.stored then none
    else
      let capsule := buildRootSessionCompactionCapsule preservedSummary workingSet
      some
        { capsule
          rewrittenMessages :=
            rewriteRootSessionActiveWindow input.messages capsule workingSet ⟨none, none, none⟩ }

/-- The working set that `selectCompactedWindow` renders. -/
def MemoryCapsule.pinnedWorkingSet : RootSessionPinnedWorkingSet where
  __ := capsule
  blockedReasonCodes := []

/-- A compaction of a run: what is appended to the window before it, what it depends on, and how its
window is chosen. -/
structure Compaction where
  appended : List Message
  requestGroupId : Option Text
  answer : Option RootSessionStructuredSummary
  stored : Bool
  rewriting : Option Rewriting

namespace Compaction

variable (compaction : Compaction)

def execute (found : List Message) : Option RootSessionCompactionExecutionResult :=
  executeRootSessionCompaction
    ⟨found, compaction.requestGroupId, compaction.answer, compaction.stored⟩

def extracted (found : List Message) : RootSessionDeterministicState :=
  extractRootSessionDeterministicState found compaction.requestGroupId

def windowAfter (found : List Message) : List Message :=
  match compaction.execute found, compaction.rewriting with
  | none, _ => found
  | some result, none => result.rewrittenMessages
  | some result, some rewriting =>
    rewriteRootSessionActiveWindow found result.capsule result.capsule.pinnedWorkingSet rewriting

end Compaction

def pinnedWorkingSets (window : List Message) : List Compaction → List RootSessionPinnedWorkingSet
  | [] => []
  | compaction :: rest =>
    let found := window ++ compaction.appended
    buildRootSessionPinnedWorkingSet (compaction.extracted found) ::
      pinnedWorkingSets (compaction.windowAfter found) rest

end Knowbee.Memory
