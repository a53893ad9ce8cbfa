import Knowbee.Rust

/-!
# The lifecycle of a capture artifact

`artifact_lifecycle.rs`: a pure reducer.  An artifact is registered, fetched,
awaits the acknowledgement of its chunks and ends acknowledged, expired,
cancelled or failed; its file may be cleaned up once it has ended.  `restore`
is the separate reading of the same rules that a bootstrap applies to what it
finds stored.
-/

namespace Knowbee

def maxArtifactBytes : Nat := 64 * 1024 * 1024

def minTtlMs : Int := 60000

def maxTtlMs : Int := 60 * 60000

def maxChunkCount : Nat := 65536

def isArtifactRef (value : String) : Bool := isPrefixedHex value "capture:"

structure ArtifactBindingFields where
  (artifactRef ownerRequesterId ownerRequestId ownerOperationId fullDigest : String)
  totalSize : Nat
  (createdAtMs expiresAtMs : Int)
  deriving DecidableEq

def ArtifactBindingFields.isValid (binding : ArtifactBindingFields) : Bool :=
  let ttl := binding.expiresAtMs - binding.createdAtMs
  isArtifactRef binding.artifactRef && isBoundedIdentity binding.ownerRequesterId &&
    isBoundedIdentity binding.ownerRequestId && isBoundedIdentity binding.ownerOperationId &&
    isSha256Digest binding.fullDigest && 0 < binding.totalSize &&
    binding.totalSize ≤ maxArtifactBytes && 0 < binding.createdAtMs &&
    minTtlMs ≤ ttl && ttl ≤ maxTtlMs

inductive ArtifactBindingError where
  | invalidBinding
  deriving DecidableEq

/-- A binding as `ArtifactBinding::new` builds it. -/
structure ArtifactBinding extends ArtifactBindingFields where
  valid : toArtifactBindingFields.isValid = true
  deriving DecidableEq

def ArtifactBinding.new (fields : ArtifactBindingFields) :
    Except ArtifactBindingError ArtifactBinding :=
  if valid : fields.isValid = true then .ok ⟨fields, valid⟩ else .error .invalidBinding

inductive ArtifactFailureReason where
  | sourceUnavailable | publishFailed | verificationFailed | cleanupFailed
  deriving DecidableEq

inductive ArtifactCleanupStatus where
  | pending
  | completed (completedAtMs : Int)
  deriving DecidableEq

inductive ArtifactLifecycleState where
  | registered
  | fetching (transferId : String) (chunkCount : Nat) (startedAtMs : Int)
  | awaitingAck (transferId : String) (chunkCount : Nat) (publishedAtMs : Int)
  | acknowledged (transferId : String) (acknowledgedAtMs : Int)
  | expired (expiredAtMs : Int)
  | cancelled (transferId : Option String) (cancelledAtMs : Int)
  | failed (reason : ArtifactFailureReason) (failedAtMs : Int)
  deriving DecidableEq

def ArtifactLifecycleState.isTerminal : ArtifactLifecycleState → Bool
  | acknowledged .. | expired _ | cancelled .. | failed .. => true
  | registered | fetching .. | awaitingAck .. => false

structure ArtifactLifecycle where
  binding : ArtifactBinding
  revision : Nat
  state : ArtifactLifecycleState
  cleanupStatus : ArtifactCleanupStatus
  deriving DecidableEq

def validTransfer (transferId : String) (chunkCount : Nat) : Bool :=
  isBoundedIdentity transferId && 1 ≤ chunkCount && chunkCount ≤ maxChunkCount

def validActiveTime (binding : ArtifactBinding) (atMs : Int) : Bool :=
  binding.createdAtMs ≤ atMs && atMs < binding.expiresAtMs

namespace ArtifactLifecycle

variable (binding : ArtifactBinding)

def new : ArtifactLifecycle where
  binding := binding
  revision := 0
  state := .registered
  cleanupStatus := .pending

/-- The state of a stored lifecycle is one that its revision and its times
allow. -/
def stateRestorable (revision : Nat) : ArtifactLifecycleState → Bool
  | .registered => revision == 0
  | .fetching transferId chunkCount startedAtMs =>
    1 ≤ revision && validTransfer transferId chunkCount && validActiveTime binding startedAtMs
  | .awaitingAck transferId chunkCount publishedAtMs =>
    2 ≤ revision && validTransfer transferId chunkCount && validActiveTime binding publishedAtMs
  | .acknowledged transferId acknowledgedAtMs =>
    3 ≤ revision && isBoundedIdentity transferId && validActiveTime binding acknowledgedAtMs
  | .expired expiredAtMs => 1 ≤ revision && binding.expiresAtMs ≤ expiredAtMs
  | .cancelled transferId cancelledAtMs =>
    1 ≤ revision && transferId.all isBoundedIdentity && binding.createdAtMs ≤ cancelledAtMs
  | .failed _ failedAtMs => 1 ≤ revision && binding.createdAtMs ≤ failedAtMs

def cleanupRestorable (state : ArtifactLifecycleState) : ArtifactCleanupStatus → Bool
  | .pending => true
  | .completed completedAtMs => state.isTerminal && binding.createdAtMs ≤ completedAtMs

def restore (revision : Nat) (state : ArtifactLifecycleState)
    (cleanupStatus : ArtifactCleanupStatus) : Except ArtifactBindingError ArtifactLifecycle :=
  if !stateRestorable binding revision state ||
      !cleanupRestorable binding state cleanupStatus then
    .error .invalidBinding
  else .ok ⟨binding, revision, state, cleanupStatus⟩

end ArtifactLifecycle

/-! ## Events -/

inductive ArtifactEvent where
  | beginFetch (requesterId requestId operationId transferId : String) (chunkCount : Nat)
      (nowMs : Int)
  | chunksPublished (transferId : String) (chunkCount : Nat) (nowMs : Int)
  | acknowledge (requesterId transferId fullDigest : String) (nowMs : Int)
  | expire (nowMs : Int)
  | cancel (requesterId transferId : String) (nowMs : Int)
  | fail (transferId : Option String) (reason : ArtifactFailureReason) (nowMs : Int)
  | cleanupCompleted (nowMs : Int)

inductive ArtifactTransitionReject where
  | invalidEvent | wrongOwner | wrongTransfer | digestMismatch | expired | notExpired | invalidState
  | terminalState | revisionOverflow

inductive ArtifactTransition where
  | applied (lifecycle : ArtifactLifecycle) (previousRevision : Nat)
  | idempotent (revision : Nat)
  | rejected (reason : ArtifactTransitionReject)

namespace ArtifactLifecycle

/-- The transition to a state and a cleanup status, as `apply` and
`apply_cleanup_completed` make it. -/
def transitionTo (current : ArtifactLifecycle) (state : ArtifactLifecycleState)
    (cleanupStatus : ArtifactCleanupStatus) : ArtifactTransition :=
  match u64CheckedAdd current.revision 1 with
  | none => .rejected .revisionOverflow
  | some revision =>
    .applied { binding := current.binding, revision, state, cleanupStatus } current.revision

def apply (current : ArtifactLifecycle) (state : ArtifactLifecycleState) : ArtifactTransition :=
  current.transitionTo state current.cleanupStatus

def applyCleanupCompleted (current : ArtifactLifecycle) (completedAtMs : Int) :
    ArtifactTransition :=
  current.transitionTo current.state (.completed completedAtMs)

def idempotent (current : ArtifactLifecycle) : ArtifactTransition := .idempotent current.revision

def ownerMatches (lifecycle : ArtifactLifecycle) (requesterId requestId operationId : String) :
    Bool :=
  requesterId == lifecycle.binding.ownerRequesterId &&
    requestId == lifecycle.binding.ownerRequestId &&
    operationId == lifecycle.binding.ownerOperationId

def isExpired (lifecycle : ArtifactLifecycle) (nowMs : Int) : Bool :=
  lifecycle.binding.expiresAtMs ≤ nowMs

def acknowledgedAs (current : ArtifactLifecycle) (transferId fullDigest : String) : Bool :=
  match current.state with
  | .acknowledged active _ => active = transferId && fullDigest = current.binding.fullDigest
  | _ => false

end ArtifactLifecycle

def activeTransfer : ArtifactLifecycleState → Option String
  | .fetching transferId .. | .awaitingAck transferId .. | .acknowledged transferId _ =>
    some transferId
  | .registered | .expired _ | .cancelled .. | .failed .. => none

variable (current : ArtifactLifecycle)

def applyBeginFetch (requesterId requestId operationId transferId : String) (chunkCount : Nat)
    (nowMs : Int) : ArtifactTransition :=
  if !current.ownerMatches requesterId requestId operationId then .rejected .wrongOwner
  else if !validTransfer transferId chunkCount ∨ nowMs ≤ 0 then .rejected .invalidEvent
  else if current.state.isTerminal then .rejected .terminalState
  else if current.isExpired nowMs then .rejected .expired
  else
    match current.state with
    | .registered => current.apply (.fetching transferId chunkCount nowMs)
    | .fetching active activeCount _ | .awaitingAck active activeCount _ =>
      if active = transferId ∧ activeCount = chunkCount then current.idempotent
      else .rejected .wrongTransfer
    | .acknowledged .. | .expired _ | .cancelled .. | .failed .. => .rejected .terminalState

def applyChunksPublished (transferId : String) (chunkCount : Nat) (nowMs : Int) :
    ArtifactTransition :=
  if !validTransfer transferId chunkCount ∨ nowMs ≤ 0 then .rejected .invalidEvent
  else if current.state.isTerminal then .rejected .terminalState
  else if current.isExpired nowMs then .rejected .expired
  else
    match current.state with
    | .fetching active activeCount _ =>
      if active = transferId ∧ activeCount = chunkCount then
        current.apply (.awaitingAck transferId chunkCount nowMs)
      else .rejected .wrongTransfer
    | .awaitingAck active activeCount _ =>
      if active = transferId ∧ activeCount = chunkCount then current.idempotent
      else .rejected .wrongTransfer
    | .registered => .rejected .invalidState
    | .acknowledged .. | .expired _ | .cancelled .. | .failed .. => .rejected .terminalState

def applyAcknowledge (requesterId transferId fullDigest : String) (nowMs : Int) :
    ArtifactTransition :=
  if requesterId ≠ current.binding.ownerRequesterId then .rejected .wrongOwner
  else if !isBoundedIdentity transferId ∨ !isSha256Digest fullDigest ∨ nowMs ≤ 0 then
    .rejected .invalidEvent
  else if current.acknowledgedAs transferId fullDigest then current.idempotent
  else if current.state.isTerminal then .rejected .terminalState
  else if current.isExpired nowMs then .rejected .expired
  else if fullDigest ≠ current.binding.fullDigest then .rejected .digestMismatch
  else
    match current.state with
    | .awaitingAck active _ _ =>
      if active = transferId then current.apply (.acknowledged transferId nowMs)
      else .rejected .wrongTransfer
    | .acknowledged active _ =>
      if active = transferId then current.idempotent else .rejected .wrongTransfer
    | .fetching active _ _ =>
      if active = transferId then .rejected .invalidState else .rejected .wrongTransfer
    | .registered => .rejected .invalidState
    | .expired _ | .cancelled .. | .failed .. => .rejected .terminalState

def applyExpire (nowMs : Int) : ArtifactTransition :=
  if nowMs < current.binding.expiresAtMs then .rejected .notExpired
  else
    match current.state with
    | .expired _ => current.idempotent
    | state => if state.isTerminal then .rejected .terminalState else current.apply (.expired nowMs)

def applyCancel (requesterId transferId : String) (nowMs : Int) : ArtifactTransition :=
  if requesterId ≠ current.binding.ownerRequesterId then .rejected .wrongOwner
  else if !isBoundedIdentity transferId ∨ nowMs ≤ 0 then .rejected .invalidEvent
  else
    match current.state with
    | .fetching active _ _ | .awaitingAck active _ _ =>
      if active = transferId then current.apply (.cancelled (some transferId) nowMs)
      else .rejected .wrongTransfer
    | .cancelled (some active) _ =>
      if active = transferId then current.idempotent else .rejected .wrongTransfer
    | .registered => .rejected .invalidState
    | .acknowledged .. | .expired _ | .cancelled none _ | .failed .. => .rejected .terminalState

def applyFail (transferId : Option String) (reason : ArtifactFailureReason) (nowMs : Int) :
    ArtifactTransition :=
  if nowMs ≤ 0 ∨ transferId.any (fun transfer => !isBoundedIdentity transfer) then
    .rejected .invalidEvent
  else if transferId.any (fun expected =>
      (activeTransfer current.state).any fun active => active ≠ expected) then
    .rejected .wrongTransfer
  else if current.state.isTerminal then .rejected .terminalState
  else current.apply (.failed reason nowMs)

def applyCleanup (current : ArtifactLifecycle) (nowMs : Int) : ArtifactTransition :=
  if nowMs < current.binding.createdAtMs then .rejected .invalidEvent
  else
    match current.cleanupStatus with
    | .completed _ => current.idempotent
    | .pending =>
      if !current.state.isTerminal then .rejected .invalidState
      else current.applyCleanupCompleted nowMs

def applyArtifactEvent : ArtifactEvent → ArtifactTransition
  | .beginFetch requesterId requestId operationId transferId chunkCount nowMs =>
    applyBeginFetch current requesterId requestId operationId transferId chunkCount nowMs
  | .chunksPublished transferId chunkCount nowMs =>
    applyChunksPublished current transferId chunkCount nowMs
  | .acknowledge requesterId transferId fullDigest nowMs =>
    applyAcknowledge current requesterId transferId fullDigest nowMs
  | .expire nowMs => applyExpire current nowMs
  | .cancel requesterId transferId nowMs => applyCancel current requesterId transferId nowMs
  | .fail transferId reason nowMs => applyFail current transferId reason nowMs
  | .cleanupCompleted nowMs => applyCleanup current nowMs

/-! ## What an event does -/

/-- The transitions that the reducer applies, each with what its event was
checked for. -/
inductive Applies (current : ArtifactLifecycle) :
    ArtifactEvent → ArtifactLifecycleState → ArtifactCleanupStatus → Prop where
  | beginFetch {requesterId requestId operationId transferId : String} {chunkCount : Nat}
      {nowMs : Int} : current.state = .registered → validTransfer transferId chunkCount = true →
      nowMs < current.binding.expiresAtMs →
      Applies current (.beginFetch requesterId requestId operationId transferId chunkCount nowMs)
        (.fetching transferId chunkCount nowMs) current.cleanupStatus
  | chunksPublished {transferId : String} {chunkCount : Nat} {startedAtMs nowMs : Int} :
      current.state = .fetching transferId chunkCount startedAtMs →
      validTransfer transferId chunkCount = true → nowMs < current.binding.expiresAtMs →
      Applies current (.chunksPublished transferId chunkCount nowMs)
        (.awaitingAck transferId chunkCount nowMs) current.cleanupStatus
  | acknowledge {requesterId transferId fullDigest : String} {chunkCount : Nat}
      {publishedAtMs nowMs : Int} :
      current.state = .awaitingAck transferId chunkCount publishedAtMs →
      isBoundedIdentity transferId = true → nowMs < current.binding.expiresAtMs →
      Applies current (.acknowledge requesterId transferId fullDigest nowMs)
        (.acknowledged transferId nowMs) current.cleanupStatus
  | expire {nowMs : Int} : current.state.isTerminal = false →
      current.binding.expiresAtMs ≤ nowMs →
      Applies current (.expire nowMs) (.expired nowMs) current.cleanupStatus
  | cancel {requesterId transferId : String} {nowMs : Int} :
      current.state.isTerminal = false → activeTransfer current.state = some transferId →
      isBoundedIdentity transferId = true →
      Applies current (.cancel requesterId transferId nowMs)
        (.cancelled (some transferId) nowMs) current.cleanupStatus
  | fail {transferId : Option String} {reason : ArtifactFailureReason} {nowMs : Int} :
      current.state.isTerminal = false →
      Applies current (.fail transferId reason nowMs) (.failed reason nowMs)
        current.cleanupStatus
  | cleanupCompleted {nowMs : Int} : current.state.isTerminal = true →
      current.cleanupStatus = .pending → current.binding.createdAtMs ≤ nowMs →
      Applies current (.cleanupCompleted nowMs) current.state (.completed nowMs)

lemma transitionTo_applied {current next : ArtifactLifecycle} {previous : Nat}
    {state : ArtifactLifecycleState} {cleanupStatus : ArtifactCleanupStatus}
    (applied : current.transitionTo state cleanupStatus = .applied next previous) :
    next = ⟨current.binding, current.revision + 1, state, cleanupStatus⟩ ∧
      previous = current.revision := by
  unfold ArtifactLifecycle.transitionTo u64CheckedAdd at applied
  split_ifs at applied
  cases applied
  exact ⟨rfl, rfl⟩

lemma not_isExpired {current : ArtifactLifecycle} {nowMs : Int}
    (running : ¬current.isExpired nowMs = true) : nowMs < current.binding.expiresAtMs := by
  simpa [ArtifactLifecycle.isExpired] using running

lemma not_invalid {valid : Bool} {rest : Prop} (running : ¬((!valid) = true ∨ rest)) :
    valid = true := by
  simpa using not_or.mp running |>.1

lemma applies_of_applied {current next : ArtifactLifecycle} {event : ArtifactEvent}
    {previous : Nat} (applied : applyArtifactEvent current event = .applied next previous) :
    ∃ state cleanupStatus, Applies current event state cleanupStatus ∧
      current.transitionTo state cleanupStatus = .applied next previous := by
  cases event with
  | beginFetch requesterId requestId operationId transferId chunkCount nowMs =>
    simp only [applyArtifactEvent, applyBeginFetch] at applied
    cases state : current.state with
    | registered =>
      simp only [state] at applied
      split_ifs at applied with owner invalid terminal expired
      exact ⟨_, _, .beginFetch state (not_invalid invalid) (not_isExpired expired), applied⟩
    | _ =>
      simp only [state] at applied
      split_ifs at applied <;> cases applied
  | chunksPublished transferId chunkCount nowMs =>
    simp only [applyArtifactEvent, applyChunksPublished] at applied
    cases state : current.state with
    | fetching active activeCount startedAtMs =>
      simp only [state] at applied
      split_ifs at applied with invalid terminal expired same
      obtain ⟨rfl, rfl⟩ := same
      exact ⟨_, _, .chunksPublished state (not_invalid invalid) (not_isExpired expired), applied⟩
    | _ =>
      simp only [state] at applied
      split_ifs at applied <;> cases applied
  | acknowledge requesterId transferId fullDigest nowMs =>
    simp only [applyArtifactEvent, applyAcknowledge] at applied
    cases state : current.state with
    | awaitingAck active activeCount publishedAtMs =>
      simp only [state] at applied
      split_ifs at applied with owner invalid replay terminal expired digest same
      · cases applied
      · subst same
        exact ⟨_, _, .acknowledge state (not_invalid invalid) (not_isExpired expired), applied⟩
    | _ =>
      simp only [state] at applied
      split_ifs at applied <;> cases applied
  | expire nowMs =>
    simp only [applyArtifactEvent, applyExpire] at applied
    split_ifs at applied with early
    have due : current.binding.expiresAtMs ≤ nowMs := not_lt.mp early
    cases state : current.state with
    | registered | fetching _ _ _ | awaitingAck _ _ _ =>
      simp only [state] at applied
      exact ⟨_, _, .expire (by rw [state]; rfl) due, applied⟩
    | expired _ =>
      simp only [state] at applied
      cases applied
    | acknowledged _ _ | cancelled _ _ | failed _ _ =>
      simp [state, ArtifactLifecycleState.isTerminal] at applied
  | cancel requesterId transferId nowMs =>
    simp only [applyArtifactEvent, applyCancel] at applied
    cases state : current.state with
    | fetching active activeCount atMs | awaitingAck active activeCount atMs =>
      simp only [state] at applied
      split_ifs at applied with owner invalid same
      subst same
      exact ⟨_, _, .cancel (by rw [state]; rfl) (by rw [state]; rfl) (not_invalid invalid),
        applied⟩
    | cancelled active cancelledAtMs =>
      simp only [state] at applied
      cases active <;> simp only at applied <;> split_ifs at applied
      cases applied
    | _ =>
      simp only [state] at applied
      split_ifs at applied
  | fail transferId reason nowMs =>
    simp only [applyArtifactEvent, applyFail] at applied
    split_ifs at applied with invalid other terminal
    exact ⟨_, _, .fail (by simpa using terminal), applied⟩
  | cleanupCompleted nowMs =>
    simp only [applyArtifactEvent, applyCleanup] at applied
    cases cleanup : current.cleanupStatus with
    | completed completedAtMs =>
      simp only [cleanup] at applied
      split_ifs at applied
      cases applied
    | pending =>
      simp only [cleanup] at applied
      split_ifs at applied with early ended
      exact ⟨_, _, .cleanupCompleted (by simpa using ended) cleanup (not_lt.mp early), applied⟩

/-- The lifecycles that permitted events lead to. -/
inductive Reduced (permitted : ArtifactLifecycle → ArtifactEvent → Prop)
    (binding : ArtifactBinding) : ArtifactLifecycle → Prop where
  | new : Reduced permitted binding (.new binding)
  | applied {current lifecycle : ArtifactLifecycle} {event : ArtifactEvent} {previous : Nat} :
      Reduced permitted binding current →
      applyArtifactEvent current event = .applied lifecycle previous → permitted current event →
      Reduced permitted binding lifecycle

/-- A transfer that is under way is a valid one, and the revision counts the
transitions before it. -/
def ArtifactLifecycle.Counted (lifecycle : ArtifactLifecycle) : Prop :=
  match lifecycle.state with
  | .registered => lifecycle.revision = 0
  | .fetching transferId chunkCount _ =>
    lifecycle.revision = 1 ∧ validTransfer transferId chunkCount = true
  | .awaitingAck transferId chunkCount _ =>
    lifecycle.revision = 2 ∧ validTransfer transferId chunkCount = true
  | _ => True

variable {lifecycle : ArtifactLifecycle} {permitted : ArtifactLifecycle → ArtifactEvent → Prop}
  {binding : ArtifactBinding}

lemma Reduced.counted
    (reduced : Reduced permitted binding lifecycle) : lifecycle.Counted := by
  induction reduced with
  | new => rfl
  | applied _ transition _ ih =>
    obtain ⟨state, cleanupStatus, applies, own⟩ := applies_of_applied transition
    obtain ⟨rfl, -⟩ := transitionTo_applied own
    cases applies with
    | beginFetch registered transfer _ =>
      simp only [ArtifactLifecycle.Counted, registered] at ih
      exact ⟨by simp [ih], transfer⟩
    | chunksPublished fetching transfer _ =>
      simp only [ArtifactLifecycle.Counted, fetching] at ih
      exact ⟨by simp [ih.1], transfer⟩
    | cleanupCompleted ended _ _ =>
      unfold ArtifactLifecycle.Counted
      split <;> simp_all [ArtifactLifecycleState.isTerminal]
    | _ => trivial

lemma Reduced.binding_eq
    (reduced : Reduced permitted binding lifecycle) : lifecycle.binding = binding := by
  induction reduced with
  | new => rfl
  | applied _ transition _ ih =>
    obtain ⟨state, cleanupStatus, -, own⟩ := applies_of_applied transition
    obtain ⟨rfl, -⟩ := transitionTo_applied own
    exact ih

/-! ## What can be restored -/

namespace ArtifactLifecycle

/-- A bootstrap restores the lifecycle from its own fields. -/
def Restorable (lifecycle : ArtifactLifecycle) : Prop :=
  stateRestorable lifecycle.binding lifecycle.revision lifecycle.state = true ∧
    cleanupRestorable lifecycle.binding lifecycle.state lifecycle.cleanupStatus = true

instance (lifecycle : ArtifactLifecycle) : Decidable lifecycle.Restorable :=
  inferInstanceAs (Decidable (_ ∧ _))

lemma restore_eq_ok {revision : Nat}
    {state : ArtifactLifecycleState} {cleanupStatus : ArtifactCleanupStatus} :
    restore binding revision state cleanupStatus = .ok lifecycle ↔
      lifecycle = ⟨binding, revision, state, cleanupStatus⟩ ∧ lifecycle.Restorable := by
  unfold restore
  constructor
  · intro restored
    split_ifs at restored with invalid
    cases restored
    simp only [Bool.or_eq_true, Bool.not_eq_true', not_or, Bool.not_eq_false] at invalid
    exact ⟨rfl, invalid⟩
  · rintro ⟨rfl, valid_state, valid_cleanup⟩
    simp only at valid_state valid_cleanup
    simp [valid_state, valid_cleanup]

lemma new_restorable (binding : ArtifactBinding) : (new binding).Restorable := ⟨rfl, rfl⟩

lemma Restorable.pending (restorable : lifecycle.Restorable)
    (running : lifecycle.state.isTerminal = false) : lifecycle.cleanupStatus = .pending := by
  have cleanup := restorable.2
  cases status : lifecycle.cleanupStatus with
  | pending => rfl
  | completed completedAtMs => simp [status, cleanupRestorable, running] at cleanup

end ArtifactLifecycle

/-- The clock of an event that is checked to be positive, but not to come after
the creation of the artifact. -/
def ArtifactEvent.uncheckedClock : ArtifactEvent → Option Int
  | .beginFetch _ _ _ _ _ nowMs | .chunksPublished _ _ nowMs | .acknowledge _ _ _ nowMs
  | .cancel _ _ nowMs | .fail _ _ nowMs => some nowMs
  | .expire _ | .cleanupCompleted _ => none

/-- The event is stamped before the artifact was created. -/
def ArtifactEvent.isEarly (event : ArtifactEvent) (binding : ArtifactBinding) : Bool :=
  event.uncheckedClock.any fun nowMs => nowMs < binding.createdAtMs

/-- What an event makes of a restorable lifecycle can be restored exactly when
the event is not stamped before the artifact was created. -/
lemma restorable_applied_iff {current next : ArtifactLifecycle} {event : ArtifactEvent}
    {previous : Nat} (restorable : current.Restorable)
    (applied : applyArtifactEvent current event = .applied next previous) :
    next.Restorable ↔ event.isEarly current.binding = false := by
  obtain ⟨state, cleanupStatus, applies, own⟩ := applies_of_applied applied
  obtain ⟨rfl, rfl⟩ := transitionTo_applied own
  have valid_state := restorable.1
  have created := current.binding.valid
  -- Before the cleanup, only the clock of the new state is in question.
  have restored {state : ArtifactLifecycleState} (running : current.state.isTerminal = false) :
      ArtifactLifecycle.Restorable ⟨current.binding, current.revision + 1, state,
        current.cleanupStatus⟩ ↔
      ArtifactLifecycle.stateRestorable current.binding (current.revision + 1) state = true := by
    simp [ArtifactLifecycle.Restorable, restorable.pending running,
      ArtifactLifecycle.cleanupRestorable]
  cases applies with
  | beginFetch registered transfer before =>
    rw [restored (by rw [registered]; rfl)]
    simp [ArtifactLifecycle.stateRestorable, validActiveTime, transfer, before,
      ArtifactEvent.isEarly, ArtifactEvent.uncheckedClock]
  | chunksPublished state transfer before | acknowledge state transfer before =>
    rw [state] at valid_state
    simp only [ArtifactLifecycle.stateRestorable, Bool.and_eq_true, decide_eq_true_eq]
      at valid_state
    rw [restored (by rw [state]; rfl)]
    simp [ArtifactLifecycle.stateRestorable, validActiveTime, transfer, before,
      ArtifactEvent.isEarly, ArtifactEvent.uncheckedClock, valid_state.1.1]
  | expire running due =>
    rw [restored running]
    simp [ArtifactLifecycle.stateRestorable, due, ArtifactEvent.isEarly,
      ArtifactEvent.uncheckedClock]
  | cancel running _ transfer =>
    rw [restored running]
    simp [ArtifactLifecycle.stateRestorable, transfer, ArtifactEvent.isEarly,
      ArtifactEvent.uncheckedClock]
  | fail running =>
    rw [restored running]
    simp [ArtifactLifecycle.stateRestorable, ArtifactEvent.isEarly, ArtifactEvent.uncheckedClock]
  | cleanupCompleted ended pending after =>
    simp only [ArtifactLifecycle.Restorable, ArtifactLifecycle.cleanupRestorable, ended, after,
      ArtifactEvent.isEarly, ArtifactEvent.uncheckedClock]
    cases state : current.state <;>
      simp_all [ArtifactLifecycle.stateRestorable, ArtifactLifecycleState.isTerminal]
    omega

end Knowbee
