import Knowbee.Broadcast.Plan
import Knowbee.Lib.Machine

/-!
# What chains of broadcast runs guarantee

Every plan splits what is selected into targets that pass all checks and targets
that are skipped, and a retry plans only what the receipt of the run before names.
The receipt knows what succeeded in that run; what succeeded before it is listed
as skipped, which stands for unfinished (`broadcast_retry_iff`).
-/

namespace Knowbee

open List BroadcastRun BroadcastRetryReceipt

variable {toLowerCase : String → String}

/-! ## Receipts -/

lemma mem_setAdd_nil {α : Type} [DecidableEq α] {value : α} {values : List α} :
    value ∈ setAdd [] values ↔ value ∈ values := by
  rw [mem_setAdd]
  exact or_iff_right not_mem_nil

def BroadcastRetryReceipt.Names (receipt : BroadcastRetryReceipt) (instanceId : String) : Prop :=
  (∃ item ∈ receipt.targetReceipts, jsTrim item.instanceId = instanceId) ∨
    ∃ item ∈ receipt.skippedTargets, jsTrim item.instanceId = instanceId

/-- A receipt says that a target succeeded, as it is read. -/
def BroadcastRetryReceipt.Finishes (receipt : BroadcastRetryReceipt) (instanceId : String) : Prop :=
  ∃ item ∈ receipt.targetReceipts, item.status = .succeeded ∧ jsTrim item.instanceId = instanceId

namespace BroadcastRetryReceipt

variable {receipt : BroadcastRetryReceipt} {instanceId : String}

lemma names_normalize :
    receipt.normalize.Names instanceId ↔ receipt.Names instanceId ∧ instanceId ≠ "" := by
  simp only [Names, normalize, mem_filter, mem_map, decide_eq_true_eq, ne_eq]
  constructor
  · rintro (⟨item, ⟨⟨raw, member, rfl⟩, named⟩, rfl⟩ | ⟨item, ⟨⟨raw, member, rfl⟩, named⟩, rfl⟩)
    · dsimp only at named ⊢
      rw [jsTrim_jsTrim]
      exact ⟨.inl ⟨raw, member, rfl⟩, named⟩
    · dsimp only at named ⊢
      rw [jsTrim_jsTrim]
      exact ⟨.inr ⟨raw, member, rfl⟩, named⟩
  · rintro ⟨⟨raw, member, rfl⟩ | ⟨raw, member, rfl⟩, named⟩
    · exact .inl ⟨_, ⟨⟨raw, member, rfl⟩, named⟩, jsTrim_jsTrim _⟩
    · exact .inr ⟨_, ⟨⟨raw, member, rfl⟩, named⟩, jsTrim_jsTrim _⟩

lemma finishes_normalize :
    receipt.normalize.Finishes instanceId ↔ receipt.Finishes instanceId ∧ instanceId ≠ "" := by
  simp only [Finishes, normalize, mem_filter, mem_map, decide_eq_true_eq, ne_eq]
  constructor
  · rintro ⟨item, ⟨⟨raw, member, rfl⟩, named⟩, ended, rfl⟩
    dsimp only at named ⊢
    rw [jsTrim_jsTrim]
    exact ⟨⟨raw, member, ended, rfl⟩, named⟩
  · rintro ⟨⟨raw, member, ended, rfl⟩, named⟩
    exact ⟨_, ⟨⟨raw, member, rfl⟩, named⟩, ended, jsTrim_jsTrim _⟩

lemma mem_previousTargetIds :
    instanceId ∈ (normalizeBroadcastRetryReceipt receipt).previousTargetIds ↔
      receipt.Names instanceId ∧ instanceId ≠ "" := by
  simp only [normalizeBroadcastRetryReceipt, mem_setAdd, not_mem_nil, false_or, mem_map,
    normalize, mem_filter, decide_eq_true_eq, Names, ne_eq]
  constructor
  · rintro (⟨item, ⟨⟨raw, member, rfl⟩, named⟩, rfl⟩ | ⟨item, ⟨⟨raw, member, rfl⟩, named⟩, rfl⟩)
    · exact ⟨.inl ⟨raw, member, rfl⟩, named⟩
    · exact ⟨.inr ⟨raw, member, rfl⟩, named⟩
  · rintro ⟨⟨raw, member, rfl⟩ | ⟨raw, member, rfl⟩, named⟩
    · exact .inl ⟨_, ⟨⟨raw, member, rfl⟩, named⟩, rfl⟩
    · exact .inr ⟨_, ⟨⟨raw, member, rfl⟩, named⟩, rfl⟩

lemma mem_previousSucceededIds :
    instanceId ∈ (normalizeBroadcastRetryReceipt receipt).previousSucceededIds ↔
      receipt.Finishes instanceId ∧ instanceId ≠ "" := by
  simp only [normalizeBroadcastRetryReceipt, mem_setAdd_nil, mem_map, normalize,
    mem_filter, decide_eq_true_eq, Finishes, ne_eq]
  constructor
  · rintro ⟨item, ⟨⟨⟨raw, member, rfl⟩, named⟩, ended⟩, rfl⟩
    exact ⟨⟨raw, member, ended, rfl⟩, named⟩
  · rintro ⟨⟨raw, member, ended, rfl⟩, named⟩
    exact ⟨_, ⟨⟨⟨raw, member, rfl⟩, named⟩, ended⟩, rfl⟩

lemma mem_blankIds_iff (field : String) (instanceIds : List String) :
    blankIds field instanceIds = [] ↔ ∀ instanceId ∈ instanceIds, jsTrim instanceId ≠ "" := by
  unfold blankIds
  rw [filterMap_eq_nil_iff]
  constructor
  · intro none instanceId member
    obtain ⟨index, found⟩ := mem_iff_getElem?.mp member
    intro blank
    have issue := none (some s!"$.{field}[{index}].instanceId") (by
      rw [mem_iff_getElem?]
      refine ⟨index, ?_⟩
      rw [getElem?_mapIdx, found, Option.map_some, if_pos blank])
    cases issue
  · intro named issue member
    obtain ⟨index, bound, rfl⟩ := mem_mapIdx.mp member
    rw [if_neg (named _ (getElem_mem bound))]
    rfl

/-- The receipt of an accepted request has no blank entry, and is read as it is. -/
lemma validate_ok {retryReceipt : Option BroadcastRetryReceipt}
    (valid : validateBroadcastRetryReceipt retryReceipt = .ok receipt) :
    (retryReceipt = none ∧ receipt = .empty) ∨
      ∃ raw, retryReceipt = some raw ∧ receipt = raw.normalize ∧
        ∀ instanceId, raw.Names instanceId → instanceId ≠ "" := by
  unfold validateBroadcastRetryReceipt at valid
  cases retryReceipt with
  | none =>
    cases valid
    exact .inl ⟨rfl, rfl⟩
  | some raw =>
    dsimp only at valid
    split_ifs at valid with clean
    cases valid
    refine .inr ⟨raw, rfl, rfl, fun instanceId names => ?_⟩
    rw [List.isEmpty_iff, issues, append_eq_nil_iff, mem_blankIds_iff,
      mem_blankIds_iff] at clean
    rcases names with ⟨item, member, rfl⟩ | ⟨item, member, rfl⟩
    · exact clean.1 _ (mem_map_of_mem member)
    · exact clean.2 _ (mem_map_of_mem member)

end BroadcastRetryReceipt

/-! ## Plans -/

lemma NormalizedRetryReceipt.reasonCodes_eq_nil {receipt : NormalizedRetryReceipt}
    {instanceId : String} :
    receipt.reasonCodes instanceId = [] ↔
      (receipt.requested = true →
        instanceId ∈ receipt.previousTargetIds ∧ instanceId ∉ receipt.previousSucceededIds) := by
  unfold reasonCodes
  split_ifs with requested unknown succeeded
  · rw [Bool.not_eq_true', contains_eq_mem, decide_eq_false_iff_not] at unknown
    exact iff_of_false id fun known => unknown (known requested).1
  · rw [contains_eq_mem, decide_eq_true_eq] at succeeded
    exact iff_of_false id fun known => (known requested).2 succeeded
  · rw [Bool.not_eq_true', Bool.not_eq_false, contains_eq_mem, decide_eq_true_eq] at unknown
    rw [contains_eq_mem, decide_eq_true_eq] at succeeded
    exact iff_of_true rfl fun _ => ⟨unknown, succeeded⟩
  · exact iff_of_true rfl fun requested' => absurd requested' requested

/-- What an instance is checked for: its state, trust, scope, profile and methods. -/
structure BroadcastChecks.Passes (toLowerCase : String → String) (checks : BroadcastChecks)
    (target : ProjectedInstance) : Prop where
  online : target.state = .online
  trusted : checks.trustedOnly = true → target.trustState = .trusted
  scope : target.scopeAccess = .allowed
  profile : checks.supportProfiles toLowerCase ≠ [] →
    target.supportProfile ∈ checks.supportProfiles toLowerCase
  methods : ∀ method ∈ checks.requiredMethods, method ∈ target.supportedMethods

variable {checks : BroadcastChecks} {target : ProjectedInstance}

lemma BroadcastChecks.reasonCodes_eq_nil :
    checks.reasonCodes toLowerCase target = [] ↔ checks.Passes toLowerCase target := by
  have scope : target.scopeAccess.reasonCodes = [] ↔ target.scopeAccess = .allowed := by
    cases target.scopeAccess <;> simp [ScopeAccess.reasonCodes]
  unfold reasonCodes
  rw [append_eq_nil_iff, append_eq_nil_iff, append_eq_nil_iff,
    append_eq_nil_iff, scope]
  simp only [ite_eq_right_iff, cons_ne_nil, imp_false, not_not, Bool.and_eq_true,
    decide_eq_true_eq, ne_eq, not_and, Bool.not_eq_true', contains_eq_mem,
    decide_eq_false_iff_not, any_eq_true, not_exists, length_pos_iff]
  constructor
  · rintro ⟨⟨⟨⟨online, trusted⟩, allowed⟩, profile⟩, methods⟩
    exact ⟨online, trusted, allowed, profile, methods⟩
  · rintro ⟨online, trusted, allowed, profile, methods⟩
    exact ⟨⟨⟨⟨online, trusted⟩, allowed⟩, profile⟩, methods⟩

def planned (toLowerCase : String → String) (fleet : List ProjectedInstance)
    (checks : BroadcastChecks) (receipt : NormalizedRetryReceipt) : List ProjectedInstance :=
  (filterInstancesForSelector toLowerCase fleet checks.selector).filter fun target =>
    (receipt.reasonCodes target.instanceId ++ checks.reasonCodes toLowerCase target).isEmpty

lemma mem_planned {fleet : List ProjectedInstance} {receipt : NormalizedRetryReceipt} :
    target ∈ planned toLowerCase fleet checks receipt ↔
      target ∈ filterInstancesForSelector toLowerCase fleet checks.selector ∧
        receipt.reasonCodes target.instanceId = [] ∧ checks.Passes toLowerCase target := by
  rw [planned, mem_filter, List.isEmpty_iff, append_eq_nil_iff,
    BroadcastChecks.reasonCodes_eq_nil]

variable {request : BroadcastRunRequest} {retryReceipt : Option BroadcastRetryReceipt}
  {plan : BroadcastRunPlan}

lemma checks_ok {receipt : NormalizedRetryReceipt}
    (accepted : request.checks retryReceipt = .ok (checks, receipt)) :
    ∃ valid, validateBroadcastRetryReceipt retryReceipt = .ok valid ∧
      receipt = normalizeBroadcastRetryReceipt valid := by
  unfold BroadcastRunRequest.checks at accepted
  split at accepted
  · cases accepted
  · split at accepted
    · cases accepted
    · split at accepted
      · cases accepted
      · split at accepted
        · cases accepted
        · next valid validated =>
          dsimp only at accepted
          split_ifs at accepted
          cases accepted
          exact ⟨valid, validated, rfl⟩

lemma plan_ok (made : planBroadcastRun toLowerCase request retryReceipt = .ok plan) :
    ∃ checks receipt, request.checks retryReceipt = .ok (checks, receipt) ∧
      plan.selector = checks.selector ∧ plan.policy = checks.policy ∧
      plan.broadcastIntent = checks.broadcastIntent ∧
      plan.requiredMethods = checks.requiredMethods ∧
      planned toLowerCase request.fleet checks receipt ≠ [] ∧
      plan.targets = (planned toLowerCase request.fleet checks receipt).mapIdx (fun index target =>
        buildPlannedTarget target index (planned toLowerCase request.fleet checks receipt).length
          checks.requiredMethods) ∧
      plan.skippedTargets.map (·.instanceId) =
        ((filterInstancesForSelector toLowerCase request.fleet checks.selector).filter
          fun target => !(receipt.reasonCodes target.instanceId ++
            checks.reasonCodes toLowerCase target).isEmpty).map (·.instanceId) := by
  unfold planBroadcastRun at made
  cases accepted : request.checks retryReceipt with
  | error error =>
    rw [accepted] at made
    cases made
  | ok both =>
    obtain ⟨checks, receipt⟩ := both
    rw [accepted] at made
    dsimp only at made
    split_ifs at made with none
    cases made
    refine ⟨checks, receipt, rfl, rfl, rfl, rfl, rfl, fun empty => none ?_, rfl, ?_⟩
    · exact length_eq_zero_iff.mpr empty
    · rw [map_map]
      rfl

lemma plan_of_planned {receipt : NormalizedRetryReceipt}
    (accepted : request.checks retryReceipt = .ok (checks, receipt))
    (member : target ∈ planned toLowerCase request.fleet checks receipt) :
    ∃ plan, planBroadcastRun toLowerCase request retryReceipt = .ok plan ∧
      ∃ entry ∈ plan.targets, entry.instanceId = target.instanceId := by
  have some : ¬(planned toLowerCase request.fleet checks receipt).length = 0 := fun empty =>
    ne_nil_of_mem member (length_eq_zero_iff.mp empty)
  obtain ⟨index, found⟩ := mem_iff_getElem?.mp member
  unfold planBroadcastRun
  rw [accepted]
  dsimp only
  split_ifs with none
  · exact absurd none some
  refine ⟨_, rfl, buildPlannedTarget target index
    (planned toLowerCase request.fleet checks receipt).length checks.requiredMethods, ?_, rfl⟩
  refine mem_iff_getElem?.mpr ⟨index, ?_⟩
  dsimp only
  rw [getElem?_mapIdx]
  change Option.map _ (planned toLowerCase request.fleet checks receipt)[index]? = _
  rw [found]
  rfl

/-! ## Chains -/

def succeededIn (runs : List BroadcastRun) : List String := runs.flatMap succeeded

def lastReceipt (runs : List BroadcastRun) : Option BroadcastRetryReceipt := runs.head?.map receipt

/-- What holds of a plan that is made for the next run: what is selected is planned
or skipped once, every target passes the checks and is for an instance that is
selected, and a retry plans what the receipt names. -/
structure PlanSound (toLowerCase : String → String) (runs : List BroadcastRun)
    (request : BroadcastRunRequest) (plan : BroadcastRunPlan) : Prop where
  once : (plan.targets.map (·.instanceId) ++ plan.skippedTargets.map (·.instanceId)).Perm
    ((filterInstancesForSelector toLowerCase request.fleet plan.selector).map (·.instanceId))
  eligible : ∀ target ∈ plan.targets,
    ∃ source ∈ filterInstancesForSelector toLowerCase request.fleet plan.selector,
      target.instanceId = source.instanceId ∧
        BroadcastChecks.Passes toLowerCase ⟨plan.policy, plan.selector, plan.broadcastIntent⟩ source
  named : ∀ receipt ∈ lastReceipt runs, ∀ target ∈ plan.targets, receipt.Names target.instanceId

/-- The next run would repeat a success: it plans a target that succeeded in an
earlier run of the chain. -/
def Repeats (toLowerCase : String → String) (runs : List BroadcastRun)
    (next : BroadcastChainStep) : Prop :=
  ∃ plan, planBroadcastRun toLowerCase next.request (lastReceipt runs) = .ok plan ∧
    ∃ target ∈ plan.targets, target.instanceId ∈ succeededIn runs

/-- An instance passes all checks of the next run again which succeeded before the
last run, and which the last run lists as skipped and not as succeeded. -/
def Recalls (toLowerCase : String → String) (runs : List BroadcastRun)
    (next : BroadcastChainStep) : Prop :=
  ∃ last earlier checks receipt source, runs = last :: earlier ∧
    next.request.checks (some last.receipt) = .ok (checks, receipt) ∧
    source ∈ filterInstancesForSelector toLowerCase next.request.fleet checks.selector ∧
    checks.Passes toLowerCase source ∧
    source.instanceId ∈ succeededIn earlier ∧
    (∃ skipped ∈ last.plan.skippedTargets, jsTrim skipped.instanceId = source.instanceId) ∧
    ∀ record ∈ last.records, record.status = .succeeded →
      jsTrim record.instanceId ≠ source.instanceId

variable {runs : List BroadcastRun} {next : BroadcastChainStep}

lemma mem_succeeded {run : BroadcastRun} {instanceId : String} :
    instanceId ∈ run.succeeded ↔
      ∃ record ∈ run.records, record.status = .succeeded ∧ record.instanceId = instanceId := by
  simp [succeeded, mem_map, mem_filter, decide_eq_true_eq, and_assoc]

lemma retry_reasonCodes {last : BroadcastRun} {receipt : NormalizedRetryReceipt}
    {request : BroadcastRunRequest} (recorded : last.records ≠ [])
    (accepted : request.checks (some last.receipt) = .ok (checks, receipt)) (instanceId : String) :
    receipt.reasonCodes instanceId = [] ↔
      last.receipt.Names instanceId ∧ ¬last.receipt.Finishes instanceId := by
  obtain ⟨valid, validated, rfl⟩ := checks_ok accepted
  obtain ⟨none, -⟩ | ⟨raw, same, rfl, visible⟩ := validate_ok validated
  · cases none
  cases same
  have known {instanceId : String} : instanceId ∈
      (normalizeBroadcastRetryReceipt last.receipt.normalize).previousTargetIds ↔
        last.receipt.Names instanceId := by
    rw [mem_previousTargetIds, names_normalize]
    exact ⟨fun both => both.1.1, fun names => ⟨⟨names, visible _ names⟩, visible _ names⟩⟩
  have requested :
      (normalizeBroadcastRetryReceipt last.receipt.normalize).requested = true := by
    obtain ⟨record, member⟩ := exists_mem_of_ne_nil _ recorded
    have names : last.receipt.Names (jsTrim record.instanceId) := .inl ⟨record, member, rfl⟩
    exact decide_eq_true (length_pos_of_mem (known.mpr names))
  rw [NormalizedRetryReceipt.reasonCodes_eq_nil, known,
    mem_previousSucceededIds, finishes_normalize]
  constructor
  · intro allowed
    obtain ⟨names, unfinished⟩ := allowed requested
    exact ⟨names, fun finishes => unfinished ⟨⟨finishes, visible _ names⟩, visible _ names⟩⟩
  · rintro ⟨names, unfinished⟩ -
    exact ⟨names, fun finished => unfinished finished.1.1⟩

/-- The last run has records, and if it was a retry it planned only targets whose
ids are trimmed and that had not succeeded before. -/
def LastFresh : List BroadcastRun → Prop
  | [] => True
  | last :: earlier => last.records ≠ [] ∧
      (earlier ≠ [] → ∀ record ∈ last.records,
        jsTrim record.instanceId = record.instanceId ∧ record.instanceId ∉ succeededIn earlier)

def LastRecorded : List BroadcastRun → Prop
  | [] => True
  | last :: _ => last.records ≠ []

lemma target_planned {plan : BroadcastRunPlan} {request : BroadcastRunRequest}
    {retryReceipt : Option BroadcastRetryReceipt}
    (made : planBroadcastRun toLowerCase request retryReceipt = .ok plan)
    {target : BroadcastPlannedTarget} (member : target ∈ plan.targets) :
    ∃ checks receipt source, request.checks retryReceipt = .ok (checks, receipt) ∧
      target.instanceId = source.instanceId ∧
      source ∈ planned toLowerCase request.fleet checks receipt ∧
      checks = ⟨plan.policy, plan.selector, plan.broadcastIntent⟩ := by
  obtain ⟨checks, receipt, accepted, selector, policy, intent, -, -, targets, -⟩ := plan_ok made
  rw [targets] at member
  obtain ⟨index, bound, rfl⟩ := mem_mapIdx.mp member
  refine ⟨checks, receipt, _, accepted, rfl, getElem_mem bound, ?_⟩
  rw [policy, selector, intent]

lemma retry_target {plan : BroadcastRunPlan} {request : BroadcastRunRequest}
    {last : BroadcastRun} (recorded : last.records ≠ [])
    (made : planBroadcastRun toLowerCase request (some last.receipt) = .ok plan)
    {target : BroadcastPlannedTarget} (member : target ∈ plan.targets) :
    last.receipt.Names target.instanceId ∧ ¬last.receipt.Finishes target.instanceId := by
  obtain ⟨checks, receipt, source, accepted, same, left, -⟩ := target_planned made member
  rw [same]
  exact (retry_reasonCodes recorded accepted source.instanceId).mp (mem_planned.mp left).2.1

lemma Names.trimmed {receipt : BroadcastRetryReceipt} {instanceId : String}
    (names : receipt.Names instanceId) : jsTrim instanceId = instanceId := by
  rcases names with ⟨item, -, rfl⟩ | ⟨item, -, rfl⟩
  · exact jsTrim_jsTrim _
  · exact jsTrim_jsTrim _

lemma broadcast_sound (recorded : LastRecorded runs) {request : BroadcastRunRequest}
    {plan : BroadcastRunPlan}
    (made : planBroadcastRun toLowerCase request (lastReceipt runs) = .ok plan) :
    PlanSound toLowerCase runs request plan where
  once := by
    obtain ⟨checks, receipt, accepted, selector, -, -, -, -, targets, skipped⟩ := plan_ok made
    have ids : plan.targets.map (·.instanceId) =
        (planned toLowerCase request.fleet checks receipt).map (·.instanceId) := by
      rw [targets]
      refine ext_getElem? fun index => ?_
      rw [getElem?_map, getElem?_mapIdx, getElem?_map, Option.map_map]
      rfl
    rw [ids, skipped, selector, ← map_append]
    exact (filter_append_perm _ _).map _
  eligible target member := by
    obtain ⟨checks, receipt, source, accepted, same, left, rfl⟩ := target_planned made member
    obtain ⟨selected, -, passes⟩ := mem_planned.mp left
    exact ⟨source, selected, same, passes⟩
  named receipt given target member := by
    cases runs with
    | nil => cases given
    | cons last earlier =>
      cases given
      exact (retry_target recorded made member).1

lemma mem_records {plan : BroadcastRunPlan}
    {outcome : Nat → BroadcastTargetStatus × List BroadcastTargetStatus}
    {record : BroadcastReceiptTarget} (member : record ∈ (execute plan outcome).records) :
    ∃ target ∈ plan.targets, record.instanceId = target.instanceId := by
  obtain ⟨target, there, inside⟩ := mem_flatMap.mp member
  obtain ⟨status, -, rfl⟩ := mem_map.mp inside
  exact ⟨target, there, rfl⟩

lemma records_ne_nil {retryReceipt : Option BroadcastRetryReceipt} {request : BroadcastRunRequest}
    {plan : BroadcastRunPlan}
    (made : planBroadcastRun toLowerCase request retryReceipt = .ok plan)
    (outcome : Nat → BroadcastTargetStatus × List BroadcastTargetStatus) :
    (execute plan outcome).records ≠ [] := by
  obtain ⟨checks, receipt, -, -, -, -, -, some, targets, -⟩ := plan_ok made
  have positive : plan.targets ≠ [] := by
    rw [targets, ne_eq, mapIdx_eq_nil_iff]
    exact some
  obtain ⟨target, member⟩ := exists_mem_of_ne_nil _ positive
  have first : (⟨target.instanceId, (outcome target.broadcastIndex).1, target.sessionId⟩ :
      BroadcastReceiptTarget) ∈ (execute plan outcome).records :=
    mem_flatMap.mpr ⟨target, member, mem_cons_self⟩
  exact ne_nil_of_mem first

lemma not_repeats (fresh : LastFresh runs) (unrecalled : ¬Recalls toLowerCase runs next) :
    ¬Repeats toLowerCase runs next := by
  rintro ⟨plan, made, target, member, succeeded⟩
  cases runs with
  | nil => cases succeeded
  | cons last earlier =>
    obtain ⟨recorded, others⟩ := fresh
    obtain ⟨names, unfinished⟩ := retry_target recorded made member
    have trimmed := Names.trimmed names
    rw [succeededIn, flatMap_cons, mem_append] at succeeded
    rcases succeeded with now | before
    · obtain ⟨record, inside, ended, same⟩ := mem_succeeded.mp now
      exact unfinished ⟨record, inside, ended, by rw [same, trimmed]⟩
    · rw [← succeededIn] at before
      have retried : earlier ≠ [] := by
        rintro rfl
        cases before
      rcases names with ⟨record, inside, same⟩ | ⟨item, inside, same⟩
      · obtain ⟨plain, new⟩ := others retried record inside
        rw [plain] at same
        exact new (same ▸ before)
      · obtain ⟨skipped, listed, rfl⟩ := mem_map.mp inside
        obtain ⟨checks, receipt, source, accepted, id, left, -⟩ := target_planned made member
        obtain ⟨selected, -, passes⟩ := mem_planned.mp left
        rw [id] at same unfinished before
        exact unrecalled ⟨last, earlier, checks, receipt, source, rfl, accepted, selected, passes,
          before, ⟨skipped, listed, same⟩, fun record inside ended equal =>
            unfinished ⟨record, inside, ended, equal⟩⟩

lemma repeats_of_recalls (recorded : LastRecorded runs)
    (recalled : Recalls toLowerCase runs next) : Repeats toLowerCase runs next := by
  obtain ⟨last, earlier, checks, receipt, source, rfl, accepted, selected, passes, before,
    ⟨skipped, listed, same⟩, unfinished⟩ := recalled
  have allowed := (retry_reasonCodes recorded accepted source.instanceId).mpr
    ⟨.inr ⟨_, mem_map_of_mem listed, same⟩, fun ⟨record, inside, ended, equal⟩ =>
      unfinished record inside ended equal⟩
  obtain ⟨plan, made, target, member, id⟩ :=
    plan_of_planned accepted (mem_planned.mpr ⟨selected, allowed, passes⟩)
  refine ⟨plan, made, target, member, ?_⟩
  rw [id, succeededIn, flatMap_cons]
  exact mem_append_right _ before

lemma lastRecorded_step (recorded : LastRecorded runs) :
    LastRecorded (broadcastChainStep toLowerCase runs next).1 := by
  unfold broadcastChainStep
  cases made : planBroadcastRun toLowerCase next.request (runs.head?.map receipt) with
  | error error => exact recorded
  | ok plan => exact records_ne_nil made next.outcome

lemma lastFresh_step (fresh : LastFresh runs) (unrepeated : ¬Repeats toLowerCase runs next) :
    LastFresh (broadcastChainStep toLowerCase runs next).1 := by
  unfold broadcastChainStep
  cases made : planBroadcastRun toLowerCase next.request (runs.head?.map receipt) with
  | error error => exact fresh
  | ok plan =>
    refine ⟨records_ne_nil made next.outcome, fun retried record inside => ?_⟩
    obtain ⟨target, member, same⟩ := mem_records inside
    rw [same]
    refine ⟨?_, fun before => unrepeated ⟨plan, made, target, member, before⟩⟩
    cases runs with
    | nil => exact absurd rfl retried
    | cons last earlier => exact Names.trimmed (retry_target fresh.1 made member).1

/-- Every plan of a chain is sound, and no run of a chain repeats a success if and
only if none recalls an instance that the run before it lists as skipped and that
succeeded before that run. -/
theorem broadcast_retry_iff (toLowerCase : String → String) (steps : List BroadcastChainStep) :
    Machine.Along (broadcastChainStep toLowerCase) (fun runs next =>
      ∀ plan, (broadcastChainStep toLowerCase runs next).2 = .ok plan →
        PlanSound toLowerCase runs next.request plan) [] steps ∧
    (Machine.Along (broadcastChainStep toLowerCase)
        (fun runs next => ¬Repeats toLowerCase runs next) [] steps ↔
      Machine.Along (broadcastChainStep toLowerCase)
        (fun runs next => ¬Recalls toLowerCase runs next) [] steps) := by
  have start : LastRecorded [] := trivial
  refine ⟨?_, fun along => ?_, fun along => ?_⟩
  · refine Machine.Along.imp (fun runs next recorded _ => lastRecorded_step recorded)
      (fun runs next recorded _ plan made => broadcast_sound recorded ?_) start
      (Machine.along_of_forall (fun _ _ => trivial) [] steps)
    unfold broadcastChainStep at made
    unfold lastReceipt
    cases result : planBroadcastRun toLowerCase next.request
      (runs.head?.map receipt) with
    | error error =>
      rw [result] at made
      cases made
    | ok plan' =>
      rw [result] at made
      cases made
      rfl
  · exact Machine.Along.imp (fun runs next recorded _ => lastRecorded_step recorded)
      (fun runs next recorded unrepeated recalled =>
        unrepeated (repeats_of_recalls recorded recalled)) start along
  · have start : LastFresh [] := trivial
    exact Machine.Along.imp
      (fun runs next fresh unrecalled => lastFresh_step fresh (not_repeats fresh unrecalled))
      (fun runs next fresh unrecalled => not_repeats fresh unrecalled) start along

/-! ## A chain of three runs -/

/-- An instance that passes every check of a screen capture. -/
def sampleInstance (instanceId : String) : ProjectedInstance where
  instanceId
  nodeId := instanceId
  instanceAlias := instanceId
  displayName := instanceId
  sessionId := none
  location := .remote
  supportProfile := .desktopInteractive
  platform := none
  state := .online
  trustState := .trusted
  scopeAccess := .allowed
  supportedMethods := ["screen.capture"]

/-- A screen capture of all that is online, whose target at an index succeeds. -/
def sampleStep (succeeds : Nat) : BroadcastChainStep where
  request := {
    toolName := .screenCapture
    targetSelector := .allOnline
    broadcastIntent := some ⟨true, none, [], []⟩
    policy := none
    fleet := [sampleInstance "a", sampleInstance "b"]
    broadcastRunId := "run" }
  outcome index := (if index = succeeds then .succeeded else .failed, [])

/-- `a` succeeds in the first run and is skipped in the second, where `b` fails again;
the third plans both. -/
theorem second_retry_repeats :
    (((Machine.trace (broadcastChainStep id) [] [sampleStep 0, sampleStep 1, sampleStep 1]).map
      fun result => match result with
        | .ok plan => plan.targets.map (·.instanceId)
        | .error _ => []) = [["a", "b"], ["b"], ["a", "b"]]) ∧
    succeededIn (Machine.run (broadcastChainStep id) [] [sampleStep 0, sampleStep 1]) = ["a"] := by
  decide

end Knowbee
