import Knowbee.Approval.RegistryRuns

/-!
# Grants along runs

The calls of the registry as a machine.  An observation grants an approval, or
says how it was decided; of these, a run holds no two that exclude each other.
-/

namespace Knowbee.Approval

open ApprovalRegistryRow ApprovalRegistry List Machine ApprovalRegistryStatus

inductive ApprovalAction (Params : Type) where
  | create (input : CreateApprovalRegistryRequestInput Params) (now : Int)
  | expire (approvalId : String) (now : Int)
  | resolve (approvalId : String) (decision : ApprovalDecision) (decisionBy : Option String)
      (decisionSource : String) (now : Int)
  | consume (approvalId : String) (now : Int) (expected : Option (ApprovalConsumptionScope Params))
  | acquire (expected : ApprovalConsumptionScope Params) (now : Int)
  | attach (approvalId channelMessageId : String) (now : Int)

inductive ApprovalObservation where
  | created (row : Option ApprovalRegistryRow)
  | expired (result : DecisionResult)
  | resolved (approvalId : String) (result : DecisionResult)
  | consumed (approvalId : String) (result : DecisionResult)
  | acquired (result : GrantAcquisition)
  | attached (changed : Bool)

section

variable {Params : Type} (hash : Params → String)

def approvalStep (registry : ApprovalRegistry) :
    ApprovalAction Params → ApprovalRegistry × ApprovalObservation
  | .create input now =>
    let (next, row) := createApprovalRegistryRequest hash registry input now
    (next, .created row)
  | .expire approvalId now =>
    let (next, result) := expireApprovalRegistryRequest registry approvalId now
    (next, .expired result)
  | .resolve approvalId decision decisionBy decisionSource now =>
    let (next, result) :=
      resolveApprovalRegistryDecision registry approvalId decision decisionBy decisionSource now
    (next, .resolved approvalId result)
  | .consume approvalId now expected =>
    let (next, result) := consumeApprovalRegistryDecision hash registry approvalId now expected
    (next, .consumed approvalId result)
  | .acquire expected now =>
    let (next, result) := acquireApprovalRegistryGrant hash registry expected now
    (next, .acquired result)
  | .attach approvalId channelMessageId now =>
    let (next, changed) := attachApprovalChannelMessage registry approvalId channelMessageId now
    (next, .attached changed)

def ApprovalAction.grantTime : ApprovalAction Params → Option Int
  | .consume _ now _ | .acquire _ now => some now
  | _ => none

def ApprovalAction.grantScope : ApprovalAction Params → Option (ApprovalConsumptionScope Params)
  | .consume _ _ expected => expected
  | .acquire expected _ => some expected
  | _ => none

def ApprovalObservation.granted : ApprovalObservation → Option (String × ApprovalDecision)
  | .consumed approvalId result =>
    if result.accepted then result.decision.map (approvalId, ·) else none
  | .acquired (.acquired decision approvalId _ _) => some (approvalId, decision)
  | _ => none

def ApprovalObservation.decided : ApprovalObservation → Option (String × ApprovalDecision)
  | .resolved approvalId result =>
    if result.accepted then result.decision.map (approvalId, ·) else none
  | _ => none

/-- What a granting step finds: an open approval of the scope that is asked for. -/
structure GrantedBy (registry : ApprovalRegistry) (action : ApprovalAction Params)
    (decision : ApprovalDecision) (row : ApprovalRegistryRow) : Prop where
  held : row ∈ registry.rows
  unexpired : ∀ now ∈ action.grantTime, ¬row.expiredAt now
  scope : ∀ scope ∈ action.grantScope, approvalScopeMatches hash row scope
  status : row.status.approved ∧ decision = grantDecision row ∨
    GrantedAgain row ∧ decision = .allowRun

variable {action : ApprovalAction Params} {decision : ApprovalDecision}
  {registry first second : ApprovalRegistry} {row : ApprovalRegistryRow} {runId toolName : String}

lemma approvalStep_granted {id : String}
    (granted : (approvalStep hash registry action).2.granted = some (id, decision)) :
    ∃ row, row.id = id ∧ GrantedBy hash registry action decision row ∧
      ∃ later ∈ (approvalStep hash registry action).1.rows,
        later.id = id ∧ later.status = .consumed := by
  cases action with
  | consume approvalId now expected =>
    obtain ⟨refused, -⟩ | ⟨row, held, rfl, past, approved, matched, same⟩ :=
      consumeApprovalRegistryDecision_cases hash registry approvalId now expected
    · simp only [approvalStep, ApprovalObservation.granted, refused] at granted
      cases granted
    · simp only [approvalStep, same] at granted ⊢
      cases granted
      refine ⟨row, rfl, ⟨held, ?_, matched, .inl ⟨approved, rfl⟩⟩, exists_consumed held approved now⟩
      rintro _ ⟨⟩
      exact past
  | acquire expected now =>
    have unexpired (row : ApprovalRegistryRow) (past : ¬row.expiredAt now) :
        ∀ time ∈ (ApprovalAction.acquire expected now).grantTime, ¬row.expiredAt time := by
      rintro _ ⟨⟩
      exact past
    have scope row (matched : approvalScopeMatches hash row expected) :
        ∀ scope ∈ (ApprovalAction.acquire expected now).grantScope,
          approvalScopeMatches hash row scope := by
      rintro _ ⟨⟩
      exact matched
    obtain ⟨refusal, mem, same⟩ | ⟨row, held, past, matched,
        ⟨again, same⟩ | ⟨approved, later, same⟩⟩ :=
      acquireApprovalRegistryGrant_cases hash registry expected now
    · simp only [approvalStep, same] at granted
      obtain rfl | rfl : refusal = .notFound ∨ refusal = .scopeMismatch := by simpa using mem
      · cases granted
      · cases granted
    · simp only [approvalStep, same] at granted ⊢
      cases granted
      exact ⟨row, rfl, ⟨held, unexpired row past, scope row matched, .inr ⟨again, rfl⟩⟩, row, held, rfl,
        again.1⟩
    · simp only [approvalStep, same] at granted ⊢
      cases granted
      exact ⟨row, rfl, ⟨held, unexpired row past, scope row matched, .inl ⟨approved, rfl⟩⟩,
        exists_consumed held approved now⟩
  | create | expire | resolve | attach => cases granted

lemma approvalStep_advances (registry : ApprovalRegistry) (action : ApprovalAction Params) :
    Advances registry (approvalStep hash registry action).1 := by
  cases action with
  | create input now => exact createApprovalRegistryRequest_advances hash registry input now
  | expire approvalId now => exact expireApprovalRegistryRequest_advances registry approvalId now
  | resolve approvalId decision decisionBy decisionSource now =>
    exact resolveApprovalRegistryDecision_advances registry approvalId decision decisionBy
      decisionSource now
  | consume approvalId now expected =>
    obtain ⟨-, advances⟩ | ⟨row, -, -, -, -, -, same⟩ :=
      consumeApprovalRegistryDecision_cases hash registry approvalId now expected
    · exact advances
    · simp only [approvalStep, same]
      exact consumedRegistry_advances registry approvalId now
  | acquire expected now =>
    obtain ⟨refusal, -, same⟩ | ⟨row, -, -, -, ⟨-, same⟩ | ⟨-, later, same⟩⟩ :=
      acquireApprovalRegistryGrant_cases hash registry expected now
    · simp only [approvalStep, same]
      exact .refl registry
    · simp only [approvalStep, same]
      exact .refl registry
    · simp only [approvalStep, same]
      exact consumedRegistry_advances registry row.id now
  | attach approvalId channelMessageId now =>
    exact update_advances (fun row _ _ => ⟨rfl, rfl, row.status.mem_onward_self, fun _ => rfl⟩)
      fun _ _ _ sound => sound

lemma run_advances (registry : ApprovalRegistry) (actions : List (ApprovalAction Params)) :
    Advances registry (run (approvalStep hash) registry actions) := by
  have keep : ∀ reached action,
      Advances registry reached → Advances registry (approvalStep hash reached action).1 :=
    fun reached action advances => advances.trans (approvalStep_advances hash reached action)
  exact run_invariant keep (.refl registry) actions

lemma GrantedBy.decided (granted : GrantedBy hash registry action decision row)
    (sound : registry.Sound) : row.decided = some decision.text := by
  obtain ⟨approved, rfl⟩ | ⟨again, rfl⟩ := granted.status
  · exact decided_grantDecision approved (sound row granted.held)
  · exact again.2

lemma GrantedBy.not_dead (granted : GrantedBy hash registry action decision row) :
    row.status ∉ [requested, .denied, .expired, .superseded] := by
  obtain ⟨approved, -⟩ | ⟨again, -⟩ := granted.status
  · revert approved
    cases row.status <;> decide
  · rw [again.1]
    decide

lemma resolve_decided {approvalId : String} {decisionBy : Option String}
    {decisionSource : String} {now : Int}
    (accepted : (resolveApprovalRegistryDecision registry approvalId decision decisionBy
      decisionSource now).2.accepted) :
    (resolveApprovalRegistryDecision registry approvalId decision decisionBy decisionSource
          now).2.decision = some decision ∧
      ∃ later ∈ (resolveApprovalRegistryDecision registry approvalId decision decisionBy
          decisionSource now).1.rows,
        later.id = approvalId ∧ later.status ≠ .requested ∧ later.decided = some decision.text := by
  unfold resolveApprovalRegistryDecision at accepted ⊢
  cases found : registry.find? approvalId with
  | none => simp only [found] at accepted; cases accepted
  | some row =>
    simp only [found] at accepted ⊢
    split_ifs at accepted ⊢ with past requested
    · obtain ⟨held, named⟩ := find?_eq_some_iff.mp found
      refine ⟨rfl, _, mem_map_of_mem held, ?_⟩
      have chosen : (row.id = approvalId && row.status = .requested) = true := by
        simp [named, requested]
      rw [updateRow, if_pos chosen]
      refine ⟨named, ?_, rfl⟩
      show decision.status ≠ .requested
      cases decision <;> decide

/-! ## What observations exclude -/

lemma ApprovalDecision.text_injective {first second : ApprovalDecision}
    (same : some first.text = some second.text) : first = second := by
  revert same
  cases first <;> cases second <;> decide

structure ApprovalObservation.Holds (seen : ApprovalObservation) (registry : ApprovalRegistry) :
    Prop where
  granted : ∀ id decision, seen.granted = some (id, decision) → ∃ row ∈ registry.rows,
    row.id = id ∧ row.status = .consumed ∧ row.decided = some decision.text
  decided : ∀ id decision, seen.decided = some (id, decision) → ∃ row ∈ registry.rows,
    row.id = id ∧ row.status ≠ .requested ∧ row.decided = some decision.text

lemma ApprovalObservation.Holds.continues {seen : ApprovalObservation}
    (holds : seen.Holds first) (continues : Continues first second) : seen.Holds second := by
  constructor
  · intro id decision granted
    obtain ⟨row, held, named, consumed, decided⟩ := holds.granted id decision granted
    obtain ⟨later, held', follows⟩ := continues row held
    have past : row.status ≠ .requested := by rw [consumed]; decide
    have onward := follows.status
    rw [consumed] at onward
    exact ⟨later, held', (congrArg ApprovalRequest.id follows.request).trans named,
      mem_singleton.mp onward, (follows.decided past).trans decided⟩
  · intro id decision resolved
    obtain ⟨row, held, named, past, decided⟩ := holds.decided id decision resolved
    obtain ⟨later, held', follows⟩ := continues row held
    exact ⟨later, held', (congrArg ApprovalRequest.id follows.request).trans named,
      follows.not_requested past, (follows.decided past).trans decided⟩

/-- Two grants of an approval are both for the run, a grant is by the decision the
approval got before, and this is not a denial. -/
def ApprovalObservation.Apart (seen later : ApprovalObservation) : Prop :=
  ∀ id decision, later.granted = some (id, decision) → decision ≠ .deny ∧
    (∀ earlier, seen.granted = some (id, earlier) → earlier = .allowRun ∧ decision = .allowRun) ∧
    ∀ earlier, seen.decided = some (id, earlier) → earlier = decision

lemma approvalStep_holds (sound : registry.Sound) (action : ApprovalAction Params) :
    (approvalStep hash registry action).2.Holds (approvalStep hash registry action).1 := by
  have advances := approvalStep_advances hash registry action
  constructor
  · intro id decision granted
    obtain ⟨row, rfl, by', later, held, named, consumed⟩ := approvalStep_granted hash granted
    obtain ⟨after, held', follows⟩ := advances.continues row by'.held
    have same : after = later :=
      row_ext held' held ((congrArg ApprovalRequest.id follows.request).trans named.symm)
    have past : row.status ≠ .requested := fun requested =>
      GrantedBy.not_dead hash by' (by rw [requested]; decide)
    exact ⟨later, held, named, consumed,
      same ▸ (follows.decided past).trans (GrantedBy.decided hash by' sound)⟩
  · intro id decision resolved
    cases action with
    | resolve approvalId given decisionBy decisionSource now =>
      simp only [approvalStep, ApprovalObservation.decided] at resolved ⊢
      split_ifs at resolved with accepted
      obtain ⟨answer, later⟩ := resolve_decided accepted
      rw [answer] at resolved
      cases resolved
      exact later
    | create | expire | consume | acquire | attach => cases resolved

lemma approvalStep_apart (sound : registry.Sound) {seen : ApprovalObservation}
    (holds : seen.Holds registry) (action : ApprovalAction Params) :
    seen.Apart (approvalStep hash registry action).2 := by
  intro id decision granted
  obtain ⟨row, rfl, by', -⟩ := approvalStep_granted hash granted
  have found := GrantedBy.decided hash by' sound
  refine ⟨?_, fun earlier granted' => ?_, fun earlier resolved => ?_⟩
  · obtain ⟨-, rfl⟩ | ⟨-, rfl⟩ := by'.status
    · unfold grantDecision
      split_ifs <;> decide
    · decide
  · obtain ⟨other, held, named, consumed, decided⟩ := holds.granted _ _ granted'
    obtain rfl := row_ext held by'.held named
    have again : GrantedAgain other ∧ decision = .allowRun :=
      by'.status.resolve_left fun approved => by
        have := approved.1
        rw [consumed] at this
        cases this
    have same : earlier = decision := ApprovalDecision.text_injective (decided.symm.trans found)
    exact ⟨same.trans again.2, again.2⟩
  · obtain ⟨other, held, named, -, decided⟩ := holds.decided _ _ resolved
    obtain rfl := row_ext held by'.held named
    exact ApprovalDecision.text_injective (decided.symm.trans found)

lemma trace_apart (sound : registry.Sound) (actions : List (ApprovalAction Params)) :
    (trace (approvalStep hash) registry actions).Pairwise ApprovalObservation.Apart :=
  trace_pairwise ApprovalRegistry.Sound (fun seen reached => seen.Holds reached)
    (fun reached action => (approvalStep_advances hash reached action).sound)
    (fun _ action sound => approvalStep_holds hash sound action)
    (fun _ reached action _ holds =>
      holds.continues (approvalStep_advances hash reached action).continues)
    (fun _ _ action sound holds => approvalStep_apart hash sound holds action)
    sound actions

lemma trace_not_granted (held : row ∈ registry.rows)
    (past : row.status ∈ [denied, .expired, .superseded])
    (actions : List (ApprovalAction Params)) :
    ∀ seen ∈ trace (approvalStep hash) registry actions, ∀ decision,
      seen.granted ≠ some (row.id, decision) := by
  have stays : ∀ reached action,
      (∃ later ∈ reached.rows, later.id = row.id ∧ later.status = row.status) →
        ∃ later ∈ (approvalStep hash reached action).1.rows,
          later.id = row.id ∧ later.status = row.status := by
    rintro reached action ⟨later, held', named, same⟩
    obtain ⟨last, held'', follows⟩ := (approvalStep_advances hash reached action).continues _ held'
    have onward := follows.status
    rw [same] at onward
    refine ⟨last, held'', (congrArg ApprovalRequest.id follows.request).trans named, ?_⟩
    revert past onward
    cases row.status <;> simp [onward]
  refine trace_forall _ stays (fun reached action there decision granted => ?_)
    ⟨row, held, rfl, rfl⟩ actions
  obtain ⟨later, held', named, same⟩ := there
  obtain ⟨found, named', by', -⟩ := approvalStep_granted hash granted
  obtain rfl := row_ext held' by'.held (named.trans named'.symm)
  have alive := GrantedBy.not_dead hash by'
  rw [same] at alive
  exact alive (mem_cons_of_mem _ past)

/-! ## Pending requests -/

/-- The pending requests of a table were pending in an earlier one. -/
def PendingFrom (first second : ApprovalRegistry) : Prop :=
  ∀ later ∈ second.rows, later.status = .requested →
    ∃ row ∈ first.rows, row.request = later.request ∧ row.status = .requested

lemma PendingFrom.refl (registry : ApprovalRegistry) : PendingFrom registry registry :=
  fun row held pending => ⟨row, held, rfl, pending⟩

lemma update_pendingFrom (registry : ApprovalRegistry) (selected : ApprovalRegistryRow → Bool)
    {change : ApprovalState → ApprovalState}
    (pending : ∀ state, (change state).status = .requested → state.status = .requested) :
    PendingFrom registry (registry.update selected change) := by
  intro later mem requested
  obtain ⟨row, held, rfl⟩ := mem_map.mp mem
  unfold updateRow at requested ⊢
  split_ifs at requested ⊢
  · exact ⟨row, held, rfl, pending _ requested⟩
  · exact ⟨row, held, rfl, requested⟩

lemma over_of_status (status : ApprovalRegistryStatus) (past : status ≠ .requested)
    {change : ApprovalState → ApprovalState} (same : ∀ state, (change state).status = status)
    (state : ApprovalState) (requested : (change state).status = .requested) :
    state.status = .requested :=
  absurd ((same state).symm.trans requested) past

lemma expire_pendingFrom (registry : ApprovalRegistry) (approvalId : String) (now : Int) :
    PendingFrom registry (expireApprovalRegistryRequest registry approvalId now).1 := by
  unfold expireApprovalRegistryRequest
  cases registry.find? approvalId with
  | none => exact .refl registry
  | some row =>
    simp only
    split_ifs
    · exact update_pendingFrom registry _ (over_of_status .expired (by decide) fun _ => rfl)
    · exact .refl registry

lemma consumedRegistry_pendingFrom (registry : ApprovalRegistry) (approvalId : String)
    (now : Int) : PendingFrom registry (consumedRegistry registry approvalId now) :=
  update_pendingFrom registry _ (over_of_status .consumed (by decide) fun _ => rfl)

lemma approvalStep_pendingFrom (registry : ApprovalRegistry)
    (kept : ∀ input now, action ≠ .create input now) :
    PendingFrom registry (approvalStep hash registry action).1 := by
  cases action with
  | create input now => exact absurd rfl (kept input now)
  | expire approvalId now => exact expire_pendingFrom registry approvalId now
  | resolve approvalId decision decisionBy decisionSource now =>
    simp only [approvalStep, resolveApprovalRegistryDecision]
    cases registry.find? approvalId with
    | none => exact .refl registry
    | some row =>
      simp only
      split_ifs
      · exact expire_pendingFrom registry row.id now
      · have past : decision.status ≠ .requested := by cases decision <;> decide
        exact update_pendingFrom registry _ (over_of_status decision.status past fun _ => rfl)
      · exact .refl registry
  | consume approvalId now expected =>
    simp only [approvalStep, consumeApprovalRegistryDecision]
    cases registry.find? approvalId with
    | none => exact .refl registry
    | some row =>
      simp only
      split_ifs
      · exact update_pendingFrom registry _ (over_of_status .expired (by decide) fun _ => rfl)
      · exact .refl registry
      · exact consumedRegistry_pendingFrom registry approvalId now
      · exact .refl registry
  | acquire expected now =>
    obtain ⟨refusal, -, same⟩ | ⟨row, -, -, -, ⟨-, same⟩ | ⟨-, later, same⟩⟩ :=
      acquireApprovalRegistryGrant_cases hash registry expected now
    · simp only [approvalStep, same]
      exact .refl registry
    · simp only [approvalStep, same]
      exact .refl registry
    · simp only [approvalStep, same]
      exact consumedRegistry_pendingFrom registry row.id now
  | attach approvalId channelMessageId now => exact update_pendingFrom registry _ fun _ => id

structure PendingFor (registry : ApprovalRegistry) (runId toolName : String)
    (row : ApprovalRegistryRow) : Prop where
  held : row ∈ registry.rows
  requested : row.status = .requested
  run : row.request.runId = runId
  tool : row.request.toolName = toolName

/-- A run and a tool have one pending request at most. -/
def OnePending (runId toolName : String) (registry : ApprovalRegistry) : Prop :=
  ∀ first second, PendingFor registry runId toolName first →
    PendingFor registry runId toolName second → first = second

lemma PendingFrom.pendingFor {later : ApprovalRegistryRow} (origin : PendingFrom first second)
    (pending : PendingFor second runId toolName later) :
    ∃ row, row.request = later.request ∧ PendingFor first runId toolName row := by
  obtain ⟨row, held, same, requested⟩ := origin later pending.held pending.requested
  exact ⟨row, same, held, requested, same ▸ pending.run, same ▸ pending.tool⟩

lemma OnePending.of_pendingFrom (one : OnePending runId toolName first)
    (origin : PendingFrom first second) : OnePending runId toolName second := by
  intro later later' pending pending'
  obtain ⟨row, same, found⟩ := origin.pendingFor pending
  obtain ⟨row', same', found'⟩ := origin.pendingFor pending'
  have requests : later.request = later'.request := by
    rw [← same, ← same', one row row' found found']
  exact row_ext pending.held pending'.held (congrArg ApprovalRequest.id requests)

lemma supersedePending_none (registry : ApprovalRegistry)
    {input : CreateApprovalRegistryRequestInput Params} (now : Int)
    (supersedes : input.supersedePending.getD true = true) (row : ApprovalRegistryRow) :
    ¬PendingFor (supersedePending registry input now) input.runId input.toolName row := by
  rintro ⟨held, requested, run, tool⟩
  rw [supersedePending, if_pos supersedes] at held
  obtain ⟨old, -, rfl⟩ := mem_map.mp held
  unfold updateRow at requested run tool
  split_ifs at requested run tool with chosen
  · cases requested
  · simp [requested, run, tool] at chosen

/-- A creation for a run and a tool that leaves other requests pending. -/
def ApprovalAction.Supersedes (runId toolName : String) : ApprovalAction Params → Prop
  | .create input _ =>
    input.runId = runId → input.toolName = toolName → input.supersedePending.getD true = true
  | _ => True

lemma create_onePending (one : OnePending runId toolName registry)
    (input : CreateApprovalRegistryRequestInput Params) (now : Int)
    (supersedes : input.runId = runId → input.toolName = toolName →
      input.supersedePending.getD true = true) :
    OnePending runId toolName (createApprovalRegistryRequest hash registry input now).1 := by
  have origin : PendingFrom registry (supersedePending registry input now) := by
    unfold supersedePending
    split_ifs
    · exact update_pendingFrom registry _ (over_of_status .superseded (by decide) fun _ => rfl)
    · exact .refl registry
  have kept := one.of_pendingFrom origin
  unfold createApprovalRegistryRequest
  cases inserted : (supersedePending registry input now).insert (createdRow hash input now) with
  | none =>
    simp only [inserted]
    exact kept
  | some stored =>
    simp only [inserted]
    have rows := insert_eq_some inserted
    have old row (pending : PendingFor stored runId toolName row)
        (other : row ≠ createdRow hash input now) :
        PendingFor (supersedePending registry input now) runId toolName row := by
      have held := pending.held
      rw [rows] at held
      have held' := (mem_append.mp held).resolve_right (other ∘ mem_singleton.mp)
      exact ⟨held', pending.requested, pending.run, pending.tool⟩
    by_cases own : input.runId = runId ∧ input.toolName = toolName
    · obtain ⟨rfl, rfl⟩ := own
      have new row
          (pending : PendingFor stored input.runId input.toolName row) :
          row = createdRow hash input now := by
        by_contra other
        exact supersedePending_none registry now (supersedes rfl rfl) row (old row pending other)
      exact fun first second pending pending' => (new first pending).trans (new second pending').symm
    · have other row (pending : PendingFor stored runId toolName row) :
          row ≠ createdRow hash input now := by
        rintro rfl
        exact own ⟨pending.run, pending.tool⟩
      exact fun first second pending pending' =>
        kept first second (old first pending (other first pending))
          (old second pending' (other second pending'))

lemma approvalStep_onePending (one : OnePending runId toolName registry)
    (supersedes : action.Supersedes runId toolName) :
    OnePending runId toolName (approvalStep hash registry action).1 := by
  cases action with
  | create input now => exact create_onePending hash one input now supersedes
  | expire | resolve | consume | acquire | attach =>
    exact one.of_pendingFrom
      (approvalStep_pendingFrom hash registry fun _ _ same => by cases same)

lemma run_onePending {actions : List (ApprovalAction Params)}
    (supersedes : ∀ action ∈ actions, action.Supersedes runId toolName) :
    OnePending runId toolName (run (approvalStep hash) .empty actions) := by
  have keep : ∀ reached action,
      OnePending runId toolName reached → action.Supersedes runId toolName →
        OnePending runId toolName (approvalStep hash reached action).1 :=
    fun _ _ one supersedes => approvalStep_onePending hash one supersedes
  have start : OnePending runId toolName .empty :=
    fun first _ pending => absurd pending.held not_mem_nil
  exact run_invariant_along keep start
    (along_of_mem (fun action mem _ => supersedes action mem) _)

/-- **Approvals in every run.**  A row moves onward and is pending no more once it is
not; what is granted and decided does not exclude each other; a row that was denied,
expired or superseded is not granted later; a grant is of an open approval of the
scope that is named; and a run and a tool have one pending request where every
request for them supersedes the others. -/
theorem approvalRegistry_safe (before after : List (ApprovalAction Params)) :
    (∀ row ∈ (run (approvalStep hash) .empty before).rows,
        ∃ later ∈ (run (approvalStep hash) .empty (before ++ after)).rows,
          Follows row later ∧ (row.status ≠ .requested → later.status ≠ .requested)) ∧
      (trace (approvalStep hash) .empty (before ++ after)).Pairwise
        ApprovalObservation.Apart ∧
      (∀ row ∈ (run (approvalStep hash) .empty before).rows,
        row.status ∈ [denied, .expired, .superseded] →
          ∀ seen ∈ trace (approvalStep hash)
              (run (approvalStep hash) .empty before) after,
            ∀ decision, seen.granted ≠ some (row.id, decision)) ∧
      (∀ action id decision,
        (approvalStep hash (run (approvalStep hash) .empty before) action).2.granted =
            some (id, decision) →
          ∃ row, row.id = id ∧ GrantedBy hash (run (approvalStep hash) .empty before) action
            decision row) ∧
      ∀ runId toolName, (∀ action ∈ before, action.Supersedes runId toolName) →
        OnePending runId toolName (run (approvalStep hash) .empty before) := by
  have start : ApprovalRegistry.Sound .empty := fun _ held => absurd held not_mem_nil
  refine ⟨fun row held => ?_, trace_apart hash start _, fun row held past => ?_,
    fun action id decision granted => ?_, fun runId toolName => run_onePending hash⟩
  · rw [run_append]
    obtain ⟨later, held', follows⟩ := (run_advances hash _ after).continues row held
    exact ⟨later, held', follows, follows.not_requested⟩
  · exact trace_not_granted hash held past after
  · obtain ⟨row, named, by', -⟩ := approvalStep_granted hash granted
    exact ⟨row, named, by'⟩

end

/-! ## Requests beside each other, and agents with blanks -/

/-- The hash of parameters that are texts. -/
def paramsText (params : String) : String := params

/-- A request of the agent `a` that leaves others pending. -/
def besideRequest (id : String) : CreateApprovalRegistryRequestInput String where
  id
  runId := "run"
  channel := "webui"
  toolName := "tool"
  riskLevel := "moderate"
  kind := "approval"
  params := "params"
  metadata := some ⟨some "a", none⟩
  supersedePending := some false

def blankScope : ApprovalConsumptionScope String where
  runId := "run"
  toolName := "tool"
  params := "params"
  agentId := some " a"

/-- Two requests are pending for a run and a tool, a consumption that names no request gets
a grant, and an agent with a blank before its name gets the grant of the agent without. -/
theorem approvalRegistry_counterexample :
    (∃ actions : List (ApprovalAction String),
        ¬OnePending "run" "tool" (run (approvalStep paramsText) .empty actions)) ∧
      ∃ actions : List (ApprovalAction String),
        let registry := run (approvalStep paramsText) .empty actions
        (∃ (id : String) (now : Int) (decision : _),
          (approvalStep paramsText registry (.consume id now none)).2.granted =
            some (id, decision)) ∧
        ∃ (action : ApprovalAction String) (decision : _) (row : ApprovalRegistryRow)
          (scope : ApprovalConsumptionScope String),
          row ∈ registry.rows ∧
            (approvalStep paramsText registry action).2.granted = some (row.id, decision) ∧
            action.grantScope = some scope ∧ row.parseApprovalMetadata.agentId ≠ scope.agentId := by
  refine ⟨⟨[.create (besideRequest "first") 0, .create (besideRequest "second") 1], fun one => ?_⟩,
    [.create (besideRequest "first") 0, .resolve "first" .allowOnce none "user" 1],
    ⟨"first", 2, .allowOnce, by decide⟩, .acquire blankScope 2, .allowOnce, ?_⟩
  · have same := one (createdRow paramsText (besideRequest "first") 0)
      (createdRow paramsText (besideRequest "second") 1) ⟨by decide, rfl, rfl, rfl⟩
      ⟨by decide, rfl, rfl, rfl⟩
    exact absurd same (by decide)
  · let row : ApprovalRegistryRow :=
      ⟨(createdRow paramsText (besideRequest "first") 0).request,
        { (createdRow paramsText (besideRequest "first") 0).state with
          status := .approvedOnce
          decisionAt := some 1
          decisionSource := some "user"
          metadata := some ⟨some "a", some "allow_once"⟩
          updatedAt := 1 }⟩
    exact ⟨row, blankScope, by decide, by decide, rfl, by decide⟩

end Knowbee.Approval
