import Knowbee.Approval.Registry
import Knowbee.Lib.Machine

/-!
# Runs of the approval registry

Every call moves rows onward: a request may be decided, superseded or expire, an
approval may be consumed or expire, and nothing else changes its status.
-/

namespace Knowbee.Approval

open List ApprovalDecision ApprovalRegistryStatus

/-- The statuses a row may have later. -/
def ApprovalRegistryStatus.onward : ApprovalRegistryStatus → List ApprovalRegistryStatus
  | .requested =>
    [.requested, .approvedOnce, .approvedRun, .denied, .expired, .superseded, .consumed]
  | .approvedOnce => [.approvedOnce, .consumed, .expired]
  | .approvedRun => [.approvedRun, .consumed, .expired]
  | other => [other]

lemma ApprovalRegistryStatus.mem_onward_self (status : ApprovalRegistryStatus) :
    status ∈ status.onward := by
  cases status <;> decide

lemma ApprovalRegistryStatus.mem_onward_requested (status : ApprovalRegistryStatus) :
    status ∈ requested.onward := by
  cases status <;> decide

lemma ApprovalRegistryStatus.onward_trans {first second : ApprovalRegistryStatus}
    (next : second ∈ first.onward) : ∀ third ∈ second.onward, third ∈ first.onward := by
  revert next
  cases first <;> cases second <;> decide

namespace ApprovalRegistryRow

/-- The decision the metadata of a row holds. -/
def decided (row : ApprovalRegistryRow) : Option String := row.parseApprovalMetadata.approvalDecision

structure Follows (before after : ApprovalRegistryRow) : Prop where
  request : after.request = before.request
  agent : after.parseApprovalMetadata.agentId = before.parseApprovalMetadata.agentId
  status : after.status ∈ before.status.onward
  decided : before.status ≠ .requested → after.decided = before.decided

lemma Follows.refl (row : ApprovalRegistryRow) : Follows row row :=
  ⟨rfl, rfl, row.status.mem_onward_self, fun _ => rfl⟩

lemma Follows.not_requested {before after : ApprovalRegistryRow} (follows : Follows before after)
    (past : before.status ≠ .requested) : after.status ≠ .requested := by
  have onward := follows.status
  revert onward past
  cases before.status <;> cases after.status <;> decide

lemma Follows.trans {first second third : ApprovalRegistryRow} (former : Follows first second)
    (latter : Follows second third) : Follows first third where
  request := latter.request.trans former.request
  agent := latter.agent.trans former.agent
  status := onward_trans former.status _ latter.status
  decided past := (latter.decided (former.not_requested past)).trans (former.decided past)

def Sound (row : ApprovalRegistryRow) : Prop :=
  (row.status = .approvedOnce → row.decided = some allowOnce.text) ∧
    (row.status = .approvedRun → row.decided = some allowRun.text) ∧
    (row.status = .consumed → row.decided = some allowOnce.text ∨
      row.decided = some allowRun.text)

end ApprovalRegistryRow

open ApprovalRegistryRow

namespace ApprovalRegistry

/-- The rows of the first table, each onward, are rows of the second. -/
def Continues (first second : ApprovalRegistry) : Prop :=
  ∀ row ∈ first.rows, ∃ later ∈ second.rows, Follows row later

lemma Continues.refl (registry : ApprovalRegistry) : Continues registry registry :=
  fun row held => ⟨row, held, .refl row⟩

lemma Continues.trans {first second third : ApprovalRegistry} (former : Continues first second)
    (latter : Continues second third) : Continues first third := by
  intro row held
  obtain ⟨next, held', follows⟩ := former row held
  obtain ⟨last, held'', follows'⟩ := latter next held'
  exact ⟨last, held'', follows.trans follows'⟩

def Sound (registry : ApprovalRegistry) : Prop := ∀ row ∈ registry.rows, row.Sound

variable {registry : ApprovalRegistry}

lemma row_ext {first second : ApprovalRegistryRow} (held : first ∈ registry.rows)
    (held' : second ∈ registry.rows) (same : first.id = second.id) : first = second :=
  inj_on_of_nodup_map registry.ids held held' same

lemma find?_eq_some_iff {id : String} {row : ApprovalRegistryRow} :
    registry.find? id = some row ↔ row ∈ registry.rows ∧ row.id = id := by
  constructor
  · intro found
    exact ⟨mem_of_find?_eq_some found, by simpa using find?_some found⟩
  · rintro ⟨held, rfl⟩
    cases found : registry.find? row.id with
    | none => exact absurd (decide_eq_true rfl) (find?_eq_none.mp found row held)
    | some other =>
      have same : other.id = row.id := by simpa using find?_some found
      rw [row_ext (mem_of_find?_eq_some found) held same]

/-- The rows of a table are moved onward, and what decided rows hold is kept. -/
structure Advances (first second : ApprovalRegistry) : Prop where
  continues : Continues first second
  sound : first.Sound → second.Sound

lemma Advances.refl (registry : ApprovalRegistry) : Advances registry registry :=
  ⟨.refl registry, id⟩

lemma Advances.trans {first second third : ApprovalRegistry} (former : Advances first second)
    (latter : Advances second third) : Advances first third :=
  ⟨former.continues.trans latter.continues, latter.sound ∘ former.sound⟩

lemma update_advances {selected : ApprovalRegistryRow → Bool}
    {change : ApprovalState → ApprovalState}
    (follows : ∀ row ∈ registry.rows, selected row →
      Follows row { row with state := change row.state })
    (sound : ∀ row ∈ registry.rows, selected row → row.Sound →
      ApprovalRegistryRow.Sound { row with state := change row.state }) :
    Advances registry (registry.update selected change) := by
  constructor
  · intro row held
    refine ⟨_, mem_map_of_mem held, ?_⟩
    unfold updateRow
    split_ifs with chosen
    · exact follows row held chosen
    · exact .refl row
  · intro kept later mem
    obtain ⟨row, held, rfl⟩ := mem_map.mp mem
    unfold updateRow
    split_ifs with chosen
    · exact sound row held chosen (kept row held)
    · exact kept row held

lemma insert_eq_some {stored : ApprovalRegistry} {row : ApprovalRegistryRow}
    (inserted : registry.insert row = some stored) : stored.rows = registry.rows ++ [row] := by
  unfold insert at inserted
  split at inserted
  next => cases inserted; rfl
  next => cases inserted

end ApprovalRegistry

open ApprovalRegistry

lemma expired_advances (registry : ApprovalRegistry) (selected : ApprovalRegistryRow → Bool)
    (now : Int) (may : ∀ row, selected row → .expired ∈ row.status.onward) :
    Advances registry (registry.update selected (expiredState now)) :=
  update_advances (fun row _ chosen => ⟨rfl, rfl, may row chosen, fun _ => rfl⟩)
    fun _ _ _ _ => ⟨nofun, nofun, nofun⟩

section

variable {Params : Type} (hash : Params → String)

lemma supersedePending_advances (registry : ApprovalRegistry)
    (input : CreateApprovalRegistryRequestInput Params) (now : Int) :
    Advances registry (supersedePending registry input now) := by
  unfold supersedePending
  split_ifs
  · refine update_advances (fun row _ chosen => ?_) fun _ _ _ _ => ⟨nofun, nofun, nofun⟩
    have requested : row.status = .requested := by simp at chosen; exact chosen.2
    exact ⟨rfl, rfl, requested ▸ mem_onward_requested _, fun _ => rfl⟩
  · exact .refl registry

lemma createApprovalRegistryRequest_advances (registry : ApprovalRegistry)
    (input : CreateApprovalRegistryRequestInput Params) (now : Int) :
    Advances registry (createApprovalRegistryRequest hash registry input now).1 := by
  refine (supersedePending_advances registry input now).trans ?_
  unfold createApprovalRegistryRequest
  cases inserted : (supersedePending registry input now).insert (createdRow hash input now) with
  | none =>
    simp only [inserted]
    exact .refl _
  | some stored =>
    simp only [inserted]
    have rows := insert_eq_some inserted
    constructor
    · intro row held
      exact ⟨row, rows ▸ mem_append_left _ held, .refl row⟩
    · intro sound row held
      rw [rows] at held
      obtain old | new := mem_append.mp held
      · exact sound row old
      · rw [mem_singleton.mp new]
        exact ⟨nofun, nofun, nofun⟩

lemma expireApprovalRegistryRequest_advances (registry : ApprovalRegistry) (approvalId : String)
    (now : Int) : Advances registry (expireApprovalRegistryRequest registry approvalId now).1 := by
  unfold expireApprovalRegistryRequest
  cases registry.find? approvalId with
  | none => exact .refl registry
  | some row =>
    simp only
    split_ifs
    · refine expired_advances registry _ now fun row chosen => ?_
      have requested : row.status = .requested := by simp at chosen; exact chosen.2
      rw [requested]
      decide
    · exact .refl registry

lemma resolveApprovalRegistryDecision_advances (registry : ApprovalRegistry)
    (approvalId : String) (decision : ApprovalDecision) (decisionBy : Option String)
    (decisionSource : String) (now : Int) :
    Advances registry (resolveApprovalRegistryDecision registry approvalId decision decisionBy
      decisionSource now).1 := by
  unfold resolveApprovalRegistryDecision
  cases found : registry.find? approvalId with
  | none => exact .refl registry
  | some row =>
    simp only
    split_ifs
    · exact expireApprovalRegistryRequest_advances registry row.id now
    · obtain ⟨held, named⟩ := find?_eq_some_iff.mp found
      refine update_advances (fun other held' chosen => ?_) fun other _ chosen _ => ?_
      · have chosen : other.id = approvalId ∧ other.status = .requested := by simpa using chosen
        have same : other = row := row_ext held' held (chosen.1.trans named.symm)
        refine ⟨rfl, same ▸ rfl, ?_, fun past => absurd chosen.2 past⟩
        exact chosen.2 ▸ mem_onward_requested _
      · cases decision
        · exact ⟨fun _ => rfl, nofun, nofun⟩
        · exact ⟨nofun, fun _ => rfl, nofun⟩
        · exact ⟨nofun, nofun, nofun⟩
    · exact .refl registry

variable {row : ApprovalRegistryRow} {registry : ApprovalRegistry}

lemma decided_grantDecision (approved : row.status.approved) (sound : row.Sound) :
    row.decided = some (grantDecision row).text := by
  have either : row.status = .approvedOnce ∨ row.status = .approvedRun := by
    simpa [ApprovalRegistryStatus.approved] using approved
  obtain once | run := either
  · rw [sound.1 once, grantDecision, if_neg (by rw [once]; decide)]
  · rw [sound.2.1 run, grantDecision, if_pos run]

lemma consumedRegistry_advances (registry : ApprovalRegistry) (approvalId : String) (now : Int) :
    Advances registry (consumedRegistry registry approvalId now) := by
  refine update_advances (fun row _ chosen => ⟨rfl, rfl, ?_, fun _ => rfl⟩)
    fun row _ chosen sound => ?_
  · have approved : row.status.approved := by simp at chosen; exact chosen.2
    revert approved
    show _ → consumed ∈ _
    cases row.status <;> decide
  · have approved : row.status.approved := by simp at chosen; exact chosen.2
    refine ⟨nofun, nofun, fun _ => ?_⟩
    have decided := decided_grantDecision approved sound
    unfold grantDecision at decided
    split_ifs at decided
    · exact .inr decided
    · exact .inl decided

lemma consumeApprovalRegistryDecision_eq {now : Int}
    {expected : Option (ApprovalConsumptionScope Params)} (held : row ∈ registry.rows)
    (past : ¬row.expiredAt now) (approved : row.status.approved)
    (matched : ∀ scope ∈ expected, approvalScopeMatches hash row scope) :
    consumeApprovalRegistryDecision hash registry row.id now expected =
      (consumedRegistry registry row.id now,
        { accepted := true
          status := some .consumed
          decision := some (grantDecision row)
          row := (consumedRegistry registry row.id now).find? row.id }) := by
  have found : registry.find? row.id = some row := find?_eq_some_iff.mpr ⟨held, rfl⟩
  have scope : ¬∃ scope ∈ expected, ¬approvalScopeMatches hash row scope :=
    fun ⟨scope, mem, other⟩ => other (matched scope mem)
  unfold consumeApprovalRegistryDecision
  simp only [found, past, approved, scope, false_and, not_true, if_false]

lemma consumeApprovalRegistryDecision_cases (registry : ApprovalRegistry) (approvalId : String)
    (now : Int) (expected : Option (ApprovalConsumptionScope Params)) :
    (consumeApprovalRegistryDecision hash registry approvalId now expected).2.accepted = false ∧
        Advances registry
          (consumeApprovalRegistryDecision hash registry approvalId now expected).1 ∨
      ∃ row ∈ registry.rows, row.id = approvalId ∧ ¬row.expiredAt now ∧ row.status.approved ∧
        (∀ scope ∈ expected, approvalScopeMatches hash row scope) ∧
        consumeApprovalRegistryDecision hash registry approvalId now expected =
          (consumedRegistry registry approvalId now,
            { accepted := true
              status := some .consumed
              decision := some (grantDecision row)
              row := (consumedRegistry registry approvalId now).find? approvalId }) := by
  unfold consumeApprovalRegistryDecision
  cases found : registry.find? approvalId with
  | none => exact .inl ⟨rfl, .refl registry⟩
  | some row =>
    simp only
    split_ifs with past approved matched
    · refine .inl ⟨rfl, expired_advances registry _ now fun other chosen => ?_⟩
      have pending : other.status = .requested ∨ other.status.approved := by
        simp at chosen
        exact chosen.2
      revert pending
      cases other.status <;> decide
    · exact .inl ⟨rfl, .refl registry⟩
    · obtain ⟨held, named⟩ := find?_eq_some_iff.mp found
      refine .inr ⟨row, held, named, fun gone => past ⟨gone, .inr approved⟩, approved, ?_, rfl⟩
      exact fun scope mem => not_not.mp fun other => matched ⟨scope, mem, other⟩
    · exact .inl ⟨rfl, .refl registry⟩

lemma exists_consumed (held : row ∈ registry.rows) (approved : row.status.approved) (now : Int) :
    ∃ later ∈ (consumedRegistry registry row.id now).rows,
      later.id = row.id ∧ later.status = .consumed := by
  refine ⟨_, mem_map_of_mem held, ?_⟩
  have chosen : (row.id = row.id && row.status.approved) = true := by simp [approved]
  rw [updateRow, if_pos chosen]
  exact ⟨rfl, rfl⟩

def Grantable (registry : ApprovalRegistry) (row : ApprovalRegistryRow) : Prop :=
  row ∈ registry.rows ∧ (row.status.approved ∨ row.status = .consumed)

/-- A grant without a change, by a decision for the run. -/
def GrantedAgain (row : ApprovalRegistryRow) : Prop :=
  row.status = .consumed ∧ row.decided = some allowRun.text

lemma acquireFrom_cases {expected : ApprovalConsumptionScope Params} {now : Int}
    {rows : List ApprovalRegistryRow} {mismatch : Bool}
    (grantable : ∀ row ∈ rows, Grantable registry row) :
    (∃ refusal ∈ [GrantAcquisition.notFound, .scopeMismatch],
        acquireFrom hash expected now rows mismatch registry = (registry, refusal)) ∨
      ∃ row ∈ registry.rows, ¬row.expiredAt now ∧ approvalScopeMatches hash row expected ∧
        (GrantedAgain row ∧ acquireFrom hash expected now rows mismatch registry =
            (registry, .acquired .allowRun row.id .consumedRun row) ∨
          row.status.approved ∧ ∃ later, acquireFrom hash expected now rows mismatch registry =
            (consumedRegistry registry row.id now,
              .acquired (grantDecision row) row.id .approved later)) := by
  induction rows generalizing mismatch with
  | nil =>
    refine .inl ⟨_, ?_, rfl⟩
    cases mismatch <;> decide
  | cons row rest ih =>
    have later := fun mismatch => @ih mismatch fun row mem => grantable row (mem_cons_of_mem _ mem)
    obtain ⟨held, status⟩ := grantable row mem_cons_self
    unfold acquireFrom
    by_cases matched : approvalScopeMatches hash row expected
    · rw [if_neg (not_not.mpr matched)]
      by_cases past : row.expiredAt now
      · rw [if_pos past]
        exact later mismatch
      rw [if_neg past]
      by_cases consumed : row.status = .consumed
      · rw [if_pos consumed]
        by_cases run : row.parseApprovalMetadata.approvalDecision =
            some allowRun.text
        · rw [if_neg (not_not.mpr run)]
          exact .inr ⟨row, held, past, matched, .inl ⟨⟨consumed, run⟩, rfl⟩⟩
        · rw [if_pos run]
          exact later mismatch
      · rw [if_neg consumed]
        have approved := status.resolve_right consumed
        obtain ⟨after, stored, named, -⟩ := exists_consumed held approved now
        have found := find?_eq_some_iff.mpr ⟨stored, named⟩
        have accepted : consumeApprovalRegistryDecision hash registry row.id now (some expected) =
            (consumedRegistry registry row.id now,
              { accepted := true
                status := some .consumed
                decision := some (grantDecision row)
                row := some after }) := by
          rw [consumeApprovalRegistryDecision_eq hash held past approved
            (fun scope mem => Option.some.inj mem ▸ matched), found]
        have allowed : grantDecision row ≠ .deny := by
          unfold grantDecision
          split_ifs <;> decide
        simp only [accepted, if_neg allowed]
        exact .inr ⟨row, held, past, matched, .inr ⟨approved, after, rfl⟩⟩
    · rw [if_pos matched]
      exact later true

lemma acquireApprovalRegistryGrant_cases (registry : ApprovalRegistry)
    (expected : ApprovalConsumptionScope Params) (now : Int) :
    (∃ refusal ∈ [GrantAcquisition.notFound, .scopeMismatch],
        acquireApprovalRegistryGrant hash registry expected now = (registry, refusal)) ∨
      ∃ row ∈ registry.rows, ¬row.expiredAt now ∧ approvalScopeMatches hash row expected ∧
        (GrantedAgain row ∧ acquireApprovalRegistryGrant hash registry expected now =
            (registry, .acquired .allowRun row.id .consumedRun row) ∨
          row.status.approved ∧ ∃ later, acquireApprovalRegistryGrant hash registry expected now =
            (consumedRegistry registry row.id now,
              .acquired (grantDecision row) row.id .approved later)) := by
  refine acquireFrom_cases hash fun row mem => ?_
  rw [grantRows, mem_insertionSort, mem_filter] at mem
  obtain ⟨held, tested⟩ := mem
  simp only [Bool.and_eq_true, Bool.or_eq_true, decide_eq_true_eq] at tested
  exact ⟨held, tested.2⟩

end

end Knowbee.Approval
