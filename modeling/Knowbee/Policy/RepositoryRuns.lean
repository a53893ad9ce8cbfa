import Knowbee.Policy.Repository

/-!
# Runs of the policy repository

Every administration request is audited under the target its evidence names,
also one that is rejected because that is not the target of the repository,
while a bootstrap accepts no audit of another target.  So the store can be
bootstrapped as long as no such request is committed, and the first one locks
it (`bootable_while_on_target`, `foreign_request_locks_store`).
-/

namespace Knowbee

open CasStore List PermissionPolicySnapshot PolicyAdminAuditOutcome SortedMap

namespace DurablePermissionPolicyRepository

variable {Raw : Type} {codec : PolicyCodec Raw} {sha256 : Sha256} {target : String}
  {capacity : Nat} {history : PolicyHistory} {audits : PolicyAudits} {records next : PolicyRecords}

/-! ## Records -/

variable {raw : Raw} {snapshot current : PermissionPolicySnapshot}
  {audit : PolicyAdminAuditRecord} {raws : List Raw}
  {entries : List (Nat × PermissionPolicySnapshot)} {expected revision : Nat} {call : Call}

lemma encodeWire_eq_some {wire : PolicyWire} : encodeWire codec wire = some raw ↔
      codec.print wire = some raw ∧ codec.length raw ≤ maxPolicyRecordBytes := by
  simp only [encodeWire, bind, Option.bind_eq_some_iff]
  constructor
  · rintro ⟨encoded, printed, fits⟩
    split_ifs at fits with small
    cases fits
    exact ⟨printed, small⟩
  · rintro ⟨printed, small⟩
    exact ⟨raw, printed, by rw [if_pos small]⟩

lemma decodeRecord_encodeSnapshot (encoded : encodeSnapshot codec snapshot = some raw) :
    decodeRecord codec raw = .ok (.snapshot snapshot) := by
  obtain ⟨printed, small⟩ := encodeWire_eq_some.mp encoded
  have restored := snapshot.restore_self
  have version := codec.probe_print printed
  have kind := codec.kind_print printed
  simp only [PolicyWire.schemaVersion, PolicyWire.recordKind] at version kind
  have decoded : decodeSnapshot codec raw = .ok snapshot := by
    unfold decodeSnapshot
    rw [if_neg (not_lt.mpr small), version, codec.parse_print printed]
    simp only [ne_eq, not_true_eq_false, if_false, snapshot.version]
    simp only [entry, restored]
    rfl
  unfold decodeRecord
  rw [if_neg (not_lt.mpr small), kind, decoded]
  rfl

lemma decodeRecord_encodeAudit (encoded : encodeAudit codec audit = some raw) :
    decodeRecord codec raw =
      if audit.validate = true then .ok (.adminAudit audit) else .error .corrupt := by
  obtain ⟨printed, small⟩ := encodeWire_eq_some.mp encoded
  have version := codec.probe_print printed
  have kind := codec.kind_print printed
  simp only [PolicyWire.schemaVersion, PolicyWire.recordKind] at version kind
  have decoded : decodeAudit codec raw =
      if audit.validate = true then .ok audit else .error .corrupt := by
    unfold decodeAudit
    rw [version, codec.parse_print printed]
    simp
  unfold decodeRecord
  rw [if_neg (not_lt.mpr small), kind, decoded]
  simp only [if_true]
  split_ifs <;> rfl

lemma decodeAudit_valid (decoded : decodeAudit codec raw = .ok audit) :
    audit.validate = true := by
  unfold decodeAudit at decoded
  split at decoded
  · cases decoded
  · split_ifs at decoded
    split at decoded
    · split_ifs at decoded with other valid
      cases decoded
      exact valid
    · cases decoded

lemma decodeRecord_audit_valid (decoded : decodeRecord codec raw = .ok (.adminAudit audit)) :
    audit.validate = true := by
  unfold decodeRecord at decoded
  split_ifs at decoded
  split at decoded
  · cases decoded
  · cases read : decodeSnapshot codec raw <;> simp [read, Except.map] at decoded
  · split_ifs at decoded
    cases read : decodeAudit codec raw with
    | error err => simp [read, Except.map] at decoded
    | ok other =>
      simp only [read, Except.map] at decoded
      cases decoded
      exact decodeAudit_valid read

/-! ## Loading -/

/-- A record that a bootstrap for `target` places. -/
def OnTarget (sha256 : Sha256) (target : String) : DecodedRecord → Prop
  | .snapshot snapshot => snapshot.targetInstanceId = target
  | .adminAudit audit => audit.targetDigest = sha256.ofText target

lemma loadRecords_snapshots {snapshots : List PermissionPolicySnapshot} {rest : List Raw}
    {history built : PolicyHistory}
    (decoded : List.Forall₂ (fun raw snapshot => decodeRecord codec raw = .ok (.snapshot snapshot))
      raws snapshots)
    (own : ∀ snapshot ∈ snapshots, snapshot.targetInstanceId = target)
    (inserted : SortedMap.insertAll PermissionPolicySnapshot.revision snapshots history =
      some built) :
    loadRecords codec sha256 target (raws ++ rest) history audits =
      loadRecords codec sha256 target rest built audits := by
  induction decoded generalizing history with
  | nil =>
    cases inserted
    rfl
  | @cons raw snapshot raws snapshots head tail ih =>
    simp only [SortedMap.insertAll] at inserted
    split_ifs at inserted with bound
    have named : snapshot.targetInstanceId = target := own snapshot mem_cons_self
    have placed : placeRecord sha256 target history audits (.snapshot snapshot) =
        .ok (history.insert snapshot.revision snapshot, audits) := by
      rw [placeRecord, if_neg (not_not.mpr named), if_neg bound]
    simp only [cons_append, loadRecords, head, bind, Except.bind, placed]
    exact ih (fun other member => own other (mem_cons_of_mem _ member)) inserted

lemma loadRecords_audits {values : List PolicyAdminAuditRecord} {audits built : PolicyAudits}
    (decoded : List.Forall₂ (fun raw audit => decodeRecord codec raw = .ok (.adminAudit audit))
      raws values)
    (own : ∀ audit ∈ values, audit.targetDigest = sha256.ofText target)
    (inserted : SortedMap.insertAll (fun audit : PolicyAdminAuditRecord => audit.nonceDigest)
      values audits = some built) :
    loadRecords codec sha256 target raws history audits = .ok (history, built) := by
  induction decoded generalizing audits with
  | nil =>
    cases inserted
    rfl
  | @cons raw audit raws values head tail ih =>
    simp only [SortedMap.insertAll] at inserted
    split_ifs at inserted with bound
    have named : audit.targetDigest = sha256.ofText target := own audit mem_cons_self
    have placed : placeRecord sha256 target history audits (.adminAudit audit) =
        .ok (history, audits.insert audit.nonceDigest audit) := by
      rw [placeRecord, if_neg (not_not.mpr named), if_neg bound]
    simp only [loadRecords, head, bind, Except.bind, placed]
    exact ih (fun other member => own other (mem_cons_of_mem _ member)) inserted

variable {result : PolicyHistory × PolicyAudits}

lemma placeRecord_onTarget {record : DecodedRecord}
    (placed : placeRecord sha256 target history audits record = .ok result) :
    OnTarget sha256 target record := by
  cases record with
  | snapshot snapshot =>
    simp only [placeRecord] at placed
    split_ifs at placed with foreign
    exact not_not.mp foreign
  | adminAudit audit =>
    simp only [placeRecord] at placed
    split_ifs at placed with foreign
    exact not_not.mp foreign

lemma loadRecords_cons
    (loaded : loadRecords codec sha256 target (raw :: raws) history audits = .ok result) :
    ∃ record history' audits', decodeRecord codec raw = .ok record ∧
      placeRecord sha256 target history audits record = .ok (history', audits') ∧
      loadRecords codec sha256 target raws history' audits' = .ok result := by
  simp only [loadRecords, bind, Except.bind] at loaded
  cases head : decodeRecord codec raw with
  | error err => simp [head] at loaded
  | ok record =>
    simp only [head] at loaded
    rcases placed : placeRecord sha256 target history audits record with err | ⟨history', audits'⟩
    · simp [placed] at loaded
    · simp only [placed] at loaded
      exact ⟨record, history', audits', rfl, placed, loaded⟩

lemma loadRecords_onTarget
    (loaded : loadRecords codec sha256 target raws history audits = .ok result) :
    ∀ raw ∈ raws, ∃ record, decodeRecord codec raw = .ok record ∧
      OnTarget sha256 target record := by
  induction raws generalizing history audits with
  | nil => exact fun raw member => nomatch member
  | cons first rest ih =>
    obtain ⟨record, history', audits', head, placed, onward⟩ := loadRecords_cons loaded
    intro raw member
    rcases mem_cons.mp member with rfl | later
    · exact ⟨record, head, placeRecord_onTarget placed⟩
    · exact ih onward raw later

/-- What the loop of a bootstrap keeps of the maps it fills. -/
structure Loaded (sha256 : Sha256) (target : String) (history : PolicyHistory)
    (audits : PolicyAudits) : Prop where
  historyKeyed : history.Keyed PermissionPolicySnapshot.revision
  historyTarget : ∀ revision snapshot, history.get? revision = some snapshot →
    snapshot.targetInstanceId = target
  auditsKeyed : audits.Keyed fun audit => audit.nonceDigest
  auditsValid : ∀ nonce audit, audits.get? nonce = some audit →
    audit.validate = true ∧ audit.targetDigest = sha256.ofText target

lemma loaded_empty : Loaded sha256 target .empty .empty where
  historyKeyed := keyed_empty _
  historyTarget _ _ bound := by simp at bound
  auditsKeyed := keyed_empty _
  auditsValid _ _ bound := by simp at bound

section

variable (loaded : Loaded sha256 target history audits)
include loaded

lemma Loaded.insertSnapshot (named : snapshot.targetInstanceId = target) :
    Loaded sha256 target (history.insert snapshot.revision snapshot) audits where
  historyKeyed := loaded.historyKeyed.insert snapshot
  historyTarget revision other bound := by
    rw [get?_insert] at bound
    split_ifs at bound
    · exact Option.some.inj bound ▸ named
    · exact loaded.historyTarget revision other bound
  auditsKeyed := loaded.auditsKeyed
  auditsValid := loaded.auditsValid

lemma Loaded.insertAudit
    (valid : audit.validate = true) (named : audit.targetDigest = sha256.ofText target) :
    Loaded sha256 target history (audits.insert audit.nonceDigest audit) where
  historyKeyed := loaded.historyKeyed
  historyTarget := loaded.historyTarget
  auditsKeyed := loaded.auditsKeyed.insert audit
  auditsValid nonce other bound := by
    rw [get?_insert] at bound
    split_ifs at bound
    · exact Option.some.inj bound ▸ ⟨valid, named⟩
    · exact loaded.auditsValid nonce other bound

lemma Loaded.place {record : DecodedRecord} {history' : PolicyHistory} {audits' : PolicyAudits}
    (decoded : decodeRecord codec raw = .ok record)
    (placed : placeRecord sha256 target history audits record = .ok (history', audits')) :
    Loaded sha256 target history' audits' ∧
      history'.size + audits'.size = history.size + audits.size + 1 := by
  have named := placeRecord_onTarget placed
  cases record with
  | snapshot snapshot =>
    simp only [placeRecord] at placed
    split_ifs at placed with foreign bound
    cases placed
    refine ⟨loaded.insertSnapshot named, ?_⟩
    rw [size_insert, if_neg bound]
    omega
  | adminAudit audit =>
    simp only [placeRecord] at placed
    split_ifs at placed with foreign bound
    cases placed
    refine ⟨loaded.insertAudit (decodeRecord_audit_valid decoded) named, ?_⟩
    rw [size_insert, if_neg bound]
    omega

lemma Loaded.load {history' : PolicyHistory} {audits' : PolicyAudits}
    (read : loadRecords codec sha256 target raws history audits = .ok (history', audits')) :
    Loaded sha256 target history' audits' ∧
      history'.size + audits'.size = history.size + audits.size + raws.length := by
  induction raws generalizing history audits with
  | nil =>
    cases read
    exact ⟨loaded, rfl⟩
  | cons first rest ih =>
    obtain ⟨record, middle, kept, head, placed, read⟩ := loadRecords_cons read
    obtain ⟨one, size⟩ := loaded.place head placed
    obtain ⟨all, total⟩ := ih one read
    refine ⟨all, ?_⟩
    rw [total, size, length_cons]
    omega

end

/-! ## Histories -/

/-- A history counts its revisions from `expected` without a gap. -/
def Counted : List (Nat × PermissionPolicySnapshot) → Nat → Prop
  | [], _ => True
  | (revision, snapshot) :: rest, expected =>
    revision = expected ∧ snapshot.revision = revision ∧ Counted rest (expected + 1)

lemma validateHistory_eq_ok (counted : Counted entries expected)
    (word : expected + entries.length ≤ u64Max) : validateHistory entries expected = .ok () := by
  induction entries generalizing expected with
  | nil => rfl
  | cons head rest ih =>
    obtain ⟨revision, snapshot⟩ := head
    obtain ⟨here, own, tail⟩ := counted
    have room : expected + 1 + rest.length ≤ u64Max := by
      rw [length_cons] at word
      omega
    have fine : ¬(revision ≠ expected ∨ snapshot.revision ≠ revision) := by
      rintro (other | other)
      · exact other here
      · exact other own
    rw [validateHistory, if_neg fine, u64CheckedAdd, if_pos (by omega)]
    exact ih tail room

lemma counted_of_validateHistory (valid : validateHistory entries expected = .ok ()) :
    Counted entries expected := by
  induction entries generalizing expected with
  | nil => trivial
  | cons head rest ih =>
    obtain ⟨revision, snapshot⟩ := head
    rw [validateHistory, u64CheckedAdd] at valid
    by_cases room : expected + 1 ≤ u64Max
    · rw [if_pos room] at valid
      split_ifs at valid with wrong
      obtain ⟨here, own⟩ := not_or.mp wrong
      exact ⟨not_not.mp here, not_not.mp own, ih valid⟩
    · rw [if_neg room] at valid
      split_ifs at valid

lemma Counted.below (counted : Counted entries expected) :
    ∀ entry ∈ entries, entry.1 < expected + entries.length := by
  induction entries generalizing expected with
  | nil => exact fun entry member => nomatch member
  | cons head rest ih =>
    obtain ⟨revision, snapshot⟩ := head
    obtain ⟨here, -, tail⟩ := counted
    intro entry member
    rw [length_cons]
    rcases mem_cons.mp member with rfl | later
    · simp only
      omega
    · have before := ih tail entry later
      omega

lemma Counted.append (counted : Counted entries expected)
    (onward : snapshot.revision = expected + entries.length) :
    Counted (entries ++ [(snapshot.revision, snapshot)]) expected := by
  induction entries generalizing expected with
  | nil => exact ⟨onward, rfl, trivial⟩
  | cons head rest ih =>
    obtain ⟨revision, other⟩ := head
    obtain ⟨here, own, tail⟩ := counted
    rw [length_cons] at onward
    exact ⟨here, own, ih tail (by omega)⟩

lemma Counted.last (counted : Counted entries expected)
    (final : entries.getLast? = some (revision, snapshot)) :
    snapshot.revision + 1 = expected + entries.length := by
  induction entries generalizing expected with
  | nil => cases final
  | cons head rest ih =>
    obtain ⟨here, own, tail⟩ := counted
    cases rest with
    | nil =>
      cases final
      rw [own, here, length_singleton]
    | cons second rest =>
      rw [getLast?_cons_cons] at final
      have onward := ih tail final
      rw [length_cons, onward]
      omega

/-- A history that counts from zero and ends with `current`. -/
structure EndsWith (history : PolicyHistory) (current : PermissionPolicySnapshot) : Prop where
  counted : Counted history.entries 0
  last : lastSnapshot history = some current

lemma EndsWith.size (ends : EndsWith history current) : history.size = current.revision + 1 := by
  obtain ⟨⟨revision, snapshot⟩, final, rfl⟩ := Option.map_eq_some_iff.mp ends.last
  have onward := ends.counted.last final
  rw [size, onward, Nat.zero_add]

lemma EndsWith.mem (ends : EndsWith history current) :
    ∃ revision, history.get? revision = some current := by
  obtain ⟨⟨revision, snapshot⟩, final, rfl⟩ := Option.map_eq_some_iff.mp ends.last
  exact ⟨revision, mem_entries.mp (mem_of_getLast? final)⟩

lemma EndsWith.insert (ends : EndsWith history current)
    (onward : snapshot.revision = current.revision + 1) :
    EndsWith (history.insert snapshot.revision snapshot) snapshot := by
  have size := ends.size
  have above : ∀ entry ∈ history.entries, entry.1 < snapshot.revision := by
    intro entry member
    have before := ends.counted.below entry member
    rw [SortedMap.size] at size
    omega
  have entries : (history.insert snapshot.revision snapshot).entries =
      history.entries ++ [(snapshot.revision, snapshot)] := SortedMap.insertEntry_above above
  refine ⟨?_, ?_⟩
  · rw [entries]
    apply ends.counted.append
    rw [SortedMap.size] at size
    omega
  · rw [lastSnapshot, entries, getLast?_concat]
    rfl

lemma currentOf_cases (found : currentOf target history = .ok current) :
    (history = .empty ∧ PermissionPolicySnapshot.new target = .ok current) ∨
      EndsWith history current := by
  unfold currentOf at found
  split_ifs at found with blank
  · left
    refine ⟨?_, ?_⟩
    · obtain ⟨entries, sorted⟩ := history
      cases List.isEmpty_iff.mp blank
      rfl
    · cases fresh : PermissionPolicySnapshot.new target with
      | error err => simp [fresh, Except.mapError] at found
      | ok snapshot =>
        simp only [fresh, Except.mapError] at found
        cases found
        rfl
  · right
    cases valid : validateHistory history.entries 0 with
    | error err => simp [valid, bind, Except.bind] at found
    | ok =>
      simp only [valid, bind, Except.bind] at found
      cases last : lastSnapshot history with
      | none => simp [last] at found
      | some snapshot =>
        simp only [last] at found
        cases found
        exact ⟨counted_of_validateHistory valid, last⟩

lemma EndsWith.currentOf (ends : EndsWith history current) (word : history.size ≤ u64Max) :
    currentOf target history = .ok current := by
  have size := ends.size
  have some_entry : ¬history.entries.isEmpty = true := by
    intro blank
    rw [SortedMap.size, List.isEmpty_iff.mp blank] at size
    simp at size
  have valid : validateHistory history.entries 0 = .ok () :=
    validateHistory_eq_ok ends.counted (by rw [Nat.zero_add]; exact word)
  rw [DurablePermissionPolicyRepository.currentOf, if_neg some_entry, valid, ends.last]
  rfl

/-! ## Commits -/

structure Valid (sha256 : Sha256) (target : String) (capacity : Nat) (records : PolicyRecords) :
    Prop where
  loaded : Loaded sha256 target records.history records.audits
  current : currentOf target records.history = .ok records.current
  bounded : records.history.size + records.audits.size ≤ capacity

/-- Where a request leaves the history: at the current snapshot, or at the one
that follows it. -/
inductive Advances (records : PolicyRecords) : PolicyHistory → PermissionPolicySnapshot → Prop where
  | stays : Advances records (withCurrent records) records.current
  | follows {snapshot : PermissionPolicySnapshot} {previousRevision : Nat} :
      Follows records.current snapshot previousRevision →
      Advances records ((withCurrent records).insert snapshot.revision snapshot) snapshot

lemma new_ok (fresh : new target = .ok current) :
    current.targetInstanceId = target ∧ current.revision = 0 := by
  unfold new at fresh
  split_ifs at fresh
  cases fresh
  exact ⟨rfl, rfl⟩

lemma Valid.withCurrent (valid : Valid sha256 target capacity records) :
    EndsWith (withCurrent records) records.current ∧
      Loaded sha256 target (withCurrent records) records.audits := by
  unfold DurablePermissionPolicyRepository.withCurrent
  rcases currentOf_cases valid.current with ⟨blank, fresh⟩ | ends
  · obtain ⟨named, zero⟩ := new_ok fresh
    have free : records.history.get? records.current.revision = none := by
      rw [blank, get?_empty]
    have entries : (records.history.insert records.current.revision records.current).entries =
        [(records.current.revision, records.current)] := by
      rw [blank]
      rfl
    simp only [free]
    refine ⟨⟨?_, ?_⟩, valid.loaded.insertSnapshot named⟩
    · rw [entries]
      exact ⟨zero, rfl, trivial⟩
    · rw [lastSnapshot, entries]
      rfl
  · obtain ⟨revision, bound⟩ := ends.mem
    have same : records.current.revision = revision := valid.loaded.historyKeyed _ _ bound
    simp only [same, bound]
    exact ⟨ends, valid.loaded⟩

lemma Advances.endsWith (valid : Valid sha256 target capacity records)
    (advances : Advances records history current) :
    EndsWith history current ∧ Loaded sha256 target history records.audits := by
  obtain ⟨ends, loaded⟩ := valid.withCurrent
  cases advances with
  | stays => exact ⟨ends, loaded⟩
  | follows follows =>
    obtain ⟨revision, bound⟩ := ends.mem
    have named : records.current.targetInstanceId = target := loaded.historyTarget revision _ bound
    exact ⟨ends.insert follows.revision, loaded.insertSnapshot (follows.target.trans named)⟩

def Call.evidence? (sha256 : Sha256) : Call → Option PolicyAdminAuditEvidence
  | .snapshot => none
  | .update _ => none
  | .rollback _ _ => none
  | .updateAdmin _ evidence => some evidence
  | .rollbackAdmin _ _ evidence => some evidence
  | .setupCapture command changeId => setupEvidence sha256 command changeId

def NamesTarget (sha256 : Sha256) (target : String) (call : Call) (_ : PolicyRecords) : Prop :=
  ∀ evidence, call.evidence? sha256 = some evidence →
    evidence.targetDigest = sha256.ofText target

/-- One commit: the policy moves on, with an audit of the request if it is an
administration request. -/
inductive Change (sha256 : Sha256) (capacity : Nat) (records : PolicyRecords) :
    Call → PolicyRecords → Prop where
  | plain {call : Call} {history : PolicyHistory} {current : PermissionPolicySnapshot} :
      call.evidence? sha256 = none → Advances records history current →
      history.size + records.audits.size ≤ capacity →
      Change sha256 capacity records call ⟨current, history, records.audits⟩
  | audited {call : Call} {history : PolicyHistory} {current : PermissionPolicySnapshot}
      {evidence : PolicyAdminAuditEvidence} (audit : PolicyAdminAuditRecord) :
      call.evidence? sha256 = some evidence → Advances records history current →
      audit.toPolicyAdminBindings = evidence.toPolicyAdminBindings → audit.validate = true →
      history.size + (records.audits.insert audit.nonceDigest audit).size ≤ capacity →
      Change sha256 capacity records call
        ⟨current, history, records.audits.insert audit.nonceDigest audit⟩

section

variable {transition : PolicyTransition}

/-- What a transition of the records owes when it applies a snapshot. -/
def Sound (records : PolicyRecords) (transition : PolicyTransition) : Prop :=
  ∀ snapshot previousRevision, transition = .applied snapshot previousRevision →
    Follows records.current snapshot previousRevision

variable {call : Call} {action : PolicyAdminAuditAction} {evidence : PolicyAdminAuditEvidence}

lemma commitTransition_commit {reply : Committed → PolicyRepositoryResult}
    (sound : Sound records transition) (plain : call.evidence? sha256 = none)
    (planned : commitTransition capacity records transition = .commit next reply) :
    Change sha256 capacity records call next := by
  cases transition with
  | unchanged revision => cases planned
  | revisionConflict expectedRevision currentRevision => cases planned
  | rejected reason => cases planned
  | applied snapshot previousRevision =>
    simp only [commitTransition] at planned
    split_ifs at planned with full wrong
    cases planned
    have room := size_insert_le (withCurrent records) snapshot.revision snapshot
    exact .plain plain (.follows (sound snapshot previousRevision rfl)) (by omega)

lemma u64SaturatingAdd_one {revision : Nat} (word : revision + 1 ≤ u64Max) :
    u64SaturatingAdd revision 1 = revision + 1 := Nat.min_eq_left word

/-- The audit of a request whose outcome fits what it did to the policy can be
read back. -/
lemma validate_audit {current : PermissionPolicySnapshot} {outcome : PolicyAdminAuditOutcome}
    (moved : (current.revision = records.current.revision ∧ outcome ≠ .applied) ∨
      current.revision = records.current.revision + 1 ∧ records.current.revision + 1 ≤ u64Max) :
    PolicyAdminAuditRecord.validate {
      toPolicyAdminBindings := evidence.toPolicyAdminBindings
      action
      outcome
      previousRevision := records.current.revision
      resultingRevision := current.revision
    } = true := by
  simp only [PolicyAdminAuditRecord.validate, evidence.valid, Bool.true_and, Bool.and_eq_true,
    Bool.or_eq_true, decide_eq_true_eq]
  rcases moved with ⟨same, other⟩ | ⟨onward, word⟩
  · exact ⟨same.ge, .inl other⟩
  · refine ⟨by omega, .inr ?_⟩
    rw [onward, u64SaturatingAdd_one word]

lemma commitAdminResult_commit {result : PolicyRepositoryResult}
    (applied : Option (PermissionPolicySnapshot × Nat))
    {reply : Committed → PolicyAdminWriteResult} (audited : call.evidence? sha256 = some evidence)
    (fits : match applied with
      | none => fromRepositoryResult result ≠ .applied
      | some (snapshot, previousRevision) => Follows records.current snapshot previousRevision)
    (planned : commitAdminResult capacity records result applied evidence action =
      .commit next reply) :
    Change sha256 capacity records call next := by
  cases applied with
  | none =>
    simp only [commitAdminResult, advance] at planned
    split_ifs at planned with bound full
    cases planned
    refine .audited { toPolicyAdminBindings := evidence.toPolicyAdminBindings, .. } audited .stays
      rfl ?_ (not_lt.mp full)
    apply validate_audit
    exact .inl ⟨rfl, fits⟩
  | some pair =>
    obtain ⟨snapshot, previousRevision⟩ := pair
    by_cases wrong : previousRevision ≠ records.current.revision ∨
        ((withCurrent records).get? snapshot.revision).isSome
    · simp only [commitAdminResult, advance, if_pos wrong] at planned
      cases planned
    · simp only [commitAdminResult, advance, if_neg wrong] at planned
      split_ifs at planned with bound full
      cases planned
      refine .audited { toPolicyAdminBindings := evidence.toPolicyAdminBindings, .. } audited
        (.follows fits) rfl ?_ (not_lt.mp full)
      apply validate_audit
      exact .inr ⟨fits.revision, fits.word⟩

lemma commitAdminTransition_commit {reply : Committed → PolicyAdminWriteResult}
    (sound : Sound records transition) (audited : call.evidence? sha256 = some evidence)
    (planned : commitAdminTransition capacity records evidence action transition =
      .commit next reply) :
    Change sha256 capacity records call next := by
  cases transition with
  | applied snapshot previousRevision =>
    have follows := sound snapshot previousRevision rfl
    exact commitAdminResult_commit (some (snapshot, previousRevision)) audited follows planned
  | _ =>
    exact commitAdminResult_commit none audited (by simp [fromRepositoryResult])
      planned

end

lemma plan_commit {reply : Committed → Answer}
    (planned : plan sha256 capacity call records = .commit next reply) :
    Change sha256 capacity records call next := by
  have update_sound command :
      Sound records (applyPolicyUpdate records.current command) :=
    fun _ _ applied => applyPolicyUpdate_follows applied
  have rollback_sound historical expected :
      Sound records (rollbackPolicy records.current historical expected) :=
    fun _ _ applied => rollbackPolicy_follows applied
  cases call with
  | snapshot => cases planned
  | update command =>
    obtain ⟨inner, own, -⟩ := Plan.map_eq_commit planned
    exact commitTransition_commit (update_sound command) rfl own
  | rollback expectedCurrentRevision restoreRevision =>
    obtain ⟨inner, own, -⟩ := Plan.map_eq_commit planned
    unfold rollback at own
    cases bound : records.history.get? restoreRevision with
    | none => simp [bound] at own
    | some historical =>
      simp only [bound] at own
      exact commitTransition_commit (rollback_sound historical expectedCurrentRevision) rfl own
  | updateAdmin command evidence =>
    obtain ⟨inner, own, -⟩ := Plan.map_eq_commit planned
    unfold updateAdmin at own
    split_ifs at own
    exact commitAdminTransition_commit (update_sound command) rfl own
  | rollbackAdmin expectedCurrentRevision restoreRevision evidence =>
    obtain ⟨inner, own, -⟩ := Plan.map_eq_commit planned
    unfold rollbackAdmin at own
    cases bound : records.history.get? restoreRevision with
    | none =>
      simp only [bound] at own
      split_ifs at own
      have other : fromRepositoryResult .historyNotFound ≠ .applied := by
        simp [fromRepositoryResult]
      exact commitAdminResult_commit none rfl other own
    | some historical =>
      simp only [bound] at own
      split_ifs at own
      exact commitAdminTransition_commit (rollback_sound historical expectedCurrentRevision) rfl own
  | setupCapture command changeId =>
    obtain ⟨inner, own, -⟩ := Plan.map_eq_commit planned
    unfold setupCapture at own
    cases audited : setupEvidence sha256 command changeId with
    | none => simp [audited] at own
    | some evidence =>
      simp only [audited] at own
      split_ifs at own
      have sound : Sound records (applyCapturePolicySetup records.current command) :=
        fun _ _ applied => applyCapturePolicySetup_follows applied
      cases transition : applyCapturePolicySetup records.current command with
      | unchanged revision => simp [transition] at own
      | _ =>
        simp only [transition] at own sound
        exact commitAdminTransition_commit sound audited own

lemma Change.valid (fits : capacity ≤ u32Max) (valid : Valid sha256 target capacity records)
    (change : Change sha256 capacity records call next)
    (names : NamesTarget sha256 target call records) : Valid sha256 target capacity next := by
  have small : u32Max ≤ u64Max := by decide
  cases change with
  | plain _ advances room =>
    obtain ⟨ends, loaded⟩ := advances.endsWith valid
    exact ⟨loaded, ends.currentOf (by omega), room⟩
  | audited audit audited advances bindings checked room =>
    obtain ⟨ends, loaded⟩ := advances.endsWith valid
    have named := names _ audited
    rw [← bindings] at named
    exact ⟨loaded.insertAudit checked named, ends.currentOf (by omega), room⟩

/-! ## Bootstrap -/

lemma bootstrap_ok {read : Read Raw} {cache : Cache PolicyRecords}
    (booted : bootstrap codec sha256 target capacity read = .ok cache) :
    (2 ≤ capacity ∧ capacity ≤ u32Max) ∧ Valid sha256 target capacity cache.records := by
  unfold bootstrap at booted
  split_ifs at booted with range
  rcases found : RecordStore.contents bootErrors read with err | ⟨revision, raws⟩
  · simp [found, bind, Except.bind] at booted
  · simp only [found, bind, Except.bind] at booted
    split_ifs at booted with full
    rcases loaded : loadRecords codec sha256 target raws .empty .empty with err | ⟨history, audits⟩
    · simp [loaded] at booted
    · simp only [loaded] at booted
      cases current : currentOf target history with
      | error err => simp [current] at booted
      | ok snapshot =>
        simp only [current] at booted
        cases booted
        obtain ⟨maps, size⟩ := loaded_empty.load loaded
        refine ⟨by omega, maps, current, ?_⟩
        simp only [SortedMap.size_empty] at size
        show history.size + audits.size ≤ capacity
        omega

lemma encodeRecords_eq_some (encoded : encodeRecords codec records = some raws) :
    ∃ snapshots audits, RecordStore.encodeRecords (encodeSnapshot codec) records.history =
        some snapshots ∧
      RecordStore.encodeRecords (encodeAudit codec) records.audits = some audits ∧
      raws = snapshots ++ audits := by
  simp only [encodeRecords, bind, Option.bind_eq_some_iff, pure, Option.some.injEq] at encoded
  obtain ⟨snapshots, first, audits, second, rfl⟩ := encoded
  exact ⟨snapshots, audits, first, second, rfl⟩

lemma bootstrap_encodeRecords (range : 2 ≤ capacity ∧ capacity ≤ u32Max)
    (valid : Valid sha256 target capacity records)
    (encoded : encodeRecords codec records = some raws) :
    bootstrap codec sha256 target capacity (.records revision raws) = .ok ⟨revision, records⟩ := by
  obtain ⟨snapshots, audits, first, second, rfl⟩ := encodeRecords_eq_some encoded
  have inRange : ¬(capacity < 2 ∨ u32Max < capacity) := by omega
  have fits : ¬capacity < (snapshots ++ audits).length := by
    have bounded := valid.bounded
    rw [length_append, RecordStore.encodeRecords_length first,
      RecordStore.encodeRecords_length second]
    omega
  have history_read : loadRecords codec sha256 target (snapshots ++ audits) .empty .empty =
      loadRecords codec sha256 target audits records.history .empty := by
    refine loadRecords_snapshots ?_ ?_ (SortedMap.ofValues_values valid.loaded.historyKeyed)
    · exact RecordStore.encodeRecords_forall₂
        (fun _ _ _ _ one => decodeRecord_encodeSnapshot one) first
    · intro snapshot member
      obtain ⟨revision, bound⟩ := SortedMap.mem_values.mp member
      exact valid.loaded.historyTarget revision snapshot bound
  have audits_read : loadRecords codec sha256 target audits records.history .empty =
      .ok (records.history, records.audits) := by
    refine loadRecords_audits ?_ ?_ (SortedMap.ofValues_values valid.loaded.auditsKeyed)
    · apply RecordStore.encodeRecords_forall₂ ?_ second
      intro nonce audit raw bound one
      rw [decodeRecord_encodeAudit one, if_pos (valid.loaded.auditsValid nonce audit bound).1]
    · intro audit member
      obtain ⟨nonce, bound⟩ := SortedMap.mem_values.mp member
      exact (valid.loaded.auditsValid nonce audit bound).2
  simp only [bootstrap, if_neg inRange, RecordStore.contents, bind, Except.bind, if_neg fits,
    history_read, audits_read, valid.current]
  rfl

lemma lawful (range : 2 ≤ capacity ∧ capacity ≤ u32Max) :
    (repository codec sha256 target capacity).Lawful (Valid sha256 target capacity)
      (NamesTarget sha256 target) where
  bootstrap_unavailable := by
    have inRange : ¬(capacity < 2 ∨ u32Max < capacity) := by omega
    refine ⟨.unavailable, ?_⟩
    simp only [repository, bootstrap, if_neg inRange, RecordStore.contents, bind, Except.bind]
    rfl
  bootstrap_encode := bootstrap_encodeRecords range
  plan_valid valid names planned := (plan_commit planned).valid range.2 valid names
  recovery_valid _ recovered := nomatch recovered

lemma Change.namesTarget {cache : Cache PolicyRecords}
    (change : Change sha256 capacity records call next)
    (encoded : encodeRecords codec next = some raws)
    (booted : bootstrap codec sha256 target capacity (.records revision raws) = .ok cache) :
    NamesTarget sha256 target call records := by
  intro evidence audited
  cases change with
  | plain silent => cases silent.symm.trans audited
  | audited audit other advances bindings checked room =>
    cases other.symm.trans audited
    obtain ⟨snapshots, audits, -, second, rfl⟩ := encodeRecords_eq_some encoded
    have bound : (records.audits.insert audit.nonceDigest audit).get? audit.nonceDigest =
        some audit := by
      rw [SortedMap.get?_insert, if_pos rfl]
    obtain ⟨raw, member, one⟩ := RecordStore.encodeRecords_mem second bound
    unfold bootstrap at booted
    split_ifs at booted
    simp only [RecordStore.contents, bind, Except.bind] at booted
    split_ifs at booted
    cases loaded : loadRecords codec sha256 target (snapshots ++ audits) .empty .empty with
    | error err => simp [loaded] at booted
    | ok maps =>
      obtain ⟨record, decoded, named⟩ := loadRecords_onTarget loaded raw (mem_append_right _ member)
      rw [decodeRecord_encodeAudit one, if_pos checked] at decoded
      cases decoded
      rw [← bindings]
      exact named

/-! ## What holds over every run -/

/-- Over every run of the repository of one target in which no administration
request is committed whose evidence names another target: the storage can be
bootstrapped to exactly what was committed, with restarts and any fate of each
write.  The first write of another request ends this. -/
theorem bootable_while_on_target (codec : PolicyCodec Raw) (sha256 : Sha256) (target : String)
    (capacity : Nat) (storage : Storage Raw) (start : PolicyRecords)
    (starts : (repository codec sha256 target capacity).Stores storage start)
    (events : List (Event Call))
    (onTarget : Machine.Along (repository codec sha256 target capacity).step
      ((repository codec sha256 target capacity).Permits (NamesTarget sha256 target))
      ⟨storage, none⟩ events) :
    let node := (repository codec sha256 target capacity).run ⟨storage, none⟩ events
    (repository codec sha256 target capacity).Bootstraps node ∧
      (repository codec sha256 target capacity).BootsExactlyWhen (NamesTarget sha256 target)
        node := by
  intro node
  obtain ⟨range, valid⟩ := bootstrap_ok starts
  have lawful : (repository codec sha256 target capacity).Lawful (Valid sha256 target capacity)
      (NamesTarget sha256 target) := lawful range
  obtain ⟨stored, consistent, -, -⟩ := (Repository.Since.down starts valid).run lawful onTarget
  refine ⟨consistent.bootstraps, ?_⟩
  apply consistent.boots_exactly_when lawful
  intro call records next reply encoded revision booted _ planned printed ok
  have change : Change sha256 capacity records call next := plan_commit planned
  exact change.namesTarget printed ok

/-! ## A request for another target -/

/-- The digest of `node-1`, the target of the sample repository. -/
def sampleSha256 : Sha256 := fun _ =>
  ⟨"35971be6e9bb024a895582fe0e42e04848a86da550aaef0fccbfba86f99f617d", by decide, by decide⟩

def sampleBindings (targetDigest : String) : PolicyAdminBindings where
  authorizationDigest := sampleSha256.ofText "node-1"
  requesterDigest := sampleSha256.ofText "node-1"
  targetDigest
  sessionDigest := sampleSha256.ofText "node-1"
  targetFingerprint := sampleSha256.ofText "node-1"
  nonceDigest := sampleSha256.ofText "node-1"
  expiresAt := 4102444800000

lemma sampleBindings_valid {targetDigest : String} (digest : isSha256Digest targetDigest = true) :
    (sampleBindings targetDigest).validate = true := by
  simp [PolicyAdminBindings.validate, sampleBindings, Sha256.ofText, digest]

def sampleEvidence : PolicyAdminAuditEvidence where
  toPolicyAdminBindings := sampleBindings (sampleSha256.ofText "node-1")
  valid := sampleBindings_valid (isSha256Digest_prefixed _ _)

/-- The same authorization for `node-2`. -/
def foreignEvidence : PolicyAdminAuditEvidence where
  toPolicyAdminBindings :=
    sampleBindings "sha256:1779f59f4df251f6b81aeb08fb52a5d84ad4eef833c7fdf0bc576cd1aab11d24"
  valid := sampleBindings_valid (by decide)

def sampleCommand : PolicyUpdateCommand where
  targetInstanceId := "node-1"
  expectedRevision := 0
  capability := .screenCapture
  decision := .allowed
  resource := .any
  target := by decide
  fits := rfl

def foreignCommand : PolicyUpdateCommand :=
  { sampleCommand with targetInstanceId := "node-2", target := by decide }

abbrev sampleRepository :
    Repository PolicyWire PolicyRecords Call Answer PolicyRepositoryBootstrapError :=
  repository .plain sampleSha256 "node-1" 8

/-- One administration request to a repository that has just started. -/
def sampleRun (command : PolicyUpdateCommand) (evidence : PolicyAdminAuditEvidence) :
    List (Event Call) :=
  [.restart true .unavailable, .call (.updateAdmin command evidence) (.applied 1)]

lemma defaultEntry_fits : defaultEntry.resource.isValidFor .cameraCapture = true ∧
    defaultEntry.resource.isValidFor .screenCapture = true :=
  ⟨rfl, rfl⟩

def freshRecords : PolicyRecords where
  current := ⟨1, "node-1", 0, defaultEntry, defaultEntry, rfl, by decide, defaultEntry_fits⟩
  history := .empty
  audits := .empty

theorem bootable_while_on_target_sample :
    sampleRepository.Bootstraps
      (sampleRepository.run ⟨⟨0, none⟩, none⟩ (sampleRun sampleCommand sampleEvidence)) := by
  have starts : sampleRepository.Stores ⟨0, none⟩ freshRecords := rfl
  refine (bootable_while_on_target .plain sampleSha256 "node-1" 8 ⟨0, none⟩ freshRecords starts
    (sampleRun sampleCommand sampleEvidence) ⟨trivial, ?_, trivial⟩).1
  intro cache writes evidence audited
  cases audited
  rfl

/-- A request for another target is rejected, its audit is committed, and the
storage can no longer be bootstrapped. -/
theorem foreign_request_locks_store :
    let run := sampleRun foreignCommand foreignEvidence
    (sampleRepository.trace ⟨⟨0, none⟩, none⟩ run).map Seen.answer? =
        [none, some (.adminResult (.policy (.rejected .wrongTarget)))] ∧
      bootstrap .plain sampleSha256 "node-1" 8
        (sampleRepository.run ⟨⟨0, none⟩, none⟩ run).storage.read = .error .wrongTarget :=
  ⟨rfl, rfl⟩

end DurablePermissionPolicyRepository

end Knowbee
