import Knowbee.Retention.Prune

/-!
# What pruning removes

Whatever happens to its writes, a pruning takes away a beginning of the expired
records, oldest first, and with them only archived responses that no remaining
record refers to (`prune_safe`), in memory as in the storages.
-/

namespace Knowbee

open CasStore List SortedMap ResponseArchiveRepository DurableRecordRepository

namespace LinkedDurableRetention

open DurableRecordRepository (retentionRecord retentionRecords hasUnknownReservations)

/-! ## The specification -/

/-- Both records and archived responses, before and after, as a pruning may
leave them. -/
structure PruneSpec {Value Attempt : Type} (json : ResponseJson Value Attempt)
    (policy : DurableRetentionPolicy) (records₀ : DurableCompletedRecords)
    (responses₀ : ArchiveRecords) (records : DurableCompletedRecords)
    (responses : ArchiveRecords) : Prop where
  /-- No record appears or changes. -/
  remain (key : String) (record : DurableCompletedRecord) :
    records.get? key = some record → records₀.get? key = some record
  /-- Only completed records past their expiry are removed. -/
  expired (key : String) (record : DurableCompletedRecord) :
    records₀.get? key = some record → records.get? key = none →
      record.responseReference.isSome = true ∧ record.key.expiresAt ≤ policy.nowMs
  /-- No expired record is passed over for one that was finalized later. -/
  oldest (key key' : String) (record record' : DurableCompletedRecord) :
    records₀.get? key = some record → records.get? key = none →
    records₀.get? key' = some record' → record'.responseReference.isSome = true →
    record'.key.expiresAt ≤ policy.nowMs → record'.finalizedAtMs < record.finalizedAtMs →
      records.get? key' = none
  /-- The minimum stays. -/
  minimum : min policy.minimumCompletedToRetain (retentionRecords records₀).length ≤
    (retentionRecords records).length
  /-- The removals are limited. -/
  limited : (retentionRecords records₀).length ≤
    (retentionRecords records).length + policy.maxRemovals
  /-- What a remaining record refers to resolves as before. -/
  resolves (key reference : String) (record : DurableCompletedRecord) :
    records.get? key = some record → record.responseReference = some reference →
      resolve json reference responses =
        resolve json reference responses₀
  /-- No response appears or changes. -/
  archived (reference : String) (bytes : ByteArray) :
    responses.responses.get? reference = some bytes →
      responses₀.responses.get? reference = some bytes
  /-- Beside an unknown reservation only responses of removed records go. -/
  orphans (reference : String) :
    hasUnknownReservations records₀ = true → responses₀.responses.get? reference ≠ none →
    responses.responses.get? reference = none →
      ∃ key record, records₀.get? key = some record ∧ records.get? key = none ∧
        record.responseReference = some reference

/-! ## The candidates -/

lemma oldestFirst_iff (left right : RetentionRecord) :
    oldestFirst left right = true ↔ left.finalizedAtMs < right.finalizedAtMs ∨
      left.finalizedAtMs = right.finalizedAtMs ∧ left.key.storageKey ≤ right.key.storageKey := by
  simp [oldestFirst]

lemma oldestFirst_trans (first second third : RetentionRecord)
    (early : oldestFirst first second = true) (late : oldestFirst second third = true) :
    oldestFirst first third = true := by
  rw [oldestFirst_iff] at early late ⊢
  rcases early with early | ⟨early, keys⟩ <;> rcases late with late | ⟨late, keys'⟩
  · exact .inl (early.trans late)
  · exact .inl (late ▸ early)
  · exact .inl (early ▸ late)
  · exact .inr ⟨early.trans late, keys.trans keys'⟩

lemma oldestFirst_total (left right : RetentionRecord) :
    (oldestFirst left right || oldestFirst right left) = true := by
  rw [Bool.or_eq_true, oldestFirst_iff, oldestFirst_iff]
  rcases lt_trichotomy left.finalizedAtMs right.finalizedAtMs with less | same | more
  · exact .inl (.inl less)
  · rcases le_total left.key.storageKey right.key.storageKey with keys | keys
    · exact .inl (.inr ⟨same, keys⟩)
    · exact .inr (.inr ⟨same.symm, keys⟩)
  · exact .inr (.inl more)

def expiredFirst (policy : DurableRetentionPolicy) (snapshot : List RetentionRecord) :
    List RetentionRecord :=
  (snapshot.mergeSort oldestFirst).filter fun record => record.expiresAt ≤ policy.nowMs

lemma expiredFirst_sorted (policy : DurableRetentionPolicy) (snapshot : List RetentionRecord) :
    (expiredFirst policy snapshot).Pairwise fun left right => oldestFirst left right = true :=
  (pairwise_mergeSort oldestFirst_trans oldestFirst_total snapshot).filter _

lemma mem_expiredFirst {policy : DurableRetentionPolicy} {snapshot : List RetentionRecord}
    {record : RetentionRecord} :
    record ∈ expiredFirst policy snapshot ↔
      record ∈ snapshot ∧ record.expiresAt ≤ policy.nowMs := by
  simp [expiredFirst]

lemma candidates_start (policy : DurableRetentionPolicy) (snapshot : List RetentionRecord) :
    candidates policy snapshot <+: expiredFirst policy snapshot :=
  (List.take_prefix _ _).trans (List.take_prefix _ _)

lemma candidates_length (policy : DurableRetentionPolicy) (snapshot : List RetentionRecord) :
    (candidates policy snapshot).length ≤ policy.maxRemovals ∧
      (candidates policy snapshot).length ≤ snapshot.length - policy.minimumCompletedToRetain := by
  simp only [candidates, length_take]
  omega

/-! ## Snapshots -/

section Snapshots

variable {records : DurableCompletedRecords} {record : DurableCompletedRecord}
  {seen : RetentionRecord} {key : String}

abbrev Keyed (records : DurableCompletedRecords) : Prop :=
  SortedMap.Keyed (fun record : DurableCompletedRecord => record.key.storageKey) records

lemma retentionRecord_eq_some (shown : retentionRecord record = some seen) :
    seen.key = record.key ∧ record.responseReference = some seen.responseReference ∧
      seen.expiresAt = record.key.expiresAt ∧ seen.finalizedAtMs = record.finalizedAtMs := by
  obtain ⟨reference, found, rfl⟩ := Option.map_eq_some_iff.mp shown
  exact ⟨rfl, found, rfl, rfl⟩

lemma mem_retentionRecords :
    seen ∈ retentionRecords records ↔
      ∃ key record, records.get? key = some record ∧ retentionRecord record = some seen := by
  simp only [retentionRecords, mem_filterMap, mem_values]
  constructor
  · rintro ⟨record, ⟨key, found⟩, shown⟩
    exact ⟨key, record, found, shown⟩
  · rintro ⟨key, record, found, shown⟩
    exact ⟨record, ⟨key, found⟩, shown⟩

lemma shown_get? (keyed : Keyed records) (shown : seen ∈ retentionRecords records) :
    ∃ record, records.get? seen.key.storageKey = some record ∧
      retentionRecord record = some seen := by
  obtain ⟨key, record, found, same⟩ := mem_retentionRecords.mp shown
  have named : record.key.storageKey = key := keyed key record found
  obtain ⟨same_key, -⟩ := retentionRecord_eq_some same
  exact ⟨record, by rw [same_key, named, found], same⟩

lemma completed_shown (found : records.get? key = some record)
    (completed : record.responseReference.isSome = true) :
    ∃ seen ∈ retentionRecords records, retentionRecord record = some seen := by
  obtain ⟨reference, same⟩ := Option.isSome_iff_exists.mp completed
  have shown : (retentionRecord record).isSome = true := by simp [retentionRecord, same]
  obtain ⟨seen, shown⟩ := Option.isSome_iff_exists.mp shown
  exact ⟨seen, mem_retentionRecords.mpr ⟨key, record, found, shown⟩, shown⟩

lemma retentionRecords_length (records : DurableCompletedRecords) :
    (retentionRecords records).length =
      records.total fun record => if record.responseReference.isSome then 1 else 0 := by
  simp only [retentionRecords, values, total]
  induction records.entries with
  | nil => rfl
  | cons entry rest ih =>
    simp only [map_cons, filterMap_cons, sum_cons, retentionRecord]
    cases entry.2.responseReference with
    | none => simpa using ih
    | some reference =>
      simp only [Option.map_some, length_cons, ih, Option.isSome_some, if_true]
      omega

end Snapshots

/-! ## A beginning of the candidates is removed -/

/-- The records lack the removed ones; the responses that are gone have no
reference left, and belonged to removed records unless orphans may go. -/
structure Pruned (records₀ : DurableCompletedRecords) (responses₀ : ArchiveRecords)
    (orphans : Prop) (removed : List RetentionRecord) (records : DurableCompletedRecords)
    (responses : ArchiveRecords) : Prop where
  records_eq : records = (removed.map fun record => record.key.storageKey).foldl
    erase records₀
  kept (reference : String) (bytes : ByteArray) :
    responses.responses.get? reference = some bytes →
      responses₀.responses.get? reference = some bytes
  lost (reference : String) :
    responses₀.responses.get? reference ≠ none → responses.responses.get? reference = none →
      reference ∉ referencedResponses records ∧
        ((∃ record ∈ removed, record.responseReference = reference) ∨ orphans)

section Pruned

variable {records₀ records : DurableCompletedRecords} {responses₀ responses : ArchiveRecords}
  {orphans : Prop} {removed : List RetentionRecord} {policy : DurableRetentionPolicy}
  {key : String} {record : DurableCompletedRecord}

lemma Pruned.get? (pruned : Pruned records₀ responses₀ orphans removed records responses)
    (key : String) :
    records.get? key = if key ∈ removed.map fun record => record.key.storageKey then none
      else records₀.get? key := by
  rw [pruned.records_eq, get?_foldl_erase]

lemma Pruned.start (records₀ : DurableCompletedRecords) (responses₀ : ArchiveRecords)
    (orphans : Prop) : Pruned records₀ responses₀ orphans [] records₀ responses₀ :=
  ⟨rfl, fun _ _ => id, fun _ present absent => absurd absent present⟩

section

variable (pruned : Pruned records₀ responses₀ orphans removed records responses)
include pruned

lemma Pruned.removeRecord (seen : RetentionRecord) :
    Pruned records₀ responses₀ orphans (removed ++ [seen]) (records.erase seen.key.storageKey)
      responses := by
  refine ⟨?_, pruned.kept, fun reference present absent => ?_⟩
  · rw [map_append, foldl_append, ← pruned.records_eq]
    rfl
  · obtain ⟨unreferenced, cause⟩ := pruned.lost reference present absent
    refine ⟨fun still => unreferenced ?_, ?_⟩
    · obtain ⟨shown, member, same⟩ := mem_map.mp still
      obtain ⟨key, record, found, shows⟩ := mem_retentionRecords.mp member
      rw [get?_erase] at found
      split_ifs at found
      exact mem_map.mpr ⟨shown, mem_retentionRecords.mpr ⟨key, record, found, shows⟩, same⟩
    · rcases cause with ⟨record, member, same⟩ | allowed
      · exact .inl ⟨record, mem_append_left _ member, same⟩
      · exact .inr allowed

lemma Pruned.removeResponse {reference : String}
    (unreferenced : reference ∉ referencedResponses records)
    (cause : (∃ record ∈ removed, record.responseReference = reference) ∨ orphans)
    (total : Nat) :
    Pruned records₀ responses₀ orphans removed records
      ⟨responses.responses.erase reference, total⟩ := by
  refine ⟨pruned.records_eq, fun other bytes found => ?_, fun other present absent => ?_⟩
  · rw [get?_erase] at found
    split_ifs at found
    exact pruned.kept other bytes found
  · by_cases same : other = reference
    · subst same
      exact ⟨unreferenced, cause⟩
    · rw [get?_erase, if_neg same] at absent
      exact pruned.lost other present absent

lemma Pruned.remain
    (found : records.get? key = some record) : records₀.get? key = some record := by
  rw [pruned.get? key] at found
  split_ifs at found
  exact found

end

lemma Pruned.removed_iff (keyed : Keyed records₀)
    (pruned : Pruned records₀ responses₀ orphans removed records responses)
    (shown : ∀ seen ∈ removed, seen ∈ retentionRecords records₀)
    (found : records₀.get? key = some record) :
    records.get? key = none ↔ ∃ seen ∈ removed, retentionRecord record = some seen := by
  have named : record.key.storageKey = key := keyed key record found
  rw [pruned.get? key]
  constructor
  · intro absent
    split_ifs at absent with member
    · obtain ⟨seen, here, same⟩ := mem_map.mp member
      obtain ⟨other, found', shows⟩ := shown_get? keyed (shown seen here)
      rw [same] at found'
      cases found.symm.trans found'
      exact ⟨seen, here, shows⟩
    · rw [found] at absent
      cases absent
  · rintro ⟨seen, here, shows⟩
    rw [if_pos]
    refine mem_map.mpr ⟨seen, here, ?_⟩
    rw [(retentionRecord_eq_some shows).1, named]

lemma retentionRecords_eraseAll {removed : List RetentionRecord}
    {records : DurableCompletedRecords} (keyed : Keyed records)
    (distinct : (removed.map fun seen => seen.key.storageKey).Nodup)
    (shown : ∀ seen ∈ removed, seen ∈ retentionRecords records) :
    (retentionRecords ((removed.map fun seen => seen.key.storageKey).foldl erase
      records)).length + removed.length = (retentionRecords records).length := by
  induction removed generalizing records with
  | nil => rfl
  | cons first rest ih =>
    obtain ⟨fresh, distinct⟩ := nodup_cons.mp distinct
    obtain ⟨record, found, shows⟩ := shown_get? keyed (shown first mem_cons_self)
    have completed : record.responseReference.isSome = true := by
      rw [(retentionRecord_eq_some shows).2.1]
      rfl
    have one := total_erase
      (fun record : DurableCompletedRecord => if record.responseReference.isSome then 1 else 0)
      found
    rw [if_pos completed, ← retentionRecords_length, ← retentionRecords_length] at one
    have onward := ih (keyed.erase first.key.storageKey) distinct fun seen member => by
      obtain ⟨other, found', shows'⟩ := shown_get? keyed (shown seen (mem_cons_of_mem _ member))
      refine mem_retentionRecords.mpr ⟨seen.key.storageKey, other, ?_, shows'⟩
      have apart : seen.key.storageKey ≠ first.key.storageKey :=
        fun same => fresh (mem_map.mpr ⟨seen, member, same⟩)
      rw [get?_erase, if_neg apart, found']
    simp only [map_cons, foldl_cons, length_cons]
    omega

lemma retentionRecords_nodup (keyed : Keyed records) :
    ((retentionRecords records).map fun seen => seen.key.storageKey).Nodup := by
  have ordered : (retentionRecords records).Pairwise fun left right =>
      left.key.storageKey < right.key.storageKey := by
    simp only [retentionRecords, values, filterMap_map, pairwise_filterMap]
    refine List.Pairwise.imp_of_mem ?_ records.sorted
    intro left right left_member right_member before seen shows seen' shows'
    have named : left.2.key.storageKey = left.1 := keyed left.1 left.2 (mem_entries.mp left_member)
    have named' : right.2.key.storageKey = right.1 :=
      keyed right.1 right.2 (mem_entries.mp right_member)
    rw [(retentionRecord_eq_some shows).1, (retentionRecord_eq_some shows').1, named, named']
    exact before
  exact pairwise_map.mpr (ordered.imp fun before => before.ne)

lemma candidate_shown {seen : RetentionRecord}
    (member : seen ∈ candidates policy (retentionRecords records)) :
    seen ∈ retentionRecords records ∧ seen.expiresAt ≤ policy.nowMs :=
  mem_expiredFirst.mp ((candidates_start _ _).subset member)

lemma candidates_nodup (keyed : Keyed records) :
    ((candidates policy (retentionRecords records)).map fun seen => seen.key.storageKey).Nodup := by
  have sorted := ((mergeSort_perm (retentionRecords records) oldestFirst).map
    fun seen => seen.key.storageKey).nodup_iff.mpr (retentionRecords_nodup keyed)
  exact sorted.sublist (((candidates_start _ _).sublist.trans filter_sublist).map _)

section

variable (keyed : Keyed records₀)
  (pruned : Pruned records₀ responses₀ orphans removed records responses)

include keyed pruned

lemma Pruned.no_unknown (shown : ∀ seen ∈ removed, seen ∈ retentionRecords records₀)
    (known : hasUnknownReservations records = false) : hasUnknownReservations records₀ = false := by
  simp only [hasUnknownReservations, any_eq_false, mem_values] at known ⊢
  rintro record ⟨key, found⟩ unknown
  cases still : records.get? key with
  | none =>
    obtain ⟨seen, -, shows⟩ := (pruned.removed_iff keyed shown found).mp still
    rw [record.isEffectStateUnknown_eq, (retentionRecord_eq_some shows).2.1] at unknown
    cases unknown
  | some other =>
    have same := (pruned.remain still).symm.trans found
    cases same
    exact known record ⟨key, still⟩ unknown

lemma Pruned.length (start : removed <+: candidates policy (retentionRecords records₀)) :
    (retentionRecords records).length + removed.length = (retentionRecords records₀).length := by
  rw [pruned.records_eq]
  exact retentionRecords_eraseAll keyed ((candidates_nodup keyed).sublist (start.sublist.map _))
    fun seen member => (candidate_shown (start.subset member)).1

end

lemma Pruned.spec {Value Attempt : Type} (json : ResponseJson Value Attempt)
    (keyed : Keyed records₀)
    (start : removed <+: candidates policy (retentionRecords records₀))
    (pruned : Pruned records₀ responses₀ (hasUnknownReservations records₀ = false) removed records
      responses) :
    PruneSpec json policy records₀ responses₀ records responses := by
  have shown seen member :
      seen ∈ retentionRecords records₀ := (candidate_shown (start.subset member)).1
  have counted := pruned.length keyed start
  have limits := candidates_length policy (retentionRecords records₀)
  have length := start.length_le
  refine ⟨?_, ?_, ?_, by omega, by omega, ?_, pruned.kept, ?_⟩
  · exact fun key record found => pruned.remain found
  · intro key record found absent
    obtain ⟨seen, member, shows⟩ := (pruned.removed_iff keyed shown found).mp absent
    obtain ⟨-, reference, expires, -⟩ := retentionRecord_eq_some shows
    refine ⟨by rw [reference]; rfl, ?_⟩
    rw [← expires]
    exact (candidate_shown (start.subset member)).2
  · intro key key' record record' found absent found' completed expires older
    obtain ⟨seen, member, shows⟩ := (pruned.removed_iff keyed shown found).mp absent
    obtain ⟨seen', shown', shows'⟩ := completed_shown found' completed
    refine (pruned.removed_iff keyed shown found').mpr ⟨seen', ?_, shows'⟩
    obtain ⟨-, -, -, finalized⟩ := retentionRecord_eq_some shows
    obtain ⟨-, -, expires', finalized'⟩ := retentionRecord_eq_some shows'
    -- The expired records are sorted, and the removed ones are the first of them.
    have listed : seen' ∈ expiredFirst policy (retentionRecords records₀) :=
      mem_expiredFirst.mpr ⟨shown', expires'.trans_le expires⟩
    obtain ⟨later, split⟩ := start.trans (candidates_start policy (retentionRecords records₀))
    rw [← split] at listed
    rcases mem_append.mp listed with early | late
    · exact early
    · have sorted := expiredFirst_sorted policy (retentionRecords records₀)
      rw [← split] at sorted
      have before := (pairwise_append.mp sorted).2.2 seen member seen' late
      rw [oldestFirst_iff, finalized, finalized'] at before
      omega
  · intro key reference record found named
    have referenced : reference ∈ referencedResponses records := by
      obtain ⟨seen, member, shows⟩ := completed_shown found (by rw [named]; rfl)
      obtain ⟨-, same, -⟩ := retentionRecord_eq_some shows
      exact mem_map.mpr ⟨seen, member, Option.some.inj (same.symm.trans named)⟩
    have same : responses.responses.get? reference = responses₀.responses.get? reference := by
      cases before : responses₀.responses.get? reference with
      | none =>
        cases after : responses.responses.get? reference with
        | none => rfl
        | some bytes => exact (pruned.kept reference bytes after).symm.trans before
      | some bytes =>
        cases after : responses.responses.get? reference with
        | none =>
          have lost := pruned.lost reference (by simp [before]) after
          exact absurd referenced lost.1
        | some other => exact (pruned.kept reference other after).symm.trans before
    simp [resolve, same]
  · intro reference unknown present absent
    obtain ⟨-, ⟨seen, member, same⟩ | known⟩ := pruned.lost reference present absent
    · obtain ⟨record, found, shows⟩ := shown_get? keyed (shown seen member)
      refine ⟨_, record, found, (pruned.removed_iff keyed shown found).mpr ⟨seen, member, shows⟩, ?_⟩
      rw [(retentionRecord_eq_some shows).2.1, same]
    · rw [unknown] at known
      cases known

end Pruned

/-! ## What the storages hold -/

/-- The storage is as it was, or holds the encoding of the records. -/
def Holds {R M : Type} (encode : M → Option (List R)) (storage₀ : Storage R) (records₀ : M)
    (storage : Storage R) (records : M) : Prop :=
  (storage = storage₀ ∧ records = records₀) ∨
    ∃ raws revision, encode records = some raws ∧ storage = ⟨revision, some raws⟩

def Level {Raw : Type} (stores : RetentionStores Raw) : Prop :=
  stores.records.revision = stores.recordStorage.revision ∧
    stores.responses.revision = stores.responseStorage.revision

section Runs

variable {Raw Value Attempt : Type} {codec : DurableRecordCodec Raw}
  {json : ResponseJson Value Attempt} {start stores : RetentionStores Raw} {orphans : Prop}
  {done : List RetentionRecord}

/-- What the storages hold, when both processes were level with them. -/
def HoldsBoth (codec : DurableRecordCodec Raw) (json : ResponseJson Value Attempt)
    (start stores : RetentionStores Raw) (records : DurableCompletedRecords)
    (responses : ArchiveRecords) : Prop :=
  Holds (encode codec) start.recordStorage start.records.records
      stores.recordStorage records ∧
    Holds (encode json) start.responseStorage start.responses.records
      stores.responseStorage responses

/-- The pruning has removed these records and goes on: both memories show it,
and so do the storages if they did at the start. -/
structure Running (codec : DurableRecordCodec Raw) (json : ResponseJson Value Attempt)
    (start : RetentionStores Raw) (orphans : Prop) (done : List RetentionRecord)
    (stores : RetentionStores Raw) : Prop where
  memory : Pruned start.records.records start.responses.records orphans done
    stores.records.records stores.responses.records
  level : Level start → Level stores ∧
    HoldsBoth codec json start stores stores.records.records stores.responses.records

/-- The pruning has removed these records and is over; the storages may have
taken one more write than it was told of. -/
structure Stopped (codec : DurableRecordCodec Raw) (json : ResponseJson Value Attempt)
    (start : RetentionStores Raw) (orphans : Prop) (all done : List RetentionRecord)
    (stores : RetentionStores Raw) : Prop where
  part : done <+: all
  memory : Pruned start.records.records start.responses.records orphans done
    stores.records.records stores.responses.records
  level : Level start → ∃ done' records responses, done' <+: all ∧
    HoldsBoth codec json start stores records responses ∧
    Pruned start.records.records start.responses.records orphans done' records responses

section

variable (running : Running codec json start orphans done stores)
include running

variable {all : List RetentionRecord}

lemma Running.stopped (part : done <+: all) : Stopped codec json start orphans all done stores :=
  ⟨part, running.memory, fun level => ⟨done, _, _, part, (running.level level).2, running.memory⟩⟩

lemma Running.removeRecord {rest : List RetentionRecord} {seen : RetentionRecord}
    {after : RetentionStores Raw} {result : RetentionRecordRemoveResult}
    (split : done ++ seen :: rest = all)
    (removal : removeRecord codec stores seen.key seen.responseReference = (after, result)) :
    (result = .removed → Running codec json start orphans (done ++ [seen]) after) ∧
      (result ≠ .removed → Stopped codec json start orphans all done after) := by
  have part : done <+: all := ⟨seen :: rest, split⟩
  have more : done ++ [seen] <+: all := ⟨rest, by simp [← split]⟩
  unfold LinkedDurableRetention.removeRecord at removal
  rcases execution : (removeTerminalExact seen.key seen.responseReference
    stores.records.records).execute (encode codec)
    (stores.fates.headD .unavailable) stores.recordStorage stores.records with
    ⟨storage, cache, answer⟩
  rw [execution] at removal
  cases removal
  have unchanged (same_storage : storage = stores.recordStorage)
      (same_cache : cache = stores.records) :
      Stopped codec json start orphans all done
        { stores with recordStorage := storage, records := cache, fates := stores.fates.tail } := by
    subst same_storage same_cache
    refine Running.stopped ?_ part
    exact ⟨running.memory, running.level⟩
  unfold removeTerminalExact at execution
  cases found : stores.records.records.get? seen.key.storageKey with
  | none =>
    simp only [found, Plan.execute] at execution
    cases execution
    exact ⟨by simp, fun _ => unchanged rfl rfl⟩
  | some existing =>
    simp only [found] at execution
    split_ifs at execution with changed
    · simp only [Plan.execute] at execution
      cases execution
      exact ⟨by simp, fun _ => unchanged rfl rfl⟩
    · obtain ⟨committed, rfl, step⟩ := Plan.execute_ifWritten execution
      cases step with
      | refused failed =>
        rw [Committed.ifWritten_failed failed]
        exact ⟨by simp, fun _ => unchanged rfl rfl⟩
      | @adopted raws revision encoded =>
        refine ⟨fun _ => ⟨running.memory.removeRecord seen, fun level => ⟨⟨rfl, ?_⟩, ?_⟩⟩,
          fun other => absurd rfl other⟩
        · exact (running.level level).1.2
        · exact ⟨.inr ⟨raws, revision, encoded, rfl⟩, (running.level level).2.2⟩
      | @unreported raws revision encoded =>
        refine ⟨(fun other => by cases other), fun _ => ⟨part, running.memory, fun level => ?_⟩⟩
        exact ⟨done ++ [seen], _, _, more, ⟨.inr ⟨raws, revision, encoded, rfl⟩,
          (running.level level).2.2⟩, running.memory.removeRecord seen⟩

lemma Running.removeResponse {reference : String} {after : RetentionStores Raw}
    {result : RetentionResponseRemoveResult} (part : done <+: all)
    (unreferenced : reference ∉ referencedResponses stores.records.records)
    (cause : (∃ record ∈ done, record.responseReference = reference) ∨ orphans)
    (removal : removeResponse json stores reference = (after, result)) :
    after.records.records = stores.records.records ∧
      (result ≠ .unavailable → Running codec json start orphans done after) ∧
      Stopped codec json start orphans all done after := by
  unfold LinkedDurableRetention.removeResponse at removal
  rcases execution : (removeExact reference
    stores.responses.records).execute (encode json)
    (stores.fates.headD .unavailable) stores.responseStorage stores.responses with
    ⟨storage, cache, answer⟩
  rw [execution] at removal
  cases removal
  have unchanged (same_storage : storage = stores.responseStorage)
      (same_cache : cache = stores.responses) :
      Running codec json start orphans done { stores with
        responseStorage := storage, responses := cache, fates := stores.fates.tail } := by
    subst same_storage same_cache
    exact ⟨running.memory, running.level⟩
  have still := running.memory.removeResponse unreferenced cause
  refine ⟨rfl, ?_⟩
  unfold removeExact at execution
  cases found : stores.responses.records.responses.get? reference with
  | none =>
    simp only [found, Plan.execute] at execution
    cases execution
    exact ⟨fun _ => unchanged rfl rfl, (unchanged rfl rfl).stopped part⟩
  | some bytes =>
    simp only [found] at execution
    split_ifs at execution with short
    · simp only [Plan.execute] at execution
      cases execution
      exact ⟨fun _ => unchanged rfl rfl, (unchanged rfl rfl).stopped part⟩
    · obtain ⟨committed, rfl, step⟩ := Plan.execute_ifWritten execution
      cases step with
      | refused failed => exact ⟨fun _ => unchanged rfl rfl, (unchanged rfl rfl).stopped part⟩
      | @adopted raws revision encoded =>
        have onward : Running codec json start orphans done { stores with
            responseStorage := ⟨revision, some raws⟩
            responses := ⟨revision, ⟨stores.responses.records.responses.erase reference,
              stores.responses.records.totalResponseBytes - bytes.size⟩⟩
            fates := stores.fates.tail } := by
          refine ⟨still _, fun level => ⟨⟨(running.level level).1.1, rfl⟩, ?_⟩⟩
          exact ⟨(running.level level).2.1, .inr ⟨raws, revision, encoded, rfl⟩⟩
        exact ⟨fun _ => onward, onward.stopped part⟩
      | @unreported raws revision encoded =>
        refine ⟨fun other => absurd rfl other, part, running.memory, fun level => ?_⟩
        exact ⟨done, _, _, part, ⟨(running.level level).2.1,
          .inr ⟨raws, revision, encoded, rfl⟩⟩, still _⟩

end

lemma removeCandidates_runs {all : List RetentionRecord} (rest : List RetentionRecord) :
    ∀ (done : List RetentionRecord) (counts : RetentionCounts) (stores : RetentionStores Raw),
      Running codec json start orphans done stores → done ++ rest = all →
      counts.receiptsRemoved = done.length →
      ∃ after done' counts', counts'.receiptsRemoved = done'.length ∧
        counts'.orphanResponsesRemoved = counts.orphanResponsesRemoved ∧
        ((removeCandidates codec json rest counts stores = (after, .ok counts') ∧ done' = all ∧
            Running codec json start orphans all after) ∨
          (removeCandidates codec json rest counts stores = (after, .error counts') ∧
            Stopped codec json start orphans all done' after)) := by
  induction rest with
  | nil =>
    intro done counts stores running split counted
    rw [append_nil] at split
    subst split
    exact ⟨stores, done, counts, counted, rfl, .inl ⟨rfl, rfl, running⟩⟩
  | cons seen rest ih =>
    intro done counts stores running split counted
    rcases removal : removeRecord codec stores seen.key seen.responseReference with
      ⟨middle, result⟩
    obtain ⟨onward, beyond⟩ := running.removeRecord split removal
    by_cases removed : result = .removed
    · subst removed
      have running := onward rfl
      have split : (done ++ [seen]) ++ rest = all := by simp [← split]
      have part : done ++ [seen] <+: all := ⟨rest, split⟩
      have counted : counts.receiptsRemoved + 1 = (done ++ [seen]).length := by simp [counted]
      simp only [removeCandidates, removal]
      by_cases referenced : seen.responseReference ∈ referencedResponses middle.records.records
      · rw [if_pos referenced]
        exact ih (done ++ [seen]) { counts with receiptsRemoved := counts.receiptsRemoved + 1 }
          middle running split counted
      · rw [if_neg referenced]
        rcases response : removeResponse json middle seen.responseReference with ⟨after, answer⟩
        obtain ⟨-, further, stopped⟩ := running.removeResponse part referenced
          (.inl ⟨seen, by simp, rfl⟩) response
        cases answer with
        | removed =>
          exact ih (done ++ [seen]) ⟨counts.receiptsRemoved + 1, counts.responsesRemoved + 1,
            counts.orphanResponsesRemoved⟩ after (further nofun) split counted
        | missing =>
          exact ih (done ++ [seen]) { counts with receiptsRemoved := counts.receiptsRemoved + 1 }
            after (further nofun) split counted
        | unavailable =>
          exact ⟨after, done ++ [seen],
            { counts with receiptsRemoved := counts.receiptsRemoved + 1 }, counted, rfl,
            .inr ⟨rfl, stopped⟩⟩
    · refine ⟨middle, done, counts, counted, rfl, .inr ⟨?_, beyond removed⟩⟩
      cases result with
      | removed => exact absurd rfl removed
      | missing => simp [removeCandidates, removal]
      | changed => simp [removeCandidates, removal]
      | unavailable => simp [removeCandidates, removal]

lemma removeOrphans_runs {all : List RetentionRecord} (allowed : orphans)
    (references : List String) :
    ∀ (counts : RetentionCounts) (stores : RetentionStores Raw),
      Running codec json start orphans all stores →
      (∀ reference ∈ references, reference ∉ referencedResponses stores.records.records) →
      ∃ after result, removeOrphans json references counts stores = (after, result) ∧
        Stopped codec json start orphans all all after ∧
        result.counts.receiptsRemoved = counts.receiptsRemoved ∧
        result.counts.orphanResponsesRemoved ≤
          counts.orphanResponsesRemoved + references.length := by
  induction references with
  | nil =>
    intro counts stores running _
    exact ⟨stores, .completed counts, rfl, running.stopped prefix_rfl, rfl, Nat.le_refl _⟩
  | cons reference rest ih =>
    intro counts stores running unreferenced
    rcases removal : removeResponse json stores reference with ⟨middle, answer⟩
    obtain ⟨same, onward, stopped⟩ := running.removeResponse prefix_rfl
      (unreferenced reference mem_cons_self) (.inr allowed) removal
    have others : ∀ other ∈ rest, other ∉ referencedResponses middle.records.records := by
      intro other member
      rw [same]
      exact unreferenced other (mem_cons_of_mem _ member)
    simp only [removeOrphans, removal, length_cons]
    cases answer with
    | removed =>
      obtain ⟨after, result, outcome, beyond, receipts, bounded⟩ := ih
        { counts with orphanResponsesRemoved := counts.orphanResponsesRemoved + 1 } middle
        (onward nofun) others
      refine ⟨after, result, outcome, beyond, receipts, ?_⟩
      simp only at bounded
      omega
    | missing =>
      obtain ⟨after, result, outcome, beyond, receipts, bounded⟩ := ih counts middle (onward nofun)
        others
      exact ⟨after, result, outcome, beyond, receipts, by omega⟩
    | unavailable => exact ⟨middle, .unavailable counts, rfl, stopped, rfl, Nat.le_add_right _ _⟩

lemma prune_stops (codec : DurableRecordCodec Raw) (json : ResponseJson Value Attempt)
    (policy : DurableRetentionPolicy) (stores : RetentionStores Raw)
    (keyed : Keyed stores.records.records) :
    ∃ done, Stopped codec json stores (hasUnknownReservations stores.records.records = false)
        (candidates policy (retentionRecords stores.records.records)) done
        (prune codec json policy stores).1 ∧
      (prune codec json policy stores).2.counts.receiptsRemoved = done.length ∧
      (prune codec json policy stores).2.counts.receiptsRemoved +
        (prune codec json policy stores).2.counts.orphanResponsesRemoved ≤ policy.maxRemovals := by
  have limit := (candidates_length policy (retentionRecords stores.records.records)).1
  have shown seen
      (member : seen ∈ candidates policy (retentionRecords stores.records.records)) :
      seen ∈ retentionRecords stores.records.records := (candidate_shown member).1
  generalize all_eq : candidates policy (retentionRecords stores.records.records) = all
    at limit shown ⊢
  have running : Running codec json stores
      (hasUnknownReservations stores.records.records = false) [] stores :=
    ⟨Pruned.start _ _ _, fun level => ⟨level, .inl ⟨rfl, rfl⟩, .inl ⟨rfl, rfl⟩⟩⟩
  obtain ⟨after, done, counts, counted, orphans, ⟨outcome, rfl, running⟩ | ⟨outcome, stopped⟩⟩ :=
    removeCandidates_runs all [] ⟨0, 0, 0⟩ stores running rfl rfl
  · by_cases more : counts.receiptsRemoved < policy.maxRemovals ∧
      hasUnknownReservations after.records.records = false
    · -- What is left of the limit goes to orphans.
      have known := running.memory.no_unknown keyed shown more.2
      simp only [prune, all_eq, outcome, if_pos more]
      generalize listed : ((after.responses.records.responses.entries.map Prod.fst).filter
        fun reference => reference ∉ referencedResponses after.records.records).take
        (policy.maxRemovals - counts.receiptsRemoved) = references
      have unreferenced reference (member : reference ∈ references) :
          reference ∉ referencedResponses after.records.records := by
        rw [← listed] at member
        exact of_decide_eq_true (mem_filter.mp (mem_of_mem_take member)).2
      have length : references.length ≤ policy.maxRemovals - counts.receiptsRemoved := by
        rw [← listed]
        exact length_take_le _ _
      obtain ⟨last, result, ends, stopped, receipts, bounded⟩ :=
        removeOrphans_runs known references counts after running unreferenced
      rw [ends]
      refine ⟨done, stopped, receipts.trans counted, ?_⟩
      simp only at orphans ⊢
      omega
    · simp only [prune, all_eq, outcome, if_neg more]
      refine ⟨done, running.stopped prefix_rfl, counted, ?_⟩
      simp only [DurableRetentionResult.counts, orphans, counted]
      exact limit
  · simp only [prune, all_eq, outcome]
    refine ⟨done, stopped, counted, ?_⟩
    simp only [DurableRetentionResult.counts, orphans, counted]
    exact stopped.part.length_le.trans limit

/-- Whatever happens to its writes, a pruning leaves both memories as it should,
and both storages if the memories were level with them. -/
theorem prune_safe (codec : DurableRecordCodec Raw) (json : ResponseJson Value Attempt)
    (policy : DurableRetentionPolicy) (stores : RetentionStores Raw)
    (keyed : Keyed stores.records.records) :
    let after := (prune codec json policy stores).1
    let counts := (prune codec json policy stores).2.counts
    PruneSpec json policy stores.records.records stores.responses.records
        after.records.records after.responses.records ∧
      (Level stores → ∃ records responses,
        HoldsBoth codec json stores after records responses ∧
        PruneSpec json policy stores.records.records stores.responses.records records
          responses) ∧
      (retentionRecords stores.records.records).length =
        (retentionRecords after.records.records).length + counts.receiptsRemoved ∧
      counts.receiptsRemoved + counts.orphanResponsesRemoved ≤ policy.maxRemovals := by
  obtain ⟨done, stopped, counted, limited⟩ := prune_stops codec json policy stores keyed
  refine ⟨stopped.memory.spec json keyed stopped.part, fun level => ?_, ?_, limited⟩
  · obtain ⟨done', records, responses, part, holds, pruned⟩ := stopped.level level
    exact ⟨records, responses, holds, pruned.spec json keyed part⟩
  · have removed := stopped.memory.length keyed stopped.part
    omega

end Runs

def sampleRecord : DurableCompletedRecord where
  key := ⟨"a", "a", "a", "a", "a", "a", "a", "a", 1⟩
  terminal := .succeeded "sha256:0000000000000000000000000000000000000000000000000000000000000000"
    "r"
  finalizedAtMs := 1
  valid := by decide

def sampleStores : RetentionStores DurableRecordWire where
  recordStorage := ⟨3, some [sampleRecord.toWire]⟩
  records := ⟨3, empty.insert sampleRecord.key.storageKey sampleRecord⟩
  responseStorage := ⟨5, some [.empty]⟩
  responses := ⟨5, empty.insert "r" .empty, 0⟩
  fates := [.applied 4, .applied 6]

def sampleJson : ResponseJson Unit Empty :=
  ⟨fun _ => none, fun _ => none, fun _ => none, fun _ => none⟩

/-- A pruning removes them both. -/
theorem prune_safe_sample :
    let outcome := prune (.plain _) sampleJson ⟨2, 0, 4⟩ sampleStores
    outcome.2 = .completed ⟨1, 1, 0⟩ ∧
      PruneSpec sampleJson ⟨2, 0, 4⟩ sampleStores.records.records sampleStores.responses.records
        outcome.1.records.records outcome.1.responses.records := by
  have keyed : Keyed sampleStores.records.records :=
    (keyed_empty fun record : DurableCompletedRecord => record.key.storageKey).insert
      sampleRecord
  exact ⟨by decide +kernel, (prune_safe (.plain _) sampleJson ⟨2, 0, 4⟩ sampleStores keyed).1⟩

end LinkedDurableRetention

end Knowbee
