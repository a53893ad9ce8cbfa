import Knowbee.Lib.Comparator
import Knowbee.Lib.Digraph
import Knowbee.Schedule.Contract

/-!
# The search for schedules like a new one

Three columns are looked up, each up to the limit, and what is found is merged by id,
sorted by how strongly it matches and cut at the limit.  A row that a lookup gives is
returned, or rows that match as strongly fill the limit (`candidate_search_sound`); the
schedule that is named by its id need not belong to the session (`named_candidate_astray`).
-/

namespace Knowbee

open List

namespace Contract

open Comparator Digraph

inductive ScheduleCandidateReason where
  | explicitId | identityKey | deliveryTime | payloadDestination
  deriving DecidableEq

def ScheduleCandidateReason.order : ScheduleCandidateReason → Nat
  | .explicitId => 0
  | .identityKey => 1
  | .deliveryTime => 2
  | .payloadDestination => 3

inductive ScheduleCandidateConfidence where
  | exact | strong | weak

/-- A candidate; what one lookup adds is a candidate with one matched key. -/
structure ScheduleCandidate where
  schedule : DbSchedule
  contract : Option ScheduleContract
  candidateReason : ScheduleCandidateReason
  confidenceKind : ScheduleCandidateConfidence
  requiresComparison : Bool
  matchedKeys : List String

def ScheduleCandidate.rank (candidate : ScheduleCandidate) : Nat := candidate.candidateReason.order

structure FindScheduleCandidatesByContractInput where
  contract : ScheduleContract
  (scheduleId sessionId : Option String)
  includeDisabled : Bool
  limit : Option Int

namespace FindScheduleCandidatesByContractInput

def rowLimit (input : FindScheduleCandidatesByContractInput) : Nat :=
  (max 1 (min (input.limit.getD 20) 50)).toNat

def explicitId (input : FindScheduleCandidatesByContractInput) : Option String :=
  (input.scheduleId.map jsTrim).filter (· ≠ "")

def activeClause (input : FindScheduleCandidatesByContractInput) (schedule : DbSchedule) : Bool :=
  input.includeDisabled || schedule.enabled

def sessionClause (input : FindScheduleCandidatesByContractInput) (schedule : DbSchedule) : Bool :=
  ((input.sessionId.map jsTrim).filter (· ≠ "")).all (schedule.targetSessionId = some ·)

end FindScheduleCandidatesByContractInput

def scheduleContractTimeEquals (a b : ScheduleContract) : Bool :=
  a.kind = b.kind && a.time.runAt = b.time.runAt && a.time.cron = b.time.cron &&
    a.time.timezone = b.time.timezone && a.time.missedPolicy = b.time.missedPolicy

def scheduleContractDestinationEquals (a b : ScheduleContract) : Bool :=
  a.delivery.channel = b.delivery.channel && a.delivery.sessionId = b.delivery.sessionId &&
    a.delivery.threadId = b.delivery.threadId

/-- The table; its primary key is the id. -/
structure ScheduleTable where
  schedules : List DbSchedule
  distinct : (schedules.map (·.id)).Nodup

section

variable (hash : ContractHash) (table : ScheduleTable) (input : FindScheduleCandidatesByContractInput)

/-- `ORDER BY created_at DESC`. -/
def newestFirst : DbSchedule → DbSchedule → Int :=
  on (fun first second : Int => second - first) (·.createdAt)

variable (column : DbSchedule → Option String)

def selected (value : String) : List DbSchedule :=
  table.schedules.filter fun schedule =>
    column schedule = some value && input.activeClause schedule && input.sessionClause schedule

def querySchedulesByColumn (value : String) : List DbSchedule :=
  (sort newestFirst (selected table input column value)).take input.rowLimit

/-- An existing candidate takes the key, and the reason if it is stronger. -/
def ScheduleCandidate.merge (existing spec : ScheduleCandidate) : ScheduleCandidate :=
  { (if spec.rank < existing.rank then spec else existing) with
    schedule := existing.schedule
    contract := existing.contract.or spec.contract
    matchedKeys := existing.matchedKeys ++ spec.matchedKeys }

def addCandidate (candidates : List ScheduleCandidate) (spec : ScheduleCandidate) :
    List ScheduleCandidate :=
  if candidates.any (·.schedule.id = spec.schedule.id) then
    candidates.map fun existing =>
      if existing.schedule.id = spec.schedule.id then existing.merge spec else existing
  else candidates ++ [spec]

def explicitSpecs : List ScheduleCandidate :=
  match input.explicitId with
  | none => []
  | some id =>
    ((table.schedules.find? (·.id = id)).filter input.activeClause).toList.map fun schedule =>
      ⟨schedule, schedule.contract, .explicitId, .exact, false, ["scheduleId:" ++ id]⟩

def identitySpecs : List ScheduleCandidate :=
  let key := buildScheduleIdentityKey hash input.contract
  (querySchedulesByColumn table input (·.identityKey) key).map fun schedule =>
    ⟨schedule, schedule.contract, .identityKey, .exact, false, [key]⟩

def comparedSpecs (value : String) (passes : ScheduleContract → Bool)
    (spec : DbSchedule → ScheduleCandidate) : List ScheduleCandidate :=
  ((querySchedulesByColumn table input column value).filter (·.contract.any passes)).map spec

def deliverySpecs : List ScheduleCandidate :=
  let key := buildDeliveryKey hash input.contract.delivery
  comparedSpecs table input (·.deliveryKey) key (scheduleContractTimeEquals input.contract)
    fun schedule =>
      ⟨schedule, schedule.contract, .deliveryTime, .strong, true, [key ++ ":time"]⟩

def payloadSpecs : List ScheduleCandidate :=
  let key := buildPayloadHash hash input.contract.payload
  comparedSpecs table input (·.payloadHash) key (scheduleContractDestinationEquals input.contract)
    fun schedule =>
      ⟨schedule, schedule.contract, .payloadDestination, .weak, true, [key ++ ":destination"]⟩

def candidateSpecs : List ScheduleCandidate :=
  explicitSpecs table input ++ identitySpecs hash table input ++ deliverySpecs hash table input ++
    payloadSpecs hash table input

/-- The stronger reason first, then what was created later. -/
def compareCandidates : ScheduleCandidate → ScheduleCandidate → Int :=
  thenBy (on (fun first second : Nat => (first : Int) - second) ScheduleCandidate.rank)
    (on newestFirst (·.schedule))

def findScheduleCandidatesByContract : List ScheduleCandidate :=
  (sort compareCandidates ((candidateSpecs hash table input).foldl addCandidate [])).take
    input.rowLimit

end

/-- A row is among the candidates for a reason as strong as that of the spec. -/
def Held (spec : ScheduleCandidate) (candidates : List ScheduleCandidate) : Prop :=
  ∃ candidate ∈ candidates, candidate.schedule = spec.schedule ∧ candidate.rank ≤ spec.rank

section

variable {hash : ContractHash} {table : ScheduleTable} {input : FindScheduleCandidatesByContractInput}
  {candidates : List ScheduleCandidate}

lemma rank_merge (existing spec : ScheduleCandidate) :
    (existing.merge spec).rank = min existing.rank spec.rank := by
  unfold ScheduleCandidate.merge ScheduleCandidate.rank
  split_ifs with stronger
  · exact (min_eq_right stronger.le).symm
  · exact (min_eq_left (not_lt.mp stronger)).symm

lemma Held.add {spec : ScheduleCandidate} (held : Held spec candidates)
    (other : ScheduleCandidate) : Held spec (addCandidate candidates other) := by
  obtain ⟨candidate, member, same, le⟩ := held
  unfold addCandidate
  split_ifs with known
  · refine ⟨_, mem_map.mpr ⟨candidate, member, rfl⟩, ?_⟩
    split_ifs with own
    · exact ⟨same, (rank_merge candidate other).trans_le ((min_le_left _ _).trans le)⟩
    · exact ⟨same, le⟩
  · exact ⟨candidate, mem_append_left _ member, same, le⟩

lemma ScheduleTable.eq_of_id {first second : DbSchedule} (held : first ∈ table.schedules)
    (held' : second ∈ table.schedules) (same : first.id = second.id) : first = second :=
  inj_on_of_nodup_map table.distinct held held' same

lemma held_addCandidate {spec : ScheduleCandidate} (stored : spec.schedule ∈ table.schedules)
    (begun : ∀ candidate ∈ candidates, candidate.schedule ∈ table.schedules) :
    Held spec (addCandidate candidates spec) := by
  unfold addCandidate
  split_ifs with known
  · obtain ⟨existing, member, same⟩ := any_eq_true.mp known
    have same := of_decide_eq_true same
    refine ⟨_, mem_map.mpr ⟨existing, member, if_pos same⟩, ?_, ?_⟩
    · exact table.eq_of_id (begun existing member) stored same
    · exact (rank_merge existing spec).trans_le (min_le_right _ _)
  · exact ⟨spec, mem_append_right _ mem_cons_self, rfl, le_rfl⟩

lemma forall_addCandidate {P : DbSchedule → Prop} {spec : ScheduleCandidate}
    (begun : ∀ candidate ∈ candidates, P candidate.schedule) (holds : P spec.schedule) :
    ∀ candidate ∈ addCandidate candidates spec, P candidate.schedule := by
  intro candidate member
  unfold addCandidate at member
  split_ifs at member
  · obtain ⟨existing, here, rfl⟩ := mem_map.mp member
    split_ifs <;> exact begun existing here
  · rcases mem_append.mp member with here | new
    · exact begun candidate here
    · rw [mem_singleton.mp new]
      exact holds

lemma held_foldl {specs : List ScheduleCandidate} {spec : ScheduleCandidate}
    (stored : ∀ spec ∈ specs, spec.schedule ∈ table.schedules)
    (begun : ∀ candidate ∈ candidates, candidate.schedule ∈ table.schedules)
    (member : spec ∈ specs ∨ Held spec candidates) :
    Held spec (specs.foldl addCandidate candidates) := by
  induction specs generalizing candidates with
  | nil =>
    rcases member with none | held
    · cases none
    · exact held
  | cons head rest ih =>
    have stored' := stored head mem_cons_self
    refine ih (fun spec here => stored spec (mem_cons_of_mem _ here))
      (forall_addCandidate begun stored') ?_
    rcases member with here | held
    · rcases mem_cons.mp here with rfl | later
      · exact .inr (held_addCandidate stored' begun)
      · exact .inl later
    · exact .inr (held.add head)

lemma mem_take_or_filled {α : Type} {rank : α → Nat} {items : List α} (limit bound : Nat)
    (sorted : items.Pairwise (rank · ≤ rank ·)) :
    (∀ item ∈ items, rank item ≤ bound → item ∈ items.take limit) ∨
      (items.take limit).length = limit ∧ ∀ item ∈ items.take limit, rank item ≤ bound := by
  by_cases left : ∃ item ∈ items.drop limit, rank item ≤ bound
  · obtain ⟨item, cut, low⟩ := left
    rw [← take_append_drop limit items] at sorted
    refine .inr ⟨length_take_of_le ?_, fun other kept => ?_⟩
    · by_contra short
      rw [drop_eq_nil_of_le (not_le.mp short).le] at cut
      cases cut
    · exact ((pairwise_append.mp sorted).2.2 other kept item cut).trans low
  · refine .inl fun item member low => ?_
    rw [← take_append_drop limit items] at member
    exact (mem_append.mp member).resolve_right fun cut => left ⟨item, cut, low⟩

lemma lawful_newestFirst : Lawful newestFirst :=
  Lawful.on ⟨fun _ _ => by omega, fun _ _ _ _ _ => by omega⟩ _

lemma sorted_candidates (candidates : List ScheduleCandidate) :
    (sort compareCandidates candidates).Pairwise (ScheduleCandidate.rank · ≤ ScheduleCandidate.rank ·) := by
  have lawful : Lawful compareCandidates :=
    (Lawful.on ⟨fun _ _ => by omega, fun _ _ _ _ _ => by omega⟩ _).thenBy (lawful_newestFirst.on _)
  refine (pairwise_sort lawful candidates).imp fun {a b} le => ?_
  have := (thenBy_nonpos.mp le).1
  simp only [on] at this
  omega

/-- A row is returned, or rows that match as strongly fill the limit. -/
def Covered (input : FindScheduleCandidatesByContractInput) (found : List ScheduleCandidate)
    (reason : ScheduleCandidateReason) (schedule : DbSchedule) : Prop :=
  (∃ candidate ∈ found, candidate.schedule = schedule) ∨
    found.length = input.rowLimit ∧ ∀ candidate ∈ found, candidate.rank ≤ reason.order

variable {schedule : DbSchedule}

lemma query_spec {column : DbSchedule → Option String} {value : String} :
    schedule ∈ querySchedulesByColumn table input column value →
      schedule ∈ selected table input column value :=
  fun member => mem_sort.mp (mem_of_mem_take member)

lemma mem_selected {column : DbSchedule → Option String} {value : String} :
    schedule ∈ selected table input column value ↔ schedule ∈ table.schedules ∧
      column schedule = some value ∧ input.activeClause schedule = true ∧
        input.sessionClause schedule = true := by
  simp [selected, and_assoc]

lemma candidateSpecs_spec {spec : ScheduleCandidate} (member : spec ∈ candidateSpecs hash table input) :
    spec.schedule ∈ table.schedules ∧ input.activeClause spec.schedule = true ∧
      (input.sessionClause spec.schedule = true ∨ input.explicitId = some spec.schedule.id) := by
  have looked {column : DbSchedule → Option String} {value : String} {schedule : DbSchedule}
      (here : schedule ∈ querySchedulesByColumn table input column value) :
      schedule ∈ table.schedules ∧ input.activeClause schedule = true ∧
        (input.sessionClause schedule = true ∨ input.explicitId = some schedule.id) := by
    obtain ⟨stored, -, active, session⟩ := mem_selected.mp (query_spec here)
    exact ⟨stored, active, .inl session⟩
  simp only [candidateSpecs, mem_append, or_assoc] at member
  rcases member with named | identity | delivery | payload
  · unfold explicitSpecs at named
    cases asked : input.explicitId with
    | none =>
      rw [asked] at named
      cases named
    | some id =>
      rw [asked] at named
      obtain ⟨schedule, found, rfl⟩ := mem_map.mp named
      obtain ⟨found, active⟩ := Option.filter_eq_some_iff.mp (Option.mem_toList.mp found)
      have own : schedule.id = id := by simpa using find?_some found
      exact ⟨mem_of_find?_eq_some found, active, .inr (congrArg some own.symm)⟩
  · obtain ⟨schedule, here, rfl⟩ := mem_map.mp identity
    exact looked here
  · obtain ⟨schedule, here, rfl⟩ := mem_map.mp delivery
    exact looked (mem_of_mem_filter here)
  · obtain ⟨schedule, here, rfl⟩ := mem_map.mp payload
    exact looked (mem_of_mem_filter here)

def merged (hash : ContractHash) (table : ScheduleTable)
    (input : FindScheduleCandidatesByContractInput) : List ScheduleCandidate :=
  (candidateSpecs hash table input).foldl addCandidate []

lemma held_merged {spec : ScheduleCandidate} (member : spec ∈ candidateSpecs hash table input) :
    Held spec (merged hash table input) :=
  held_foldl (fun _ here => (candidateSpecs_spec here).1)
    (fun _ none => absurd none not_mem_nil) (.inl member)

lemma covered_of_spec {spec : ScheduleCandidate} (member : spec ∈ candidateSpecs hash table input) :
    Covered input (findScheduleCandidatesByContract hash table input) spec.candidateReason
      spec.schedule := by
  obtain ⟨candidate, here, same, low⟩ := held_merged member
  rcases mem_take_or_filled input.rowLimit spec.rank (sorted_candidates _) with kept | filled
  · exact .inl ⟨candidate, kept candidate (mem_sort.mpr here) low, same⟩
  · exact .inr filled

lemma covered_of_identityKey
    (member : schedule ∈ selected table input (·.identityKey) (buildScheduleIdentityKey hash
      input.contract)) :
    Covered input (findScheduleCandidatesByContract hash table input) .identityKey schedule := by
  let rows := querySchedulesByColumn table input (·.identityKey)
    (buildScheduleIdentityKey hash input.contract)
  have specs : ∀ row ∈ rows, ∃ spec ∈ candidateSpecs hash table input, spec.schedule = row ∧
      spec.candidateReason = .identityKey := fun row here =>
    ⟨_, mem_append_left _ (mem_append_left _ (mem_append_right _
      (mem_map_of_mem here))), rfl, rfl⟩
  by_cases here : schedule ∈ rows
  · obtain ⟨spec, listed, rfl, own⟩ := specs schedule here
    exact own ▸ covered_of_spec listed
  · rcases mem_take_or_filled input.rowLimit ScheduleCandidateReason.identityKey.order
      (sorted_candidates (merged hash table input)) with kept | filled
    · let strong := (findScheduleCandidatesByContract hash table input).filter (·.rank ≤ 1)
      have full : rows.length = input.rowLimit := by
        refine length_take_of_le ?_
        by_contra short
        refine here ?_
        rw [show rows = _ from take_of_length_le (not_le.mp short).le]
        exact mem_sort.mpr member
      have distinct : rows.Nodup :=
        (((perm_sort _ _).nodup_iff.mpr ((List.Nodup.of_map _ table.distinct).filter _)).sublist
          (take_sublist _ _))
      have covers : rows ⊆ strong.map (·.schedule) := by
        intro row found
        obtain ⟨spec, listed, rfl, own⟩ := specs row found
        obtain ⟨candidate, held, same, low⟩ := held_merged listed
        rw [show spec.rank = 1 from congrArg _ own] at low
        exact mem_map.mpr ⟨candidate, mem_filter.mpr
          ⟨kept candidate (mem_sort.mpr held) low, decide_eq_true low⟩, same⟩
      have enough := (subperm_of_subset distinct covers).length_le
      have most := length_take_le input.rowLimit (sort compareCandidates (merged hash table input))
      have less : strong.length ≤ (findScheduleCandidatesByContract hash table input).length :=
        length_filter_le _ _
      rw [length_map, full] at enough
      have all := length_filter_eq_length_iff.mp (le_antisymm less (most.trans enough))
      exact .inr ⟨le_antisymm most (enough.trans less),
        fun candidate found => of_decide_eq_true (all candidate found)⟩
    · exact .inr filled

/-- The search, as far as its lookups reach. -/
structure SearchSound (hash : ContractHash) (table : ScheduleTable)
    (input : FindScheduleCandidatesByContractInput) (found : List ScheduleCandidate) : Prop where
  stored : ∀ candidate ∈ found, candidate.schedule ∈ table.schedules ∧
    input.activeClause candidate.schedule = true ∧ (input.sessionClause candidate.schedule = true ∨
      input.explicitId = some candidate.schedule.id)
  identity : ∀ schedule ∈ table.schedules, input.activeClause schedule = true →
    input.sessionClause schedule = true →
    schedule.identityKey = some (buildScheduleIdentityKey hash input.contract) →
    Covered input found .identityKey schedule
  delivery : ∀ schedule ∈ querySchedulesByColumn table input (·.deliveryKey)
      (buildDeliveryKey hash input.contract.delivery),
    schedule.contract.any (scheduleContractTimeEquals input.contract) = true →
    Covered input found .deliveryTime schedule
  payload : ∀ schedule ∈ querySchedulesByColumn table input (·.payloadHash)
      (buildPayloadHash hash input.contract.payload),
    schedule.contract.any (scheduleContractDestinationEquals input.contract) = true →
    Covered input found .payloadDestination schedule

/-- What is found is stored, active and of the session or asked for by its id, and what
the lookups give is found unless what matches as strongly fills the limit. -/
theorem candidate_search_sound (hash : ContractHash) (table : ScheduleTable)
    (input : FindScheduleCandidatesByContractInput) :
    SearchSound hash table input (findScheduleCandidatesByContract hash table input) where
  stored candidate found := by
    have all := @foldl_keeps _ _ (fun candidates : List ScheduleCandidate =>
        ∀ candidate ∈ candidates, candidate.schedule ∈ table.schedules ∧
          input.activeClause candidate.schedule = true ∧
            (input.sessionClause candidate.schedule = true ∨
              input.explicitId = some candidate.schedule.id))
      addCandidate (candidateSpecs hash table input) []
      (fun spec member candidates begun => @forall_addCandidate candidates (fun schedule =>
        schedule ∈ table.schedules ∧ input.activeClause schedule = true ∧
          (input.sessionClause schedule = true ∨ input.explicitId = some schedule.id)) spec begun
        (candidateSpecs_spec member))
      (fun _ none => absurd none not_mem_nil)
    exact all candidate (mem_sort.mp (mem_of_mem_take found))
  identity schedule stored active session own :=
    covered_of_identityKey (mem_selected.mpr ⟨stored, own, active, session⟩)
  delivery schedule here passes :=
    covered_of_spec (mem_append_left _ (mem_append_right _
      (mem_map_of_mem (mem_filter.mpr ⟨here, passes⟩))))
  payload schedule here passes :=
    covered_of_spec (mem_append_right _
      (mem_map_of_mem (mem_filter.mpr ⟨here, passes⟩)))

end

/-- A schedule of another session that is named by its id is returned. -/
theorem named_candidate_astray :
    ∃ (hash : ContractHash) (table : ScheduleTable) (input : FindScheduleCandidatesByContractInput),
      ∃ candidate ∈ findScheduleCandidatesByContract hash table input,
        input.sessionClause candidate.schedule = false := by
  let schedule : DbSchedule := ⟨"daily", "Report the news.", "0 9 * * *", none, true, "telegram",
    some "session:b", none, none, none, none, 0⟩
  let input : FindScheduleCandidatesByContractInput := ⟨⟨.recurring, none,
    ⟨none, some "0 8 * * *", "UTC", .nextOnly⟩, ⟨.agentTask, none, none, none, none, none⟩,
    ⟨.channelMessage, "telegram", some "session:a", none, none, false⟩⟩, some "daily",
    some "session:a", false, none⟩
  let table : ScheduleTable := ⟨[schedule], nodup_singleton _⟩
  have astray : (findScheduleCandidatesByContract (fun _ _ => "") table input).any
      (!input.sessionClause ·.schedule) = true := by
    decide +kernel
  obtain ⟨candidate, found, other⟩ := any_eq_true.mp astray
  exact ⟨_, table, input, candidate, found, by simpa using other⟩

end Contract

end Knowbee
