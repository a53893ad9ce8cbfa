import Knowbee.Lib.Dependency
import Knowbee.SubSession.Waves

/-!
# What a plan of waves guarantees

A wave that is being filled keeps its locks apart and its counts under the limits
(`WaveDraft.Sound`).  A turn that selects nothing takes the first task that is left; when every
limit lets at least one item pass, no task was ready then, so what waits for others in vain is all
that is run early (`select_ne_nil`).
-/

namespace Knowbee

open List JsNumber ResourceLockManager Nat SubSessionWorkItem WaveDraft WavePlanner

/-! ## What is guaranteed -/

/-- The limit that applies to an agent, a tool or a server. -/
def ConcurrencyLimits.agentLimit (options : ConcurrencyLimits) : String → Option Nat :=
  effectiveLimit options.agentConcurrencyLimits options.defaultAgentConcurrencyLimit

def ConcurrencyLimits.toolLimit (options : ConcurrencyLimits) : String → Option Nat :=
  effectiveLimit options.toolConcurrencyLimits options.defaultToolConcurrencyLimit

def ConcurrencyLimits.mcpServerLimit (options : ConcurrencyLimits) : String → Option Nat :=
  effectiveLimit options.mcpServerConcurrencyLimits options.defaultMcpServerConcurrencyLimit

def Compatible (first second : SubSessionWorkItem) : Prop :=
  ∀ lock ∈ first.resourceLocks, ∀ other ∈ second.resourceLocks,
    lock.kind = other.kind → lock.target = other.target →
      lock.mode = .shared ∧ other.mode = .shared

def WaitsFor (items : List SubSessionWorkItem) (edges : List DependencyEdge)
    (taskId dep : String) : Prop :=
  (∃ item ∈ items, item.taskId = taskId ∧ dep ∈ item.dependencies) ∨
    ⟨dep, taskId⟩ ∈ edges

/-- The items with a key among the keys of each are as many as its limit at most. -/
def WithinLimits (keys : SubSessionWorkItem → List String) (limit : String → Option Nat)
    (waveItems : List SubSessionWorkItem) : Prop :=
  ∀ key most, limit key = some most → waveItems.countP (fun item => key ∈ keys item) ≤ most

/-- The agent of an item, when it has one with a name. -/
def SubSessionWorkItem.agents (item : SubSessionWorkItem) : List String :=
  item.agentId.toList.filter (· ≠ "")

def SubSessionWorkItem.tools (item : SubSessionWorkItem) : List String :=
  item.toolNames.filter (jsTrim · ≠ "")

def SubSessionWorkItem.servers (item : SubSessionWorkItem) : List String :=
  item.mcpServerIds.filter (jsTrim · ≠ "")

/-- The items of a wave can run together. -/
structure WaveSound (groupLimit : Option JsNumber) (options : ConcurrencyLimits)
    (waveItems : List SubSessionWorkItem) : Prop where
  locks : waveItems.Pairwise Compatible
  group : 1 < waveItems.length → ∀ limit, groupLimit = some limit →
    (ofNat waveItems.length).le limit = true
  agents : 1 < waveItems.length → WithinLimits (·.agents) options.agentLimit waveItems
  tools : 1 < waveItems.length → WithinLimits (·.tools) options.toolLimit waveItems
  servers : 1 < waveItems.length → WithinLimits (·.servers) options.mcpServerLimit waveItems

/-- An item whose foundation is in the list and has no cycle comes after what it
waits for. -/
def InOrder (items : List SubSessionWorkItem) (edges : List DependencyEdge)
    (waves : List SubSessionExecutionWave) : Prop :=
  ∀ item ∈ items, Dependency.Settled (WaitsFor items edges)
      {taskId | taskId ∈ items.map (·.taskId)} item.taskId →
    ∀ dep, WaitsFor items edges item.taskId dep →
    ∀ (position : Nat) (wave : SubSessionExecutionWave), waves[position]? = some wave →
      item ∈ wave.items →
      ∃ earlier < position, ∃ before : SubSessionExecutionWave, waves[earlier]? = some before ∧
        dep ∈ before.items.map (·.taskId)

/-- Every item is in one wave, the items of a wave can run together, and no item
comes before what it waits for, unless that is missing or waits for itself. -/
structure WavesSound (items : List SubSessionWorkItem) (group : SubSessionGroup)
    (options : ConcurrencyLimits) (waves : List SubSessionExecutionWave) : Prop where
  partition : (waves.flatMap SubSessionExecutionWave.items).Perm items
  sound : ∀ wave ∈ waves, WaveSound group.concurrencyLimit options wave.items
  ordered : InOrder items group.dependencyEdges waves

/-! ## Counts -/

variable {key : String} {counts : String → Nat} {item : SubSessionWorkItem}
  {defaultLimit : Option JsNumber} {explicitLimits : String → Option JsNumber}

lemma foldl_addCount (named : key ≠ "") {keys : List String} (distinct : keys.Nodup)
    (counts : String → Nat) : keys.foldl (fun counts key => addCount key counts) counts key =
      counts key + if key ∈ keys then 1 else 0 := by
  induction keys generalizing counts with
  | nil => simp
  | cons head rest ih =>
    obtain ⟨new, distinct⟩ := nodup_cons.mp distinct
    rw [foldl_cons, ih distinct]
    by_cases same : key = head
    · subst same
      simp [addCount, named, new]
    · have kept : addCount head counts key = counts key := by
        unfold addCount
        split_ifs
        · rfl
        · exact if_neg same
      simp [kept, same]

lemma mem_uniqueValues {values : List String} :
    key ∈ uniqueValues values ↔ key ∈ values.filter (jsTrim · ≠ "") := by
  simp [uniqueValues]

lemma uniqueValues_nodup (values : List String) : (uniqueValues values).Nodup :=
  setAdd_nodup nodup_nil _

lemma addCount_agent (item : SubSessionWorkItem) (counts : String → Nat) :
    addCount (item.agentId.getD "") counts =
      item.agents.foldl (fun counts key => addCount key counts) counts := by
  rcases present : item.agentId with _ | agent
  · simp [agents, present, addCount]
  · by_cases named : agent = ""
    · simp [agents, present, addCount, named]
    · simp [agents, present, named]

lemma agents_nodup (item : SubSessionWorkItem) : item.agents.Nodup := by
  refine List.Nodup.filter _ ?_
  rcases item.agentId with _ | agent
  · exact nodup_nil
  · exact nodup_singleton agent

/-- The counts are those of the items, and under the limits. -/
def Bounded (keys : SubSessionWorkItem → List String) (limit : String → Option Nat)
    (counts : String → Nat) (waveItems : List SubSessionWorkItem) : Prop :=
  ∀ key, key ≠ "" → counts key = waveItems.countP (fun item => key ∈ keys item) ∧
    ∀ most, limit key = some most → counts key ≤ most

lemma Bounded.within {keys : SubSessionWorkItem → List String} {limit : String → Option Nat}
    {waveItems : List SubSessionWorkItem} (bounded : Bounded keys limit counts waveItems)
    (named : ∀ item, "" ∉ keys item) : WithinLimits keys limit waveItems := by
  intro key most limited
  by_cases empty : key = ""
  · subst empty
    have none_has : waveItems.countP (fun item => "" ∈ keys item) = 0 := by
      simp [named]
    omega
  · obtain ⟨counted, below⟩ := bounded key empty
    rw [← counted]
    exact below most limited

lemma Bounded.add {keys : SubSessionWorkItem → List String} {limit : String → Option Nat}
    {counts' : String → Nat} {waveItems : List SubSessionWorkItem}
    (bounded : Bounded keys limit counts waveItems)
    (counted : ∀ key, key ≠ "" → counts' key = counts key + if key ∈ keys item then 1 else 0)
    (passes : ∀ key ∈ keys item, ∀ most, limit key = some most → counts key < most) :
    Bounded keys limit counts' (waveItems ++ [item]) := by
  intro key named
  obtain ⟨same, below⟩ := bounded key named
  constructor
  · rw [counted key named, same, countP_append]
    simp [countP_cons]
  · intro most limited
    rw [counted key named]
    split_ifs with has
    · exact passes key has most limited
    · exact below most limited

lemma below_of_not_exceeded
    (passes : countLimitExceeded key counts explicitLimits defaultLimit = false)
    (named : key ≠ "") (most : Nat)
    (limited : effectiveLimit explicitLimits defaultLimit key = some most) : counts key < most := by
  simpa [countLimitExceeded, named, limited] using passes

lemma uniqueValues_pass {values : List String} (passes : (uniqueValues values).any
      (countLimitExceeded · counts explicitLimits defaultLimit) = false) :
    ∀ key ∈ values.filter (jsTrim · ≠ ""), ∀ most,
      effectiveLimit explicitLimits defaultLimit key = some most → counts key < most := by
  intro key member most limited
  have notBlank : jsTrim key ≠ "" := by simpa using (mem_filter.mp member).2
  have named : key ≠ "" := by
    rintro rfl
    exact notBlank rfl
  refine below_of_not_exceeded ?_ named most limited
  exact eq_false_of_ne_true fun exceeded =>
    any_eq_false.mp passes key (mem_uniqueValues.mpr member) exceeded

lemma passes_of_no_reasons {counts : WaveCounts} {options : ConcurrencyLimits}
    (none : concurrencyLimitReasons item counts options = []) :
    (∀ key ∈ item.agents, ∀ most, options.agentLimit key = some most → counts.agents key < most) ∧
      (∀ key ∈ item.tools, ∀ most, options.toolLimit key = some most → counts.tools key < most) ∧
      ∀ key ∈ item.servers, ∀ most, options.mcpServerLimit key = some most →
        counts.mcpServers key < most := by
  unfold concurrencyLimitReasons at none
  rw [append_eq_nil_iff, append_eq_nil_iff] at none
  obtain ⟨⟨agent, tools⟩, servers⟩ := none
  refine ⟨fun key member => ?_, uniqueValues_pass ?_, uniqueValues_pass ?_⟩
  · obtain ⟨present, named⟩ : item.agentId = some key ∧ key ≠ "" := by
      simpa [agents] using member
    refine below_of_not_exceeded ?_ named
    simpa [present] using agent
  · simpa using tools
  · simpa using servers

/-! ## Locks -/

namespace ResourceLockManager

variable {holderId : String} {locks : List ResourceLock} {manager : ResourceLockManager}

lemma mem_foldl_hold {key : String} {entry : String × ResourceLock} :
    entry ∈ (locks.foldl (fun manager lock => manager.hold holderId lock) manager).holders key ↔
      entry ∈ manager.holders key ∨
        ∃ lock ∈ locks, lockKey lock = key ∧ entry = (holderId, lock) := by
  induction locks generalizing manager with
  | nil => simp
  | cons head rest ih =>
    rw [foldl_cons, ih]
    by_cases same : key = lockKey head
    · simp [hold, same, or_assoc]
    · have other : lockKey head ≠ key := fun equal => same equal.symm
      simp [hold, same, other]

lemma shared_of_acquire {manager' : ResourceLockManager}
    (acquired : manager.acquire holderId locks = some manager') {lock : ResourceLock}
    (wanted : lock ∈ locks) {holder : String × ResourceLock}
    (held : holder ∈ manager.holders (lockKey lock)) :
    holder.2.mode = .shared ∧ lock.mode = .shared := by
  unfold acquire at acquired
  split_ifs at acquired with free
  have apart : ¬(holder.2.mode = .exclusive ∨ lock.mode = .exclusive) := by
    intro conflict
    have found : holder.2 ∈ manager.conflicts locks := by
      refine mem_flatMap.mpr ⟨lock, wanted, mem_map.mpr ⟨holder, ?_, rfl⟩⟩
      exact mem_filter.mpr ⟨held, by simpa using conflict⟩
    rw [free] at found
    exact not_mem_nil found
  constructor
  · cases mode : holder.2.mode with
    | shared => rfl
    | exclusive => exact absurd (.inl mode) apart
  · cases mode : lock.mode with
    | shared => rfl
    | exclusive => exact absurd (.inr mode) apart

lemma acquire_holds {manager' : ResourceLockManager}
    (acquired : manager.acquire holderId locks = some manager') {key : String}
    {entry : String × ResourceLock} : entry ∈ manager'.holders key ↔ entry ∈ manager.holders key ∨
      ∃ lock ∈ locks, lockKey lock = key ∧ entry = (holderId, lock) := by
  unfold acquire at acquired
  split_ifs at acquired
  cases acquired
  exact mem_foldl_hold

lemma acquire_empty (holderId : String) (locks : List ResourceLock) :
    ∃ manager, empty.acquire holderId locks = some manager := by
  have free : empty.conflicts locks = [] := by simp [conflicts, empty]
  exact ⟨_, if_pos free⟩

end ResourceLockManager

/-! ## A wave that is being filled -/

namespace WaveDraft

variable {limit : JsNumber} {options : ConcurrencyLimits}

lemma consider_cases (limit : JsNumber) (options : ConcurrencyLimits) (draft : WaveDraft)
    (item : SubSessionWorkItem) :
    (∃ reasonCodes, draft.consider limit options item =
      { draft with deferred := rememberDeferredReasons draft.deferred item.taskId reasonCodes }) ∨
    (¬limit.le (.ofNat draft.items.length) = true ∧
      concurrencyLimitReasons item draft.counts options = [] ∧
      ∃ locks, draft.locks.acquire item.taskId item.resourceLocks = some locks ∧
        draft.consider limit options item =
          { draft with
            items := draft.items ++ [item]
            locks
            counts := reserveConcurrency item draft.counts }) := by
  unfold consider
  simp only
  by_cases full : limit.le (.ofNat draft.items.length) = true
  · rw [if_pos full]
    exact .inl ⟨_, rfl⟩
  · rw [if_neg full]
    by_cases reasons : concurrencyLimitReasons item draft.counts options = []
    · rw [if_neg (not_not.mpr reasons)]
      cases acquired : draft.locks.acquire item.taskId item.resourceLocks with
      | none => exact .inl ⟨_, rfl⟩
      | some locks => exact .inr ⟨full, reasons, locks, rfl, rfl⟩
    · rw [if_pos reasons]
      exact .inl ⟨_, rfl⟩

/-- The locks of the items are held and apart, the counts are those of the
items, and the last item was admitted below the limit of the wave. -/
structure Sound (limit : JsNumber) (options : ConcurrencyLimits) (draft : WaveDraft) : Prop where
  held : ∀ item ∈ draft.items, ∀ lock ∈ item.resourceLocks,
    (item.taskId, lock) ∈ draft.locks.holders (lockKey lock)
  locks : draft.items.Pairwise Compatible
  room : draft.items = [] ∨ ¬limit.le (.ofNat (draft.items.length - 1)) = true
  agents : Bounded (·.agents) options.agentLimit draft.counts.agents draft.items
  tools : Bounded (·.tools) options.toolLimit draft.counts.tools draft.items
  servers : Bounded (·.servers) options.mcpServerLimit draft.counts.mcpServers draft.items

lemma Sound.start (limit : JsNumber) (options : ConcurrencyLimits) (deferred : DeferredReasons) :
    (start deferred).Sound limit options where
  held := nofun
  locks := List.Pairwise.nil
  room := .inl rfl
  agents := fun _ _ => ⟨rfl, fun _ _ => zero_le _⟩
  tools := fun _ _ => ⟨rfl, fun _ _ => zero_le _⟩
  servers := fun _ _ => ⟨rfl, fun _ _ => zero_le _⟩

variable {draft : WaveDraft}

lemma Sound.consider (sound : draft.Sound limit options) (item : SubSessionWorkItem) :
    (draft.consider limit options item).Sound limit options := by
  rcases consider_cases limit options draft item with
    ⟨reasonCodes, same⟩ | ⟨room, noReasons, locks, acquired, same⟩
  · rw [same]
    exact ⟨sound.held, sound.locks, sound.room, sound.agents, sound.tools, sound.servers⟩
  · rw [same]
    obtain ⟨agents, tools, servers⟩ := passes_of_no_reasons noReasons
    refine ⟨?_, ?_, .inr ?_, ?_, ?_, ?_⟩
    · intro other member lock wanted
      rw [acquire_holds acquired]
      rcases mem_append.mp member with old | new
      · exact .inl (sound.held other old lock wanted)
      · rw [mem_singleton.mp new] at wanted ⊢
        exact .inr ⟨lock, wanted, rfl, rfl⟩
    · refine pairwise_append.mpr ⟨sound.locks, pairwise_singleton _ _, ?_⟩
      intro first member second new lock wanted other wanted' kind target
      rw [mem_singleton.mp new] at wanted'
      have held := sound.held first member lock wanted
      have sameKey : lockKey lock = lockKey other := by
        rw [lockKey, lockKey, kind, target]
      rw [sameKey] at held
      exact shared_of_acquire acquired wanted' held
    · simpa using room
    · refine sound.agents.add (fun key named => ?_) agents
      show addCount (item.agentId.getD "") draft.counts.agents key = _
      rw [addCount_agent, foldl_addCount named (agents_nodup item)]
    · refine sound.tools.add (fun key named => ?_) tools
      show (uniqueValues item.toolNames).foldl _ draft.counts.tools key = _
      rw [foldl_addCount named (uniqueValues_nodup _)]
      simp [mem_uniqueValues, SubSessionWorkItem.tools]
    · refine sound.servers.add (fun key named => ?_) servers
      show (uniqueValues item.mcpServerIds).foldl _ draft.counts.mcpServers key = _
      rw [foldl_addCount named (uniqueValues_nodup _)]
      simp [mem_uniqueValues, SubSessionWorkItem.servers]

lemma Sound.foldl (sound : draft.Sound limit options) (candidates : List SubSessionWorkItem) :
    (candidates.foldl (WaveDraft.consider limit options) draft).Sound limit options := by
  induction candidates generalizing draft with
  | nil => exact sound
  | cons item rest ih => exact ih (sound.consider item)

lemma foldl_items (limit : JsNumber) (options : ConcurrencyLimits)
    (candidates : List SubSessionWorkItem) (draft : WaveDraft) :
    ∃ selected, selected.Sublist candidates ∧
      (candidates.foldl (consider limit options) draft).items =
        draft.items ++ selected := by
  induction candidates generalizing draft with
  | nil => exact ⟨[], List.Sublist.slnil, (append_nil _).symm⟩
  | cons item rest ih =>
    obtain ⟨selected, among, items⟩ := ih (draft.consider limit options item)
    rw [foldl_cons, items]
    rcases consider_cases limit options draft item with
      ⟨reasonCodes, same⟩ | ⟨_, _, locks, _, same⟩
    · exact ⟨selected, among.cons item, by rw [same]⟩
    · exact ⟨item :: selected, among.cons_cons item, by rw [same, append_assoc]; rfl⟩

lemma consider_admits {item : SubSessionWorkItem} {locks : ResourceLockManager}
    (room : ¬limit.le (.ofNat draft.items.length) = true)
    (noReasons : concurrencyLimitReasons item draft.counts options = [])
    (acquired : draft.locks.acquire item.taskId item.resourceLocks = some locks) :
    draft.consider limit options item =
      { draft with
        items := draft.items ++ [item]
        locks
        counts := reserveConcurrency item draft.counts } := by
  unfold consider
  simp only
  rw [if_neg room, if_neg (not_not.mpr noReasons), acquired]

end WaveDraft

/-! ## Items that pass alone -/

/-- Every limit lets the item pass when it is the first of its wave. -/
structure Passes (options : ConcurrencyLimits) (item : SubSessionWorkItem) : Prop where
  agents : ∀ key ∈ item.agents, options.agentLimit key ≠ some 0
  tools : ∀ key ∈ item.tools, options.toolLimit key ≠ some 0
  servers : ∀ key ∈ item.servers, options.mcpServerLimit key ≠ some 0

lemma not_exceeded_of_zero
    (passes : key ≠ "" → effectiveLimit explicitLimits defaultLimit key ≠ some 0) :
    countLimitExceeded key (fun _ => 0) explicitLimits defaultLimit = false := by
  unfold countLimitExceeded
  split_ifs with empty
  · rfl
  · cases limited : effectiveLimit explicitLimits defaultLimit key with
    | none => rfl
    | some limit =>
      have positive : limit ≠ 0 := fun zero => passes empty (zero ▸ limited)
      simpa using positive

lemma none_exceeded {keys : List String}
    (passes : ∀ key ∈ keys, effectiveLimit explicitLimits defaultLimit key ≠ some 0) :
    keys.any (countLimitExceeded · (fun _ => 0) explicitLimits defaultLimit) = false := by
  refine any_eq_false.mpr fun key member => ?_
  rw [not_exceeded_of_zero fun _ => passes key member]
  exact Bool.false_ne_true

lemma Passes.no_reasons {options : ConcurrencyLimits} (passes : Passes options item) :
    concurrencyLimitReasons item .zero options = [] := by
  have agent : countLimitExceeded (item.agentId.getD "") WaveCounts.zero.agents
      options.agentConcurrencyLimits options.defaultAgentConcurrencyLimit = false := by
    refine not_exceeded_of_zero fun named => passes.agents _ ?_
    rcases present : item.agentId with _ | agent
    · exact absurd (by rw [present]; rfl) named
    · rw [present] at named
      simpa [SubSessionWorkItem.agents, present] using named
  have tools : (uniqueValues item.toolNames).any (countLimitExceeded · WaveCounts.zero.tools
      options.toolConcurrencyLimits options.defaultToolConcurrencyLimit) = false :=
    none_exceeded fun key member => passes.tools key (mem_uniqueValues.mp member)
  have servers : (uniqueValues item.mcpServerIds).any
      (countLimitExceeded · WaveCounts.zero.mcpServers options.mcpServerConcurrencyLimits
        options.defaultMcpServerConcurrencyLimit) = false :=
    none_exceeded fun key member => passes.servers key (mem_uniqueValues.mp member)
  simp [concurrencyLimitReasons, agent, tools, servers]

lemma waveLimit_room (concurrencyLimit : Option JsNumber) (items : List SubSessionWorkItem) :
    ¬(waveLimit concurrencyLimit items).le (.ofNat 0) = true := by
  unfold waveLimit
  generalize concurrencyLimit.getD (.ofNat items.length) = value
  by_cases number : value = .nan
  · rw [number]
    exact Bool.false_ne_true
  · intro none_fits
    have one : (1 : JsNumber).le (max 1 value) = true := le_max_left (ofNat_ne_nan 1) number
    have absurdly := lt_of_lt_of_le
      (lt_of_lt_of_le ((lt_ofNat 0 1).mpr zero_lt_one) one) none_fits
    exact absurd ((lt_ofNat 0 0).mp absurdly) (lt_irrefl 0)

lemma Passes.first {options : ConcurrencyLimits} (passes : Passes options item)
    {limit : JsNumber} (room : ¬limit.le (.ofNat 0) = true) (rest : List SubSessionWorkItem)
    (deferred : DeferredReasons) :
    ((item :: rest).foldl (consider limit options) (.start deferred)).items ≠ [] := by
  obtain ⟨locks, acquired⟩ := acquire_empty item.taskId item.resourceLocks
  have admitted := consider_admits
    (show ¬limit.le (.ofNat (start deferred).items.length) = true from room)
    passes.no_reasons acquired
  rw [foldl_cons, admitted]
  obtain ⟨selected, -, same⟩ := foldl_items limit options rest
    { start deferred with
      items := [] ++ [item]
      locks
      counts := reserveConcurrency item .zero }
  intro nothing
  rw [show (start deferred).items = [] from rfl] at nothing
  rw [show (start deferred).counts = .zero from rfl, same] at nothing
  cases nothing

/-! ## Tasks and their items -/

section Planner

variable {items : List SubSessionWorkItem} {group : SubSessionGroup} {options : ConcurrencyLimits}

variable {item : SubSessionWorkItem} {taskId : String} {planner : WavePlanner}
  {waves : List SubSessionExecutionWave}

lemma mem_of_byTaskId (found : byTaskId items taskId = some item) :
    item ∈ items ∧ item.taskId = taskId := by
  unfold byTaskId at found
  exact ⟨mem_reverse.mp (mem_of_find?_eq_some found),
    by simpa using find?_some found⟩

section

variable (distinct : (items.map (·.taskId)).Nodup)
include distinct

lemma eq_of_taskId {other : SubSessionWorkItem}
    (member : item ∈ items) (member' : other ∈ items) (same : item.taskId = other.taskId) :
    item = other :=
  inj_on_of_nodup_map distinct member member' same

lemma byTaskId_eq (member : item ∈ items) : byTaskId items item.taskId = some item := by
  cases found : byTaskId items item.taskId with
  | none =>
    have missing := find?_eq_none.mp found item (mem_reverse.mpr member)
    simp at missing
  | some other =>
    obtain ⟨member', same⟩ := mem_of_byTaskId found
    rw [eq_of_taskId distinct member' member same]

lemma mem_dependenciesOf {edges : List DependencyEdge}
    {dep : String} : dep ∈ dependenciesOf items edges taskId ↔ WaitsFor items edges taskId dep := by
  unfold dependenciesOf WaitsFor
  rw [mem_append]
  refine or_congr ⟨fun listed => ?_, ?_⟩ ⟨fun listed => ?_, fun edge => ?_⟩
  · cases found : byTaskId items taskId with
    | none =>
      rw [found] at listed
      cases listed
    | some item =>
      rw [found] at listed
      obtain ⟨member, same⟩ := mem_of_byTaskId found
      exact ⟨item, member, same, listed⟩
  · rintro ⟨item, member, rfl, listed⟩
    rw [byTaskId_eq distinct member]
    exact listed
  · obtain ⟨edge, member, rfl⟩ := mem_map.mp listed
    obtain ⟨member, target⟩ := mem_filter.mp member
    have same : edge.toTaskId = taskId := by simpa using target
    rw [← same]
    exact member
  · exact mem_map.mpr ⟨_, mem_filter.mpr ⟨edge, by simp⟩, rfl⟩

lemma perm_of_taskIds {others : List SubSessionWorkItem} (among : ∀ item ∈ others, item ∈ items)
    (same : (others.map (·.taskId)).Perm (items.map (·.taskId))) : others.Perm items := by
  have apart : others.Nodup := (same.nodup_iff.mpr distinct).of_map _
  refine (subperm_of_subset apart fun item member => among item member).perm_of_length_le ?_
  have lengths := same.length_eq
  rw [length_map, length_map] at lengths
  exact lengths.ge

end

/-! ## Turns of the loop -/

namespace WavePlanner

variable {edges : List DependencyEdge} {limit : JsNumber}

/-- The tasks of the waves are completed, and those that are left are the others. -/
structure Accounted (items : List SubSessionWorkItem) (planner : WavePlanner) : Prop where
  distinct : planner.pending.Nodup
  tasks : (planner.completed ++ planner.pending).Perm (items.map (·.taskId))
  completed : (planner.waves.flatMap SubSessionExecutionWave.items).map (·.taskId) =
    planner.completed
  among : ∀ item ∈ planner.waves.flatMap SubSessionExecutionWave.items, item ∈ items

/-- Items of pending tasks, each of another task. -/
structure Chosen (items : List SubSessionWorkItem) (planner : WavePlanner)
    (waveItems : List SubSessionWorkItem) : Prop where
  some_item : waveItems ≠ []
  apart : (waveItems.map (·.taskId)).Nodup
  among : ∀ item ∈ waveItems, item ∈ items ∧ item.taskId ∈ planner.pending

lemma Accounted.start (distinct : (items.map (·.taskId)).Nodup) :
    (WavePlanner.start items).Accounted items where
  distinct := setAdd_nodup nodup_nil _
  tasks := by
    show (setAdd [] (items.map (·.taskId))).Perm _
    rw [setAdd_of_nodup distinct fun _ _ => not_mem_nil]
    exact List.Perm.refl _
  completed := rfl
  among := nofun

variable {planner : WavePlanner} {waveItems : List SubSessionWorkItem}

lemma Chosen.taken_perm (chosen : planner.Chosen items waveItems)
    (distinct : planner.pending.Nodup) : (waveItems.map (·.taskId) ++
      planner.pending.filter fun taskId => taskId ∉ waveItems.map (·.taskId)).Perm
        planner.pending := by
  refine (perm_ext_iff_of_nodup ?_ distinct).mpr fun taskId => ?_
  · refine nodup_append.mpr ⟨chosen.apart, distinct.filter _, ?_⟩
    intro first member second left same
    have notTaken : second ∉ waveItems.map (·.taskId) := by
      simpa using (mem_filter.mp left).2
    exact notTaken (same ▸ member)
  · rw [mem_append, mem_filter]
    by_cases member : taskId ∈ waveItems.map (·.taskId)
    · obtain ⟨item, here, rfl⟩ := mem_map.mp member
      exact ⟨fun _ => (chosen.among item here).2, fun _ => .inl member⟩
    · constructor
      · rintro (taken | ⟨pending, -⟩)
        · exact absurd taken member
        · exact pending
      · exact fun pending => .inr ⟨pending, by simpa using member⟩

lemma Accounted.close (accounted : planner.Accounted items) (deferred : DeferredReasons)
    (chosen : planner.Chosen items waveItems) :
    (planner.close deferred waveItems).Accounted items := by
  refine ⟨accounted.distinct.filter _, ?_, ?_, ?_⟩
  · show (planner.completed ++ waveItems.map (·.taskId) ++ planner.pending.filter _).Perm _
    rw [append_assoc]
    exact ((chosen.taken_perm accounted.distinct).append_left _).trans accounted.tasks
  · show ((planner.waves ++ [_]).flatMap SubSessionExecutionWave.items).map _ = _
    rw [flatMap_append, map_append, accounted.completed, flatMap_singleton]
    rfl
  · intro item member
    rcases mem_append.mp (flatMap_append ▸ member) with old | new
    · exact accounted.among item old
    · rw [flatMap_singleton] at new
      exact (chosen.among item new).1

lemma Chosen.fewer (chosen : planner.Chosen items waveItems) (distinct : planner.pending.Nodup)
    (deferred : DeferredReasons) :
    (planner.close deferred waveItems).pending.length < planner.pending.length := by
  have lengths := (chosen.taken_perm distinct).length_eq
  rw [length_append, length_map] at lengths
  have positive := length_pos_of_ne_nil chosen.some_item
  show (planner.pending.filter _).length < _
  omega

lemma taskIds_sublist (pending : List String) :
    ((pending.filterMap (byTaskId items)).map (·.taskId)).Sublist pending := by
  induction pending with
  | nil => exact List.Sublist.slnil
  | cons taskId rest ih =>
    cases found : byTaskId items taskId with
    | none =>
      rw [filterMap_cons_none found]
      exact ih.cons taskId
    | some item =>
      rw [filterMap_cons_some found, map_cons, (mem_of_byTaskId found).2]
      exact ih.cons_cons taskId

lemma mem_candidates (distinct : (items.map (·.taskId)).Nodup) {item : SubSessionWorkItem} :
    item ∈ planner.candidates items edges ↔ item ∈ items ∧ item.taskId ∈ planner.pending ∧
      ∀ dep, WaitsFor items edges item.taskId dep → dep ∈ planner.completed := by
  unfold candidates
  rw [mem_filter, mem_filterMap, all_eq_true]
  simp only [mem_dependenciesOf distinct, decide_eq_true_eq]
  constructor
  · rintro ⟨⟨taskId, pending, found⟩, ready⟩
    obtain ⟨member, rfl⟩ := mem_of_byTaskId found
    exact ⟨member, pending, ready⟩
  · rintro ⟨member, pending, ready⟩
    exact ⟨⟨item.taskId, pending, byTaskId_eq distinct member⟩, ready⟩

lemma select_sublist (items : List SubSessionWorkItem) (edges : List DependencyEdge)
    (limit : JsNumber) (options : ConcurrencyLimits) (planner : WavePlanner) :
    (planner.select items edges limit options).items.Sublist (planner.candidates items edges) := by
  obtain ⟨selected, sublist, listed⟩ := foldl_items limit options
    (planner.candidates items edges) (.start planner.deferred)
  have same : (planner.select items edges limit options).items = selected := listed
  rw [same]
  exact sublist

lemma next_selected {selected : List SubSessionWorkItem}
    (selects : (planner.select items edges limit options).items = selected)
    (some_item : selected ≠ []) :
    ∃ deferred, planner.next items edges limit options = some (planner.close deferred selected) :=
  ⟨_, by rw [next, selects, if_neg some_item]⟩

lemma next_fallback {fallback : SubSessionWorkItem}
    (nothing : (planner.select items edges limit options).items = [])
    (head : (planner.pending.filterMap (byTaskId items)).head? = some fallback) :
    ∃ deferred, planner.next items edges limit options = some (planner.close deferred [fallback]) :=
  ⟨_, by rw [next, nothing, if_pos rfl, head, Option.map_some]⟩

/-- A turn closes a wave of what it selected or, when that is nothing, of the
first task that is left. -/
lemma Accounted.next (distinct : (items.map (·.taskId)).Nodup)
    (accounted : planner.Accounted items) (more : planner.pending ≠ [])
    (edges : List DependencyEdge) (limit : JsNumber) (options : ConcurrencyLimits) :
    ∃ deferred waveItems,
      planner.next items edges limit options = some (planner.close deferred waveItems) ∧
      planner.Chosen items waveItems ∧
      ((planner.select items edges limit options).items = waveItems ∨
        (planner.select items edges limit options).items = [] ∧ ∃ item, waveItems = [item]) := by
  by_cases nothing : (planner.select items edges limit options).items = []
  · obtain ⟨taskId, rest, pending⟩ := exists_cons_of_ne_nil more
    have isPending : taskId ∈ planner.pending := by
      rw [pending]
      exact mem_cons_self
    obtain ⟨fallback, member, rfl⟩ := mem_map.mp
      (accounted.tasks.subset (mem_append_right planner.completed isPending))
    have head : (planner.pending.filterMap (byTaskId items)).head? = some fallback := by
      rw [pending, filterMap_cons_some (byTaskId_eq distinct member)]
      rfl
    obtain ⟨deferred, turn⟩ := next_fallback nothing head
    refine ⟨deferred, [fallback], turn, ⟨cons_ne_nil _ _, nodup_singleton _, ?_⟩,
      .inr ⟨nothing, fallback, rfl⟩⟩
    intro item isFallback
    rw [mem_singleton.mp isFallback]
    exact ⟨member, isPending⟩
  · have sublist := planner.select_sublist items edges limit options
    obtain ⟨deferred, turn⟩ := next_selected rfl nothing
    refine ⟨deferred, _, turn, ⟨nothing, ?_, fun item member => ?_⟩, .inl rfl⟩
    · have pendingItems : (planner.candidates items edges).Sublist _ := filter_sublist
      exact ((sublist.trans pendingItems).map _).nodup
        ((taskIds_sublist planner.pending).nodup accounted.distinct)
    · have candidate := (mem_candidates distinct).mp (sublist.subset member)
      exact ⟨candidate.1, candidate.2.1⟩

lemma Accounted.loop (distinct : (items.map (·.taskId)).Nodup) {options : ConcurrencyLimits}
    {inv : WavePlanner → Prop}
    (keep : ∀ planner planner' : WavePlanner, planner.Accounted items → inv planner →
      planner.pending ≠ [] → planner.next items edges limit options = some planner' → inv planner')
    {turns : Nat} (accounted : planner.Accounted items) (holds : inv planner)
    (enough : planner.pending.length ≤ turns) :
    ∃ planner' : WavePlanner, planner'.Accounted items ∧ planner'.pending = [] ∧ inv planner' ∧
      planner.loop items edges limit options turns = some planner'.waves := by
  induction turns generalizing planner with
  | zero =>
    have done := eq_nil_of_length_eq_zero (Nat.le_zero.mp enough)
    exact ⟨planner, accounted, done, holds, by rw [WavePlanner.loop, if_pos done]⟩
  | succ turns ih =>
    by_cases done : planner.pending = []
    · exact ⟨planner, accounted, done, holds, by rw [WavePlanner.loop, if_pos done]⟩
    · obtain ⟨deferred, waveItems, turn, chosen, -⟩ :=
        accounted.next distinct done edges limit options
      have fewer := chosen.fewer accounted.distinct deferred
      obtain ⟨last, lastAccounted, ended, lastHolds, result⟩ := ih
        (accounted.close deferred chosen) (keep _ _ accounted holds done turn) (by omega)
      refine ⟨last, lastAccounted, ended, lastHolds, ?_⟩
      rw [WavePlanner.loop, if_neg done, turn]
      exact result

lemma Accounted.partition (distinct : (items.map (·.taskId)).Nodup)
    (accounted : planner.Accounted items) (done : planner.pending = []) :
    (planner.waves.flatMap SubSessionExecutionWave.items).Perm items := by
  refine perm_of_taskIds distinct accounted.among ?_
  have tasks := accounted.tasks
  rw [done, append_nil] at tasks
  rw [accounted.completed]
  exact tasks

lemma Accounted.start_enough (accounted : (WavePlanner.start items).Accounted items) :
    (WavePlanner.start items).pending.length ≤ items.length := by
  have tasks := accounted.tasks.length_eq
  rw [length_append, length_map] at tasks
  omega

end WavePlanner

lemma plan_exists (distinct : (items.map (·.taskId)).Nodup) (group : SubSessionGroup)
    (options : ConcurrencyLimits) :
    ∃ waves, planSubSessionExecutionWaves items group options = some waves ∧
      (waves.flatMap SubSessionExecutionWave.items).Perm items := by
  have start : (WavePlanner.start items).Accounted items := .start distinct
  obtain ⟨planner, accounted, done, -, result⟩ :=
    WavePlanner.Accounted.loop distinct (fun _ _ _ _ _ _ => trivial) start trivial start.start_enough
  exact ⟨planner.waves, result, accounted.partition distinct done⟩

/-! ## Waves that are sound -/

/-- A group limit that is not exceeded: none, at most one, or a whole number. -/
def WholeLimit (concurrencyLimit : Option ℚ) : Prop :=
  ∀ value, concurrencyLimit = some value → value ≤ 1 ∨ (value.floor : ℚ) = value

lemma waveLimit_finite (value : ℚ) (items : List SubSessionWorkItem) :
    waveLimit (some (.finite value)) items = .finite (max 1 value) := by
  have one : (1 : JsNumber) = .finite 1 := congrArg finite cast_one
  have number value : finite value ≠ .nan := nofun
  rw [waveLimit, Option.getD_some, one, max_eq (number 1) (number value)]
  by_cases larger : 1 < value
  · rw [if_pos (by simpa [lt] using larger), max_eq_right larger.le]
  · rw [if_neg (by simpa [lt] using larger), max_eq_left (not_lt.mp larger)]

lemma WholeLimit.within {concurrencyLimit : Option ℚ} (whole : WholeLimit concurrencyLimit)
    {count : Nat} (room : ¬(waveLimit (concurrencyLimit.map .finite) items).le (.ofNat count) = true)
    (several : 1 < count + 1) {limit : JsNumber}
    (given : concurrencyLimit.map finite = some limit) :
    (ofNat (count + 1)).le limit = true := by
  obtain ⟨value, rfl, rfl⟩ := Option.map_eq_some_iff.mp given
  rw [Option.map_some, waveLimit_finite] at room
  simp only [le, ofNat, decide_eq_true_eq, not_le] at room ⊢
  have positive : (1 : ℚ) ≤ count := by exact_mod_cast Nat.lt_succ_iff.mp several
  have below : (count : ℚ) < value := (lt_max_iff.mp room).resolve_left (not_lt.mpr positive)
  rcases whole value rfl with small | whole
  · exact absurd (below.trans_le small) (not_lt.mpr positive)
  · rw [← whole] at below ⊢
    exact_mod_cast below

lemma WaveDraft.Sound.waveSound {concurrencyLimit : Option ℚ} {draft : WaveDraft}
    (sound : draft.Sound (waveLimit (concurrencyLimit.map .finite) items) options)
    (whole : WholeLimit concurrencyLimit) :
    WaveSound (concurrencyLimit.map .finite) options draft.items where
  locks := sound.locks
  group := by
    intro several limit given
    have room := sound.room.resolve_left (ne_nil_of_length_pos (by omega))
    have count : draft.items.length - 1 + 1 = draft.items.length := by omega
    rw [← count] at several ⊢
    exact whole.within room several given
  agents := fun _ => sound.agents.within fun item => by simp [SubSessionWorkItem.agents]
  tools := fun _ => sound.tools.within fun item => by
    simp [SubSessionWorkItem.tools, show jsTrim "" = "" from rfl]
  servers := fun _ => sound.servers.within fun item => by
    simp [SubSessionWorkItem.servers, show jsTrim "" = "" from rfl]

lemma WaveSound.alone (groupLimit : Option JsNumber) (options : ConcurrencyLimits)
    (item : SubSessionWorkItem) : WaveSound groupLimit options [item] where
  locks := pairwise_singleton _ _
  group := fun several => absurd several (lt_irrefl 1)
  agents := fun several => absurd several (lt_irrefl 1)
  tools := fun several => absurd several (lt_irrefl 1)
  servers := fun several => absurd several (lt_irrefl 1)

/-! ## The whole plan -/

variable {groupId : String} {edges : List DependencyEdge} {concurrencyLimit : Option ℚ}

/-- What a plan is held to, of the waves so far. -/
structure WavePlanner.Sound (items : List SubSessionWorkItem) (edges : List DependencyEdge)
    (groupLimit : Option JsNumber) (options : ConcurrencyLimits) (planner : WavePlanner) :
    Prop where
  sound : ∀ wave ∈ planner.waves, WaveSound groupLimit options wave.items
  ordered : InOrder items edges planner.waves

lemma WavePlanner.Accounted.candidates_ne_nil (distinct : (items.map (·.taskId)).Nodup)
    (accounted : planner.Accounted items) (pending : taskId ∈ planner.pending)
    (settled : Dependency.Settled (WaitsFor items edges)
      {taskId | taskId ∈ items.map (·.taskId)} taskId) :
    planner.candidates items edges ≠ [] := by
  obtain ⟨ready, isLeft, settled, freed⟩ := settled.exists_ready
    (finite_toSet (items.map (·.taskId))) (show taskId ∈ {id | id ∈ planner.pending} from pending)
  obtain ⟨item, member, rfl⟩ := mem_map.mp
    (accounted.tasks.subset (mem_append_right planner.completed isLeft))
  have candidate : item ∈ planner.candidates items edges := by
    refine (mem_candidates distinct).mpr ⟨member, isLeft, fun dep waits => ?_⟩
    have known := accounted.tasks.symm.subset (settled dep (.single waits)).1
    exact (mem_append.mp known).resolve_right (freed dep waits)
  exact ne_nil_of_mem candidate

lemma WavePlanner.select_ne_nil (distinct : (items.map (·.taskId)).Nodup)
    (passes : ∀ item ∈ items, Passes options item) {limit : JsNumber}
    (room : ¬limit.le (.ofNat 0) = true) (some_candidate : planner.candidates items edges ≠ []) :
    (planner.select items edges limit options).items ≠ [] := by
  obtain ⟨first, rest, candidates⟩ := exists_cons_of_ne_nil some_candidate
  have candidate : first ∈ planner.candidates items edges := by
    rw [candidates]
    exact mem_cons_self
  have member := ((mem_candidates distinct).mp candidate).1
  unfold select
  rw [candidates]
  exact (passes first member).first room rest planner.deferred

/-- A wave that can run, of tasks that have what they wait for or cannot be
settled, comes after what its tasks wait for. -/
lemma WavePlanner.Sound.close {groupLimit : Option JsNumber}
    (sound : planner.Sound items edges groupLimit options) (accounted : planner.Accounted items)
    (deferred : DeferredReasons) {waveItems : List SubSessionWorkItem}
    (waveSound : WaveSound groupLimit options waveItems)
    (ready : ∀ item ∈ waveItems, Dependency.Settled (WaitsFor items edges)
        {taskId | taskId ∈ items.map (·.taskId)} item.taskId →
      ∀ dep, WaitsFor items edges item.taskId dep → dep ∈ planner.completed) :
    (planner.close deferred waveItems).Sound items edges groupLimit options := by
  constructor
  · intro wave member
    rcases mem_append.mp member with old | new
    · exact sound.sound wave old
    · rw [mem_singleton.mp new]
      exact waveSound
  · intro item member settled dep waits position wave found here
    rcases lt_or_ge position planner.waves.length with old | last
    · have found' : planner.waves[position]? = some wave := by
        rw [← found]
        exact (getElem?_append_left old).symm
      obtain ⟨earlier, before, wave', inside, has⟩ :=
        sound.ordered item member settled dep waits position wave found' here
      refine ⟨earlier, before, wave', ?_, has⟩
      rw [← inside]
      exact getElem?_append_left (before.trans old)
    · have inNew : item ∈ waveItems := by
        have found' := found
        rw [WavePlanner.close, getElem?_append_right last] at found'
        have same := mem_of_getElem? found'
        rw [mem_singleton.mp same] at here
        exact here
      have done := ready item inNew settled dep waits
      rw [← accounted.completed] at done
      obtain ⟨other, inside, rfl⟩ := mem_map.mp done
      obtain ⟨before, inside, has⟩ := mem_flatMap.mp inside
      obtain ⟨earlier, bound, rfl⟩ := mem_iff_getElem.mp inside
      refine ⟨earlier, bound.trans_le last, _, ?_, mem_map_of_mem has⟩
      exact (getElem?_append_left bound).trans (getElem?_eq_getElem bound)

section

variable (distinct : (items.map (·.taskId)).Nodup) (whole : WholeLimit concurrencyLimit)
  (passes : ∀ item ∈ items, Passes options item)

include distinct whole passes

lemma WavePlanner.Sound.next {planner' : WavePlanner} (accounted : planner.Accounted items)
    (sound : planner.Sound items edges (concurrencyLimit.map .finite) options)
    (more : planner.pending ≠ [])
    (turn : planner.next items edges (waveLimit (concurrencyLimit.map .finite) items) options =
      some planner') :
    planner'.Sound items edges (concurrencyLimit.map .finite) options := by
  obtain ⟨deferred, waveItems, turn', chosen, selected | ⟨nothing, fallback, rfl⟩⟩ :=
    accounted.next distinct more edges (waveLimit (concurrencyLimit.map .finite) items) options
  · rw [turn'] at turn
    cases turn
    refine sound.close accounted deferred ?_ fun item member _ => ?_
    · have draftSound : (planner.select items edges (waveLimit (concurrencyLimit.map .finite) items)
          options).Sound (waveLimit (concurrencyLimit.map .finite) items) options :=
        (WaveDraft.Sound.start _ options planner.deferred).foldl _
      have waveSound := draftSound.waveSound whole
      rw [selected] at waveSound
      exact waveSound
    · rw [← selected] at member
      exact ((mem_candidates distinct).mp ((planner.select_sublist items edges _ options).subset
        member)).2.2
  · rw [turn'] at turn
    cases turn
    refine sound.close accounted deferred (WaveSound.alone _ _ _) fun item member settled => ?_
    have isPending := (chosen.among item member).2
    have some_candidate := accounted.candidates_ne_nil distinct isPending settled
    exact absurd nothing (select_ne_nil distinct passes (waveLimit_room _ items) some_candidate)

/-- Where the group limit is whole and every item passes when it is the first of
its wave, there is a plan, and it is sound. -/
lemma plan_sound :
    ∃ waves, planSubSessionExecutionWaves items ⟨groupId, edges, concurrencyLimit.map .finite⟩
        options = some waves ∧
      WavesSound items ⟨groupId, edges, concurrencyLimit.map .finite⟩ options waves := by
  have start : (WavePlanner.start items).Accounted items := .start distinct
  have startSound : (WavePlanner.start items).Sound items edges (concurrencyLimit.map .finite)
      options := ⟨nofun, fun _ _ _ _ _ _ _ found => nomatch found⟩
  obtain ⟨planner, accounted, done, sound, result⟩ := WavePlanner.Accounted.loop distinct
    (fun _ _ accounted sound more turn =>
      WavePlanner.Sound.next distinct whole passes accounted sound more turn)
    start startSound start.start_enough
  exact ⟨planner.waves, result, accounted.partition distinct done, sound.sound, sound.ordered⟩

end

/-! ## Limits that break the plan -/

lemma WavePlanner.loop_extends {limit : JsNumber} {turns : Nat}
    (result : planner.loop items edges limit options turns = some waves) :
    planner.waves <+: waves := by
  induction turns generalizing planner with
  | zero =>
    unfold loop at result
    split_ifs at result
    cases result
    exact prefix_refl _
  | succ turns ih =>
    unfold loop at result
    split_ifs at result
    · cases result
      exact prefix_refl _
    · cases turn : planner.next items edges limit options with
      | none =>
        rw [turn] at result
        cases result
        exact prefix_refl _
      | some next =>
        rw [turn] at result
        refine List.IsPrefix.trans ?_ (ih result)
        unfold WavePlanner.next at turn
        simp only at turn
        split_ifs at turn
        · obtain ⟨fallback, -, rfl⟩ := Option.map_eq_some_iff.mp turn
          exact prefix_append _ _
        · cases turn
          exact prefix_append _ _

lemma first_wave {group : SubSessionGroup} {waveItems : List SubSessionWorkItem}
    (some_item : items ≠ [])
    (turn : ∃ deferred, (start items).next items group.dependencyEdges
      (waveLimit group.concurrencyLimit items) options =
        some ((start items).close deferred waveItems))
    (result : planSubSessionExecutionWaves items group options = some waves) :
    ∃ first : SubSessionExecutionWave, waves[0]? = some first ∧ first.items = waveItems := by
  obtain ⟨deferred, turn⟩ := turn
  obtain ⟨item, rest, rfl⟩ := exists_cons_of_ne_nil some_item
  have more : (start (item :: rest)).pending ≠ [] := by
    have member : item.taskId ∈ (start (item :: rest)).pending :=
      mem_setAdd.mpr (.inr mem_cons_self)
    exact ne_nil_of_mem member
  rw [planSubSessionExecutionWaves, length_cons, loop, if_neg more, turn] at result
  obtain ⟨later, rfl⟩ := loop_extends result
  exact ⟨_, rfl, rfl⟩

/-- An item that waits for nothing and has no keys and no locks. -/
def plainItem (taskId : String) : SubSessionWorkItem :=
  ⟨taskId, taskId, none, [], [], none, none, [], []⟩

lemma plainItem_no_reasons (taskId : String) (counts : WaveCounts) (options : ConcurrencyLimits) :
    concurrencyLimitReasons (plainItem taskId) counts options = [] := by
  simp [concurrencyLimitReasons, plainItem, countLimitExceeded, uniqueValues, setAdd]

lemma foldl_plainItem {limit : JsNumber} (taskIds : List String) (draft : WaveDraft)
    (room : ∀ count < draft.items.length + taskIds.length, ¬limit.le (.ofNat count) = true) :
    ((taskIds.map plainItem).foldl (consider limit options) draft).items =
      draft.items ++ taskIds.map plainItem := by
  induction taskIds generalizing draft with
  | nil => exact (append_nil _).symm
  | cons taskId rest ih =>
    have free : draft.locks.acquire (plainItem taskId).taskId (plainItem taskId).resourceLocks =
        some draft.locks := if_pos rfl
    have admitted := consider_admits (room _ (by simp))
      (plainItem_no_reasons taskId draft.counts options) free
    rw [map_cons, foldl_cons, admitted, ih]
    · exact append_assoc _ _ _
    · intro count below
      refine room count (below.trans_le ?_)
      rw [length_append, length_singleton, length_cons]
      omega

lemma filterMap_byTaskId (distinct : (items.map (·.taskId)).Nodup) :
    (items.map (·.taskId)).filterMap (byTaskId items) = items := by
  rw [filterMap_map]
  calc items.filterMap (byTaskId items ∘ fun item => item.taskId)
      = items.filterMap some := filterMap_congr fun item member => byTaskId_eq distinct member
    _ = items := filterMap_some

/-- Any number of tasks. -/
def taskNames (count : Nat) : List String :=
  (List.range count).map fun index => String.ofList (List.replicate index 'a')

lemma taskNames_nodup (count : Nat) : (taskNames count).Nodup := by
  refine List.Nodup.map (fun first second same => ?_) nodup_range
  have lengths := congrArg (List.length ∘ String.toList) same
  simpa using lengths

/-- A limit with room for some plain items is taken by the first wave. -/
lemma plain_wave {concurrencyLimit : Option JsNumber} {count : Nat} (several : 0 < count)
    (plain : items = (taskNames count).map plainItem)
    (room : ∀ below < count, ¬(waveLimit concurrencyLimit items).le (.ofNat below) = true)
    (result : planSubSessionExecutionWaves items ⟨groupId, [], concurrencyLimit⟩ options =
      some waves) :
    ∃ first : SubSessionExecutionWave, waves[0]? = some first ∧ first.items = items := by
  have ids : items.map (·.taskId) = taskNames count := by
    rw [plain, map_map]
    exact List.map_id _
  have distinct : (items.map (·.taskId)).Nodup := by
    rw [ids]
    exact taskNames_nodup count
  have long : (taskNames count).length = count := by simp [taskNames]
  have some_item : items ≠ [] := by
    rintro rfl
    rw [← long, ← ids] at several
    exact Nat.lt_irrefl 0 several
  have candidates : (start items).candidates items [] = items := by
    have pending : (start items).pending = items.map (·.taskId) :=
      setAdd_of_nodup distinct fun _ _ => not_mem_nil
    rw [candidates, pending, filterMap_byTaskId distinct]
    refine filter_eq_self.mpr fun item member => all_eq_true.mpr fun dep waits => ?_
    rcases (mem_dependenciesOf distinct).mp waits with ⟨other, member', -, listed⟩ | edge
    · obtain ⟨taskId, -, rfl⟩ := mem_map.mp (plain ▸ member')
      cases listed
    · cases edge
  have selected : ((start items).select items [] (waveLimit concurrencyLimit items)
      options).items = items := by
    rw [select, candidates]
    subst plain
    refine foldl_plainItem _ _ fun below less => room below ?_
    rw [long] at less
    simpa [WaveDraft.start] using less
  exact first_wave some_item (next_selected selected some_item) result

/-- An item that waits for the task `blocked` alone. -/
def waitingItem : SubSessionWorkItem := { plainItem "waiting" with dependencies := ["blocked"] }

/-- The item under the name that is waited for, waiting for nothing. -/
def blockedItem (item : SubSessionWorkItem) : SubSessionWorkItem :=
  { item with taskId := "blocked", dependencies := [] }

lemma waiting_wave (reasons : concurrencyLimitReasons (blockedItem item) .zero options ≠ [])
    {concurrencyLimit : Option JsNumber}
    (result : planSubSessionExecutionWaves [waitingItem, blockedItem item]
      ⟨groupId, [], concurrencyLimit⟩ options = some waves) :
    ∃ first : SubSessionExecutionWave, waves[0]? = some first ∧ first.items = [waitingItem] := by
  have candidates : (start [waitingItem, blockedItem item]).candidates
      [waitingItem, blockedItem item] [] = [blockedItem item] := rfl
  have selected : ((start [waitingItem, blockedItem item]).select
      [waitingItem, blockedItem item] [] (waveLimit concurrencyLimit
        [waitingItem, blockedItem item]) options).items = [] := by
    rw [select, candidates]
    show (WaveDraft.consider _ options (.start _) (blockedItem item)).items = []
    rcases WaveDraft.consider_cases (waveLimit concurrencyLimit [waitingItem, blockedItem item])
      options (.start fun _ => []) (blockedItem item) with ⟨_, same⟩ | ⟨_, noReasons, _⟩
    · exact congrArg WaveDraft.items same
    · exact absurd noReasons reasons
  exact first_wave (cons_ne_nil _ _) (next_fallback selected rfl) result

lemma waiting_settled (item : SubSessionWorkItem) :
    WaitsFor [waitingItem, blockedItem item] [] "waiting" "blocked" ∧
      Dependency.Settled (WaitsFor [waitingItem, blockedItem item] [])
        {taskId | taskId ∈ [waitingItem, blockedItem item].map (·.taskId)} "waiting" := by
  have needs : ∀ taskId dep, WaitsFor [waitingItem, blockedItem item] [] taskId dep →
      taskId = "waiting" ∧ dep = "blocked" := by
    rintro taskId dep (⟨other, member, rfl, listed⟩ | edge)
    · rcases mem_cons.mp member with rfl | member
      · exact ⟨rfl, mem_singleton.mp listed⟩
      · rw [mem_singleton.mp member] at listed
        cases listed
    · cases edge
  refine ⟨.inl ⟨waitingItem, mem_cons_self, rfl, mem_cons_self⟩, fun dep path => ?_⟩
  have last : dep = "blocked" := by
    obtain ⟨before, -, step⟩ := Relation.TransGen.tail'_iff.mp path
    exact (needs before dep step).2
  rw [last]
  refine ⟨mem_cons_of_mem _ mem_cons_self, fun cycle => ?_⟩
  obtain ⟨after, step, -⟩ := Relation.TransGen.head'_iff.mp cycle
  exact absurd (needs _ _ step).1 (by decide)

lemma not_sound_of_waiting_first {limit : Option JsNumber}
    (sound : WavesSound [waitingItem, blockedItem item] ⟨groupId, [], limit⟩ options waves)
    {first : SubSessionExecutionWave} (found : waves[0]? = some first)
    (same : first.items = [waitingItem]) : False := by
  obtain ⟨waits, settled⟩ := waiting_settled item
  obtain ⟨earlier, before, -⟩ := sound.ordered waitingItem mem_cons_self settled "blocked"
    waits 0 first found (same ▸ mem_cons_self)
  exact not_lt_zero earlier before

lemma passes_of_sound {concurrencyLimit : Option JsNumber}
    (sound : ∀ items : List SubSessionWorkItem, (items.map (·.taskId)).Nodup →
      ∃ waves, planSubSessionExecutionWaves items ⟨groupId, [], concurrencyLimit⟩ options =
          some waves ∧ WavesSound items ⟨groupId, [], concurrencyLimit⟩ options waves)
    (item : SubSessionWorkItem) : Passes options item := by
  by_cases reasons : concurrencyLimitReasons (blockedItem item) .zero options = []
  · obtain ⟨agents, tools, servers⟩ := passes_of_no_reasons reasons
    exact ⟨fun key member limited => absurd (agents key member 0 limited) (lt_irrefl 0),
      fun key member limited => absurd (tools key member 0 limited) (lt_irrefl 0),
      fun key member limited => absurd (servers key member 0 limited) (lt_irrefl 0)⟩
  · have distinct : ([waitingItem, blockedItem item].map (·.taskId)).Nodup := by
      show ["waiting", "blocked"].Nodup
      decide
    obtain ⟨waves, result, sound⟩ := sound _ distinct
    obtain ⟨first, found, same⟩ := waiting_wave reasons result
    exact (not_sound_of_waiting_first sound found same).elim

lemma whole_of_sound (sound : ∀ items : List SubSessionWorkItem, (items.map (·.taskId)).Nodup →
      ∃ waves, planSubSessionExecutionWaves items ⟨groupId, [], concurrencyLimit.map .finite⟩
          options = some waves ∧
        WavesSound items ⟨groupId, [], concurrencyLimit.map .finite⟩ options waves) :
    WholeLimit concurrencyLimit := by
  rintro value rfl
  by_contra broken
  obtain ⟨large, broken⟩ := not_or.mp broken
  have several : 1 < ⌈value⌉₊ := lt_ceil.mpr (by exact_mod_cast not_le.mp large)
  have distinct : (((taskNames ⌈value⌉₊).map plainItem).map (·.taskId)).Nodup := by
    rw [map_map]
    exact (List.map_id _).symm ▸ taskNames_nodup _
  obtain ⟨waves, result, sound⟩ := sound _ distinct
  obtain ⟨first, found, same⟩ := plain_wave (zero_lt_of_lt several) rfl (fun below less => by
    rw [Option.map_some, waveLimit_finite]
    simpa [le, ofNat] using fun _ => lt_ceil.mp less) result
  have long : first.items.length = ⌈value⌉₊ := by
    rw [same, length_map]
    simp [taskNames]
  have within := (sound.sound first (mem_of_getElem? found)).group (long ▸ several) _ rfl
  rw [long] at within
  have above : ((⌈value⌉₊ : Nat) : ℚ) ≤ value := by
    simpa [le, ofNat] using within
  have exact : ((⌈value⌉₊ : Nat) : ℚ) = value := le_antisymm above (le_ceil value)
  have whole (count : Nat) : ((count : ℚ).floor : ℚ) = count := by
    have floor : (count : ℚ).floor = count := by simp [Rat.floor]
    rw [floor, Int.cast_natCast]
  rw [← exact] at broken
  exact broken (whole _)

/-- The plan of a list is sound where the group limit is whole and every limit
lets each of its items pass; and no other limits make the plans of all lists
sound. -/
theorem waves_sound_iff (groupId : String) (concurrencyLimit : Option ℚ)
    (options : ConcurrencyLimits) :
    (∀ (items : List SubSessionWorkItem) (edges : List DependencyEdge),
      (items.map (·.taskId)).Nodup → WholeLimit concurrencyLimit →
      (∀ item ∈ items, Passes options item) →
      ∃ waves, planSubSessionExecutionWaves items ⟨groupId, edges, concurrencyLimit.map .finite⟩
          options = some waves ∧
        WavesSound items ⟨groupId, edges, concurrencyLimit.map .finite⟩ options waves) ∧
    ((∀ (items : List SubSessionWorkItem) (edges : List DependencyEdge),
      (items.map (·.taskId)).Nodup →
      ∃ waves, planSubSessionExecutionWaves items ⟨groupId, edges, concurrencyLimit.map .finite⟩
          options = some waves ∧
        WavesSound items ⟨groupId, edges, concurrencyLimit.map .finite⟩ options waves) ↔
      WholeLimit concurrencyLimit ∧ ∀ item, Passes options item) := by
  refine ⟨fun items edges distinct whole passes => plan_sound distinct whole passes, ?_, ?_⟩
  · intro sound
    exact ⟨whole_of_sound fun items distinct => sound items [] distinct,
      passes_of_sound fun items distinct => sound items [] distinct⟩
  · rintro ⟨whole, passes⟩ items edges distinct
    exact plan_sound distinct whole fun item _ => passes item

/-- A task, and the task of an agent that it waits for. -/
def agentItems : List SubSessionWorkItem :=
  [waitingItem, blockedItem { plainItem "blocked" with agentId := some "agent:writer" }]

def agentLimits (limit : ℚ) : ConcurrencyLimits :=
  ⟨fun _ => none, some (.finite limit), fun _ => none, none, fun _ => none, none⟩

theorem waves_sound_iff_sample :
    ∃ waves, planSubSessionExecutionWaves agentItems ⟨"group:1", [], some (.finite 2)⟩
        (agentLimits 1) = some waves ∧
      WavesSound agentItems ⟨"group:1", [], some (.finite 2)⟩ (agentLimits 1) waves := by
  have room (key : String) : (agentLimits 1).agentLimit key = some 1 := rfl
  refine (waves_sound_iff "group:1" (some 2) (agentLimits 1)).1 agentItems [] (by decide)
    (fun _ same => .inr (by cases same; decide +kernel)) fun item _ =>
      ⟨fun key _ => by simp [room], fun _ _ => nofun, fun _ _ => nofun⟩

/-- Under a default limit of one half no task of an agent is selected, and one
is run after the task that waits for it. -/
theorem half_limit_reverses :
    (agentItems.map (·.taskId)).Nodup ∧
      (planSubSessionExecutionWaves agentItems ⟨"group:1", [], none⟩ (agentLimits (1 / 2))).map
        (·.map fun wave => wave.items.map (·.taskId)) = some [["waiting"], ["blocked"]] ∧
      ¬∃ waves, planSubSessionExecutionWaves agentItems ⟨"group:1", [], none⟩
          (agentLimits (1 / 2)) = some waves ∧
        WavesSound agentItems ⟨"group:1", [], none⟩ (agentLimits (1 / 2)) waves := by
  refine ⟨by decide, by decide +kernel, ?_⟩
  rintro ⟨waves, result, sound⟩
  obtain ⟨first, found, isWaiting⟩ := waiting_wave (by decide +kernel) result
  exact not_sound_of_waiting_first sound found isWaiting

end Planner

end Knowbee
