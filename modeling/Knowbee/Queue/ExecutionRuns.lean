import Knowbee.Queue.Execution

/-!
# Runs of execution queues

Any calls, with the stages of all chains run in any order.  Of a queue object at
most one call is past its wait and not settled, and a group has at most one
queue object with a call that was not released, the one it is mapped to.  So the
tasks of a group are called one at a time in the order of admission
(`group_queues_sound`).
-/

namespace Knowbee

open List ChainStage JsNumber Nat

variable {R E : Type}

/-! ## Stages -/

namespace ChainStage

def isQueued : ChainStage R E → Bool
  | .queued => true
  | _ => false

def isWaiting : ChainStage R E → Bool
  | .queued => true
  | .recovered _ => true
  | _ => false

def isExecuting : ChainStage R E → Bool
  | .executing => true
  | _ => false

def isUnreleased : ChainStage R E → Bool
  | .released _ => false
  | .settled _ => false
  | _ => true

def isSettled : ChainStage R E → Bool
  | .settled _ => true
  | _ => false

lemma unreleased_of_waiting {stage : ChainStage R E} (waiting : stage.isWaiting = true) :
    stage.isUnreleased = true := by
  cases stage <;> first | rfl | cases waiting

lemma past_of_settled {stage : ChainStage R E} (settled : stage.isSettled = true) :
    stage.isQueued = false ∧ stage.isWaiting = false ∧ stage.isExecuting = false := by
  cases stage <;> first | exact ⟨rfl, rfl, rfl⟩ | cases settled

lemma not_queued_of_executing {stage : ChainStage R E} (executing : stage.isExecuting = true) :
    stage.isQueued = false := by
  cases stage <;> first | rfl | cases executing

lemma unreleased_of_executing {stage : ChainStage R E} (executing : stage.isExecuting = true) :
    stage.isUnreleased = true := by
  cases stage <;> first | rfl | cases executing

variable {previous : Option (ChainStage R E)} {choice : ExecutionChoice R E}
  {stage after : ChainStage R E}

/-- A stage that is left is not the last one, and the wait is left only when the
call before is settled, if there is one. -/
lemma advance_leaves (advances : stage.advance previous choice = some after) :
    after.isQueued = false ∧ stage.isSettled = false ∧
      (stage.isQueued = true → ∀ before, previous = some before → before.isSettled = true) := by
  cases stage with
  | queued =>
    rcases previous with _ | before
    · cases advances
      exact ⟨rfl, rfl, fun _ before same => nomatch same⟩
    · rcases before with _ | _ | _ | _ | _ | _ | outcome
      case settled =>
        cases outcome <;> cases advances <;>
          exact ⟨rfl, rfl, fun _ before same => by cases same; rfl⟩
      all_goals cases advances
  | recovered thrown => cases thrown <;> cases advances <;> exact ⟨rfl, rfl, nofun⟩
  | executing => cases advances; exact ⟨rfl, rfl, nofun⟩
  | ran outcome => cases outcome <;> cases advances <;> exact ⟨rfl, rfl, nofun⟩
  | caught outcome => cases advances; exact ⟨rfl, rfl, nofun⟩
  | released outcome => cases advances; exact ⟨rfl, rfl, nofun⟩
  | settled outcome => cases advances

/-- A stage at which something is done is reached from the one before it; any
other leaves the call as waiting, or as released, as it was. -/
lemma advance_reaches (advances : stage.advance previous choice = some after) :
    (after = .executing ∧ stage.isWaiting = true) ∨
      (∃ outcome, after = .released outcome ∧ stage.isUnreleased = true ∧
        stage.isWaiting = false) ∨
      (after.isExecuting = false ∧ (∀ outcome, after ≠ .released outcome) ∧
        after.isUnreleased = stage.isUnreleased ∧
        (after.isWaiting = true → stage.isWaiting = true)) := by
  cases stage with
  | queued =>
    rcases previous with _ | before
    · cases advances
      exact .inr (.inr ⟨rfl, nofun, rfl, fun _ => rfl⟩)
    · rcases before with _ | _ | _ | _ | _ | _ | outcome
      case settled =>
        cases outcome <;> cases advances <;> exact .inr (.inr ⟨rfl, nofun, rfl, fun _ => rfl⟩)
      all_goals cases advances
  | recovered thrown =>
    cases thrown <;> cases advances
    · exact .inl ⟨rfl, rfl⟩
    · exact .inr (.inr ⟨rfl, nofun, rfl, nofun⟩)
  | executing => cases advances; exact .inr (.inr ⟨rfl, nofun, rfl, nofun⟩)
  | ran outcome => cases outcome <;> cases advances <;> exact .inr (.inr ⟨rfl, nofun, rfl, nofun⟩)
  | caught outcome => cases advances; exact .inr (.inl ⟨outcome, rfl, rfl, rfl⟩)
  | released outcome => cases advances; exact .inr (.inr ⟨rfl, nofun, rfl, nofun⟩)
  | settled outcome => cases advances

end ChainStage

/-! ## A queue object -/

/-- The calls of a queue object are in the order of admission and each is past
its wait only when those before it are settled; what is outstanding are the
calls that were not released, and no more wait behind the first of these than
the last call allowed. -/
structure ExecutionQueue.Sound (queue : ExecutionQueue R E) (started : List (String × Nat))
    (admitted : Nat) : Prop where
  counted : queue.outstanding = queue.chain.countP (·.stage.isUnreleased)
  ordered : queue.chain.Pairwise fun entry later => entry.id < later.id ∧
    (later.stage.isQueued = false → entry.stage.isSettled = true)
  known : ∀ entry ∈ queue.chain, entry.id < admitted
  ahead : ∀ entry ∈ queue.chain, entry.stage.isWaiting = true →
    ∀ id, (queue.requestGroupId, id) ∈ started → id < entry.id
  bounded (last : ExecutionEntry R E) : queue.chain.getLast? = some last →
    last.maxPending.lt (.ofNat (queue.outstanding - 1)) = false

lemma chain_split {chain : List (ExecutionEntry R E)} {position : Nat}
    {entry : ExecutionEntry R E} (found : chain[position]? = some entry) :
    ∃ front back, chain = front ++ entry :: back ∧
      (∀ other, chain.set position other = front ++ other :: back) ∧
      (if position = 0 then none else chain[position - 1]?) = front.getLast? := by
  obtain ⟨inside, rfl⟩ := List.getElem?_eq_some_iff.mp found
  refine ⟨chain.take position, chain.drop (position + 1), ?_, fun other => ?_, ?_⟩
  · rw [← drop_eq_getElem_cons inside, take_append_drop]
  · exact set_eq_take_append_cons_drop ▸ if_pos inside
  · rcases position with _ | before
    · rfl
    · rw [getLast?_take, if_neg (Nat.succ_ne_zero before), if_neg (Nat.succ_ne_zero before)]
      rw [Nat.add_sub_cancel, getElem?_eq_getElem (by omega)]
      rfl

namespace ExecutionQueue.Sound

variable {queue : ExecutionQueue R E} {started : List (String × Nat)} {admitted : Nat}
  {front back : List (ExecutionEntry R E)} {entry : ExecutionEntry R E}
  {choice : ExecutionChoice R E} {stage : ChainStage R E}

section

variable (sound : queue.Sound started admitted) (split : queue.chain = front ++ entry :: back)
  (advances : entry.stage.advance (front.getLast?.map (·.stage)) choice = some stage)

include sound split advances

/-- Around a call that takes its next stage the calls before are settled and
those after still wait for it. -/
lemma around :
    (∀ before ∈ front, before.stage.isSettled = true) ∧
      ∀ later ∈ back, later.stage.isQueued = true := by
  obtain ⟨-, unsettled, previous⟩ := advance_leaves advances
  have ordered := sound.ordered
  rw [split] at ordered
  obtain ⟨fronts, rest, across⟩ := pairwise_append.mp ordered
  refine ⟨fun before member => ?_, fun later member => ?_⟩
  · cases queued : entry.stage.isQueued with
    | false => exact (across before member entry mem_cons_self).2 queued
    | true =>
      -- The call before the waiting one is settled, and so are those before it.
      rcases last : front.getLast? with _ | direct
      · rw [getLast?_eq_none_iff.mp last] at member
        cases member
      · have settled := previous queued direct.stage (by rw [last]; rfl)
        obtain ⟨init, rfl⟩ := getLast?_eq_some_iff.mp last
        rcases mem_append.mp member with earlier | here
        · obtain ⟨-, -, across⟩ := pairwise_append.mp fronts
          exact (across before earlier direct (mem_singleton_self direct)).2
            (past_of_settled settled).1
        · rw [mem_singleton.mp here]
          exact settled
  · have after := ((pairwise_cons.mp rest).1 later member).2
    cases queued : later.stage.isQueued with
    | true => rfl
    | false =>
      rw [after queued] at unsettled
      cases unsettled

lemma ordered_advance :
    (front ++ { entry with stage } :: back).Pairwise fun entry later => entry.id < later.id ∧
      (later.stage.isQueued = false → entry.stage.isSettled = true) := by
  obtain ⟨settled, queued⟩ := sound.around split advances
  have ordered := sound.ordered
  rw [split] at ordered
  obtain ⟨fronts, rest, across⟩ := pairwise_append.mp ordered
  obtain ⟨first, backs⟩ := pairwise_cons.mp rest
  refine pairwise_append.mpr ⟨fronts, pairwise_cons.mpr ⟨?_, backs⟩, ?_⟩
  · intro later member
    refine ⟨(first later member).1, fun past => ?_⟩
    rw [queued later member] at past
    cases past
  · intro before member later member'
    rcases mem_cons.mp member' with rfl | after
    · exact ⟨(across before member entry mem_cons_self).1, fun _ => settled before member⟩
    · exact across before member later (mem_cons_of_mem _ after)

lemma advance {outstanding : Nat} {started' : List (String × Nat)}
    (counted : outstanding = (front ++ { entry with stage } :: back).countP (·.stage.isUnreleased))
    (fewer : outstanding ≤ queue.outstanding)
    (calls : ∀ id, (queue.requestGroupId, id) ∈ started' → (queue.requestGroupId, id) ∈ started ∨
      id = entry.id ∧ stage.isWaiting = false) :
    ExecutionQueue.Sound { queue with
      outstanding := outstanding
      chain := front ++ { entry with stage } :: back } started' admitted := by
  obtain ⟨settled, -⟩ := sound.around split advances
  have ordered := sound.ordered
  have known := sound.known
  have ahead := sound.ahead
  rw [split] at ordered known ahead
  obtain ⟨-, rest, -⟩ := pairwise_append.mp ordered
  refine ⟨counted, sound.ordered_advance split advances, fun other member => ?_,
    fun other member waiting id called => ?_, fun last ends => ?_⟩
  · rcases mem_append.mp member with before | here
    · exact known other (mem_append_left _ before)
    · rcases mem_cons.mp here with rfl | after
      · exact known entry (mem_append_right _ mem_cons_self)
      · exact known other (mem_append_right _ (mem_cons_of_mem _ after))
  · rcases mem_append.mp member with before | here
    · rw [(past_of_settled (settled other before)).2.1] at waiting
      cases waiting
    · rcases mem_cons.mp here with rfl | after
      · rcases calls id called with earlier | ⟨-, gone⟩
        · refine ahead entry (mem_append_right _ mem_cons_self) ?_ id earlier
          rcases advance_reaches advances with ⟨rfl, -⟩ | ⟨_, rfl, -⟩ | ⟨-, -, -, still⟩
          · cases waiting
          · cases waiting
          · exact still waiting
        · rw [gone] at waiting
          cases waiting
      · rcases calls id called with earlier | ⟨rfl, -⟩
        · exact ahead other (mem_append_right _ (mem_cons_of_mem _ after)) waiting id earlier
        · exact ((pairwise_cons.mp rest).1 other after).1
  · have bounded : ∀ last, queue.chain.getLast? = some last →
        last.maxPending.lt (.ofNat (outstanding - 1)) = false := by
      intro last ends
      by_contra above
      have less : (ofNat (outstanding - 1)).le (.ofNat (queue.outstanding - 1)) = true := by
        rw [le_ofNat]
        omega
      have passed := lt_of_lt_of_le (by simpa using above) less
      rw [sound.bounded last ends] at passed
      cases passed
    rw [split] at bounded
    rcases back with _ | ⟨next, more⟩
    · rw [getLast?_concat] at ends
      cases ends
      exact bounded entry getLast?_concat
    · refine bounded last ?_
      rw [getLast?_append_cons, getLast?_cons_cons] at ends ⊢
      exact ends

end

end ExecutionQueue.Sound

/-! ## All queues -/

namespace ExecutionQueues

/-- Every queue object is sound, the objects with calls that were not released
are those the groups are mapped to, and the tasks of a group were called in the
order of admission. -/
structure Sound (state : ExecutionQueues R E) : Prop where
  objects (object : Nat) (queue : ExecutionQueue R E) :
    state.objects[object]? = some queue → queue.Sound state.started state.admitted
  mapped (object : Nat) (queue : ExecutionQueue R E) : state.objects[object]? = some queue →
    0 < queue.outstanding → state.queues.get? queue.requestGroupId = some object
  used (requestGroupId : String) (object : Nat) : state.queues.get? requestGroupId = some object →
    ∃ queue, state.objects[object]? = some queue ∧ queue.requestGroupId = requestGroupId ∧
      0 < queue.outstanding
  order : state.started.Pairwise fun call later => call.1 = later.1 → call.2 < later.2
  known (call : String × Nat) : call ∈ state.started → call.2 < state.admitted

variable {state : ExecutionQueues R E}

lemma sound_idle : Sound (idle : ExecutionQueues R E) where
  objects object queue found := by
    rw [idle, getElem?_nil] at found
    cases found
  mapped object queue found := by
    rw [idle, getElem?_nil] at found
    cases found
  used requestGroupId object found := by
    rw [idle, SortedMap.get?_empty] at found
    cases found
  order := .nil
  known _ member := nomatch member

lemma Sound.appendRunEvent (sound : Sound state) (runId message : String) :
    Sound (state.appendRunEvent runId message) :=
  ⟨sound.objects, sound.mapped, sound.used, sound.order, sound.known⟩

lemma sound_admitted {queue : ExecutionQueue R E} {started : List (String × Nat)}
    {admitted : Nat} (sound : queue.Sound started admitted) :
    queue.Sound started (admitted + 1) :=
  ⟨sound.counted, sound.ordered, fun entry member => lt_succ_of_lt (sound.known entry member),
    sound.ahead, sound.bounded⟩

lemma sound_chained {queue : ExecutionQueue R E} {started : List (String × Nat)}
    {admitted : Nat} (sound : queue.Sound started admitted)
    (known : ∀ call ∈ started, call.2 < admitted) (runId : String) {maxPending : JsNumber}
    (room : maxPending.lt (.ofNat queue.outstanding) = false) :
    ExecutionQueue.Sound { queue with
      outstanding := queue.outstanding + 1
      chain := queue.chain ++ [⟨admitted, runId, maxPending, .queued⟩] } started (admitted + 1) := by
  refine ⟨?_, ?_, fun entry member => ?_, fun entry member waiting id called => ?_,
    fun last ends => ?_⟩
  · rw [countP_append, ← sound.counted]
    rfl
  · refine pairwise_append.mpr ⟨sound.ordered, pairwise_singleton _ _, ?_⟩
    intro entry member later here
    rw [mem_singleton.mp here]
    exact ⟨sound.known entry member, nofun⟩
  · rcases mem_append.mp member with before | here
    · exact lt_succ_of_lt (sound.known entry before)
    · rw [mem_singleton.mp here]
      exact lt_succ_self admitted
  · rcases mem_append.mp member with before | here
    · exact sound.ahead entry before waiting id called
    · rw [mem_singleton.mp here]
      exact known _ called
  · rw [getLast?_concat] at ends
    cases ends
    exact room

/-- The bound of a call, as `enqueueRequestGroupExecution` takes it. -/
def bound (maxPending : Option JsNumber) : JsNumber :=
  max 0 (maxPending.getD QueueName.interactiveRun.defaultBudget.maxPending).floor

lemma bound_whole (maxPending : Option JsNumber) : (bound maxPending).floor = bound maxPending :=
  floor_max (by decide) (floor_floor _)

lemma Sound.chained (sound : Sound state) (object : Nat) (queue : ExecutionQueue R E)
    {objects : List (ExecutionQueue R E)} (own : queue.Sound state.started (state.admitted + 1))
    (busy : 0 < queue.outstanding)
    (here : objects[object]? = some queue)
    (others : ∀ other, other ≠ object → objects[other]? = state.objects[other]?)
    (before : ∀ old, state.objects[object]? = some old →
      old.requestGroupId = queue.requestGroupId)
    (alone : ∀ other queue', other ≠ object → state.objects[other]? = some queue' →
      queue'.requestGroupId = queue.requestGroupId → queue'.outstanding = 0) :
    Sound { state with
      objects := objects
      queues := state.queues.insert queue.requestGroupId object
      admitted := state.admitted + 1 } := by
  refine ⟨fun other queue' found => ?_, fun other queue' found positive => ?_,
    fun requestGroupId other found => ?_, sound.order,
    fun call member => lt_succ_of_lt (sound.known call member)⟩
  · by_cases same : other = object
    · subst same
      simp only at found
      rw [here] at found
      cases found
      exact own
    · simp only at found
      rw [others other same] at found
      exact sound_admitted (sound.objects other queue' found)
  · simp only at found
    rw [SortedMap.get?_insert]
    by_cases same : other = object
    · subst same
      rw [here] at found
      cases found
      exact if_pos rfl
    · rw [others other same] at found
      have apart : queue'.requestGroupId ≠ queue.requestGroupId := by
        intro group
        have none := alone other queue' same found group
        omega
      rw [if_neg apart]
      exact sound.mapped other queue' found positive
  · rw [SortedMap.get?_insert] at found
    split_ifs at found with group
    · cases found
      exact ⟨queue, here, group.symm, busy⟩
    · obtain ⟨queue', stored, named, positive⟩ := sound.used requestGroupId other found
      refine ⟨queue', ?_, named, positive⟩
      have apart : other ≠ object := by
        rintro rfl
        exact group (named.symm.trans (before queue' stored))
      simp only
      rw [others other apart]
      exact stored

lemma Sound.alone (sound : Sound state) {object other : Nat} {queue queue' : ExecutionQueue R E}
    (found : state.objects[object]? = some queue) (found' : state.objects[other]? = some queue')
    (group : queue'.requestGroupId = queue.requestGroupId) (busy : 0 < queue.outstanding)
    (apart : other ≠ object) : queue'.outstanding = 0 := by
  by_contra positive
  have first := sound.mapped object queue found busy
  have second := sound.mapped other queue' found' (pos_of_ne_zero positive)
  rw [group, first] at second
  cases second
  exact apart rfl

lemma Sound.enqueue (sound : Sound state) (requestGroupId runId : String)
    (maxPending : Option JsNumber) (logs : Bool) :
    Sound (state.enqueueRequestGroupExecution requestGroupId runId maxPending logs).1 := by
  unfold enqueueRequestGroupExecution
  rcases mapped : state.queues.get? requestGroupId with _ | object
  · have absent : state.existing requestGroupId = none := by
      rw [existing, mapped]
      rfl
    simp only [absent, chainTo]
    rw [if_neg (Nat.lt_irrefl _)]
    have empty : ExecutionQueue.Sound (⟨requestGroupId, 0, []⟩ : ExecutionQueue R E) state.started
        state.admitted :=
      ⟨rfl, .nil, nofun,
        nofun, nofun⟩
    have own := sound_chained empty sound.known runId (JsNumber.not_max_lt 0
      (maxPending.getD QueueName.interactiveRun.defaultBudget.maxPending).floor)
    refine sound.chained _ _ own (Nat.succ_pos _) getElem?_concat_length (fun other apart => ?_)
      (fun old found => ?_) fun other queue' apart found group => ?_
    · rcases Nat.lt_or_gt_of_ne apart with inside | outside
      · exact getElem?_append_left inside
      · rw [getElem?_eq_none (by rw [length_append]; exact outside),
          getElem?_eq_none (Nat.le_of_lt outside)]
    · rw [getElem?_eq_none (Nat.le_refl _)] at found
      cases found
    · by_contra positive
      have used := sound.mapped other queue' found (Nat.pos_of_ne_zero positive)
      rw [group, mapped] at used
      cases used
  · obtain ⟨queue, stored, rfl, busy⟩ := sound.used requestGroupId object mapped
    have present : state.existing queue.requestGroupId = some (object, queue) := by
      rw [existing, mapped, Option.bind_some, stored]
      rfl
    simp only [present]
    split_ifs with _ full
    · exact sound
    · exact sound.appendRunEvent _ _
    · have inside : object < state.objects.length := (List.getElem?_eq_some_iff.mp stored).choose
      have room := JsNumber.not_lt_succ_of_not_le (bound_whole maxPending) full
      rw [Nat.sub_add_cancel busy] at room
      have own := sound_chained (sound.objects object queue stored) sound.known runId room
      simp only [chainTo]
      rw [if_pos (show object < (state.appendRunEvent runId "execution_queue_waiting").objects.length
        from inside)]
      refine Sound.chained (sound.appendRunEvent _ _) object { queue with
          outstanding := queue.outstanding + 1
          chain := queue.chain ++ [⟨state.admitted, runId, bound maxPending, .queued⟩] }
        own (Nat.succ_pos _) ?_ (fun other apart => getElem?_set_ne apart.symm)
        (fun old found => ?_)
        fun other queue' apart found group => sound.alone stored found group busy apart
      · exact getElem?_set_self inside
      · rw [show (state.appendRunEvent runId "execution_queue_waiting").objects[object]? = some queue
          from stored] at found
        cases found
        rfl

lemma Sound.set (sound : Sound state) {object : Nat} {queue queue' : ExecutionQueue R E}
    (found : state.objects[object]? = some queue) {started : List (String × Nat)}
    (own : queue'.Sound started state.admitted)
    (group : queue'.requestGroupId = queue.requestGroupId)
    (outstanding : queue'.outstanding = queue.outstanding)
    (others : ∀ other queue'', other ≠ object → state.objects[other]? = some queue'' →
      queue''.Sound started state.admitted)
    (order : started.Pairwise fun call later => call.1 = later.1 → call.2 < later.2)
    (known : ∀ call ∈ started, call.2 < state.admitted) :
    Sound { state with objects := state.objects.set object queue', started := started } := by
  have inside : object < state.objects.length := (List.getElem?_eq_some_iff.mp found).choose
  have here : (state.objects.set object queue')[object]? = some queue' := getElem?_set_self inside
  refine ⟨fun other queue'' found' => ?_, fun other queue'' found' busy => ?_,
    fun requestGroupId other used => ?_, order, known⟩
  · by_cases same : other = object
    · subst same
      cases here.symm.trans found'
      exact own
    · rw [getElem?_set_ne (Ne.symm same)] at found'
      exact others other queue'' same found'
  · by_cases same : other = object
    · subst same
      cases here.symm.trans found'
      rw [group]
      exact sound.mapped other queue found (outstanding ▸ busy)
    · rw [getElem?_set_ne (Ne.symm same)] at found'
      exact sound.mapped other queue'' found' busy
  · obtain ⟨queue'', stored, named, busy⟩ := sound.used requestGroupId other used
    by_cases same : other = object
    · subst same
      cases found.symm.trans stored
      exact ⟨queue', here, group.trans named, outstanding ▸ busy⟩
    · exact ⟨queue'', by rw [getElem?_set_ne (Ne.symm same), stored], named, busy⟩

lemma Sound.release (sound : Sound state) {object : Nat} {queue queue' : ExecutionQueue R E}
    (found : state.objects[object]? = some queue) (busy : 0 < queue.outstanding)
    (own : queue'.Sound state.started state.admitted)
    (group : queue'.requestGroupId = queue.requestGroupId) :
    Sound { state with
      objects := state.objects.set object queue'
      queues := if queue'.outstanding = 0 then state.queues.erase queue.requestGroupId
        else state.queues } := by
  have inside : object < state.objects.length := (List.getElem?_eq_some_iff.mp found).choose
  have here : (state.objects.set object queue')[object]? = some queue' := getElem?_set_self inside
  have used := sound.mapped object queue found busy
  have erased requestGroupId : (if queue'.outstanding = 0 then
      state.queues.erase queue.requestGroupId else state.queues).get? requestGroupId =
      if queue'.outstanding = 0 ∧ requestGroupId = queue.requestGroupId then none
        else state.queues.get? requestGroupId := by
    by_cases last : queue'.outstanding = 0
    · rw [if_pos last, SortedMap.get?_erase]
      simp [last, true_and]
    · rw [if_neg last, if_neg fun both => last both.1]
  refine ⟨fun other queue'' found' => ?_, fun other queue'' found' busy' => ?_,
    fun requestGroupId other used' => ?_, sound.order, sound.known⟩
  · by_cases same : other = object
    · subst same
      cases here.symm.trans found'
      exact own
    · rw [getElem?_set_ne (Ne.symm same)] at found'
      exact sound.objects other queue'' found'
  · rw [erased]
    by_cases same : other = object
    · subst same
      cases here.symm.trans found'
      rw [if_neg (fun last => by omega), group]
      exact used
    · rw [getElem?_set_ne (Ne.symm same)] at found'
      have apart : queue''.requestGroupId ≠ queue.requestGroupId := by
        intro named
        have none := sound.alone found found' named busy same
        omega
      rw [if_neg (fun last => apart last.2)]
      exact sound.mapped other queue'' found' busy'
  · rw [erased] at used'
    split_ifs at used' with last
    obtain ⟨queue'', stored, named, busy'⟩ := sound.used requestGroupId other used'
    by_cases same : other = object
    · subst same
      cases found.symm.trans stored
      refine ⟨queue', here, group.trans named, pos_of_ne_zero fun none => last ⟨none, ?_⟩⟩
      exact named.symm
    · exact ⟨queue'', by rw [getElem?_set_ne (Ne.symm same), stored], named, busy'⟩

lemma sound_calls {queue : ExecutionQueue R E} {started started' : List (String × Nat)}
    {admitted : Nat} (sound : queue.Sound started admitted)
    (calls : ∀ entry ∈ queue.chain, entry.stage.isWaiting = true →
      ∀ id, (queue.requestGroupId, id) ∈ started' → (queue.requestGroupId, id) ∈ started) :
    queue.Sound started' admitted :=
  ⟨sound.counted, sound.ordered, sound.known, fun entry member waiting id called =>
    sound.ahead entry member waiting id (calls entry member waiting id called), sound.bounded⟩

section

variable {object : Nat} {queue : ExecutionQueue R E} {front back : List (ExecutionEntry R E)}
  {entry : ExecutionEntry R E} {choice : ExecutionChoice R E}

lemma outstanding_of_unreleased {started : List (String × Nat)} {admitted : Nat}
    (own : queue.Sound started admitted) (split : queue.chain = front ++ entry :: back)
    (unreleased : entry.stage.isUnreleased = true) (stage : ChainStage R E) :
    queue.outstanding = (front ++ { entry with stage } :: back).countP (·.stage.isUnreleased) +
      if stage.isUnreleased then 0 else 1 := by
  rw [own.counted, split, countP_append, countP_append, countP_cons,
    countP_cons, if_pos unreleased]
  split_ifs <;> omega

section

variable (sound : Sound state) (found : state.objects[object]? = some queue)
  (split : queue.chain = front ++ entry :: back)

include sound found split

lemma Sound.calls
    (advances : entry.stage.advance (front.getLast?.map (·.stage)) choice = some .executing)
    (waiting : entry.stage.isWaiting = true) :
    Sound { state with
      objects := state.objects.set object { queue with
        chain := front ++ { entry with stage := .executing } :: back }
      started := state.started ++ [(queue.requestGroupId, entry.id)] } := by
  have own := sound.objects object queue found
  have member : entry ∈ queue.chain := split ▸ mem_append_right _ mem_cons_self
  have fresh := own.ahead entry member waiting
  have counted := outstanding_of_unreleased own split
    (unreleased_of_waiting waiting) .executing
  have busy : 0 < queue.outstanding := by
    rw [own.counted]
    exact countP_pos_iff.mpr ⟨entry, member, unreleased_of_waiting waiting⟩
  have called id (now : (queue.requestGroupId, id) ∈ state.started ++
      [(queue.requestGroupId, entry.id)]) :
      (queue.requestGroupId, id) ∈ state.started ∨ id = entry.id ∧
        (executing : ChainStage R E).isWaiting = false := by
    rcases mem_append.mp now with before | here
    · exact .inl before
    · cases mem_singleton.mp here
      exact .inr ⟨rfl, rfl⟩
  have after := own.advance split advances counted (le_refl _) called
  refine Sound.set sound found after rfl rfl (fun other queue' apart found' => ?_) ?_ ?_
  · refine sound_calls (sound.objects other queue' found') fun entry' member waiting' id now => ?_
    rcases mem_append.mp now with before | here
    · exact before
    · have group : queue'.requestGroupId = queue.requestGroupId :=
        congrArg Prod.fst (mem_singleton.mp here)
      have none := sound.alone found found' group busy apart
      rw [(sound.objects other queue' found').counted, countP_eq_zero] at none
      exact absurd (unreleased_of_waiting waiting') (none entry' member)
  · refine pairwise_append.mpr ⟨sound.order, pairwise_singleton _ _, ?_⟩
    intro ⟨group, id⟩ member later here same
    rw [mem_singleton.mp here] at same ⊢
    obtain rfl : group = queue.requestGroupId := same
    exact fresh id member
  · intro call now
    rcases mem_append.mp now with before | here
    · exact sound.known call before
    · rw [mem_singleton.mp here]
      exact own.known entry member

lemma Sound.releases {outcome : Except E (Option R)}
    (advances : entry.stage.advance (front.getLast?.map (·.stage)) choice = some (.released outcome))
    (unreleased : entry.stage.isUnreleased = true) :
    Sound { state with
      objects := state.objects.set object { queue with
        outstanding := queue.outstanding - 1
        chain := front ++ { entry with stage := .released outcome } :: back }
      queues := if state.queues.get? queue.requestGroupId = some object ∧
          queue.outstanding - 1 = 0 then state.queues.erase queue.requestGroupId
        else state.queues } := by
  have own := sound.objects object queue found
  have counted : queue.outstanding = (front ++ { entry with stage := .released outcome } ::
      back).countP (·.stage.isUnreleased) + 1 :=
    outstanding_of_unreleased own split unreleased (.released outcome)
  have busy : 0 < queue.outstanding := by omega
  have after := own.advance split advances
    (show queue.outstanding - 1 = _ by rw [counted, Nat.add_sub_cancel]) (Nat.sub_le _ _)
    fun id called => .inl called
  simp only [sound.mapped object queue found busy, true_and]
  exact sound.release found busy after rfl

end

end

lemma Sound.advance (sound : Sound state) (object position : Nat)
    (choice : ExecutionChoice R E) : Sound (state.advance object position choice) := by
  unfold ExecutionQueues.advance
  rcases found : state.objects[object]? with _ | queue
  · exact sound
  simp only
  rcases stored : queue.chain[position]? with _ | entry
  · exact sound
  obtain ⟨front, back, split, sets, last⟩ := chain_split stored
  have previous : (if position = 0 then none else queue.chain[position - 1]?.map (·.stage)) =
      front.getLast?.map (·.stage) := by
    rw [← last]
    split_ifs <;> rfl
  simp only [previous, sets]
  rcases advances : entry.stage.advance (front.getLast?.map (·.stage)) choice with _ | stage
  · simp only [advances]
    exact sound
  simp only [advances]
  rcases advance_reaches advances with
    ⟨rfl, waiting⟩ | ⟨outcome, rfl, unreleased, -⟩ | ⟨calm, unlike, same, -⟩
  · exact (sound.calls found split advances waiting).appendRunEvent _ _
  · have after := (sound.releases found split advances unreleased).appendRunEvent entry.runId
      "execution_queue_released"
    simp only [reach, set_set]
    split_ifs with last
    · rw [if_pos last] at after
      exact after
    · rw [if_neg last] at after
      exact after
  · -- Nothing is done at this stage.
    have own := sound.objects object queue found
    have counted : queue.outstanding =
        (front ++ { entry with stage } :: back).countP (·.stage.isUnreleased) := by
      rw [own.counted, split, countP_append, countP_append, countP_cons,
        countP_cons]
      simp only [same]
    have after := Sound.set sound found (own.advance split advances counted (le_refl _)
      fun id called => .inl called) rfl rfl
      (fun other queue' _ found' => sound.objects other queue' found') sound.order sound.known
    cases stage with
    | executing => cases calm
    | released outcome => exact absurd rfl (unlike outcome)
    | _ => exact after

lemma run_sound (events : List (Event R E)) : Sound (run (idle : ExecutionQueues R E) events) := by
  refine Machine.run_invariant (fun state event sound => ?_) sound_idle events
  cases event with
  | enqueue requestGroupId runId maxPending logs =>
    exact sound.enqueue requestGroupId runId maxPending logs
  | advance object position choice => exact sound.advance object position choice

/-! ## The calls of a group -/

def calls (state : ExecutionQueues R E) (requestGroupId : String) : List (ExecutionEntry R E) :=
  state.objects.flatMap fun queue =>
    if queue.requestGroupId = requestGroupId then queue.chain else []

lemma Sound.mapped_of_unreleased (sound : Sound state) {object : Nat}
    {queue : ExecutionQueue R E} (found : state.objects[object]? = some queue)
    {entry : ExecutionEntry R E} (member : entry ∈ queue.chain)
    (unreleased : entry.stage.isUnreleased = true) :
    state.queues.get? queue.requestGroupId = some object := by
  refine sound.mapped object queue found ?_
  rw [(sound.objects object queue found).counted]
  exact countP_pos_iff.mpr ⟨entry, member, unreleased⟩

variable {requestGroupId : String} {kind : ExecutionEntry R E → Bool}

lemma mem_calls {entry : ExecutionEntry R E} : entry ∈ state.calls requestGroupId ↔
    ∃ (object : Nat) (queue : ExecutionQueue R E), state.objects[object]? = some queue ∧
      queue.requestGroupId = requestGroupId ∧ entry ∈ queue.chain := by
  rw [calls, mem_flatMap]
  constructor
  · rintro ⟨queue, member, here⟩
    obtain ⟨object, found⟩ := mem_iff_getElem?.mp member
    split_ifs at here with group
    · exact ⟨object, queue, found, group, here⟩
    · cases here
  · rintro ⟨object, queue, found, group, here⟩
    refine ⟨queue, mem_of_getElem? found, ?_⟩
    rw [if_pos group]
    exact here

lemma Sound.countP_unmapped (sound : Sound state)
    (unreleased : ∀ entry, kind entry = true → entry.stage.isUnreleased = true)
    (unmapped : state.queues.get? requestGroupId = none) :
    (state.calls requestGroupId).countP kind = 0 := by
  refine countP_eq_zero.mpr fun entry member here => ?_
  obtain ⟨object, queue, found, rfl, inside⟩ := mem_calls.mp member
  rw [sound.mapped_of_unreleased found inside (unreleased entry here)] at unmapped
  cases unmapped

lemma Sound.countP_mapped (sound : Sound state)
    (unreleased : ∀ entry, kind entry = true → entry.stage.isUnreleased = true) {object : Nat}
    {queue : ExecutionQueue R E} (found : state.objects[object]? = some queue)
    (mapped : state.queues.get? queue.requestGroupId = some object) :
    (state.calls queue.requestGroupId).countP kind = queue.chain.countP kind := by
  obtain ⟨inside, rfl⟩ := List.getElem?_eq_some_iff.mp found
  have split : state.objects = state.objects.take object ++
      state.objects[object] :: state.objects.drop (object + 1) := by
    rw [← drop_eq_getElem_cons inside, take_append_drop]
  have none (queues : List (ExecutionQueue R E)) (elsewhere : ∀ queue' ∈ queues,
      ∃ other, other ≠ object ∧ state.objects[other]? = some queue') :
      (queues.flatMap fun queue' => if queue'.requestGroupId = state.objects[object].requestGroupId
        then queue'.chain else []).countP kind = 0 := by
    refine countP_eq_zero.mpr fun entry member here => ?_
    obtain ⟨queue', among, inside'⟩ := mem_flatMap.mp member
    split_ifs at inside' with group
    · obtain ⟨other, apart, found'⟩ := elsewhere queue' among
      have same := sound.mapped_of_unreleased found' inside' (unreleased entry here)
      rw [group, mapped] at same
      cases same
      exact apart rfl
    · cases inside'
  have before := none (state.objects.take object) fun queue' among => by
    obtain ⟨other, here⟩ := mem_iff_getElem?.mp among
    have less : other < object := by
      by_contra beyond
      rw [getElem?_take, if_neg beyond] at here
      cases here
    rw [getElem?_take, if_pos less] at here
    exact ⟨other, Nat.ne_of_lt less, here⟩
  have behind := none (state.objects.drop (object + 1)) fun queue' among => by
    obtain ⟨other, here⟩ := mem_iff_getElem?.mp among
    rw [getElem?_drop] at here
    exact ⟨object + 1 + other, by omega, here⟩
  have whole : state.calls state.objects[object].requestGroupId = _ :=
    congrArg (List.flatMap fun queue' : ExecutionQueue R E =>
      if queue'.requestGroupId = state.objects[object].requestGroupId then queue'.chain else [])
      split
  rw [whole, flatMap_append, flatMap_cons, countP_append, countP_append,
    before, behind, if_pos rfl]
  omega

lemma executing_le_one {queue : ExecutionQueue R E} {started : List (String × Nat)}
    {admitted : Nat} (sound : queue.Sound started admitted) :
    queue.chain.countP (·.stage.isExecuting) ≤ 1 := by
  have ordered := sound.ordered
  generalize queue.chain = chain at ordered
  induction chain with
  | nil => exact zero_le 1
  | cons entry rest ih =>
    obtain ⟨first, rests⟩ := pairwise_cons.mp ordered
    rw [countP_cons]
    split_ifs with executing
    · have none : rest.countP (·.stage.isExecuting) = 0 := by
        refine countP_eq_zero.mpr fun later member here => ?_
        have settled := (first later member).2 (not_queued_of_executing here)
        rw [(past_of_settled settled).2.2] at executing
        cases executing
      omega
    · exact ih rests

/-! ## Results -/

/-- Of a group one task at most executes, its tasks were called in the order of
admission, it has a queue exactly while one of its calls is admitted and not
released, whose outstanding calls are all of these, and no more calls wait than
the last that was admitted allowed. -/
structure GroupSound (state : ExecutionQueues R E) (requestGroupId : String) : Prop where
  single : (state.calls requestGroupId).countP (·.stage.isExecuting) ≤ 1
  ordered : ((state.started.filter (·.1 = requestGroupId)).map (·.2)).Pairwise (· < ·)
  present : state.hasRequestGroupExecutionQueue requestGroupId = true ↔
    0 < (state.calls requestGroupId).countP (·.stage.isUnreleased)
  counted (object : Nat) (queue : ExecutionQueue R E) :
    state.existing requestGroupId = some (object, queue) →
      queue.outstanding = (state.calls requestGroupId).countP (·.stage.isUnreleased)
  alone (object : Nat) (queue : ExecutionQueue R E) (entry : ExecutionEntry R E) :
    state.objects[object]? = some queue → queue.requestGroupId = requestGroupId →
      entry ∈ queue.chain → entry.stage.isUnreleased = true →
      state.existing requestGroupId = some (object, queue)
  bounded (object : Nat) (queue : ExecutionQueue R E) (last : ExecutionEntry R E) :
    state.existing requestGroupId = some (object, queue) → queue.chain.getLast? = some last →
      last.maxPending.lt (.ofNat (queue.outstanding - 1)) = false

lemma Sound.group (sound : Sound state) (requestGroupId : String) :
    GroupSound state requestGroupId := by
  have existing_iff object queue :
      state.existing requestGroupId = some (object, queue) ↔
        state.queues.get? requestGroupId = some object ∧ state.objects[object]? = some queue := by
    simp only [existing, Option.bind_eq_some_iff, Option.map_eq_some_iff, Prod.mk.injEq]
    constructor
    · rintro ⟨object', mapped, queue', found, rfl, rfl⟩
      exact ⟨mapped, found⟩
    · rintro ⟨mapped, found⟩
      exact ⟨object, mapped, queue, found, rfl, rfl⟩
  have executing (entry : ExecutionEntry R E) here :
      entry.stage.isUnreleased = true := unreleased_of_executing here
  have order : ((state.started.filter (·.1 = requestGroupId)).map (·.2)).Pairwise (· < ·) := by
    rw [pairwise_map]
    refine (sound.order.filter _).imp_of_mem fun {call later} member member' less => less ?_
    have first := (mem_filter.mp member).2
    have second := (mem_filter.mp member').2
    simp only [decide_eq_true_eq] at first second
    exact first.trans second.symm
  have counted object queue
      (used : state.existing requestGroupId = some (object, queue)) :
      queue.outstanding = (state.calls requestGroupId).countP (·.stage.isUnreleased) := by
    obtain ⟨mapped, found⟩ := (existing_iff object queue).mp used
    obtain ⟨queue', found', rfl, -⟩ := sound.used requestGroupId object mapped
    cases found.symm.trans found'
    rw [sound.countP_mapped (fun _ => id) found mapped]
    exact (sound.objects object queue found).counted
  refine ⟨?_, order, ?_, counted, fun object queue entry found group member here => ?_,
    fun object queue last used ends => ?_⟩
  · rcases mapped : state.queues.get? requestGroupId with _ | object
    · rw [sound.countP_unmapped executing mapped]
      exact zero_le 1
    · obtain ⟨queue, found, rfl, -⟩ := sound.used requestGroupId object mapped
      rw [sound.countP_mapped executing found mapped]
      exact executing_le_one (sound.objects object queue found)
  · rw [hasRequestGroupExecutionQueue]
    rcases mapped : state.queues.get? requestGroupId with _ | object
    · rw [sound.countP_unmapped (fun _ => id) mapped]
      exact ⟨fun present => (nomatch present), fun positive => absurd positive (lt_irrefl 0)⟩
    · obtain ⟨queue, found, -, busy⟩ := sound.used requestGroupId object mapped
      rw [← counted object queue ((existing_iff object queue).mpr ⟨mapped, found⟩)]
      exact ⟨fun _ => busy, fun _ => rfl⟩
  · have mapped := sound.mapped_of_unreleased found member here
    rw [group] at mapped
    exact (existing_iff object queue).mpr ⟨mapped, found⟩
  · obtain ⟨-, found⟩ := (existing_iff object queue).mp used
    exact (sound.objects object queue found).bounded last ends

/-- In every run of calls and of the stages of their chains, in any order and
with any failures, the queue of every group is sound. -/
theorem group_queues_sound (events : List (Event R E)) (requestGroupId : String) :
    GroupSound (run idle events) requestGroupId :=
  (run_sound events).group requestGroupId

end ExecutionQueues

end Knowbee
