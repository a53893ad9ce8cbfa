import Knowbee.Queue.Backpressure

/-!
# Runs of a backpressure queue

Callers enqueue with budgets of their choice, tasks settle and timers fire in any order.  Jobs are
called in the order they were admitted in, and none is stranded, as long as no override of the
concurrency is `NaN` and the errors of tasks can be described (`queue_schedules`).
-/

namespace Knowbee

open List JsNumber

namespace Backpressure

variable {V E : Type}

/-! ## What the parts of a step do -/

lemma perm_cons_filter_ne {α κ : Type} [DecidableEq κ] {key : α → κ} {entries : List α}
    {entry : α} (once : (entries.map key).Nodup) (member : entry ∈ entries) :
    entries.Perm (entry :: entries.filter (key · ≠ key entry)) := by
  induction entries with
  | nil => cases member
  | cons first rest ih =>
    obtain ⟨fresh, once⟩ := nodup_cons.mp once
    rcases mem_cons.mp member with rfl | later
    · have others : rest.filter (key · ≠ key entry) = rest := by
        refine filter_eq_self.mpr fun other here => ?_
        have apart : key other ≠ key entry := fun same => fresh (mem_map.mpr ⟨other, here, same⟩)
        simpa using apart
      rw [filter_cons_of_neg (by simp), others]
    · have apart : key first ≠ key entry :=
        fun same => fresh (mem_map.mpr ⟨entry, later, same.symm⟩)
      rw [filter_cons_of_pos (by simpa using apart)]
      exact ((ih once later).cons first).trans (List.Perm.swap entry first _)

lemma runNext_cases (budget : QueueBudget) (state : QueueState V E) :
    ∃ front back recorded, state.pending = front ++ back ∧
      (back = [] ∨
        (ofNat (state.running + front.length)).lt budget.concurrency = false) ∧
      (front = [] ∨
        (ofNat (state.running + front.length - 1)).lt budget.concurrency = true) ∧
      runNext budget state = { state with
        running := state.running + front.length
        pending := back
        launched := state.launched ++ front.map (⟨·, budget⟩)
        recorded := recorded } := by
  unfold runNext
  generalize waiting : state.pending = pending
  clear waiting
  induction pending generalizing state with
  | nil =>
    refine ⟨[], [], state.recorded, rfl, .inl rfl, .inl rfl, ?_⟩
    simp [runPending]
  | cons job rest ih =>
    rw [runPending]
    by_cases room : (ofNat state.running).lt budget.concurrency = true
    · rw [if_pos room]
      obtain ⟨front, back, recorded, split, full, last, result⟩ :=
        ih (runJob budget job { state with pending := rest })
      refine ⟨job :: front, back, recorded, by rw [split, cons_append], ?_, .inr ?_, ?_⟩
      · refine full.imp_right fun full => ?_
        rw [length_cons, show state.running + (front.length + 1) =
          state.running + 1 + front.length by omega]
        exact full
      · rcases last with rfl | room'
        · exact room
        · rw [length_cons, show state.running + (front.length + 1) - 1 =
            state.running + 1 + front.length - 1 by omega]
          exact room'
      · rw [result]
        simp only [runJob, record, length_cons, map_cons, append_assoc,
          singleton_append, QueueState.mk.injEq, and_true]
        omega
    · rw [if_neg room]
      refine ⟨[], job :: rest, state.recorded, rfl, .inr ?_, .inl rfl, ?_⟩
      · simpa using room
      · simp

lemma decideRace_cases (job : Nat) (result : RaceResult V E) (state : QueueState V E) :
    job ∉ state.racing.map (·.job) ∧ decideRace job result state = state ∨
      ∃ frame ∈ state.racing, frame.job = job ∧ decideRace job result state = { state with
        racing := state.racing.filter (·.job ≠ job)
        decided := state.decided ++ [(frame, result)] } := by
  unfold decideRace
  cases found : state.racing.find? (·.job = job) with
  | none =>
    refine .inl ⟨fun member => ?_, rfl⟩
    obtain ⟨frame, here, same⟩ := mem_map.mp member
    have apart := find?_eq_none.mp found frame here
    simp [same] at apart
  | some frame =>
    have same := find?_some found
    exact .inr ⟨frame, mem_of_find?_eq_some found, by simpa using same, rfl⟩

/-! ## Where every job is -/

/-- The jobs whose task was called: their race is open or decided, their promise
is settled, or they are lost. -/
def called (lost : List Nat) (state : QueueState V E) : List Nat :=
  state.racing.map (·.job) ++ (state.decided.map (·.1.job) ++ (state.settled.map (·.1) ++ lost))

/-- Every admitted job was called, is about to be called or waits, in the order
of admission, and a task that is executing in time is one whose race is open. -/
structure Accounted (lost : List Nat) (state : QueueState V E) : Prop where
  order : state.started ++ (state.launched.map (·.job) ++ state.pending) =
    List.range state.admitted
  live : state.running = state.launched.length + state.racing.length + state.decided.length
  fates : state.started.Perm (called lost state)
  executing : state.executing.Nodup ∧ ∀ job ∈ state.executing, job ∈ state.started
  inTime (job : Nat) : job ∈ state.executing → job ∉ state.overdue →
    job ∈ state.racing.map (·.job)

section

variable {lost : List Nat} {state : QueueState V E}

section

variable (accounted : Accounted lost state)

include accounted

lemma Accounted.started_nodup : state.started.Nodup := by
  have all : (state.started ++ (state.launched.map (·.job) ++ state.pending)).Nodup := by
    rw [accounted.order]
    exact nodup_range
  exact (nodup_append.mp all).1

lemma Accounted.called_nodup : (called lost state).Nodup :=
  accounted.fates.nodup_iff.mp accounted.started_nodup

lemma Accounted.racing_nodup : (state.racing.map (·.job)).Nodup :=
  (nodup_append.mp accounted.called_nodup).1

lemma Accounted.decided_nodup : (state.decided.map (·.1.job)).Nodup :=
  (nodup_append.mp (nodup_append.mp accounted.called_nodup).2.1).1

end

lemma accounted_idle : Accounted [] (idle : QueueState V E) where
  order := rfl
  live := rfl
  fates := .nil
  executing := ⟨.nil, nofun⟩
  inTime _ member := nomatch member

section

variable (accounted : Accounted lost state)
include accounted

lemma Accounted.record (eventKind actionTaken : String)
    (error : Option String) : Accounted lost (record state eventKind actionTaken error) :=
  ⟨accounted.order, accounted.live, accounted.fates, accounted.executing, accounted.inTime⟩

lemma Accounted.runNext (budget : QueueBudget) : Accounted lost (runNext budget state) := by
  obtain ⟨front, back, recorded, split, -, -, result⟩ := runNext_cases budget state
  rw [result]
  refine ⟨?_, ?_, accounted.fates, accounted.executing, accounted.inTime⟩
  · have order := accounted.order
    rw [split] at order
    simpa [Function.comp_def] using order
  · have live := accounted.live
    simp only [length_append, length_map]
    omega

lemma Accounted.admission :
    Accounted lost { state with
      pending := state.pending ++ [state.admitted]
      admitted := state.admitted + 1 } := by
  refine ⟨?_, accounted.live, accounted.fates, accounted.executing, accounted.inTime⟩
  rw [range_succ, ← accounted.order]
  simp

lemma Accounted.enqueue (queueName : QueueName) (override : QueueBudgetOverride) :
    Accounted lost (enqueueBackpressureTask queueName override state).1 := by
  unfold enqueueBackpressureTask
  simp only
  split_ifs
  · exact accounted.record _ _ _
  · exact (accounted.admission.record _ _ _).runNext _
  · exact (accounted.admission.record _ _ _).runNext _

lemma Accounted.callTask {frame : RunningJob}
    {rest : List RunningJob} (scheduled : state.launched = frame :: rest) :
    Accounted lost { state with
      launched := rest
      racing := state.racing ++ [frame]
      started := state.started ++ [frame.job]
      executing := state.executing ++ [frame.job] } := by
  have order := accounted.order
  have live := accounted.live
  have all : (state.started ++ (state.launched.map (·.job) ++ state.pending)).Nodup := by
    rw [order]
    exact nodup_range
  have fresh : frame.job ∉ state.started := by
    intro member
    rw [scheduled] at all
    exact (nodup_append.mp all).2.2 _ member frame.job (by simp) rfl
  rw [scheduled] at order live
  refine ⟨?_, ?_, ?_, ⟨?_, fun job member => ?_⟩, fun job member late => ?_⟩
  · simpa using order
  · simp only [length_append, length_cons, length_nil] at live ⊢
    omega
  · refine (perm_append_singleton _ _).trans ((accounted.fates.cons _).trans ?_)
    simp only [called, map_append, map_cons, map_nil, append_assoc,
      singleton_append]
    exact perm_middle.symm
  · refine (perm_append_singleton _ _).nodup_iff.mpr (nodup_cons.mpr ⟨?_, ?_⟩)
    · exact fun member => fresh (accounted.executing.2 _ member)
    · exact accounted.executing.1
  · rcases mem_append.mp member with before | here
    · exact mem_append_left _ (accounted.executing.2 job before)
    · exact mem_append_right _ here
  · rw [map_append]
    rcases mem_append.mp member with before | here
    · exact mem_append_left _ (accounted.inTime job before late)
    · exact mem_append_right _ here

lemma Accounted.taskEnds (job : Nat) :
    Accounted lost { state with executing := state.executing.filter (· ≠ job) } := by
  obtain ⟨once, started⟩ := accounted.executing
  refine ⟨accounted.order, accounted.live, accounted.fates,
    ⟨once.filter _, fun other member => started other (mem_of_mem_filter member)⟩,
    fun other member late => accounted.inTime other (mem_of_mem_filter member) late⟩

lemma Accounted.runsLate (job : Nat) :
    Accounted lost { state with overdue := job :: state.overdue } :=
  ⟨accounted.order, accounted.live, accounted.fates, accounted.executing,
    fun other member late =>
      accounted.inTime other member fun before => late (mem_cons_of_mem _ before)⟩

lemma Accounted.decideRace {job : Nat}
    {result : RaceResult V E} (passed : job ∉ state.executing ∨ job ∈ state.overdue) :
    Accounted lost (decideRace job result state) := by
  rcases decideRace_cases job result state with ⟨-, same⟩ | ⟨frame, member, rfl, decided⟩
  · rw [same]
    exact accounted
  · rw [decided]
    have split := perm_cons_filter_ne accounted.racing_nodup member
    refine ⟨accounted.order, ?_, accounted.fates.trans ?_, accounted.executing,
      fun job member' late => ?_⟩
    · have live := accounted.live
      have lengths := split.length_eq
      simp only [length_cons] at lengths
      simp only [length_append, length_cons, length_nil]
      omega
    · refine ((split.map (·.job)).append_right _).trans ?_
      simp only [called, map_cons, map_append, map_nil, append_assoc,
        cons_append, nil_append]
      exact (perm_middle.symm.trans (List.Perm.append_left _ perm_middle.symm))
    · have here := accounted.inTime job member' late
      obtain ⟨other, there, rfl⟩ := mem_map.mp here
      refine mem_map.mpr ⟨other, mem_filter.mpr ⟨there, ?_⟩, rfl⟩
      have apart : other.job ≠ frame.job := by
        intro same
        rcases passed with ended | late'
        · exact ended (same ▸ member')
        · exact late (same ▸ late')
      simpa using apart

lemma Accounted.finish (queueName : QueueName)
    (messages : ErrorMessages E) {frame : RunningJob} {result : RaceResult V E}
    (member : (frame, result) ∈ state.decided) :
    (∃ error, result = .error error ∧ messages.describe error = none ∧
      Accounted (frame.job :: lost) (finishJob queueName messages frame result
        { state with decided := state.decided.filter (·.1.job ≠ frame.job) })) ∨
    ((∀ error, result = .error error → messages.describe error ≠ none) ∧
      Accounted lost (finishJob queueName messages frame result
        { state with decided := state.decided.filter (·.1.job ≠ frame.job) })) := by
  have split : state.decided.Perm
      ((frame, result) :: state.decided.filter (·.1.job ≠ frame.job)) :=
    perm_cons_filter_ne accounted.decided_nodup member
  have live : state.running - 1 = state.launched.length + state.racing.length +
      (state.decided.filter (·.1.job ≠ frame.job)).length := by
    have before := accounted.live
    have lengths := split.length_eq
    simp only [length_cons] at lengths
    omega
  have fates : state.started.Perm (state.racing.map (·.job) ++
      (frame.job :: ((state.decided.filter (·.1.job ≠ frame.job)).map (·.1.job) ++
        (state.settled.map (·.1) ++ lost)))) :=
    accounted.fates.trans (.append_left _ ((split.map (·.1.job)).append_right _))
  have settles settlement eventKind actionTaken
      error :
      Accounted lost (release frame.budget (settleJob frame settlement eventKind actionTaken error
        { state with decided := state.decided.filter (·.1.job ≠ frame.job) })) := by
    refine Accounted.runNext ?_ _
    refine ⟨accounted.order, live, fates.trans ?_, accounted.executing, accounted.inTime⟩
    refine .append_left _ ?_
    simp only [settleJob, Backpressure.record, map_append, map_cons, map_nil,
      append_assoc, singleton_append]
    exact perm_middle.symm.trans (List.Perm.append_left _ perm_middle.symm)
  unfold finishJob
  cases result with
  | value value => exact .inr ⟨fun error same => (nomatch same), settles _ _ _ _⟩
  | timeout => exact .inr ⟨fun error same => (nomatch same), settles _ _ _ _⟩
  | error error =>
    cases described : messages.describe error with
    | some text =>
      refine .inr ⟨fun other same => ?_, ?_⟩
      · cases same
        rw [described]
        exact Option.some_ne_none text
      · simp only [described]
        exact settles _ _ _ _
    | none =>
      refine .inl ⟨error, rfl, described, ?_⟩
      simp only [described]
      refine Accounted.runNext ?_ _
      refine ⟨accounted.order, live, fates.trans ?_, accounted.executing, accounted.inTime⟩
      refine .append_left _ (perm_middle.symm.trans (List.Perm.append_left _ ?_))
      exact perm_middle.symm

lemma Accounted.step (queueName : QueueName) (messages : ErrorMessages E) (event : Event V E) :
    ∃ lost', Accounted lost' (next queueName messages state event).1 ∧
      (lost' = lost ∨
        ∃ frame error, (frame, .error error) ∈ state.decided ∧ messages.describe error = none) := by
  cases event with
  | enqueue override => exact ⟨lost, accounted.enqueue queueName override, .inl rfl⟩
  | callTask =>
    cases scheduled : state.launched with
    | nil =>
      simp only [next, scheduled]
      exact ⟨lost, accounted, .inl rfl⟩
    | cons frame rest =>
      simp only [next, scheduled]
      exact ⟨lost, accounted.callTask scheduled, .inl rfl⟩
  | taskSettles job result =>
    simp only [next]
    split_ifs with executing
    · exact ⟨lost, (accounted.taskEnds job).decideRace (.inl (by simp)), .inl rfl⟩
    · exact ⟨lost, accounted, .inl rfl⟩
  | timerFires job =>
    simp only [next]
    split_ifs with fires
    · exact ⟨lost, (accounted.runsLate job).decideRace (.inr mem_cons_self), .inl rfl⟩
    · exact ⟨lost, accounted, .inl rfl⟩
  | resume job =>
    cases found : state.decided.find? (·.1.job = job) with
    | none =>
      simp only [next, found]
      exact ⟨lost, accounted, .inl rfl⟩
    | some entry =>
      obtain ⟨frame, result⟩ := entry
      have same : frame.job = job := by simpa using find?_some found
      have member := mem_of_find?_eq_some found
      subst same
      simp only [next, found]
      rcases accounted.finish queueName messages member with ⟨error, rfl, bare, after⟩ | ⟨-, after⟩
      · exact ⟨_, after, .inr ⟨frame, error, member, bare⟩⟩
      · exact ⟨_, after, .inl rfl⟩

end

end

/-! ## The budgets of running jobs -/

def frames (state : QueueState V E) : List RunningJob :=
  state.launched ++ (state.racing ++ state.decided.map (·.1))

/-- The jobs that run do so with budgets of a kind. -/
def Budgeted (kind : QueueBudget → Prop) (state : QueueState V E) : Prop :=
  ∀ frame ∈ frames state, kind frame.budget

def Brings (queueName : QueueName) (kind : QueueBudget → Prop) : Event V E → Prop
  | .enqueue override => kind (budgetFor queueName override)
  | _ => True

section

variable {kind : QueueBudget → Prop} {state : QueueState V E}

lemma mem_frames {frame : RunningJob} : frame ∈ frames state ↔
    frame ∈ state.launched ∨ frame ∈ state.racing ∨ ∃ result, (frame, result) ∈ state.decided := by
  simp [frames]

lemma finishJob_cases (queueName : QueueName) (messages : ErrorMessages E)
    (frame : RunningJob) (result : RaceResult V E) (state : QueueState V E) :
    ∃ settled recorded, finishJob queueName messages frame result state =
      release frame.budget { state with settled := settled, recorded := recorded } := by
  unfold finishJob
  cases result with
  | value value => exact ⟨_, _, rfl⟩
  | timeout => exact ⟨_, _, rfl⟩
  | error error =>
    cases described : messages.describe error with
    | none =>
      simp only [described]
      exact ⟨_, _, rfl⟩
    | some text =>
      simp only [described]
      exact ⟨_, _, rfl⟩

lemma enqueue_cases (queueName : QueueName) (override : QueueBudgetOverride)
    (state : QueueState V E) :
    (∃ recorded, (enqueueBackpressureTask queueName override state).1 =
      { state with recorded := recorded }) ∨
    ∃ recorded, (enqueueBackpressureTask queueName override state).1 =
      runNext (budgetFor queueName override) { state with
        pending := state.pending ++ [state.admitted]
        admitted := state.admitted + 1
        recorded := recorded } := by
  unfold enqueueBackpressureTask
  simp only
  split_ifs
  · exact .inl ⟨_, rfl⟩
  · exact .inr ⟨_, rfl⟩
  · exact .inr ⟨_, rfl⟩

/-- What an event makes of the queue: what counts stays as it was, or a job goes on to its
next stage. -/
inductive Stage (queueName : QueueName) (state : QueueState V E) :
    Event V E → QueueState V E → Prop where
  | rests {event executing overdue recorded} : Stage queueName state event
      { state with executing := executing, overdue := overdue, recorded := recorded }
  | admits {override recorded} : Stage queueName state (.enqueue override)
      (runNext (budgetFor queueName override) { state with
        pending := state.pending ++ [state.admitted]
        admitted := state.admitted + 1
        recorded := recorded })
  | calls {frame rest} : state.launched = frame :: rest → Stage queueName state .callTask
      { state with
        launched := rest
        racing := state.racing ++ [frame]
        started := state.started ++ [frame.job]
        executing := state.executing ++ [frame.job] }
  | decides {event frame result executing overdue} : frame ∈ state.racing →
      (∀ error, result = .error error → event = .taskSettles frame.job (.error error)) →
      Stage queueName state event { state with
        executing := executing
        overdue := overdue
        racing := state.racing.filter (·.job ≠ frame.job)
        decided := state.decided ++ [(frame, result)] }
  | leaves {job frame outcome settled recorded} : (frame, outcome) ∈ state.decided →
      Stage queueName state (.resume job) (release frame.budget { state with
        decided := state.decided.filter (·.1.job ≠ job)
        settled := settled
        recorded := recorded })

lemma next_stage (queueName : QueueName) (messages : ErrorMessages E)
    (state : QueueState V E) (event : Event V E) :
    Stage queueName state event (next queueName messages state event).1 := by
  cases event with
  | enqueue override =>
    rcases enqueue_cases queueName override state with ⟨recorded, result⟩ | ⟨recorded, result⟩
    · simp only [next, result]
      exact .rests
    · simp only [next, result]
      exact .admits
  | callTask =>
    cases scheduled : state.launched with
    | nil =>
      simp only [next, scheduled]
      exact .rests
    | cons frame rest =>
      simp only [next, scheduled]
      exact .calls scheduled
  | taskSettles job result =>
    simp only [next]
    split_ifs
    · rcases decideRace_cases job (raceResult result) _ with ⟨-, same⟩ | ⟨frame, open_, rfl, same⟩
      · rw [same]
        exact .rests
      · rw [same]
        refine .decides open_ fun error failed => ?_
        cases result with
        | ok value => cases failed
        | error error' =>
          cases failed
          rfl
    · exact .rests
  | timerFires job =>
    simp only [next]
    split_ifs
    · rcases decideRace_cases job .timeout _ with ⟨-, same⟩ | ⟨frame, open_, rfl, same⟩
      · rw [same]
        exact .rests
      · rw [same]
        exact .decides open_ nofun
    · exact .rests
  | resume job =>
    cases found : state.decided.find? (·.1.job = job) with
    | none =>
      simp only [next, found]
      exact .rests
    | some entry =>
      obtain ⟨settled, recorded, result⟩ := finishJob_cases queueName messages entry.1 entry.2
        { state with decided := state.decided.filter (·.1.job ≠ job) }
      simp only [next, found, result]
      exact .leaves (mem_of_find?_eq_some found)

lemma runNext_decided (budget : QueueBudget) (state : QueueState V E) :
    (runNext budget state).decided = state.decided := by
  obtain ⟨front, back, recorded, -, -, -, result⟩ := runNext_cases budget state
  rw [result]

lemma Budgeted.runNext (budgeted : Budgeted kind state) {budget : QueueBudget}
    (own : kind budget) : Budgeted kind (runNext budget state) := by
  obtain ⟨front, back, recorded, -, -, -, result⟩ := runNext_cases budget state
  rw [result]
  intro frame member
  rcases mem_frames.mp member with launched | racing | decided
  · rcases mem_append.mp launched with before | new
    · exact budgeted frame (mem_frames.mpr (.inl before))
    · obtain ⟨job, -, rfl⟩ := mem_map.mp new
      exact own
  · exact budgeted frame (mem_frames.mpr (.inr (.inl racing)))
  · exact budgeted frame (mem_frames.mpr (.inr (.inr decided)))

lemma Budgeted.step (budgeted : Budgeted kind state) {queueName : QueueName}
    {messages : ErrorMessages E} {event : Event V E} (brings : Brings queueName kind event) :
    Budgeted kind (next queueName messages state event).1 := by
  have stage := next_stage queueName messages state event
  generalize (next queueName messages state event).1 = after at stage ⊢
  cases stage with
  | rests => exact budgeted
  | admits =>
    refine Budgeted.runNext ?_ brings
    exact budgeted
  | @calls frame rest scheduled =>
    intro other member
    apply budgeted other
    rcases mem_frames.mp member with launched | racing | decided
    · exact mem_frames.mpr (.inl (scheduled ▸ mem_cons_of_mem _ launched))
    · rcases mem_append.mp racing with before | here
      · exact mem_frames.mpr (.inr (.inl before))
      · cases mem_singleton.mp here
        exact mem_frames.mpr (.inl (scheduled ▸ mem_cons_self))
    · exact mem_frames.mpr (.inr (.inr decided))
  | @decides _ frame _ _ _ open_ _ =>
    intro other member
    apply budgeted other
    rcases mem_frames.mp member with launched | racing | ⟨outcome, here⟩
    · exact mem_frames.mpr (.inl launched)
    · exact mem_frames.mpr (.inr (.inl (mem_of_mem_filter racing)))
    · rcases mem_append.mp here with before | new
      · exact mem_frames.mpr (.inr (.inr ⟨outcome, before⟩))
      · cases mem_singleton.mp new
        exact mem_frames.mpr (.inr (.inl open_))
  | @leaves _ frame outcome _ _ here =>
    refine Budgeted.runNext (fun other member => budgeted other ?_)
      (budgeted frame (mem_frames.mpr (.inr (.inr ⟨outcome, here⟩))))
    rcases mem_frames.mp member with launched | racing | ⟨outcome', decided⟩
    · exact mem_frames.mpr (.inl launched)
    · exact mem_frames.mpr (.inr (.inl racing))
    · exact mem_frames.mpr (.inr (.inr ⟨outcome', mem_of_mem_filter decided⟩))

end

/-! ## Scheduling -/

def Positive (budget : QueueBudget) : Prop := (ofNat 0).lt budget.concurrency = true

lemma budgetFor_positive {queueName : QueueName} {override : QueueBudgetOverride}
    (number : override.concurrency ≠ some .nan) : Positive (budgetFor queueName override) := by
  have given : override.concurrency.getD queueName.defaultBudget.concurrency ≠ .nan := by
    cases chosen : override.concurrency with
    | none => cases queueName <;> simp only [QueueName.defaultBudget] <;> exact ofNat_ne_nan _
    | some concurrency => exact fun same => number (chosen.trans (congrArg some same))
  have zero_lt_one : (ofNat 0).lt 1 = true := by decide
  exact lt_of_lt_of_le zero_lt_one
    (le_max_left (ofNat_ne_nan 1) (floor_ne_nan given))

/-- The concurrency a caller asks for is a number, and an error that decides the race of
a job can be described. -/
def Orderly (messages : ErrorMessages E) (state : QueueState V E) : Event V E → Prop
  | .enqueue override => override.concurrency ≠ some .nan
  | .taskSettles job (.error error) =>
    job ∈ state.racing.map (·.job) → messages.describe error ≠ none
  | _ => True

lemma Orderly.brings {messages : ErrorMessages E} {state : QueueState V E} {queueName : QueueName}
    {event : Event V E} (orderly : Orderly messages state event) : Brings queueName Positive event := by
  cases event with
  | enqueue override => exact budgetFor_positive orderly
  | _ => exact trivial

/-- No job is lost, and where jobs wait others run, with room for one at least. -/
structure Sound (messages : ErrorMessages E) (state : QueueState V E) : Prop where
  accounted : Accounted [] state
  positive : Budgeted Positive state
  manned : state.pending ≠ [] → 0 < state.running
  described (frame : RunningJob) (error : E) :
    (frame, .error error) ∈ state.decided → messages.describe error ≠ none

section

variable {queueName : QueueName} {messages : ErrorMessages E} {state : QueueState V E}

lemma sound_idle : Sound messages (idle : QueueState V E) :=
  ⟨accounted_idle, (fun _ held => nomatch held),
    fun waiting => absurd rfl waiting, fun _ _ held => nomatch held⟩

lemma runNext_manned {budget : QueueBudget} (positive : Positive budget)
    (state : QueueState V E) :
    (runNext budget state).pending ≠ [] → 0 < (runNext budget state).running := by
  obtain ⟨front, back, recorded, -, full, -, result⟩ := runNext_cases budget state
  rw [result]
  intro waiting
  rcases full with none | full
  · exact absurd none waiting
  · by_contra unmanned
    have nothing : state.running + front.length = 0 := Nat.eq_zero_of_not_pos unmanned
    rw [nothing, positive] at full
    cases full

variable {event : Event V E}

lemma manned_step (sound : Sound messages state) (orderly : Orderly messages state event) :
    (next queueName messages state event).1.pending ≠ [] →
      0 < (next queueName messages state event).1.running := by
  have stage := next_stage queueName messages state event
  generalize (next queueName messages state event).1 = after at stage ⊢
  cases stage with
  | rests => exact sound.manned
  | admits => exact runNext_manned (budgetFor_positive orderly) _
  | calls => exact sound.manned
  | decides => exact sound.manned
  | @leaves _ frame outcome _ _ here =>
    exact runNext_manned (sound.positive frame (mem_frames.mpr (.inr (.inr ⟨outcome, here⟩)))) _

lemma decided_step {frame : RunningJob} {error : E}
    (decided : (frame, .error error) ∈ (next queueName messages state event).1.decided) :
    (frame, .error error) ∈ state.decided ∨
      event = .taskSettles frame.job (.error error) ∧ frame ∈ state.racing := by
  have stage := next_stage queueName messages state event
  generalize (next queueName messages state event).1 = after at stage decided
  cases stage with
  | rests => exact .inl decided
  | admits =>
    rw [runNext_decided] at decided
    exact .inl decided
  | calls => exact .inl decided
  | decides open_ told =>
    rcases mem_append.mp decided with before | new
    · exact .inl before
    · cases mem_singleton.mp new
      exact .inr ⟨told error rfl, open_⟩
  | leaves here =>
    rw [release, runNext_decided] at decided
    exact .inl (mem_of_mem_filter decided)

lemma Sound.step (sound : Sound messages state) (orderly : Orderly messages state event) :
    Sound messages (next queueName messages state event).1 := by
  refine ⟨?_, sound.positive.step orderly.brings, manned_step sound orderly,
    fun frame error decided => ?_⟩
  · obtain ⟨lost, after, rfl | ⟨frame, error, decided, bare⟩⟩ :=
      sound.accounted.step queueName messages event
    · exact after
    · exact absurd bare (sound.described frame error decided)
  · rcases decided_step decided with before | ⟨rfl, racing⟩
    · exact sound.described frame error before
    · exact orderly (mem_map_of_mem racing)

lemma Sound.run {events : List (Event V E)} (sound : Sound messages state)
    (along : Machine.Along (next queueName messages) (Orderly messages) state events) :
    Sound messages (run queueName messages state events) :=
  Machine.run_invariant_along (fun _ _ sound orderly => sound.step orderly) sound along

/-! ## Draining -/

/-- What happens without callers and without the tasks. -/
def Internal : Event V E → Prop
  | .callTask => True
  | .timerFires _ => True
  | .resume _ => True
  | _ => False

def rank (state : QueueState V E) : Nat :=
  4 * state.pending.length + 3 * state.launched.length + 2 * state.racing.length +
    state.decided.length

lemma rank_runNext (budget : QueueBudget) (state : QueueState V E) :
    rank (runNext budget state) ≤ rank state := by
  obtain ⟨front, back, recorded, split, -, -, result⟩ := runNext_cases budget state
  have length := congrArg List.length split
  rw [result]
  simp only [rank, length_append, length_map] at length ⊢
  omega

lemma Sound.advances (sound : Sound messages state) (queueName : QueueName) (busy : frames state ≠ []) :
    ∃ event, Internal event ∧ rank (next queueName messages state event).1 < rank state := by
  rcases scheduled : state.launched with _ | ⟨frame, rest⟩
  · rcases open_ : state.racing with _ | ⟨frame, rest⟩
    · rcases passed : state.decided with _ | ⟨entry, rest⟩
      · exact absurd (by rw [frames, scheduled, open_, passed]; rfl) busy
      · refine ⟨.resume entry.1.job, trivial, ?_⟩
        have found : state.decided.find? (·.1.job = entry.1.job) = some entry := by
          rw [passed]
          exact find?_cons_of_pos (by simp)
        have split := perm_cons_filter_ne (sound.accounted.decided_nodup)
          (mem_of_find?_eq_some found)
        have lengths := split.length_eq
        obtain ⟨settled, recorded, result⟩ := finishJob_cases queueName messages entry.1 entry.2
          { state with decided := state.decided.filter (·.1.job ≠ entry.1.job) }
        simp only [next, found, result]
        refine Nat.lt_of_le_of_lt (rank_runNext _ _) ?_
        simp only [rank, length_cons] at lengths ⊢
        omega
    · refine ⟨.timerFires frame.job, trivial, ?_⟩
      have here : frame ∈ state.racing := open_ ▸ mem_cons_self
      have fires : state.launched = [] ∧ state.racing.any (·.job = frame.job) :=
        ⟨scheduled, any_eq_true.mpr ⟨frame, here, by simp⟩⟩
      simp only [next, if_pos fires]
      rcases decideRace_cases frame.job .timeout
          { state with overdue := frame.job :: state.overdue } with
        ⟨absent, -⟩ | ⟨other, member, same, result⟩
      · exact absurd (mem_map.mpr ⟨frame, here, rfl⟩) absent
      · have lengths := (perm_cons_filter_ne sound.accounted.racing_nodup member).length_eq
        rw [same] at lengths
        rw [result]
        simp only [rank, length_append, length_cons, length_nil] at lengths ⊢
        omega
  · refine ⟨.callTask, trivial, ?_⟩
    simp only [next, scheduled, rank, length_append, length_cons, length_nil]
    omega

lemma Sound.drains (sound : Sound messages state) (queueName : QueueName) :
    ∃ more, (∀ event ∈ more, Internal event) ∧
      frames (Backpressure.run queueName messages state more) = [] := by
  induction left : rank state using Nat.strong_induction_on generalizing state with
  | _ left' ih =>
    by_cases rest : frames state = []
    · exact ⟨[], forall_mem_nil _, rest⟩
    · obtain ⟨event, internal, less⟩ := sound.advances queueName rest
      have orderly : Orderly messages state event := by
        cases event with
        | enqueue override => exact absurd internal id
        | taskSettles job result => exact absurd internal id
        | _ => exact trivial
      obtain ⟨more, all, passed⟩ := ih _ (left ▸ less) (sound.step orderly) rfl
      refine ⟨event :: more, fun other member => ?_, passed⟩
      rcases mem_cons.mp member with rfl | later
      · exact internal
      · exact all other later

/-! ## Results -/

/-- Tasks are called once each in the order their jobs were admitted in, a
promise is settled once and after its task was called, where a job waits another
runs, and when none runs the task of every job was called and its promise
settled. -/
structure Scheduled (state : QueueState V E) : Prop where
  inOrder : state.started <+: List.range state.admitted
  settledOnce : (state.settled.map (·.1)).Nodup
  settledStarted (job : Nat) : job ∈ state.settled.map (·.1) → job ∈ state.started
  manned : state.pending ≠ [] → frames state ≠ []
  finished : frames state = [] → state.started = List.range state.admitted ∧
    (state.settled.map (·.1)).Perm (List.range state.admitted)

lemma Sound.scheduled (sound : Sound messages state) : Scheduled state := by
  have accounted := sound.accounted
  have nodup := accounted.called_nodup
  have settled : (called [] state) = state.racing.map (·.job) ++
      (state.decided.map (·.1.job) ++ state.settled.map (·.1)) := by
    rw [called, append_nil]
  have length : state.running = (frames state).length := by
    have live := accounted.live
    simp only [frames, length_append, length_map]
    omega
  refine ⟨⟨_, accounted.order⟩, ?_, fun job member => ?_, fun waiting none => ?_, fun none => ?_⟩
  · rw [settled] at nodup
    exact (nodup_append.mp (nodup_append.mp nodup).2.1).2.1
  · refine accounted.fates.mem_iff.mpr ?_
    rw [settled]
    exact mem_append_right _ (mem_append_right _ member)
  · have some := sound.manned waiting
    rw [length, none] at some
    cases some
  · have idle : state.running = 0 := by rw [length, none]; rfl
    have empty : state.pending = [] := by
      by_contra waiting
      have some := sound.manned waiting
      omega
    obtain ⟨launched, open_, passed⟩ : state.launched = [] ∧ state.racing = [] ∧ state.decided = [] := by
      simpa [frames] using none
    have order := accounted.order
    have fates := accounted.fates
    rw [launched, empty, map_nil, append_nil, append_nil] at order
    rw [settled, open_, passed, order] at fates
    exact ⟨order, fates.symm⟩

end

/-- In every run in which no caller asks for a concurrency that is not a number
and every error that decides a race can be described, jobs are scheduled; and from
where the run has come to, the queue comes to rest by itself. -/
theorem queue_schedules (queueName : QueueName) (messages : ErrorMessages E)
    (events : List (Event V E))
    (along : Machine.Along (next queueName messages) (Orderly messages) idle events) :
    Scheduled (run queueName messages idle events) ∧
      ∃ more, (∀ event ∈ more, Internal event) ∧
        frames (run queueName messages idle (events ++ more)) = [] := by
  have sound : Sound messages (run queueName messages idle events) := sound_idle.run along
  obtain ⟨more, internal, rest⟩ := sound.drains queueName
  refine ⟨sound.scheduled, more, internal, ?_⟩
  rw [run, Machine.run_append]
  exact rest

/-! ## Jobs that are stranded -/

def noOverride : QueueBudgetOverride := ⟨none, none, none, none⟩

/-- Texts are described, and what has none cannot be. -/
def sampleMessages : ErrorMessages (Option String) := ⟨id, fun _ _ => "queue timeout", fun _ => false⟩

abbrev sampleQueue (events : List (Event Unit (Option String))) : QueueState Unit (Option String) :=
  run .webBrowser sampleMessages idle events

/-- The first job is refused and the second is late with an error that cannot be described. -/
def sampleEvents : List (Event Unit (Option String)) :=
  [.enqueue noOverride, .enqueue noOverride, .callTask, .taskSettles 0 (.error (some "refused")),
    .resume 0, .callTask, .timerFires 1, .resume 1, .taskSettles 1 (.error none)]

theorem queue_schedules_sample :
    Scheduled (sampleQueue sampleEvents) ∧ ∃ more, (∀ event ∈ more, Internal event) ∧
      frames (sampleQueue (sampleEvents ++ more)) = [] := by
  refine queue_schedules _ _ _ ⟨nofun, nofun, trivial, fun _ => nofun, trivial, trivial, trivial,
    trivial, fun racing => absurd racing (by decide), trivial⟩

/-- With a concurrency that is not a number the job waits while none runs; and a
job whose error cannot be described leaves with its promise open. -/
theorem queue_strands :
    ((sampleQueue [.enqueue { noOverride with concurrency := some .nan }]).pending = [0] ∧
      frames (sampleQueue [.enqueue { noOverride with concurrency := some .nan }]) = []) ∧
    ((sampleQueue [.enqueue noOverride, .callTask, .taskSettles 0 (.error none),
        .resume 0]).settled = [] ∧
      frames (sampleQueue [.enqueue noOverride, .callTask, .taskSettles 0 (.error none),
        .resume 0]) = []) := by
  decide

/-! ## The bound of a budget -/

/-- A job more than those that run would not have been started beyond the
budget. -/
def Bounded (budget : QueueBudget) (state : QueueState V E) : Prop :=
  state.running = 0 ∨ (ofNat (state.running - 1)).lt budget.concurrency = true

section

variable {budget : QueueBudget} {state : QueueState V E}

lemma Bounded.runNext (bounded : Bounded budget state) : Bounded budget (runNext budget state) := by
  obtain ⟨front, back, recorded, -, -, last, result⟩ := runNext_cases budget state
  rw [result]
  rcases last with rfl | room
  · exact bounded
  · exact .inr room

lemma Bounded.release (bounded : Bounded budget state) : Bounded budget (release budget state) := by
  refine Bounded.runNext ?_
  rcases bounded with none | room
  · refine .inl ?_
    simp [none]
  · refine .inr ?_
    have less : (ofNat (state.running - 1 - 1)).le (.ofNat (state.running - 1)) = true := by
      rw [le_ofNat]
      omega
    exact lt_of_le_of_lt less room

lemma Bounded.step (bounded : Bounded budget state) {queueName : QueueName}
    {messages : ErrorMessages E} {event : Event V E}
    (brings : Brings queueName (· = budget) event) (budgeted : Budgeted (· = budget) state) :
    Bounded budget (next queueName messages state event).1 := by
  have stage := next_stage queueName messages state event
  generalize (next queueName messages state event).1 = after at stage ⊢
  cases stage with
  | rests => exact bounded
  | @admits override _ =>
    have own : budgetFor queueName override = budget := brings
    rw [own]
    refine Bounded.runNext ?_
    exact bounded
  | calls => exact bounded
  | decides => exact bounded
  | @leaves _ frame outcome _ _ here =>
    have own : frame.budget = budget :=
      budgeted frame (mem_frames.mpr (.inr (.inr ⟨outcome, here⟩)))
    rw [own]
    refine Bounded.release ?_
    exact bounded

lemma Accounted.inTime_le {lost : List Nat} (accounted : Accounted lost state) :
    (state.executing.filter (· ∉ state.overdue)).length ≤ state.running := by
  have races : state.executing.filter (· ∉ state.overdue) ⊆ state.racing.map (·.job) := by
    intro job member
    obtain ⟨executing, inTime⟩ := mem_filter.mp member
    exact accounted.inTime job executing (by simpa using inTime)
  have once : (state.executing.filter (· ∉ state.overdue)).Nodup := accounted.executing.1.filter _
  have less := (subperm_of_subset once races).length_le
  have live := accounted.live
  rw [length_map] at less
  omega

end

lemma one_le_concurrency (queueName : QueueName) (override : QueueBudgetOverride) :
    (budgetFor queueName override).concurrency.lt (.ofNat 0) = false := by
  have zero_le_one : (ofNat 0).le 1 = true := by decide
  by_contra less
  have below := lt_of_lt_of_le (by simpa using less) zero_le_one
  simp only [budgetFor, not_max_lt] at below
  cases below

/-- Where all callers ask for one budget, the tasks that execute and whose time
has not run out are never more than its concurrency. -/
theorem executing_in_time_bounded (queueName : QueueName) (messages : ErrorMessages E)
    (override : QueueBudgetOverride) (events : List (Event V E))
    (fixed : ∀ event ∈ events, ∀ given, event = .enqueue given → given = override) :
    (budgetFor queueName override).concurrency.lt (.ofNat
      ((run queueName messages idle events).executing.filter
        (· ∉ (run queueName messages idle events).overdue)).length) = false := by
  let budget := budgetFor queueName override
  let state := run queueName messages idle events
  have kept : ∀ state : QueueState V E, (∃ lost, Accounted lost state) →
      Budgeted (· = budget) state → Bounded budget state →
      (∃ lost, Accounted lost (run queueName messages state events)) ∧
        Bounded budget (run queueName messages state events) := by
    induction events with
    | nil => exact fun state accounted _ bounded => ⟨accounted, bounded⟩
    | cons event rest ih =>
      intro state ⟨lost, accounted⟩ budgeted bounded
      have brings : Brings queueName (· = budget) event := by
        cases event with
        | enqueue given =>
          rw [fixed _ mem_cons_self given rfl]
          exact rfl
        | _ => exact trivial
      obtain ⟨lost', accounted', -⟩ := accounted.step queueName messages event
      exact ih (fun other member => fixed other (mem_cons_of_mem _ member)) _
        ⟨lost', accounted'⟩ (budgeted.step brings) (bounded.step brings budgeted)
  obtain ⟨⟨lost, accounted⟩, bounded⟩ := kept idle ⟨[], accounted_idle⟩
    (forall_mem_nil _) (.inl rfl)
  have whole : budget.concurrency.floor = budget.concurrency :=
    floor_max (by decide) (floor_floor _)
  have most : budget.concurrency.lt (.ofNat state.running) = false := by
    rcases bounded with none | room
    · rw [show state.running = 0 from none]
      exact one_le_concurrency queueName override
    · rcases running : state.running with _ | before
      · exact one_le_concurrency queueName override
      · rw [show (run queueName messages idle events).running = before + 1 from running] at room
        exact not_lt_succ whole room
  have few := le_ofNat _ _ |>.mpr accounted.inTime_le
  by_contra above
  have passed := lt_of_lt_of_le (by simpa using above) few
  rw [show budget.concurrency.lt (.ofNat (run queueName messages idle events).running) = false
    from most] at passed
  cases passed

theorem executing_in_time_bounded_sample :
    (budgetFor .webBrowser noOverride).concurrency.lt (.ofNat
      ((sampleQueue sampleEvents).executing.filter
        (· ∉ (sampleQueue sampleEvents).overdue)).length) = false := by
  refine executing_in_time_bounded _ _ _ _ fun event member given called => ?_
  subst called
  simpa [sampleEvents] using member

/-- A queue for one job at a time executes two: the time of the first ran out,
and its task goes on. -/
theorem overdue_task_executes :
    (budgetFor .webBrowser noOverride).concurrency = 1 ∧
      (sampleQueue [.enqueue noOverride, .enqueue noOverride, .callTask, .timerFires 0, .resume 0,
          .callTask]).executing = [0, 1] := by
  decide

end Backpressure

end Knowbee
