import Mathlib.Data.Nat.Find
import Knowbee.Lib.PromiseChain
import Knowbee.Schedule.ChainedQueues
import Mathlib.Algebra.GroupWithZero.Nat

/-!
# Runs of the schedule queues

The calls of a key are a chain of promises: a call leaves its place only behind
calls that are finished, and the map holds the last call of a key while it is not.
Where no handler throws, what a call settles with is what its task came to, and the
first unsettled call of a key can always go on, so every queue can be brought to rest
(`ChainQueue.drains`).
-/

namespace Knowbee.Schedule

open List QueueStage PromiseChain

variable {R E : Type} {errorMessage : E → Option E}

/-! ## Stages -/

namespace QueueStage

def isQueued : QueueStage R E → Bool
  | .queued => true
  | _ => false

def isWaiting : QueueStage R E → Bool
  | .queued => true
  | .recovered _ => true
  | _ => false

def isExecuting : QueueStage R E → Bool
  | .executing => true
  | _ => false

def isFinished : QueueStage R E → Bool
  | .released _ => true
  | .settled _ => true
  | _ => false

def isSettled : QueueStage R E → Bool
  | .settled _ => true
  | _ => false

def remaining : QueueStage R E → Nat
  | .queued => 6
  | .recovered _ => 5
  | .executing => 4
  | .ran _ => 3
  | .caught _ => 2
  | .released _ => 1
  | .settled _ => 0

lemma isFinished_of_isSettled {stage : QueueStage R E} (settled : stage.isSettled = true) :
    stage.isFinished = true := by
  cases stage <;> first | rfl | cases settled

lemma not_isFinished_of_isWaiting {stage : QueueStage R E} (waiting : stage.isWaiting = true) :
    stage.isFinished = false := by
  cases stage <;> first | rfl | cases waiting

lemma not_isQueued_of_not_isWaiting {stage : QueueStage R E} (called : stage.isWaiting = false) :
    stage.isQueued = false := by
  cases stage <;> first | rfl | cases called

lemma not_isFinished_of_isExecuting {stage : QueueStage R E} (here : stage.isExecuting = true) :
    stage.isFinished = false := by
  cases stage <;> first | rfl | cases here

lemma not_isQueued_of_isExecuting {stage : QueueStage R E} (here : stage.isExecuting = true) :
    stage.isQueued = false := by
  cases stage <;> first | rfl | cases here

lemma not_isQueued_of_isFinished {stage : QueueStage R E} (finished : stage.isFinished = true) :
    stage.isQueued = false := by
  cases stage <;> first | rfl | cases finished

/-- The stages one after another. -/
inductive Moves (errorMessage : E → Option E) (previous : Option (QueueStage R E))
    (choice : QueueChoice R E) : QueueStage R E → QueueStage R E → Prop where
  | recovers (thrown : Option E) (settled : ∀ before ∈ previous, before.isSettled = true)
      (quiet : (∀ error, some (.settled (.error error)) = previous → errorMessage error = none) →
        choice.logWarn = none → thrown = none) :
      Moves errorMessage previous choice .queued (.recovered thrown)
  | calls : Moves errorMessage previous choice (.recovered none) .executing
  | skips (error : E) : Moves errorMessage previous choice (.recovered (some error)) (.ran (.error error))
  | ends : Moves errorMessage previous choice .executing (.ran choice.result)
  | catches (outcome caught : Except E R)
      (quiet : (∀ error, outcome = .error error → errorMessage error = none) →
        choice.logError = none → caught = outcome) :
      Moves errorMessage previous choice (.ran outcome) (.caught caught)
  | releases (outcome : Except E R) :
      Moves errorMessage previous choice (.caught outcome) (.released outcome)
  | settles (outcome : Except E R) :
      Moves errorMessage previous choice (.released outcome) (.settled outcome)

lemma moves_of_advance {previous : Option (QueueStage R E)} {choice : QueueChoice R E}
    {stage after : QueueStage R E}
    (advances : stage.advance errorMessage previous choice = some after) :
    Moves errorMessage previous choice stage after := by
  cases stage with
  | queued =>
    cases previous with
    | none =>
      cases advances
      exact .recovers none (by simp) fun _ _ => rfl
    | some before =>
      cases before with
      | settled outcome =>
        have only : ∀ found ∈ some (settled outcome), found.isSettled = true := by
          rintro found ⟨⟩
          rfl
        cases outcome with
        | ok value =>
          cases advances
          exact .recovers none only fun _ _ => rfl
        | error error =>
          cases advances
          refine .recovers _ only fun texts logs => ?_
          rw [handlerThrows, texts error rfl, logs]
          rfl
      | _ => cases advances
  | recovered thrown =>
    cases thrown with
    | none =>
      cases advances
      exact .calls
    | some error =>
      cases advances
      exact .skips error
  | executing =>
    cases advances
    exact .ends
  | ran outcome =>
    cases outcome with
    | ok value =>
      cases advances
      exact .catches _ _ fun _ _ => rfl
    | error error =>
      cases advances
      refine .catches _ _ fun texts logs => ?_
      rw [handlerThrows, texts error rfl, logs]
      rfl
  | caught outcome =>
    cases advances
    exact .releases outcome
  | released outcome =>
    cases advances
    exact .settles outcome
  | settled outcome => cases advances

section Moves

variable {previous : Option (QueueStage R E)} {choice : QueueChoice R E} {stage after : QueueStage R E}

section

variable (moves : Moves errorMessage previous choice stage after)
include moves

lemma Moves.remaining_lt : after.remaining < stage.remaining := by
  cases moves <;> simp [remaining]

lemma Moves.stays_finished (finished : stage.isFinished = true) : after.isFinished = true := by
  cases moves <;> first | rfl | cases finished

lemma Moves.waiting
    (waiting : after.isWaiting = true ∨ after.isExecuting = true) : stage.isWaiting = true := by
  cases moves <;> first | rfl | rcases waiting with here | here <;> cases here

lemma Moves.finished_of_settled (settled : after.isSettled = true) : stage.isFinished = true := by
  cases moves <;> first | rfl | cases settled

lemma Moves.queued
    (queued : stage.isQueued = true) : ∀ before ∈ previous, before.isSettled = true := by
  cases moves with
  | recovers thrown settled quiet => exact settled
  | _ => cases queued

end

end Moves

lemma exists_advance {previous : Option (QueueStage R E)} {stage : QueueStage R E}
    (settled : ∀ before ∈ previous, before.isSettled = true) (open_ : stage.isSettled = false)
    (choice : QueueChoice R E) : ∃ after, stage.advance errorMessage previous choice = some after := by
  cases stage with
  | queued =>
    cases previous with
    | none => exact ⟨_, rfl⟩
    | some before =>
      have done := settled before rfl
      cases before with
      | settled outcome => cases outcome <;> exact ⟨_, rfl⟩
      | _ => cases done
  | recovered thrown => cases thrown <;> exact ⟨_, rfl⟩
  | executing => exact ⟨_, rfl⟩
  | ran outcome => cases outcome <;> exact ⟨_, rfl⟩
  | caught outcome => exact ⟨_, rfl⟩
  | released outcome => exact ⟨_, rfl⟩
  | settled outcome => cases open_

end QueueStage

/-! ## The invariant -/

namespace ChainQueue

variable {state : ChainQueue R E}

/-- Past its wait a call has left its place in the queue, and it ends with its `finally`. -/
def reading : Reading String (QueueCall R E) where
  key := QueueCall.key
  previous := QueueCall.previous
  waits call := call.stage.isQueued
  ended call := call.stage.isFinished
  past finished := not_isQueued_of_isFinished finished

structure Sound (state : ChainQueue R E) : Prop where
  chain : PromiseChain.Sound reading state.queues.get? state.calls
  known : ∀ {key : String} {i : Nat}, (key, i) ∈ state.started →
    ∃ a, state.calls[i]? = some a ∧ a.key = key ∧ a.stage.isWaiting = false
  order : state.started.Pairwise fun first later => first.1 = later.1 → first.2 < later.2

lemma sound_idle : Sound (idle : ChainQueue R E) where
  chain := PromiseChain.sound_nil _ SortedMap.get?_empty
  known member := by cases member
  order := .nil

lemma Sound.append (sound : Sound state) (key : String) : Sound { state with
      calls := state.calls ++ [⟨key, state.queues.get? key, .queued, none⟩]
      queues := state.queues.insert key state.calls.length } where
  chain := by
    refine sound.chain.append rfl rfl rfl ?_ fun other => ?_ <;> rw [SortedMap.get?_insert]
    · exact if_pos rfl
    · exact if_neg other
  known member := by
    obtain ⟨a, there, own, called⟩ := sound.known member
    refine ⟨a, ?_, own, called⟩
    rw [getElem?_append_left (List.getElem?_eq_some_iff.mp there).1]
    exact there
  order := sound.order

lemma Sound.enqueue (sound : Sound state) (key : String) (logs : Bool) :
    Sound (state.enqueue key logs).1 := by
  unfold ChainQueue.enqueue
  dsimp only
  by_cases refused : ((state.queues.get? key).isSome && !logs) = true
  · rw [if_pos refused]
    exact sound
  · rw [if_neg refused]
    exact sound.append key

/-! ## The next stage of a call -/

section Advance

variable {id : Nat} {call : QueueCall R E} {choice : QueueChoice R E} {after : QueueStage R E}

def moved (call : QueueCall R E) (choice : QueueChoice R E) (after : QueueStage R E) :
    QueueCall R E := { call with stage := after, result := resultAfter call choice }

lemma exists_set_call {calls : List (QueueCall R E)} {call a : QueueCall R E} {id i : Nat}
    (found : calls[id]? = some call) (at_ : calls[i]? = some a) (choice : QueueChoice R E)
    (after : QueueStage R E) :
    ∃ b, (calls.set id (moved call choice after))[i]? = some b ∧ b.key = a.key ∧
      (b = a ∨ i = id ∧ a = call ∧ b = moved call choice after) := by
  by_cases own : i = id
  · subst own
    cases found.symm.trans at_
    refine ⟨moved call choice after, ?_, rfl, .inr ⟨rfl, rfl, rfl⟩⟩
    rw [getElem?_set_self (List.getElem?_eq_some_iff.mp found).1]
  · refine ⟨a, ?_, rfl, .inl rfl⟩
    rw [getElem?_set_ne fun eq => own eq.symm]
    exact at_

section

variable (sound : Sound state)
include sound

lemma Sound.moved (found : state.calls[id]? = some call)
    (moves : Moves errorMessage (state.previousStage call) choice call.stage after)
    {queues : SortedMap String Nat} {started : List (String × Nat)}
    (mapped : ∀ {key : String} {i : Nat}, queues.get? key = some i →
      state.queues.get? key = some i ∧ (i = id → after.isFinished = false))
    (unmapped : ∀ {key : String}, queues.get? key = none → state.queues.get? key = none ∨
      state.queues.get? key = some id ∧ after.isFinished = true)
    (known : ∀ {key : String} {i : Nat}, (key, i) ∈ started → (key, i) ∈ state.started ∨
      key = call.key ∧ i = id ∧ after.isWaiting = false)
    (order : started.Pairwise fun first later => first.1 = later.1 → first.2 < later.2) :
    Sound { calls := state.calls.set id (moved call choice after), queues, started } where
  chain := sound.chain.set found rfl rfl moves.stays_finished
    (fun queued _ place a chain there => isFinished_of_isSettled
      (moves.queued queued a.stage
        (Option.bind_eq_some_iff.mpr ⟨place, chain, Option.map_eq_some_iff.mpr ⟨a, there, rfl⟩⟩)))
    mapped unmapped
  known := by
    intro key i member
    rcases known member with old | ⟨rfl, rfl, called⟩
    · obtain ⟨a, there, own, called⟩ := sound.known old
      obtain ⟨b, there', key', which⟩ := exists_set_call found there choice after
      refine ⟨b, there', key'.trans own, ?_⟩
      rcases which with rfl | ⟨-, rfl, rfl⟩
      · exact called
      · cases waits : after.isWaiting with
        | false => exact waits
        | true =>
          have still := moves.waiting (.inl waits)
          rw [called] at still
          cases still
    · obtain ⟨b, there, key, which⟩ := exists_set_call found found choice after
      refine ⟨b, there, key, ?_⟩
      rcases which with rfl | ⟨-, -, rfl⟩
      · rw [getElem?_set_self (List.getElem?_eq_some_iff.mp found).1] at there
        rw [← Option.some.inj there]
        exact called
      · exact called
  order := order

lemma Sound.advance (id : Nat) (choice : QueueChoice R E) :
    Sound (state.advance errorMessage id choice) := by
  unfold ChainQueue.advance
  cases found : state.calls[id]? with
  | none => exact sound
  | some call =>
    dsimp only
    cases advances : call.stage.advance errorMessage (state.previousStage call) choice with
    | none => exact sound
    | some after =>
      have moves := moves_of_advance advances
      have same := @Sound.moved R E errorMessage state id call choice after sound found moves
        state.queues state.started
      cases after with
      | executing =>
        have waits := moves.waiting (.inr rfl)
        refine sound.moved found moves (fun held => ⟨held, fun _ => rfl⟩) (fun absent => .inl absent)
          (fun member => ?_) ?_
        · rcases mem_append.mp member with old | new
          · exact .inl old
          · cases mem_singleton.mp new
            exact .inr ⟨rfl, rfl, rfl⟩
        · refine pairwise_append.mpr ⟨sound.order, pairwise_singleton _ _, ?_⟩
          intro earlier member here new key
          cases mem_singleton.mp new
          obtain ⟨a, there, own, called⟩ := sound.known (show (earlier.1, earlier.2) ∈
            state.started from member)
          by_contra not_before
          rcases Nat.lt_or_eq_of_le (Nat.le_of_not_lt not_before) with less | eq
          · have finished := sound.chain.behind found there less (key.symm.trans own.symm).symm.symm
              (not_isQueued_of_not_isWaiting called)
            exact nomatch finished.symm.trans (not_isFinished_of_isWaiting waits)
          · rw [← eq] at there
            cases found.symm.trans there
            rw [called] at waits
            cases waits
      | released outcome =>
        show Sound (reach _ id call (.released outcome))
        unfold reach
        dsimp only
        by_cases held : state.queues.get? call.key = some id
        · rw [if_pos held]
          refine sound.moved found moves (fun {key i} at_ => ?_) (fun {key} absent => ?_)
            (fun member => .inl member) sound.order
          · rw [SortedMap.get?_erase] at at_
            by_cases own : key = call.key
            · rw [if_pos own] at at_
              cases at_
            · rw [if_neg own] at at_
              refine ⟨at_, ?_⟩
              rintro rfl
              obtain ⟨⟨a, there, same, -⟩, -⟩ := sound.chain.mapped at_
              cases found.symm.trans there
              exact absurd same.symm own
          · rw [SortedMap.get?_erase] at absent
            by_cases own : key = call.key
            · exact .inr ⟨own ▸ held, rfl⟩
            · rw [if_neg own] at absent
              exact .inl absent
        · rw [if_neg held]
          refine sound.moved found moves (fun at_ => ⟨at_, ?_⟩) (fun absent => .inl absent)
            (fun member => .inl member) sound.order
          rintro rfl
          obtain ⟨⟨a, there, key, -⟩, -⟩ := sound.chain.mapped at_
          cases found.symm.trans there
          subst key
          exact absurd at_ held
      | settled outcome =>
        refine same (fun held => ⟨held, ?_⟩) (fun absent => .inl absent) (fun member => .inl member)
          sound.order
        rintro rfl
        obtain ⟨⟨a, there, -, open_⟩, -⟩ := sound.chain.mapped held
        cases found.symm.trans there
        exact nomatch open_.symm.trans (moves.finished_of_settled rfl)
      | _ =>
        exact same (fun held => ⟨held, fun _ => rfl⟩) (fun absent => .inl absent)
          (fun member => .inl member) sound.order

end

end Advance

/-! ## Results -/

/-- A choice in which no handler throws: the loggers return, and what the task
rejects with can be turned into text. -/
structure Quiet (errorMessage : E → Option E) (choice : QueueChoice R E) : Prop where
  logWarn : choice.logWarn = none
  logError : choice.logError = none
  result : ∀ error, choice.result = .error error → errorMessage error = none

/-- The promises of a call hold what its task came to, once it was called. -/
def Own (errorMessage : E → Option E) (call : QueueCall R E) : Prop :=
  match call.stage with
  | .queued => call.result = none
  | .recovered thrown => thrown = none ∧ call.result = none
  | .executing => call.result = none
  | .ran outcome | .caught outcome | .released outcome | .settled outcome =>
    call.result = some outcome ∧ ∀ error, outcome = .error error → errorMessage error = none

lemma Own.settled {call : QueueCall R E} {outcome : Except E R} (own : Own errorMessage call)
    (settled : call.stage = .settled outcome) :
    call.result = some outcome ∧ ∀ error, outcome = .error error → errorMessage error = none := by
  unfold Own at own
  rw [settled] at own
  exact own

lemma Own.moved {call : QueueCall R E} {previous : Option (QueueStage R E)}
    {choice : QueueChoice R E} {after : QueueStage R E} (own : Own errorMessage call)
    (moves : Moves errorMessage previous choice call.stage after)
    (quiet : Quiet errorMessage choice)
    (texts : ∀ error, some (.settled (.error error)) = previous → errorMessage error = none) :
    Own errorMessage (moved call choice after) := by
  unfold Own ChainQueue.moved resultAfter at *
  generalize call.stage = stage at own moves
  cases moves with
  | recovers thrown settled handled => exact ⟨handled texts quiet.logWarn, own⟩
  | calls => exact own.2
  | skips error => cases own.1
  | ends => exact ⟨rfl, quiet.result⟩
  | catches outcome caught handled =>
    have same := handled own.2 quiet.logError
    subst same
    exact own
  | releases outcome => exact own
  | settles outcome => exact own

/-- What a run without throwing handlers keeps: every call holds its own result,
and the tasks that were called are those of the calls past their turn. -/
structure Faithful (errorMessage : E → Option E) (state : ChainQueue R E) : Prop where
  own : ∀ {i : Nat} {call : QueueCall R E}, state.calls[i]? = some call → Own errorMessage call
  called : ∀ {i : Nat} {call : QueueCall R E}, state.calls[i]? = some call →
    call.stage.isWaiting = false → (call.key, i) ∈ state.started

lemma faithful_idle : Faithful errorMessage (idle : ChainQueue R E) where
  own found := by cases found
  called found := by cases found

lemma Faithful.enqueue (faithful : Faithful errorMessage state) (key : String) (logs : Bool) :
    Faithful errorMessage (state.enqueue key logs).1 := by
  unfold ChainQueue.enqueue
  dsimp only
  by_cases refused : ((state.queues.get? key).isSome && !logs) = true
  · rw [if_pos refused]
    exact faithful
  · rw [if_neg refused]
    constructor
    · intro i call found
      rcases getElem?_append_call found with ⟨-, found⟩ | ⟨rfl, rfl⟩
      · exact faithful.own found
      · exact rfl
    · intro i call found called
      rcases getElem?_append_call found with ⟨-, found⟩ | ⟨rfl, rfl⟩
      · exact faithful.called found called
      · cases called

lemma started_reach (state : ChainQueue R E) (id : Nat) (call : QueueCall R E)
    (after : QueueStage R E) : (state.reach id call after).started =
      if after.isExecuting then state.started ++ [(call.key, id)] else state.started := by
  cases after with
  | released outcome =>
    unfold reach
    dsimp only
    by_cases held : state.queues.get? call.key = some id
    · rw [if_pos held]
      rfl
    · rw [if_neg held]
      rfl
  | _ => rfl

lemma calls_reach (state : ChainQueue R E) (id : Nat) (call : QueueCall R E)
    (after : QueueStage R E) : (state.reach id call after).calls = state.calls := by
  cases after with
  | released outcome =>
    unfold reach
    dsimp only
    by_cases held : state.queues.get? call.key = some id
    · rw [if_pos held]
    · rw [if_neg held]
  | _ => rfl

lemma Faithful.advance (faithful : Faithful errorMessage state) (id : Nat)
    {choice : QueueChoice R E} (quiet : Quiet errorMessage choice) :
    Faithful errorMessage (state.advance errorMessage id choice) := by
  unfold ChainQueue.advance
  cases found : state.calls[id]? with
  | none => exact faithful
  | some call =>
    dsimp only
    cases advances : call.stage.advance errorMessage (state.previousStage call) choice with
    | none => exact faithful
    | some after =>
      have moves := moves_of_advance advances
      have own := faithful.own found
      have texts : ∀ error, some (.settled (.error error)) = state.previousStage call →
          errorMessage error = none := by
        intro error at_
        unfold previousStage at at_
        obtain ⟨before, -, there⟩ := Option.bind_eq_some_iff.mp at_.symm
        obtain ⟨earlier, found', settled⟩ := Option.map_eq_some_iff.mp there
        exact ((faithful.own found').settled settled).2 error rfl
      dsimp only
      constructor
      · intro i other there
        rw [calls_reach] at there
        rcases getElem?_set_call there with ⟨rfl, rfl⟩ | ⟨-, there⟩
        · exact own.moved moves quiet texts
        · exact faithful.own there
      · intro i other there called
        rw [calls_reach] at there
        rw [started_reach]
        have kept : ∀ place ∈ state.started, place ∈
            if after.isExecuting then state.started ++ [(call.key, id)] else state.started := by
          intro place member
          by_cases executing : after.isExecuting = true
          · rw [if_pos executing]
            exact mem_append_left _ member
          · rw [if_neg executing]
            exact member
        rcases getElem?_set_call there with ⟨rfl, rfl⟩ | ⟨-, there⟩
        · by_cases executing : after.isExecuting = true
          · rw [if_pos executing]
            exact mem_append_right _ (mem_singleton.mpr rfl)
          · refine kept (call.key, i) (faithful.called found ?_)
            -- only the call of the task ends the waiting, since nothing was thrown before it
            unfold Own at own
            generalize call.stage = stage at own moves ⊢
            cases moves with
            | recovers thrown settled handled => cases called
            | calls => exact absurd rfl executing
            | skips error => cases own.1
            | _ => rfl
        · exact kept _ (faithful.called there called)

/-! ## Rest -/

/-- How many stages of all calls are to come. -/
def remaining (state : ChainQueue R E) : Nat := (state.calls.map (·.stage.remaining)).sum

lemma remaining_advance {id : Nat} {choice : QueueChoice R E} {call : QueueCall R E}
    {after : QueueStage R E} (found : state.calls[id]? = some call)
    (advances : call.stage.advance errorMessage (state.previousStage call) choice = some after) :
    (state.advance errorMessage id choice).remaining < state.remaining := by
  have less := (moves_of_advance advances).remaining_lt
  unfold ChainQueue.advance remaining
  rw [found]
  dsimp only
  rw [advances]
  dsimp only
  rw [calls_reach]
  dsimp only
  obtain ⟨below, eq⟩ := List.getElem?_eq_some_iff.mp found
  have split : state.calls = state.calls.take id ++ call :: state.calls.drop (id + 1) := by
    rw [← eq, ← drop_eq_getElem_cons below, take_append_drop]
  have moved_ : state.calls.set id (moved call choice after) =
      state.calls.take id ++ moved call choice after :: state.calls.drop (id + 1) :=
    set_eq_take_append_cons_drop .. |>.trans (if_pos below)
  rw [show state.calls.set id { call with stage := after, result := resultAfter call choice } = _
    from moved_]
  conv_rhs => rw [split]
  simp only [map_append, map_cons, sum_append, sum_cons]
  have own : (moved call choice after).stage = after := rfl
  rw [own]
  omega

lemma Sound.exists_advance (sound : Sound state) (errorMessage : E → Option E)
    {call : QueueCall R E} (member : call ∈ state.calls) (open_ : call.stage.isSettled = false) :
    ∃ (id : Nat) (first : QueueCall R E), state.calls[id]? = some first ∧
      ∀ choice, ∃ after, first.stage.advance errorMessage (state.previousStage first) choice =
        some after := by
  classical
  have some_ : ∃ (i : Nat) (a : QueueCall R E), state.calls[i]? = some a ∧
      a.stage.isSettled = false := by
    obtain ⟨i, below, eq⟩ := getElem_of_mem member
    exact ⟨i, call, eq ▸ getElem?_eq_getElem below, open_⟩
  obtain ⟨first, found, unsettled⟩ := Nat.find_spec some_
  refine ⟨Nat.find some_, first, found, QueueStage.exists_advance (fun before at_ => ?_) unsettled⟩
  obtain ⟨earlier, chain, there⟩ := Option.bind_eq_some_iff.mp at_
  obtain ⟨a, found', rfl⟩ := Option.map_eq_some_iff.mp there
  obtain ⟨less, -⟩ := sound.chain.chained found chain
  have least := Nat.find_min some_ less
  by_contra waits
  exact least ⟨a, found', Bool.not_eq_true _ |>.mp waits⟩

/-- Every queue comes to rest by the stages of its calls alone, whatever the
tasks come to. -/
lemma Sound.drains (sound : Sound state) (errorMessage : E → Option E)
    (choose : Nat → QueueChoice R E) : ∃ ids : List Nat, ∀ call ∈ (ids.foldl (fun state id =>
      state.advance errorMessage id (choose id)) state).calls, call.stage.isSettled = true := by
  induction size : state.remaining using Nat.strong_induction_on generalizing state with
  | _ size ih =>
    by_cases rest : ∀ call ∈ state.calls, call.stage.isSettled = true
    · exact ⟨[], rest⟩
    · push Not at rest
      obtain ⟨call, member, open_⟩ := rest
      obtain ⟨id, first, found, goes⟩ :=
        sound.exists_advance errorMessage member (Bool.not_eq_true _ |>.mp open_)
      obtain ⟨after, advances⟩ := goes (choose id)
      have less := remaining_advance found advances
      obtain ⟨ids, settled⟩ := ih _ (size ▸ less) (sound.advance id (choose id)) rfl
      exact ⟨id :: ids, settled⟩

/-! ## One key -/

/-- Of a key one task at most executes, its tasks were called in the order of
admission, and the map has an entry exactly while one of its calls is not
finished. -/
structure KeySound (state : ChainQueue R E) (key : String) : Prop where
  single : ∀ {i j : Nat} {a b : QueueCall R E}, state.calls[i]? = some a → state.calls[j]? = some b →
    a.key = key → b.key = key → a.stage.isExecuting = true → b.stage.isExecuting = true → i = j
  ordered : ((state.started.filter (·.1 = key)).map (·.2)).Pairwise (· < ·)
  present : state.hasQueue key = true ↔
    ∃ call ∈ state.calls, call.key = key ∧ call.stage.isFinished = false

lemma Sound.key (sound : Sound state) (key : String) : KeySound state key := by
  have apart {i j : Nat} {a b : QueueCall R E} (first : state.calls[i]? = some a)
      (second : state.calls[j]? = some b) (own : a.key = b.key) (here : a.stage.isExecuting = true)
      (there : b.stage.isExecuting = true) : ¬i < j := by
    intro less
    have finished := sound.chain.behind first second less own
      (not_isQueued_of_isExecuting there)
    exact nomatch finished.symm.trans (not_isFinished_of_isExecuting here)
  constructor
  · rintro i j a b first second rfl own here there
    have left := apart first second own.symm here there
    have right := apart second first own there here
    omega
  · rw [pairwise_map]
    refine (sound.order.filter _).imp_of_mem fun {call later} member member' less => less ?_
    have first := (mem_filter.mp member).2
    have second := (mem_filter.mp member').2
    simp only [decide_eq_true_eq] at first second
    exact first.trans second.symm
  · unfold hasQueue
    cases held : state.queues.get? key with
    | some id =>
      obtain ⟨⟨a, found, own, open_⟩, -⟩ := sound.chain.mapped held
      exact ⟨fun _ => ⟨a, mem_of_getElem? found, own, open_⟩, fun _ => rfl⟩
    | none =>
      refine ⟨fun here => (nomatch here), ?_⟩
      rintro ⟨call, member, own, open_⟩
      obtain ⟨i, below, eq⟩ := getElem_of_mem member
      have finished := sound.chain.unmapped held (eq ▸ getElem?_eq_getElem below) own
      exact nomatch finished.symm.trans open_

end ChainQueue

/-! ## Both queues -/

namespace ScheduleQueues

open ChainQueue

variable {state : ScheduleQueues R E}

/-- No handler throws in the event. -/
def Permitted (errorMessage : E → Option E) (_ : ScheduleQueues R E) : Event R E → Prop
  | .execute _ _ | .deliver _ _ _ => True
  | .advanceExecution _ choice | .advanceDelivery _ choice => Quiet errorMessage choice

def Both (kept : ChainQueue R E → Prop) (state : ScheduleQueues R E) : Prop :=
  kept state.executions ∧ kept state.deliveries

lemma sound_next (sound : Both Sound state) (event : Event R E) :
    Both Sound (next errorMessage state event).1 := by
  cases event with
  | execute scheduleId logs => exact ⟨sound.1.enqueue scheduleId logs, sound.2⟩
  | deliver targetChannel targetSessionId logs => exact ⟨sound.1, sound.2.enqueue _ logs⟩
  | advanceExecution id choice => exact ⟨sound.1.advance id choice, sound.2⟩
  | advanceDelivery id choice => exact ⟨sound.1, sound.2.advance id choice⟩

lemma run_sound (errorMessage : E → Option E) (events : List (Event R E)) :
    Both Sound (run errorMessage idle events) := by
  have start : Both Sound (idle : ScheduleQueues R E) := ⟨sound_idle, sound_idle⟩
  have keep : ∀ state (event : Event R E), Both Sound state →
      Both Sound (next errorMessage state event).1 := fun _ event sound => sound_next sound event
  exact Machine.run_invariant keep start events

lemma faithful_next (faithful : Both (Faithful errorMessage) state) {event : Event R E}
    (permitted : Permitted errorMessage state event) :
    Both (Faithful errorMessage) (next errorMessage state event).1 := by
  cases event with
  | execute scheduleId logs => exact ⟨faithful.1.enqueue scheduleId logs, faithful.2⟩
  | deliver targetChannel targetSessionId logs => exact ⟨faithful.1, faithful.2.enqueue _ logs⟩
  | advanceExecution id choice => exact ⟨faithful.1.advance id permitted, faithful.2⟩
  | advanceDelivery id choice => exact ⟨faithful.1, faithful.2.advance id permitted⟩

lemma run_faithful (events : List (Event R E))
    (along : Machine.Along (next errorMessage) (Permitted errorMessage) idle events) :
    Both (Faithful errorMessage) (run errorMessage idle events) := by
  have start : Both (Faithful errorMessage) (idle : ScheduleQueues R E) :=
    ⟨faithful_idle, faithful_idle⟩
  have keep : ∀ state (event : Event R E), Both (Faithful errorMessage) state →
      Permitted errorMessage state event → Both (Faithful errorMessage) (next errorMessage state event).1 :=
    fun _ _ faithful permitted => faithful_next faithful permitted
  exact Machine.run_invariant_along keep start along

/-- What a queue gives its callers: of every key one task at a time, in the order
of admission, with a map entry while there is one that is not finished; every
settled call has been called and holds what its own task came to; and whatever
the tasks come to, the stages of the calls bring the queue to rest. -/
structure Serves (errorMessage : E → Option E) (queue : ChainQueue R E) : Prop where
  keys : ∀ key, KeySound queue key
  called : ∀ {i : Nat} {call : QueueCall R E}, queue.calls[i]? = some call →
    ((call.key, i) ∈ queue.started ↔ call.stage.isWaiting = false)
  own : ∀ call ∈ queue.calls, ∀ outcome, call.stage = .settled outcome → call.result = some outcome
  drains : ∀ choose : Nat → QueueChoice R E, ∃ ids : List Nat, ∀ call ∈ (ids.foldl
    (fun queue id => queue.advance errorMessage id (choose id)) queue).calls,
    call.stage.isSettled = true

lemma serves_of_faithful {queue : ChainQueue R E} (sound : queue.Sound)
    (faithful : Faithful errorMessage queue) : Serves errorMessage queue where
  keys := sound.key
  called := by
    intro i call found
    refine ⟨fun member => ?_, faithful.called found⟩
    obtain ⟨other, there, -, called⟩ := sound.known member
    cases found.symm.trans there
    exact called
  own := by
    intro call member outcome settled
    obtain ⟨i, below, eq⟩ := getElem_of_mem member
    exact ((faithful.own (eq ▸ getElem?_eq_getElem below)).settled settled).1
  drains := sound.drains errorMessage

/-- Of every key one task at a time executes, in the order of admission, and the map
has an entry exactly while one of its calls is not finished.  In every run in which
no logger throws and everything that tasks reject with can be turned into text, both
queues serve their callers. -/
theorem schedule_queues_serve (errorMessage : E → Option E) (events : List (Event R E)) :
    (∀ key, KeySound (run errorMessage idle events).executions key ∧
      KeySound (run errorMessage idle events).deliveries key) ∧
    (Machine.Along (next errorMessage) (Permitted errorMessage) idle events →
      Serves errorMessage (run errorMessage idle events).executions ∧
        Serves errorMessage (run errorMessage idle events).deliveries) := by
  obtain ⟨first, second⟩ := run_sound errorMessage events
  refine ⟨fun key => ⟨first.key key, second.key key⟩, fun along => ?_⟩
  obtain ⟨faithful, faithful'⟩ := run_faithful events along
  exact ⟨serves_of_faithful first faithful, serves_of_faithful second faithful'⟩

/-- A text conversion that throws on one value. -/
def textless (error : String) : Option String :=
  if error = "no text" then some "TypeError" else none

/-- The task of the only call rejects with the value, and all its stages are run. -/
def rejectingRun (error : String) : List (Event Unit String) :=
  .execute "schedule" true ::
    List.replicate 6 (.advanceExecution 0 { result := .error error, logWarn := none, logError := none })

theorem schedule_queues_serve_rejecting :
    Serves textless (run textless idle (rejectingRun "failed")).executions ∧
      Serves textless (run textless idle (rejectingRun "failed")).deliveries := by
  refine (schedule_queues_serve textless (rejectingRun "failed")).2 ?_
  have quiet : Quiet textless
      ({ result := .error "failed", logWarn := none, logError := none } : QueueChoice Unit String) := by
    refine ⟨rfl, rfl, fun error same => ?_⟩
    cases same
    rfl
  exact ⟨trivial, quiet, quiet, quiet, quiet, quiet, quiet, trivial⟩

/-- A caller is not given what its task rejected with. -/
theorem rejection_replaced : ¬Serves textless (run textless idle (rejectingRun "no text")).executions := by
  intro serves
  have settled : (run textless idle (rejectingRun "no text")).executions.calls =
      [⟨"schedule", none, .settled (.error "TypeError"), some (.error "no text")⟩] := rfl
  have own := serves.own _ (settled ▸ mem_singleton.mpr rfl) _ rfl
  simp at own

end ScheduleQueues

end Knowbee.Schedule
