import Knowbee.Lib.Machine

/-!
# Threads over a shared state

A program performs operations one at a time on a state it shares with others, and goes on with the
answer.  A pool runs any number of programs: events start them, let one of them perform its next
operation, or stop them all with a fault of the process, in any order.

A summary of what a thread was answered so far says which operations it may perform next and what
it may take for granted of the answers (`Rules`, `Prog.Obeys`); programs are shown to obey once,
by their structure, and then an invariant of the shared state and the summaries is kept by every
event when every permitted operation keeps it (`Upholds.run`).
-/

/-- A program that performs operations and ends with a value. -/
inductive Prog (Op : Type) (Ans : Op → Type) (α : Type) where
  | ret (value : α)
  | call (op : Op) (next : Ans op → Prog Op Ans α)

namespace Prog

variable {Op : Type} {Ans : Op → Type} {α β : Type}

def bind : Prog Op Ans α → (α → Prog Op Ans β) → Prog Op Ans β
  | .ret value, onward => onward value
  | .call op next, onward => .call op fun ans => (next ans).bind onward

instance : Monad (Prog Op Ans) where
  pure := .ret
  bind := bind

def perform (op : Op) : Prog Op Ans (Ans op) := .call op .ret

end Prog

/-- What the threads of a pool are held to: a summary of the answers so far, the
operations it allows, and what holds of their answers. -/
structure Rules (Job Op : Type) (Ans : Op → Type) (G : Type) where
  start : Job → G
  next : G → (op : Op) → Ans op → G
  may : G → Op → Prop
  gets : G → (op : Op) → Ans op → Prop

/-- Rules that hold a thread to nothing. -/
def Rules.free {Job Op : Type} {Ans : Op → Type} : Rules Job Op Ans Unit :=
  ⟨fun _ => (), fun _ _ _ => (), fun _ _ => True, fun _ _ _ => True⟩

namespace Prog

variable {Job Op G : Type} {Ans : Op → Type} {α β : Type} {rules : Rules Job Op Ans G}
  {ends : G → α → Prop} {g : G}

/-- A program that, from the summary `g` on, performs what it may, whatever
answers it gets, and ends well. -/
def Obeys (rules : Rules Job Op Ans G) (ends : G → α → Prop) : G → Prog Op Ans α → Prop
  | g, .ret value => ends g value
  | g, .call op next => rules.may g op ∧
      ∀ ans, rules.gets g op ans → (next ans).Obeys rules ends (rules.next g op ans)

lemma Obeys.ret {value : α} (well : ends g value) :
    (pure value : Prog Op Ans α).Obeys rules ends g := well

lemma Obeys.bind (mid : G → α → Prop) {ends : G → β → Prop} {prog : Prog Op Ans α}
    {onward : α → Prog Op Ans β} (obeys : prog.Obeys rules mid g)
    (then_obeys : ∀ g value, mid g value → (onward value).Obeys rules ends g) :
    (prog >>= onward).Obeys rules ends g := by
  induction prog generalizing g with
  | ret value => exact then_obeys g value obeys
  | call op next ih =>
    obtain ⟨may, rest⟩ := obeys
    exact ⟨may, fun ans gets => ih ans (rest ans gets)⟩

lemma Obeys.perform {ends : G → β → Prop} {op : Op} {onward : Ans op → Prog Op Ans β}
    (may : rules.may g op)
    (then_obeys : ∀ ans, rules.gets g op ans →
      (onward ans).Obeys rules ends (rules.next g op ans)) :
    ((Prog.perform op : Prog Op Ans (Ans op)) >>= onward).Obeys rules ends g :=
  ⟨may, then_obeys⟩

lemma Obeys.ite {c : Prop} [Decidable c] {yes no : Prog Op Ans α}
    (yes_obeys : c → yes.Obeys rules ends g) (no_obeys : ¬c → no.Obeys rules ends g) :
    (if c then yes else no).Obeys rules ends g := by
  by_cases holds : c
  · rw [if_pos holds]
    exact yes_obeys holds
  · rw [if_neg holds]
    exact no_obeys holds

end Prog

section Alone

variable {Job Op G : Type} {Ans : Op → Type} {α : Type} {rules : Rules Job Op Ans G}
  {ends : G → α → Prop}

/-- What was asked and answered, the latest first. -/
abbrev Past (Op : Type) (Ans : Op → Type) : Type := List ((op : Op) × Ans op)

variable {oracle : Past Op Ans → (op : Op) → Option (Ans op)}

namespace Prog

/-- A run of a program, under an oracle that knows what was asked and answered before. -/
def play (oracle : Past Op Ans → (op : Op) → Option (Ans op)) :
    Past Op Ans → Prog Op Ans α → Past Op Ans × Option α
  | past, .ret value => (past, some value)
  | past, .call op next =>
    match oracle past op with
    | none => (past, none)
    | some ans => play oracle (⟨op, ans⟩ :: past) (next ans)

lemma play_isSome
    (answers : ∀ past op, (oracle past op).isSome) (past : Past Op Ans) (prog : Prog Op Ans α) :
    (prog.play oracle past).2.isSome := by
  induction prog generalizing past with
  | ret value => rfl
  | call op next ih =>
    obtain ⟨ans, answered⟩ := Option.isSome_iff_exists.mp (answers past op)
    rw [play, answered]
    exact ih ans _

end Prog

namespace Rules

/-- The summary of what was asked and answered since the start. -/
def since (rules : Rules Job Op Ans G) (start : G) (past : Past Op Ans) : G :=
  past.foldr (fun answered g => rules.next g answered.1 answered.2) start

/-- Every operation of the past was allowed when it was performed. -/
def Followed (rules : Rules Job Op Ans G) (start : G) : Past Op Ans → Prop
  | [] => True
  | answered :: earlier =>
    rules.may (rules.since start earlier) answered.1 ∧ rules.Followed start earlier

end Rules

/-- A program that obeys performs what it may under every oracle, and ends well
if it ends. -/
lemma Prog.Obeys.play {start : G}
    (gets : ∀ past op ans, oracle past op = some ans → rules.gets (rules.since start past) op ans)
    {past : Past Op Ans} {prog : Prog Op Ans α} (followed : rules.Followed start past)
    (obeys : prog.Obeys rules ends (rules.since start past)) :
    rules.Followed start (prog.play oracle past).1 ∧
      ∀ value, (prog.play oracle past).2 = some value →
        ends (rules.since start (prog.play oracle past).1) value := by
  induction prog generalizing past with
  | ret value => exact ⟨followed, fun _ same => Option.some.inj same ▸ obeys⟩
  | call op next ih =>
    rw [Prog.play]
    cases answered : oracle past op with
    | none => exact ⟨followed, nofun⟩
    | some ans => exact ih ans ⟨obeys.1, followed⟩ (obeys.2 ans (gets past op ans answered))

end Alone

/-- The programs a process runs and the state they share. -/
structure Process (Job Op : Type) (Ans : Op → Type) (α State Choice Fault : Type) where
  program : Job → Prog Op Ans α
  handle : Choice → State → (op : Op) → Ans op × State
  fail : Fault → State → State

/-- One run of a program: what it was started for, what it was answered so far,
the latest answer first, and what is left to do. -/
structure Thread (Job Op : Type) (Ans : Op → Type) (α : Type) where
  job : Job
  past : List ((op : Op) × Ans op)
  prog : Prog Op Ans α

/-- The shared state, the threads under their names, and the values returned so
far, the latest first. -/
structure Pool (Tid Job Op : Type) (Ans : Op → Type) (α State : Type) where
  state : State
  threads : Tid → Option (Thread Job Op Ans α)
  returned : List (Job × α)

namespace Process

/-- What the environment decides next. -/
inductive Event (Tid Job Choice Fault : Type) where
  | spawn (tid : Tid) (job : Job)
  | step (tid : Tid) (choice : Choice)
  | fault (fault : Fault)

variable {Tid Job Op : Type} {Ans : Op → Type} {α State Choice Fault : Type} [DecidableEq Tid]

def idle (state : State) : Pool Tid Job Op Ans α State := ⟨state, fun _ => none, []⟩

/-- One event at a pool: a free name starts a thread, a thread performs its next
operation or returns, or all threads stop. -/
def next (process : Process Job Op Ans α State Choice Fault) (pool : Pool Tid Job Op Ans α State) :
    Event Tid Job Choice Fault → Pool Tid Job Op Ans α State
  | .spawn tid job =>
    match pool.threads tid with
    | some _ => pool
    | none =>
      { pool with threads := Function.update pool.threads tid (some ⟨job, [], process.program job⟩) }
  | .step tid choice =>
    match pool.threads tid with
    | none => pool
    | some ⟨job, _, .ret value⟩ =>
      { pool with
        threads := Function.update pool.threads tid none
        returned := (job, value) :: pool.returned }
    | some ⟨job, past, .call op onward⟩ =>
      match process.handle choice pool.state op with
      | (ans, state) =>
        { pool with
          state
          threads := Function.update pool.threads tid (some ⟨job, ⟨op, ans⟩ :: past, onward ans⟩) }
  | .fault fault => { pool with state := process.fail fault pool.state, threads := fun _ => none }

/-- The pool as a machine with nothing to observe but its states. -/
def step (process : Process Job Op Ans α State Choice Fault) (pool : Pool Tid Job Op Ans α State)
    (event : Event Tid Job Choice Fault) : Pool Tid Job Op Ans α State × Unit :=
  (process.next pool event, ())

abbrev run (process : Process Job Op Ans α State Choice Fault) :
    Pool Tid Job Op Ans α State → List (Event Tid Job Choice Fault) → Pool Tid Job Op Ans α State :=
  Machine.run process.step

end Process

namespace Rules

variable {Tid Job Op G : Type} {Ans : Op → Type} {α State Choice Fault : Type}

def summary (rules : Rules Job Op Ans G) (thread : Thread Job Op Ans α) : G :=
  thread.past.foldr (fun answered g => rules.next g answered.1 answered.2) (rules.start thread.job)

@[simp] lemma summary_cons (rules : Rules Job Op Ans G) (job : Job) (op : Op) (ans : Ans op)
    (past : List ((op : Op) × Ans op)) (prog prog' : Prog Op Ans α) :
    rules.summary ⟨job, ⟨op, ans⟩ :: past, prog⟩ =
      rules.next (rules.summary ⟨job, past, prog'⟩) op ans := rfl

def summaries (rules : Rules Job Op Ans G) (pool : Pool Tid Job Op Ans α State) : Tid → Option G :=
  fun tid => (pool.threads tid).map rules.summary

variable [DecidableEq Tid]

lemma summaries_update (rules : Rules Job Op Ans G) (state : State)
    (threads : Tid → Option (Thread Job Op Ans α)) (returned : List (Job × α)) (tid : Tid)
    (thread : Option (Thread Job Op Ans α)) :
    rules.summaries ⟨state, Function.update threads tid thread, returned⟩ =
      Function.update (rules.summaries ⟨state, threads, returned⟩) tid
        (thread.map rules.summary) := by
  funext other
  by_cases same : other = tid
  · subst same
    simp [summaries]
  · simp [summaries, Function.update_of_ne same]

/-- An invariant of the shared state, of what was returned and of the summaries
that programs which obey the rules uphold, as long as every event is
permitted. -/
structure Upholds (rules : Rules Job Op Ans G) (process : Process Job Op Ans α State Choice Fault)
    (ends : G → α → Prop)
    (permitted : Pool Tid Job Op Ans α State → Process.Event Tid Job Choice Fault → Prop)
    (inv : State → List (Job × α) → (Tid → Option G) → Prop) : Prop where
  program (job : Job) : (process.program job).Obeys rules ends (rules.start job)
  spawn {state : State} {returned : List (Job × α)} {gs : Tid → Option G} {tid : Tid} {job : Job} :
    inv state returned gs → gs tid = none →
      inv state returned (Function.update gs tid (some (rules.start job)))
  call {pool : Pool Tid Job Op Ans α State} {tid : Tid} {thread : Thread Job Op Ans α} {op : Op}
      {onward : Ans op → Prog Op Ans α} {choice : Choice} :
    inv pool.state pool.returned (rules.summaries pool) → pool.threads tid = some thread →
      thread.prog = .call op onward → permitted pool (.step tid choice) →
      rules.may (rules.summary thread) op →
      rules.gets (rules.summary thread) op (process.handle choice pool.state op).1 ∧
        inv (process.handle choice pool.state op).2 pool.returned
          (Function.update (rules.summaries pool) tid
            (some (rules.next (rules.summary thread) op (process.handle choice pool.state op).1)))
  ret {pool : Pool Tid Job Op Ans α State} {tid : Tid} {thread : Thread Job Op Ans α} {value : α} :
    inv pool.state pool.returned (rules.summaries pool) → pool.threads tid = some thread →
      ends (rules.summary thread) value →
      inv pool.state ((thread.job, value) :: pool.returned)
        (Function.update (rules.summaries pool) tid none)
  fault {state : State} {returned : List (Job × α)} {gs : Tid → Option G} {fault : Fault} :
    inv state returned gs → inv (process.fail fault state) returned fun _ => none

/-- Every thread of the pool obeys, and the invariant holds. -/
structure Kept (rules : Rules Job Op Ans G) (ends : G → α → Prop)
    (inv : State → List (Job × α) → (Tid → Option G) → Prop) (pool : Pool Tid Job Op Ans α State) :
    Prop where
  obeys {tid : Tid} {thread : Thread Job Op Ans α} : pool.threads tid = some thread →
    thread.prog.Obeys rules ends (rules.summary thread)
  inv : inv pool.state pool.returned (rules.summaries pool)

variable {rules : Rules Job Op Ans G} {process : Process Job Op Ans α State Choice Fault}
  {ends : G → α → Prop}
  {permitted : Pool Tid Job Op Ans α State → Process.Event Tid Job Choice Fault → Prop}
  {inv : State → List (Job × α) → (Tid → Option G) → Prop}

omit [DecidableEq Tid] in
lemma kept_idle {state : State} (holds : inv state [] fun _ => none) :
    rules.Kept ends inv (Process.idle state : Pool Tid Job Op Ans α State) :=
  ⟨nofun, holds⟩

lemma Upholds.step (upholds : rules.Upholds process ends permitted inv)
    {pool : Pool Tid Job Op Ans α State} {event : Process.Event Tid Job Choice Fault}
    (kept : rules.Kept ends inv pool) (permits : permitted pool event) :
    rules.Kept ends inv (process.step pool event).1 := by
  obtain ⟨state, threads, returned⟩ := pool
  obtain ⟨obeys, holds⟩ := kept
  cases event with
  | fault fault => exact ⟨nofun, upholds.fault holds⟩
  | spawn tid job =>
    simp only [Process.step, Process.next]
    cases found : threads tid with
    | some thread => exact ⟨obeys, holds⟩
    | none =>
      have free : rules.summaries ⟨state, threads, returned⟩ tid = none := by
        simp [summaries, found]
      refine ⟨fun {other thread} here => ?_, ?_⟩
      · by_cases same : other = tid
        · subst same
          simp only [Function.update_self, Option.some.injEq] at here
          subst here
          exact upholds.program job
        · simp only [Function.update_of_ne same] at here
          exact obeys here
      · simp only [summaries_update]
        exact upholds.spawn holds free
  | step tid choice =>
    simp only [Process.step, Process.next]
    rcases found : threads tid with _ | ⟨job, past, value | ⟨op, onward⟩⟩
    · exact ⟨obeys, holds⟩
    · have well : ends (rules.summary ⟨job, past, .ret value⟩) value := obeys found
      refine ⟨fun {other thread} here => ?_, ?_⟩
      · by_cases same : other = tid
        · subst same
          simp at here
        · simp only [Function.update_of_ne same] at here
          exact obeys here
      · simp only [summaries_update]
        exact upholds.ret holds found well
    · obtain ⟨may, then_obeys⟩ : (Prog.call op onward).Obeys rules ends
          (rules.summary ⟨job, past, .call op onward⟩) := obeys found
      obtain ⟨gets, after⟩ := upholds.call holds found rfl permits may
      refine ⟨fun {other thread} here => ?_, ?_⟩
      · by_cases same : other = tid
        · subst same
          simp only [Function.update_self, Option.some.injEq] at here
          subst here
          exact then_obeys _ gets
        · simp only [Function.update_of_ne same] at here
          exact obeys here
      · simp only [summaries_update]
        exact after

lemma Upholds.run (upholds : rules.Upholds process ends permitted inv)
    {pool : Pool Tid Job Op Ans α State} {events : List (Process.Event Tid Job Choice Fault)}
    (kept : rules.Kept ends inv pool) (along : Machine.Along process.step permitted pool events) :
    rules.Kept ends inv (process.run pool events) :=
  Machine.run_invariant_along (fun _ _ holds permits => upholds.step holds permits) kept along

end Rules
