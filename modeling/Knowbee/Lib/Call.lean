import Knowbee.Lib.Threads

/-!
# Calls in an environment

A program that may throw is one that ends with a value or what was thrown (`Throwing`); what it is
held to is proved by its structure (`Meets`).  A call runs one program on a state that the
environment changes too, before each operation and after the end.  An invariant of the state and
of the summary of the answers that every permitted operation keeps holds in every state of every
permitted run (`Rules.Keeps.run`), and a call ends when its operations are performed
(`Prog.call_ends`).

Any number of calls share a store when each has a state of its own beside it and the number under
which it entered (`CallSystem`).
-/

abbrev Throwing (Op : Type) (Ans : Op → Type) (E α : Type) : Type := ExceptT E (Prog Op Ans) α

namespace Throwing

open List

variable {Job Op G : Type} {Ans : Op → Type} {E α β : Type} {rules : Rules Job Op Ans G}
  {returns : G → α → Prop} {throws : G → E → Prop} {g : G}

/-- How a program may end. -/
def Ends (returns : G → α → Prop) (throws : G → E → Prop) (g : G) : Except E α → Prop
  | .ok value => returns g value
  | .error thrown => throws g thrown

/-- A program that, from the summary `g` on, performs what it may, and returns
and throws well. -/
def Meets (rules : Rules Job Op Ans G) (returns : G → α → Prop) (throws : G → E → Prop) (g : G)
    (prog : Throwing Op Ans E α) : Prop :=
  Prog.Obeys rules (Ends returns throws) g prog.run

lemma Meets.pure {value : α} (well : returns g value) :
    Meets rules returns throws g (pure value) := well

lemma Meets.throw {thrown : E} (well : throws g thrown) :
    Meets rules returns throws g (throw thrown : Throwing Op Ans E α) := well

variable {prog : Throwing Op Ans E α}

lemma Meets.bind (mid : G → α → Prop) {returns : G → β → Prop}
    {onward : α → Throwing Op Ans E β} (meets : Meets rules mid throws g prog)
    (then_meets : ∀ g value, mid g value → Meets rules returns throws g (onward value)) :
    Meets rules returns throws g (prog >>= onward) := by
  refine Prog.Obeys.bind _ meets fun g result well => ?_
  cases result with
  | ok value => exact then_meets g value well
  | error thrown => exact Prog.Obeys.ret well

lemma Meets.andThen {after : G} {returns : G → β → Prop} {onward : α → Throwing Op Ans E β}
    (meets : Meets rules (fun reached _ => reached = after) throws g prog)
    (then_meets : ∀ value, Meets rules returns throws after (onward value)) :
    Meets rules returns throws g (prog >>= onward) :=
  Meets.bind _ meets fun _ value same => same ▸ then_meets value

lemma Meets.tryCatch {caught : G → E → Prop} {handler : E → Throwing Op Ans E α}
    (meets : Meets rules returns caught g prog)
    (then_meets : ∀ g thrown, caught g thrown → Meets rules returns throws g (handler thrown)) :
    Meets rules returns throws g (tryCatch prog handler) := by
  refine Prog.Obeys.bind _ meets fun g result well => ?_
  cases result with
  | ok value => exact Prog.Obeys.ret well
  | error thrown => exact then_meets g thrown well

def perform (op : Op) : Throwing Op Ans E (Ans op) := ExceptT.lift (Prog.perform op)

/-- One operation, which throws what its answer says. -/
def attempt (op : Op) (thrown : Ans op → Except E α) : Throwing Op Ans E α :=
  ExceptT.mk do return thrown (← Prog.perform op)

lemma Meets.perform {op : Op} {returns : G → Ans op → Prop} (may : rules.may g op)
    (well : ∀ ans, rules.gets g op ans → returns (rules.next g op ans) ans) :
    Meets rules returns throws g (Throwing.perform op) :=
  ⟨may, well⟩

lemma Meets.attempt {op : Op} {thrown : Ans op → Except E α} (may : rules.may g op)
    (well : ∀ ans, rules.gets g op ans → Ends returns throws (rules.next g op ans) (thrown ans)) :
    Meets rules returns throws g (Throwing.attempt op thrown) :=
  ⟨may, well⟩

lemma Meets.ite {c : Prop} [Decidable c] {yes no : Throwing Op Ans E α}
    (yes_meets : c → Meets rules returns throws g yes)
    (no_meets : ¬c → Meets rules returns throws g no) :
    Meets rules returns throws g (if c then yes else no) := by
  by_cases holds : c
  · rw [if_pos holds]
    exact yes_meets holds
  · rw [if_neg holds]
    exact no_meets holds

end Throwing

section Embedding

variable {Job Job' Op Op' G G' : Type} {Ans : Op → Type} {Ans' : Op' → Type} {α : Type}

/-- A program whose operations are some of a larger set. -/
def Prog.embed (into : Op → Op') (back : (op : Op) → Ans' (into op) → Ans op) :
    Prog Op Ans α → Prog Op' Ans' α
  | .ret value => .ret value
  | .call op next => .call (into op) fun ans => (next (back op ans)).embed into back

lemma Prog.Obeys.embed {rules : Rules Job Op Ans G} {rules' : Rules Job' Op' Ans' G'}
    {into : Op → Op'} {back : (op : Op) → Ans' (into op) → Ans op} {ends : G → α → Prop}
    {ends' : G' → α → Prop} (lift : G → G')
    (may : ∀ g op, rules.may g op → rules'.may (lift g) (into op))
    (gets : ∀ g op ans, rules'.gets (lift g) (into op) ans → rules.gets g op (back op ans))
    (next : ∀ g op ans, rules'.next (lift g) (into op) ans = lift (rules.next g op (back op ans)))
    (ending : ∀ g value, ends g value → ends' (lift g) value) {g : G} {prog : Prog Op Ans α}
    (obeys : prog.Obeys rules ends g) : (prog.embed into back).Obeys rules' ends' (lift g) := by
  induction prog generalizing g with
  | ret value => exact ending g value obeys
  | call op onward ih =>
    refine ⟨may g op obeys.1, fun ans answered => ?_⟩
    rw [next]
    exact ih _ (obeys.2 _ (gets g op ans answered))

end Embedding

/-- The state of a call, and what is left of its program. -/
abbrev Call (S Op : Type) (Ans : Op → Type) (α : Type) : Type := S × Prog Op Ans α

section Calls

variable {Job Op G : Type} {Ans : Op → Type} {S Choice α : Type}

/-- A step of a call: its next operation or, after the end, what the environment
does alone. -/
def callStep (handle : Choice → S → (op : Op) → Ans op × S) (after : Choice → S → S)
    (call : Call S Op Ans α) (choice : Choice) : Call S Op Ans α × Unit :=
  match call with
  | (state, .ret value) => ((after choice state, .ret value), ())
  | (state, .call op next) =>
    let (ans, state) := handle choice state op
    ((state, next ans), ())

/-- An invariant of the state and the summary that every permitted operation
keeps, under answers that the rules expect. -/
structure Rules.Keeps (rules : Rules Job Op Ans G)
    (handle : Choice → S → (op : Op) → Ans op × S) (after : Choice → S → S)
    (permitted : Call S Op Ans α → Choice → Prop) (inv : S → G → Prop) : Prop where
  call {state : S} {g : G} {op : Op} {next : Ans op → Prog Op Ans α} {choice : Choice} :
    inv state g → permitted (state, .call op next) choice → rules.may g op →
      rules.gets g op (handle choice state op).1 ∧
        inv (handle choice state op).2 (rules.next g op (handle choice state op).1)
  after {state : S} {g : G} {value : α} {choice : Choice} :
    inv state g → permitted (state, .ret value) choice → inv (after choice state) g

variable {rules : Rules Job Op Ans G} {handle : Choice → S → (op : Op) → Ans op × S}
  {after : Choice → S → S} {permitted : Call S Op Ans α → Choice → Prop} {inv : S → G → Prop}
  {ends : G → α → Prop}

/-- The invariant holds with a summary from which the rest of the program obeys. -/
def Rules.Carries (rules : Rules Job Op Ans G) (inv : S → G → Prop) (ends : G → α → Prop)
    (call : Call S Op Ans α) : Prop :=
  ∃ g, inv call.1 g ∧ call.2.Obeys rules ends g

lemma Rules.Keeps.run (keeps : rules.Keeps handle after permitted inv) {call : Call S Op Ans α}
    {choices : List Choice} (along : Machine.Along (callStep handle after) permitted call choices)
    (start : rules.Carries inv ends call) :
    rules.Carries inv ends (Machine.run (callStep handle after) call choices) := by
  refine Machine.run_invariant_along ?_ start along
  rintro ⟨state, value | ⟨op, next⟩⟩ choice ⟨g, holds, obeys⟩ permits
  · exact ⟨g, keeps.after holds permits, obeys⟩
  · obtain ⟨gets, onward⟩ := keeps.call holds permits obeys.1
    exact ⟨_, onward, obeys.2 _ gets⟩

lemma Prog.call_ends (prog : Prog Op Ans α) (state : S) (choices : Nat → Choice) :
    ∃ count value, (Machine.run (callStep handle after) (state, prog)
      ((List.range count).map choices)).2 = .ret value := by
  induction prog generalizing state choices with
  | ret value => exact ⟨0, value, rfl⟩
  | call op next ih =>
    obtain ⟨count, value, ended⟩ := ih (handle (choices 0) state op).1
      (handle (choices 0) state op).2 fun index => choices (index + 1)
    refine ⟨count + 1, value, ?_⟩
    rw [List.range_succ_eq_map, List.map_cons, List.map_map]
    exact ended

end Calls

/-- How calls enter, and what an operation does to the store and to the state of
the call that performs it. -/
structure CallSystem (Job Op : Type) (Ans : Op → Type) (α S L Choice : Type) where
  enter : Job → L × Prog Op Ans α
  handle : Choice → Nat → S × L → (op : Op) → Ans op × S × L
  after : Choice → Nat → S × L → S × L

/-- The store, and the calls in the order in which they entered. -/
structure Calls (Op : Type) (Ans : Op → Type) (α S L : Type) where
  store : S
  calls : List (L × Prog Op Ans α)

namespace CallSystem

inductive Event (Job Choice : Type) where
  | enter (job : Job)
  | proceed (number : Nat) (choice : Choice)

variable {Job Op : Type} {Ans : Op → Type} {α S L Choice : Type}

def idle (store : S) : Calls Op Ans α S L := ⟨store, []⟩

def step (system : CallSystem Job Op Ans α S L Choice) (state : Calls Op Ans α S L) :
    Event Job Choice → Calls Op Ans α S L × Unit
  | .enter job => ({ state with calls := state.calls ++ [system.enter job] }, ())
  | .proceed number choice =>
    match state.calls[number]? with
    | none => (state, ())
    | some (own, .ret value) =>
      let (store, own) := system.after choice number (state.store, own)
      (⟨store, state.calls.set number (own, .ret value)⟩, ())
    | some (own, .call op next) =>
      let (ans, store, own) := system.handle choice number (state.store, own) op
      (⟨store, state.calls.set number (own, next ans)⟩, ())

abbrev run (system : CallSystem Job Op Ans α S L Choice) :
    Calls Op Ans α S L → List (Event Job Choice) → Calls Op Ans α S L :=
  Machine.run system.step

end CallSystem

namespace Rules

variable {Job Op G : Type} {Ans : Op → Type} {α S L Choice : Type}

/-- An invariant of the store and of the number of calls, and one of a call, that
calls which obey the rules keep for themselves and for each other. -/
structure Guards (rules : Rules Job Op Ans G) (system : CallSystem Job Op Ans α S L Choice)
    (ends : G → α → Prop)
    (permitted : Calls Op Ans α S L → CallSystem.Event Job Choice → Prop)
    (inv : S → Nat → Prop) (holds : S → Nat → L → G → Prop) : Prop where
  program (job : Job) : (system.enter job).2.Obeys rules ends (rules.start job)
  enter {store : S} {count : Nat} {job : Job} : inv store count →
    inv store (count + 1) ∧ holds store count (system.enter job).1 (rules.start job)
  call {state : Calls Op Ans α S L} {number : Nat} {own : L} {g : G} {op : Op}
      {next : Ans op → Prog Op Ans α} {choice : Choice} :
    inv state.store state.calls.length → number < state.calls.length →
      state.calls[number]? = some (own, .call op next) → holds state.store number own g →
      permitted state (.proceed number choice) → rules.may g op →
      let result := system.handle choice number (state.store, own) op
      rules.gets g op result.1 ∧ inv result.2.1 state.calls.length ∧
        holds result.2.1 number result.2.2 (rules.next g op result.1) ∧
        ∀ other own' g', other ≠ number → holds state.store other own' g' →
          holds result.2.1 other own' g'
  after {state : Calls Op Ans α S L} {number : Nat} {own : L} {g : G} {choice : Choice} :
    inv state.store state.calls.length → number < state.calls.length →
      holds state.store number own g → permitted state (.proceed number choice) →
      let result := system.after choice number (state.store, own)
      inv result.1 state.calls.length ∧ holds result.1 number result.2 g ∧
        ∀ other own' g', other ≠ number → holds state.store other own' g' →
          holds result.1 other own' g'

structure Guarded (rules : Rules Job Op Ans G) (ends : G → α → Prop) (inv : S → Nat → Prop)
    (holds : S → Nat → L → G → Prop) (state : Calls Op Ans α S L) : Prop where
  inv : inv state.store state.calls.length
  calls {number : Nat} {call : L × Prog Op Ans α} : state.calls[number]? = some call →
    ∃ g, holds state.store number call.1 g ∧ call.2.Obeys rules ends g

variable {rules : Rules Job Op Ans G} {system : CallSystem Job Op Ans α S L Choice}
  {ends : G → α → Prop} {permitted : Calls Op Ans α S L → CallSystem.Event Job Choice → Prop}
  {inv : S → Nat → Prop} {holds : S → Nat → L → G → Prop}

lemma guarded_idle {store : S} (start : inv store 0) :
    rules.Guarded ends inv holds (CallSystem.idle store : Calls Op Ans α S L) :=
  ⟨start, nofun⟩

variable {state : Calls Op Ans α S L}

lemma Guarded.set {number : Nat} {store : S} {call : L × Prog Op Ans α} {g : G}
    (guarded : rules.Guarded ends inv holds state) (kept : inv store state.calls.length)
    (own : holds store number call.1 g) (obeys : call.2.Obeys rules ends g)
    (others : ∀ other own' g', other ≠ number → holds state.store other own' g' → holds store other own' g') :
    rules.Guarded ends inv holds ⟨store, state.calls.set number call⟩ := by
  refine ⟨by rw [List.length_set]; exact kept, fun {other call'} found => ?_⟩
  by_cases same : other = number
  · subst same
    rw [List.getElem?_set_self'] at found
    obtain ⟨_, _, rfl⟩ := Option.map_eq_some_iff.mp found
    exact ⟨g, own, obeys⟩
  · rw [List.getElem?_set_ne (Ne.symm same)] at found
    obtain ⟨g', held, obeys'⟩ := guarded.calls found
    exact ⟨g', others other _ g' same held, obeys'⟩

section

variable (guards : rules.Guards system ends permitted inv holds)
  (guarded : rules.Guarded ends inv holds state)

include guards guarded

lemma Guards.step {event : CallSystem.Event Job Choice} (permits : permitted state event) :
    rules.Guarded ends inv holds (system.step state event).1 := by
  cases event with
  | enter job =>
    obtain ⟨kept, fresh⟩ : inv state.store (state.calls.length + 1) ∧
        holds state.store state.calls.length (system.enter job).1 (rules.start job) :=
      guards.enter guarded.inv
    refine ⟨by rw [CallSystem.step, List.length_append]; exact kept, fun {number call} found => ?_⟩
    rcases Nat.lt_or_ge number state.calls.length with before | here
    · rw [CallSystem.step, List.getElem?_append_left before] at found
      exact guarded.calls found
    · rw [CallSystem.step, List.getElem?_append_right here] at found
      obtain ⟨bound, rfl⟩ := List.getElem?_eq_some_iff.mp found
      have same : number = state.calls.length := by
        rw [List.length_singleton] at bound
        omega
      subst same
      simp only [Nat.sub_self, List.getElem_cons_zero]
      exact ⟨rules.start job, fresh, guards.program job⟩
  | proceed number choice =>
    rcases found : state.calls[number]? with _ | ⟨own, value | ⟨op, next⟩⟩
    · simp only [CallSystem.step, found]
      exact guarded
    · obtain ⟨bound, -⟩ := List.getElem?_eq_some_iff.mp found
      obtain ⟨g, held, obeys⟩ := guarded.calls found
      obtain ⟨kept, own', others⟩ := guards.after guarded.inv bound held permits
      simp only [CallSystem.step, found]
      exact guarded.set kept own' obeys others
    · obtain ⟨bound, -⟩ := List.getElem?_eq_some_iff.mp found
      obtain ⟨g, held, may, onward⟩ := guarded.calls found
      obtain ⟨gets, kept, own', others⟩ := guards.call guarded.inv bound found held permits may
      simp only [CallSystem.step, found]
      exact guarded.set kept own' (onward _ gets) others

lemma Guards.run {events : List (CallSystem.Event Job Choice)}
    (along : Machine.Along system.step permitted state events) :
    rules.Guarded ends inv holds (system.run state events) :=
  Machine.run_invariant_along (fun _ _ kept permits => guards.step kept permits) guarded along

end

end Rules
