import Mathlib.Data.List.Basic

/-!
# Runs of a machine

A machine is a function that takes a state and an event to the next state and
an observation.  The events carry everything the machine does not decide
itself, such as the order of calls and the faults of the environment, so a
statement about every list of events is a statement about every run.

The rules here are the only inductions over runs: `run_invariant` for what
every step keeps, `trace_forall` for what every observation satisfies, and
`trace_pairwise` for observations that exclude each other.
-/

namespace Machine

open List

variable {S E O : Type}

def run (step : S → E → S × O) : S → List E → S
  | state, [] => state
  | state, event :: rest => run step (step state event).1 rest

/-- The observations made along a list of events. -/
def trace (step : S → E → S × O) : S → List E → List O
  | _, [] => []
  | state, event :: rest => (step state event).2 :: trace step (step state event).1 rest

def Along (step : S → E → S × O) (permitted : S → E → Prop) : S → List E → Prop
  | _, [] => True
  | state, event :: rest => permitted state event ∧ Along step permitted (step state event).1 rest

instance decidableAlong {step : S → E → S × O} {permitted : S → E → Prop}
    [∀ state event, Decidable (permitted state event)] :
    (state : S) → (events : List E) → Decidable (Along step permitted state events)
  | _, [] => .isTrue trivial
  | state, event :: rest =>
    have : Decidable (Along step permitted (step state event).1 rest) := decidableAlong _ rest
    inferInstanceAs (Decidable (permitted state event ∧ _))

lemma run_append (step : S → E → S × O) (state : S) (first second : List E) :
    run step state (first ++ second) = run step (run step state first) second := by
  induction first generalizing state with
  | nil => rfl
  | cons event rest ih => exact ih (step state event).1

variable {permitted permitted' : S → E → Prop} {state : S} {step : S → E → S × O}
  {events : List E} {inv : S → Prop}

lemma along_append {first second : List E} : Along step permitted state (first ++ second) ↔
      Along step permitted state first ∧ Along step permitted (run step state first) second := by
  induction first generalizing state with
  | nil => simp [Along, run]
  | cons event rest ih => simp [cons_append, Along, run, ih, and_assoc]

lemma along_of_mem (permits : ∀ event ∈ events, ∀ state, permitted state event) (state : S) :
    Along step permitted state events := by
  induction events generalizing state with
  | nil => trivial
  | cons event rest ih =>
    have later : ∀ event ∈ rest, ∀ state, permitted state event :=
      fun event member => permits event (mem_cons_of_mem _ member)
    exact ⟨permits event mem_cons_self state, ih later _⟩

lemma along_of_forall (permits : ∀ state event, permitted state event) (state : S)
    (events : List E) : Along step permitted state events :=
  along_of_mem (fun event _ state => permits state event) state

lemma Along.mono (along : Along step permitted state events)
    (weaker : ∀ state event, permitted state event → permitted' state event) :
    Along step permitted' state events := by
  induction events generalizing state with
  | nil => trivial
  | cons event rest ih => exact ⟨weaker state event along.1, ih along.2⟩

lemma Along.and (along : Along step permitted state events)
    (along' : Along step permitted' state events) :
    Along step (fun state event => permitted state event ∧ permitted' state event) state events := by
  induction events generalizing state with
  | nil => trivial
  | cons event rest ih => exact ⟨⟨along.1, along'.1⟩, ih along.2 along'.2⟩

section

variable (keep : ∀ state event, inv state → permitted state event → inv (step state event).1)

include keep

lemma run_invariant_along (start : inv state) (along : Along step permitted state events) :
    inv (run step state events) := by
  induction events generalizing state with
  | nil => exact start
  | cons event rest ih => exact ih (keep state event start along.1) along.2

/-- What the permitted steps keep may be used to see that other steps are permitted. -/
lemma Along.imp
    (implies : ∀ state event, inv state → permitted state event → permitted' state event)
    (start : inv state) (along : Along step permitted state events) :
    Along step permitted' state events := by
  induction events generalizing state with
  | nil => trivial
  | cons event rest ih =>
    exact ⟨implies state event start along.1, ih (keep state event start along.1) along.2⟩

end

lemma run_invariant (keep : ∀ state event, inv state → inv (step state event).1)
    (start : inv state) (events : List E) : inv (run step state events) := by
  induction events generalizing state with
  | nil => exact start
  | cons event rest ih => exact ih (keep state event start)

/-- A property of observations that holds in every invariant state holds of
every observation of a run. -/
lemma trace_forall {good : O → Prop} (inv : S → Prop)
    (keep : ∀ state event, inv state → inv (step state event).1)
    (observe : ∀ state event, inv state → good (step state event).2) (start : inv state)
    (events : List E) : ∀ seen ∈ trace step state events, good seen := by
  induction events generalizing state with
  | nil => simp [trace]
  | cons event rest ih =>
    intro seen member
    rcases mem_cons.mp member with rfl | later
    · exact observe state event start
    · exact ih (keep state event start) seen later

/-- Observations exclude each other along a run when the first leads to a
mark that later steps keep and that the second contradicts. -/
lemma trace_pairwise {excludes : O → O → Prop} (inv : S → Prop) (mark : O → S → Prop)
    (keep : ∀ state event, inv state → inv (step state event).1)
    (marks : ∀ state event, inv state → mark (step state event).2 (step state event).1)
    (stays : ∀ seen state event, inv state → mark seen state → mark seen (step state event).1)
    (refuses : ∀ seen state event, inv state → mark seen state → excludes seen (step state event).2)
    (start : inv state) (events : List E) : (trace step state events).Pairwise excludes := by
  induction events generalizing state with
  | nil => exact List.Pairwise.nil
  | cons event rest ih =>
    have next := keep state event start
    refine pairwise_cons.mpr ⟨?_, ih next⟩
    refine trace_forall (fun later => inv later ∧ mark (step state event).2 later)
      (fun later other holds => ⟨keep later other holds.1, stays _ later other holds.1 holds.2⟩)
      (fun later other holds => refuses _ later other holds.1 holds.2)
      ⟨next, marks state event start⟩ rest

/-- Two machines that stay related along the permitted events of the first, and
whose observations look alike, are seen to do the same. -/
lemma trace_simulated {S' E' O' L V : Type} {step' : S' → E' → S' × O'}
    (related : S → S' → Prop) (label : L → E) (label' : L → E') (view : O → V) (view' : O' → V)
    (simulates : ∀ state state' event, related state state' → permitted state (label event) →
      related (step state (label event)).1 (step' state' (label' event)).1 ∧
        view (step state (label event)).2 = view' (step' state' (label' event)).2)
    {state' : S'} (start : related state state') {events : List L}
    (along : Along step permitted state (events.map label)) :
    (trace step state (events.map label)).map view =
      (trace step' state' (events.map label')).map view' := by
  induction events generalizing state state' with
  | nil => rfl
  | cons event rest ih =>
    obtain ⟨permits, onward⟩ := along
    obtain ⟨next, same⟩ := simulates state state' event start permits
    simp only [map_cons, trace, same, ih next onward]

end Machine
