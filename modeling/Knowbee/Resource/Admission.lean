import Knowbee.Lib.WeakTable
import Knowbee.Rust

/-!
# Resource admission

`tokio_resource_admission.rs` and `blocking_resource_admission.rs`: a call to `acquire` obtains a
reference to the slot of its key in a locked section of the slot table, and a permit of that slot,
a semaphore of one permit or a flag, in later sections.
-/

namespace Knowbee

/-- A call to `acquire` and the permit it returned. -/
structure ResourceCall (K E : Type) where
  key : K
  /-- The slot that the call or its permit has a reference to. -/
  slot : Option Nat
  answer : Option (Except E Unit)
  /-- The permit is live. -/
  permit : Bool

/-- The slot table, the slots that were made and the calls.  `C` is what a slot
contains. -/
structure ResourceAdmission (K E C : Type) where
  maxSlots : Nat
  table : WeakTable K
  slots : List C
  calls : List (ResourceCall K E)

namespace ResourceAdmission

variable {K E C : Type}

def start (maxSlots : Nat) : ResourceAdmission K E C := ⟨maxSlots, [], [], []⟩

variable (admission : ResourceAdmission K E C)

/-- The references to slots, with the keys they were obtained for. -/
def held : List (K × Nat) :=
  admission.calls.filterMap fun call => call.slot.map fun slot => (call.key, slot)

/-- The locked section of the slot table, which both admissions have. -/
def slotFor [DecidableEq K] (admission : ResourceAdmission K E C) (fresh : C) (key : K) :
    Option Nat × ResourceAdmission K E C :=
  let table := admission.table.retain admission.held
  match table.upgrade admission.held key with
  | some slot => (some slot, { admission with table })
  | none =>
    if admission.maxSlots ≤ table.length then (none, { admission with table })
    else
      (some admission.slots.length, { admission with
        table := table.insert key admission.slots.length
        slots := admission.slots ++ [fresh] })

def enter [DecidableEq K] (admission : ResourceAdmission K E C) (fresh : C) (saturated : E)
    (key : K) : ResourceAdmission K E C × Option (Except E Unit) :=
  match admission.slotFor fresh key with
  | (none, admission) =>
    ({ admission with calls := admission.calls ++ [⟨key, none, some (.error saturated), false⟩] },
      some (.error saturated))
  | (some slot, admission) =>
    ({ admission with calls := admission.calls ++ [⟨key, some slot, none, false⟩] }, none)

def refuse (key : K) (error : E) : ResourceAdmission K E C × Option (Except E Unit) :=
  ({ admission with calls := admission.calls ++ [⟨key, none, some (.error error), false⟩] },
    some (.error error))

def fail (number : Nat) (call : ResourceCall K E) (error : E) :
    ResourceAdmission K E C × Option (Except E Unit) :=
  ({ admission with calls := admission.calls.set number { call with answer := some (.error error) } },
    some (.error error))

def take (number : Nat) (call : ResourceCall K E) (slot : Nat) (content : C) :
    ResourceAdmission K E C × Option (Except E Unit) :=
  ({ admission with
      slots := admission.slots.set slot content
      calls := admission.calls.set number { call with answer := some (.ok ()), permit := true } },
    some (.ok ()))

def giveBack (number : Nat) (call : ResourceCall K E) (slot : Nat) (content : C) :
    ResourceAdmission K E C × Option (Except E Unit) :=
  ({ admission with
      slots := admission.slots.set slot content
      calls := admission.calls.set number { call with permit := false } }, none)

def letGo (number : Nat) (call : ResourceCall K E) :
    ResourceAdmission K E C × Option (Except E Unit) :=
  ({ admission with calls := admission.calls.set number { call with slot := none } }, none)

end ResourceAdmission

inductive ResourceAdmissionError where
  | busy | cancelled | saturated | unavailable

/-- `TokioResourceAdmission`: a slot is a semaphore, of which the permits that are
available are kept. -/
abbrev TokioResourceAdmission (K : Type) : Type := ResourceAdmission K ResourceAdmissionError Nat

inductive TokioAdmissionAction (K : Type) where
  | acquire (key : K)
  /-- A poll of the `select!`: what the cancellation came to, whether the semaphore
  gives the call a permit that is available, and whether the timeout has elapsed. -/
  | poll (number : Nat) (cancellation : Option (Except Unit Unit)) (granted elapsed : Bool)
  | releasePermit (number : Nat)
  /-- The end of an answered call or of its permit, or of a call whose future is
  dropped while it waits. -/
  | dropReference (number : Nat)

namespace TokioResourceAdmission

variable {K : Type}

def poll (admission : TokioResourceAdmission K) (number : Nat)
    (call : ResourceCall K ResourceAdmissionError) (slot : Nat)
    (cancellation : Option (Except Unit Unit)) (granted elapsed : Bool) :
    TokioResourceAdmission K × Option (Except ResourceAdmissionError Unit) :=
  match cancellation with
  | some (.ok _) => admission.fail number call .cancelled
  | some (.error _) => admission.fail number call .unavailable
  | none =>
    match admission.slots[slot]? with
    | none => (admission, none)
    | some permits =>
      if granted && 0 < permits then admission.take number call slot (permits - 1)
      else if elapsed then admission.fail number call .busy
      else (admission, none)

/-- One action; the observation is the answer that it gives to a call. -/
def step [DecidableEq K] (admission : TokioResourceAdmission K) :
    TokioAdmissionAction K →
      TokioResourceAdmission K × Option (Except ResourceAdmissionError Unit)
  | .acquire key => admission.enter 1 .saturated key
  | .poll number cancellation granted elapsed =>
    match admission.calls[number]? with
    | some ⟨key, some slot, none, false⟩ =>
      poll admission number ⟨key, some slot, none, false⟩ slot cancellation granted elapsed
    | _ => (admission, none)
  | .releasePermit number =>
    match admission.calls[number]? with
    | some ⟨key, some slot, answer, true⟩ =>
      match admission.slots[slot]? with
      | some permits => admission.giveBack number ⟨key, some slot, answer, true⟩ slot (permits + 1)
      | none => (admission, none)
    | _ => (admission, none)
  | .dropReference number =>
    match admission.calls[number]? with
    | some ⟨key, slot, answer, false⟩ => admission.letGo number ⟨key, slot, answer, false⟩
    | _ => (admission, none)

end TokioResourceAdmission

inductive ExecutionResourceAdmissionError where
  | cancelled | deadlineExceeded | saturated | unavailable

def i64CheckedSub (left right : Int) : Option Int :=
  if -(2 ^ 63) ≤ left - right ∧ left - right < 2 ^ 63 then some (left - right) else none

/-- `BlockingExecutionResourceAdmission`: a slot is the flag `occupied`. -/
abbrev BlockingResourceAdmission (K : Type) : Type :=
  ResourceAdmission K ExecutionResourceAdmissionError Bool

inductive BlockingAdmissionAction (K : Type) where
  /-- The deadline of the operation, the clock, and whether the instant of the
  deadline can be represented. -/
  | acquire (key : K) (deadlineMs nowMs : Int) (representable : Bool)
  /-- A pass through the loop, from the locking of the slot to the wait. -/
  | turn (number : Nat) (isCancelled : Bool) (deadlineMs nowMs : Int) (instantPassed : Bool)
  /-- The body of `BlockingResourcePermit::drop`. -/
  | dropPermit (number : Nat)
  /-- The end of an answered call or of its permit. -/
  | dropReference (number : Nat)

namespace BlockingResourceAdmission

variable {K : Type}

def acquire [DecidableEq K] (admission : BlockingResourceAdmission K) (key : K)
    (deadlineMs nowMs : Int) (representable : Bool) :
    BlockingResourceAdmission K × Option (Except ExecutionResourceAdmissionError Unit) :=
  match (i64CheckedSub deadlineMs nowMs).filter (0 < ·) with
  | none => admission.refuse key .deadlineExceeded
  | some _ =>
    if !representable then admission.refuse key .unavailable
    else admission.enter false .saturated key

/-- One pass of a call that waits at a slot. -/
def turn (admission : BlockingResourceAdmission K) (number : Nat)
    (call : ResourceCall K ExecutionResourceAdmissionError) (slot : Nat) (isCancelled : Bool)
    (deadlineMs nowMs : Int) (instantPassed : Bool) :
    BlockingResourceAdmission K × Option (Except ExecutionResourceAdmissionError Unit) :=
  match admission.slots[slot]? with
  | none => (admission, none)
  | some occupied =>
    if isCancelled then admission.fail number call .cancelled
    else if deadlineMs ≤ nowMs || instantPassed then admission.fail number call .deadlineExceeded
    else if !occupied then admission.take number call slot true
    else (admission, none)

/-- One action; the observation is the answer that it gives to a call. -/
def step [DecidableEq K] (admission : BlockingResourceAdmission K) :
    BlockingAdmissionAction K →
      BlockingResourceAdmission K × Option (Except ExecutionResourceAdmissionError Unit)
  | .acquire key deadlineMs nowMs representable =>
    acquire admission key deadlineMs nowMs representable
  | .turn number isCancelled deadlineMs nowMs instantPassed =>
    match admission.calls[number]? with
    | some ⟨key, some slot, none, false⟩ =>
      turn admission number ⟨key, some slot, none, false⟩ slot isCancelled deadlineMs nowMs
        instantPassed
    | _ => (admission, none)
  | .dropPermit number =>
    match admission.calls[number]? with
    | some ⟨key, some slot, answer, true⟩ =>
      admission.giveBack number ⟨key, some slot, answer, true⟩ slot false
    | _ => (admission, none)
  | .dropReference number =>
    match admission.calls[number]? with
    | some ⟨key, slot, some answer, false⟩ => admission.letGo number ⟨key, slot, some answer, false⟩
    | _ => (admission, none)

end BlockingResourceAdmission

end Knowbee
