import Knowbee.Lib.Machine
import Knowbee.Resource.Admission

/-!
# What resource admission guarantees

Whatever the order of calls, answers, releases and dropped references, a
reference that is held is still in the table under its key, and the permit that
a slot is short of is the live permit of one call (`ResourceAdmission.Sound`).
Both admissions take steps of one kind (`ResourceAdmission.Change`), and keep
this, so permits exclude each other and only keys in use fill the table
(`resource_admission_exclusive`).
-/

namespace Knowbee

open List BlockingResourceAdmission Machine WeakTable

lemma index_unique_of_countP_le_one {α : Type} {p : α → Bool} {entries : List α} {i j : Nat}
    {first second : α} (single : entries.countP p ≤ 1) (here : entries[i]? = some first)
    (there : entries[j]? = some second) (counts : p first = true) (counts' : p second = true) :
    i = j := by
  induction entries generalizing i j with
  | nil => cases here
  | cons head rest ih =>
    have positive {k : Nat} {entry : α} (found : rest[k]? = some entry) (counts : p entry = true) :
        0 < rest.countP p :=
      countP_pos_iff.mpr ⟨entry, mem_of_getElem? found, counts⟩
    cases i with
    | zero =>
      cases j with
      | zero => rfl
      | succ j =>
        cases here
        have more := positive there counts'
        rw [countP_cons_of_pos counts] at single
        omega
    | succ i =>
      cases j with
      | zero =>
        cases there
        have more := positive here counts
        rw [countP_cons_of_pos counts'] at single
        omega
      | succ j =>
        have fewer : rest.countP p ≤ 1 := by
          rw [countP_cons] at single
          omega
        exact congrArg _ (ih fewer here there)

namespace ResourceAdmission

variable {K E C : Type} {admission : ResourceAdmission K E C}

/-! ## References and permits -/

def permitOf (slot : Nat) (call : ResourceCall K E) : Bool := call.permit && call.slot == some slot

def permits (admission : ResourceAdmission K E C) (slot : Nat) : Nat :=
  admission.calls.countP (permitOf slot)

lemma mem_held {key : K} {slot : Nat} :
    (key, slot) ∈ admission.held ↔
      ∃ call ∈ admission.calls, call.key = key ∧ call.slot = some slot := by
  rw [held, mem_filterMap]
  refine exists_congr fun call => and_congr_right fun _ => ?_
  rw [Option.map_eq_some_iff]
  constructor
  · rintro ⟨slot', reference, same⟩
    cases same
    exact ⟨rfl, reference⟩
  · rintro ⟨rfl, reference⟩
    exact ⟨slot, reference, rfl⟩

lemma held_set_subset {number : Nat} {call call' : ResourceCall K E}
    (found : admission.calls[number]? = some call) (key : call'.key = call.key)
    (slot : ∀ slot, call'.slot = some slot → call.slot = some slot) :
    ({ admission with calls := admission.calls.set number call' } : ResourceAdmission K E C).held ⊆
      admission.held := by
  rintro ⟨other, reference⟩ member
  obtain ⟨entry, present, rfl, holds⟩ := mem_held.mp member
  rcases mem_or_eq_of_mem_set present with old | rfl
  · exact mem_held.mpr ⟨entry, old, rfl, holds⟩
  · exact mem_held.mpr ⟨call, mem_of_getElem? found, key.symm, slot reference holds⟩

lemma countP_set_of_getElem? {α : Type} {p : α → Bool} {entries : List α} {number : Nat}
    {old : α} (found : entries[number]? = some old) (new : α) :
    (entries.set number new).countP p + (if p old then 1 else 0) =
      entries.countP p + if p new then 1 else 0 := by
  obtain ⟨bound, rfl⟩ := List.getElem?_eq_some_iff.mp found
  rw [countP_set bound]
  have present : (if p entries[number] then 1 else 0) ≤ entries.countP p := by
    split_ifs with counts
    · exact countP_pos_iff.mpr ⟨_, getElem_mem bound, counts⟩
    · exact Nat.zero_le _
  omega

/-! ## Steps -/

/-- What a step can do to an admission whose slots have `available` permits, when a
call asks for the key `acquired`. -/
inductive Change [DecidableEq K] (available : C → Nat) (saturated : E) (acquired : Option K)
    (admission : ResourceAdmission K E C) :
    ResourceAdmission K E C × Option (Except E Unit) → Prop where
  | stays : Change available saturated acquired admission (admission, none)
  | refuse (key : K) (error : E) : error ≠ saturated →
      Change available saturated acquired admission (admission.refuse key error)
  | enter (fresh : C) (key : K) : available fresh = 1 → acquired = some key →
      Change available saturated acquired admission (admission.enter fresh saturated key)
  | fail (number : Nat) (call : ResourceCall K E) (error : E) :
      admission.calls[number]? = some call → call.answer = none → call.permit = false →
      error ≠ saturated →
      Change available saturated acquired admission (admission.fail number call error)
  | take (number : Nat) (call : ResourceCall K E) (slot : Nat) (content content' : C) :
      admission.calls[number]? = some call → call.slot = some slot → call.answer = none →
      call.permit = false → admission.slots[slot]? = some content →
      available content = available content' + 1 →
      Change available saturated acquired admission (admission.take number call slot content')
  | giveBack (number : Nat) (call : ResourceCall K E) (slot : Nat) (content' : C) :
      admission.calls[number]? = some call → call.slot = some slot → call.permit = true →
      (∀ content, admission.slots[slot]? = some content → available content = 0 →
        available content' = 1) →
      Change available saturated acquired admission (admission.giveBack number call slot content')
  | letGo (number : Nat) (call : ResourceCall K E) : admission.calls[number]? = some call →
      call.permit = false →
      Change available saturated acquired admission (admission.letGo number call)

/-- Every held reference is in the table, and every permit that a slot is short of
is live. -/
structure Sound (available : C → Nat) (maxSlots : Nat) (admission : ResourceAdmission K E C) :
    Prop where
  limit : admission.maxSlots = maxSlots
  table : admission.table.Sound admission.held
  bounded : admission.table.length ≤ maxSlots
  made : ∀ entry ∈ admission.table, entry.2 < admission.slots.length
  accounted : ∀ slot content, admission.slots[slot]? = some content →
    available content + admission.permits slot = 1
  answered : ∀ call ∈ admission.calls, call.permit = true →
    call.answer = some (.ok ()) ∧ call.slot.isSome

/-! ## Entering -/

/-- What the locked section of the table comes to for a call. -/
inductive Entered [DecidableEq K] (admission : ResourceAdmission K E C) (fresh : C)
    (saturated : E) (key : K) : ResourceAdmission K E C × Option (Except E Unit) → Prop where
  | found (slot : Nat) :
      upgrade (admission.table.retain admission.held) admission.held key = some slot →
      Entered admission fresh saturated key
        ({ admission with
            table := admission.table.retain admission.held
            calls := admission.calls ++ [⟨key, some slot, none, false⟩] }, none)
  | made :
      upgrade (admission.table.retain admission.held) admission.held key = none →
      (admission.table.retain admission.held).length < admission.maxSlots →
      Entered admission fresh saturated key
        ({ admission with
            table := insert (admission.table.retain admission.held) key
              admission.slots.length
            slots := admission.slots ++ [fresh]
            calls := admission.calls ++ [⟨key, some admission.slots.length, none, false⟩] }, none)
  | saturated :
      upgrade (admission.table.retain admission.held) admission.held key = none →
      admission.maxSlots ≤ (admission.table.retain admission.held).length →
      Entered admission fresh saturated key
        ({ admission with
            table := admission.table.retain admission.held
            calls := admission.calls ++ [⟨key, none, some (.error saturated), false⟩] },
          some (.error saturated))

lemma enter_cases [DecidableEq K] (admission : ResourceAdmission K E C) (fresh : C)
    (saturated : E) (key : K) :
    Entered admission fresh saturated key (admission.enter fresh saturated key) := by
  unfold enter slotFor
  dsimp only
  cases upgraded : upgrade (admission.table.retain admission.held) admission.held key with
  | some slot => exact .found slot upgraded
  | none =>
    dsimp only
    by_cases full : admission.maxSlots ≤ (admission.table.retain admission.held).length
    · rw [if_pos full]
      exact .saturated upgraded full
    · rw [if_neg full]
      exact .made upgraded (not_le.mp full)

lemma held_append (table : WeakTable K) (slots : List C) (call : ResourceCall K E) :
    (⟨admission.maxSlots, table, slots, admission.calls ++ [call]⟩ :
        ResourceAdmission K E C).held =
      admission.held ++ (call.slot.map fun slot => (call.key, slot)).toList := by
  rw [held, filterMap_append, filterMap_cons, filterMap_nil]
  cases call.slot <;> rfl

lemma permits_append (table : WeakTable K) (slots : List C) {call : ResourceCall K E}
    (none : call.permit = false) (slot : Nat) :
    (⟨admission.maxSlots, table, slots, admission.calls ++ [call]⟩ :
        ResourceAdmission K E C).permits slot = admission.permits slot := by
  have skipped : permitOf slot call = false := by rw [permitOf, none, Bool.false_and]
  rw [permits, countP_append, countP_singleton, skipped, if_neg Bool.false_ne_true]
  rfl

namespace Sound

variable {available : C → Nat} {maxSlots : Nat}

lemma start : Sound available maxSlots (ResourceAdmission.start maxSlots :
    ResourceAdmission K E C) where
  limit := rfl
  table := .nil
  bounded := Nat.zero_le _
  made _ member := nomatch member
  accounted _ _ found := absurd found (by simp [ResourceAdmission.start])
  answered _ member := nomatch member

lemma retain_length_le (sound : Sound available maxSlots admission) :
    (admission.table.retain admission.held).length ≤ maxSlots :=
  (length_filter_le _ _).trans sound.bounded

variable {call : ResourceCall K E} {slot number : Nat} {content content' : C}

section

variable (sound : Sound available maxSlots admission)
include sound

lemma slot_lt (member : call ∈ admission.calls)
    (reference : call.slot = some slot) : slot < admission.slots.length :=
  sound.made (call.key, slot)
    (sound.table.named (mem_held.mpr ⟨call, member, rfl, reference⟩))

lemma permits_new : admission.permits admission.slots.length = 0 := by
  rw [permits, countP_eq_zero]
  intro call member counts
  rw [permitOf, Bool.and_eq_true, beq_iff_eq] at counts
  exact absurd (sound.slot_lt member counts.2) (lt_irrefl _)

lemma answered_append (none : call.permit = false) :
    ∀ other ∈ admission.calls ++ [call], other.permit = true →
      other.answer = some (.ok ()) ∧ other.slot.isSome := by
  intro other member live
  rcases mem_append.mp member with old | new
  · exact sound.answered other old live
  · rw [mem_singleton.mp new, none] at live
    cases live

lemma refuse (key : K) (error : E) :
    Sound available maxSlots (admission.refuse key error).1 where
  limit := sound.limit
  table := by
    rw [ResourceAdmission.refuse, held_append]
    exact sound.table.mono (by simp)
  bounded := sound.bounded
  made := sound.made
  accounted slot content found := by
    rw [ResourceAdmission.refuse, permits_append _ _ rfl]
    exact sound.accounted slot content found
  answered := sound.answered_append rfl

lemma enter [DecidableEq K] {fresh : C} (one : available fresh = 1) (saturated : E) (key : K) :
    Sound available maxSlots (admission.enter fresh saturated key).1 := by
  have entered := enter_cases admission fresh saturated key
  generalize admission.enter fresh saturated key = result at entered
  have kept : ∀ entry ∈ admission.table.retain admission.held, entry.2 < admission.slots.length :=
    fun entry member => sound.made entry (mem_of_mem_filter member)
  cases entered with
  | found slot upgraded =>
    refine ⟨sound.limit, ?_, sound.retain_length_le, kept, fun other content found => ?_,
      sound.answered_append rfl⟩
    · rw [held_append]
      refine (sound.table.retain.found upgraded).mono fun ref member => ?_
      rcases mem_append.mp member with old | new
      · exact mem_cons_of_mem _ old
      · exact mem_cons.mpr (.inl (mem_singleton.mp new))
    · rw [permits_append _ _ rfl]
      exact sound.accounted other content found
  | made upgraded room =>
    have new : admission.slots.length ∉
        (admission.table.retain admission.held).map Prod.snd := by
      intro member
      obtain ⟨entry, present, same⟩ := mem_map.mp member
      exact absurd (same ▸ kept entry present) (lt_irrefl _)
    refine ⟨sound.limit, ?_, ?_, fun entry member => ?_, fun other content found => ?_,
      sound.answered_append rfl⟩
    · rw [held_append]
      refine (sound.table.retain.insert upgraded new).mono fun ref member => ?_
      rcases mem_append.mp member with old | new
      · exact mem_cons_of_mem _ old
      · exact mem_cons.mpr (.inl (mem_singleton.mp new))
    · have fewer := length_filter_le (fun entry => decide (entry.1 ≠ key))
        (admission.table.retain admission.held)
      have limit := sound.limit
      rw [WeakTable.insert, length_cons]
      omega
    · rw [length_append, length_singleton]
      rcases mem_cons.mp member with rfl | old
      · exact Nat.lt_succ_self _
      · exact Nat.lt_succ_of_lt (kept entry (mem_of_mem_filter old))
    · rw [permits_append _ _ rfl]
      rcases lt_trichotomy other admission.slots.length with old | rfl | beyond
      · rw [getElem?_append_left old] at found
        exact sound.accounted other content found
      · rw [getElem?_concat_length] at found
        cases found
        rw [sound.permits_new, one]
      · rw [getElem?_eq_none (by simp; omega)] at found
        cases found
  | saturated upgraded full =>
    refine ⟨sound.limit, ?_, sound.retain_length_le, kept, fun other content found => ?_,
      sound.answered_append rfl⟩
    · rw [held_append]
      exact sound.table.retain.mono (by simp)
    · rw [permits_append _ _ rfl]
      exact sound.accounted other content found

lemma set (call' : ResourceCall K E)
    (found : admission.calls[number]? = some call) (key : call'.key = call.key)
    (slot : ∀ slot, call'.slot = some slot → call.slot = some slot)
    (answered : call'.permit = true → call'.answer = some (.ok ()) ∧ call'.slot.isSome)
    {slots : List C} (same : slots.length = admission.slots.length)
    (accounted : ∀ slot content, slots[slot]? = some content →
      available content + (admission.calls.set number call').countP (permitOf slot) = 1) :
    Sound available maxSlots
      { admission with slots, calls := admission.calls.set number call' } where
  limit := sound.limit
  table := sound.table.mono (held_set_subset found key slot)
  bounded := sound.bounded
  made entry member := by
    dsimp only
    rw [same]
    exact sound.made entry member
  accounted := accounted
  answered other member live := by
    rcases mem_or_eq_of_mem_set member with old | rfl
    · exact sound.answered other old live
    · exact answered live

lemma accounted_set (call' : ResourceCall K E)
    (found : admission.calls[number]? = some call) (none : call.permit = false)
    (none' : call'.permit = false) (slot : Nat) (content : C)
    (present : admission.slots[slot]? = some content) :
    available content + (admission.calls.set number call').countP (permitOf slot) = 1 := by
  have counts := @countP_set_of_getElem? _ (permitOf slot) _ _ _ found call'
  rw [permitOf, none, permitOf, none', Bool.false_and, Bool.false_and] at counts
  have before := sound.accounted slot content present
  rw [permits] at before
  simp only [Bool.false_eq_true, if_false, Nat.add_zero] at counts
  omega

lemma fail
    (found : admission.calls[number]? = some call) (none : call.permit = false) (error : E) :
    Sound available maxSlots (admission.fail number call error).1 := by
  refine sound.set { call with answer := some (.error error) } found rfl (fun _ holds => holds)
    (fun live => ?_) rfl
    (sound.accounted_set { call with answer := some (.error error) } found none none)
  rw [none] at live
  cases live

lemma letGo (found : admission.calls[number]? = some call) (none : call.permit = false) :
    Sound available maxSlots (admission.letGo number call).1 := by
  refine sound.set { call with slot := Option.none } found rfl nofun (fun live => ?_) rfl
    (sound.accounted_set { call with slot := Option.none } found none none)
  rw [none] at live
  cases live

section

variable (found : admission.calls[number]? = some call) (reference : call.slot = some slot)

include found reference

lemma accounted_swap {call' : ResourceCall K E} (reference' : call'.slot = some slot)
    (present : admission.slots[slot]? = some content)
    (balanced : available content' + (if call'.permit then 1 else 0) = available content + if
      call.permit then 1 else 0)
    (other : Nat) (inside : C) (here : (admission.slots.set slot content')[other]? = some inside) :
    available inside + (admission.calls.set number call').countP (permitOf other) = 1 := by
  have counts := @countP_set_of_getElem? _ (permitOf other) _ _ _ found call'
  by_cases same : slot = other
  · subst same
    obtain ⟨bound, -⟩ := List.getElem?_eq_some_iff.mp present
    rw [getElem?_set_self bound] at here
    cases here
    rw [permitOf, permitOf, reference, reference', beq_self_eq_true, Bool.and_true,
      Bool.and_true] at counts
    have before := sound.accounted slot content present
    rw [permits] at before
    omega
  · rw [getElem?_set_ne same] at here
    have different : (some slot == some other) = false := by simpa using same
    rw [permitOf, permitOf, reference, reference', different, Bool.and_false,
      Bool.and_false] at counts
    simp only [Bool.false_eq_true, if_false, Nat.add_zero] at counts
    rw [counts]
    exact sound.accounted other inside here

lemma take (none : call.permit = false) (present : admission.slots[slot]? = some content)
    (taken : available content = available content' + 1) :
    Sound available maxSlots (admission.take number call slot content').1 := by
  refine sound.set { call with answer := some (.ok ()), permit := true } found rfl
    (fun _ holds => holds) (fun _ => ⟨rfl, ?_⟩) length_set ?_
  · dsimp only
    rw [reference]
    rfl
  · refine sound.accounted_swap found reference reference present ?_
    rw [none, if_pos rfl, if_neg Bool.false_ne_true, taken, Nat.add_zero]

lemma available_zero (live : call.permit = true)
    (present : admission.slots[slot]? = some content) : available content = 0 := by
  have counts : permitOf slot call = true := by
    rw [permitOf, live, reference, beq_self_eq_true, Bool.true_and]
  have positive : 0 < admission.permits slot :=
    countP_pos_iff.mpr ⟨call, mem_of_getElem? found, counts⟩
  have balance := sound.accounted slot content present
  omega

lemma giveBack (live : call.permit = true)
    (given : ∀ content, admission.slots[slot]? = some content → available content = 0 → available
      content' = 1) :
    Sound available maxSlots (admission.giveBack number call slot content').1 := by
  have bound := sound.slot_lt (mem_of_getElem? found) reference
  have present := getElem?_eq_getElem bound
  have zero := sound.available_zero found reference live present
  refine sound.set { call with permit := false } found rfl (fun _ holds => holds) nofun
    length_set ?_
  refine sound.accounted_swap found reference reference present ?_
  rw [live, given _ present zero, zero]
  rfl

end

lemma change [DecidableEq K] {saturated : E} {acquired : Option K}
    {result : ResourceAdmission K E C × Option (Except E Unit)}
    (change : Change available saturated acquired admission result) :
    Sound available maxSlots result.1 := by
  cases change with
  | stays => exact sound
  | refuse key error => exact sound.refuse key error
  | enter fresh key one => exact sound.enter one saturated key
  | fail number call error found _ none => exact sound.fail found none error
  | take number call slot content content' found reference _ none present taken =>
    exact sound.take found reference none present taken
  | giveBack number call slot content' found reference live given =>
    exact sound.giveBack found reference live given
  | letGo number call found none => exact sound.letGo found none

end

end Sound

/-! ## What holds of every admission that is sound -/

def Exclusive (admission : ResourceAdmission K E C) : Prop :=
  ∀ (i j : Nat) (call call' : ResourceCall K E), admission.calls[i]? = some call →
    admission.calls[j]? = some call' → call.permit = true → call'.permit = true →
    call.key = call'.key → i = j

/-- A call for the key waits, has a permit, or has not let go of its reference. -/
def InUse (admission : ResourceAdmission K E C) (key : K) : Prop :=
  ∃ call ∈ admission.calls, call.key = key ∧ call.slot.isSome

/-- No more keys are in use than there may be slots. -/
def Bounded (maxSlots : Nat) (admission : ResourceAdmission K E C) : Prop :=
  ∀ keys : List K, keys.Nodup → (∀ key ∈ keys, admission.InUse key) → keys.length ≤ maxSlots

/-- Only a call that was answered with a permit has one, and every permit that a
slot is short of is live. -/
def Answered (available : C → Nat) (admission : ResourceAdmission K E C) : Prop :=
  (∀ call ∈ admission.calls, call.permit = true → call.answer = some (.ok ())) ∧
    ∀ slot content, admission.slots[slot]? = some content →
      available content + admission.permits slot = 1

/-- All slots are for keys in use but the given one. -/
def Full (maxSlots : Nat) (admission : ResourceAdmission K E C) (key : K) : Prop :=
  ∃ keys : List K, keys.Nodup ∧ keys.length = maxSlots ∧
    ∀ other ∈ keys, other ≠ key ∧ admission.InUse other

lemma inUse_iff {key : K} : admission.InUse key ↔ ∃ slot, (key, slot) ∈ admission.held := by
  constructor
  · rintro ⟨call, member, same, references⟩
    obtain ⟨slot, reference⟩ := Option.isSome_iff_exists.mp references
    exact ⟨slot, mem_held.mpr ⟨call, member, same, reference⟩⟩
  · rintro ⟨slot, ref⟩
    obtain ⟨call, member, same, reference⟩ := mem_held.mp ref
    exact ⟨call, member, same, Option.isSome_iff_exists.mpr ⟨slot, reference⟩⟩

namespace Sound

variable {available : C → Nat} {maxSlots : Nat}

section

variable (sound : Sound available maxSlots admission)
include sound

lemma exclusive : admission.Exclusive := by
  intro i j call call' here there live live' same
  have member := mem_of_getElem? here
  have member' := mem_of_getElem? there
  obtain ⟨slot, reference⟩ := Option.isSome_iff_exists.mp (sound.answered call member live).2
  obtain ⟨slot', reference'⟩ := Option.isSome_iff_exists.mp (sound.answered call' member' live').2
  -- References for one key are to one slot, which has one permit.
  have slots : slot = slot' := sound.table.exclusive
    (mem_held.mpr ⟨call, member, rfl, reference⟩)
    (mem_held.mpr ⟨call', member', same.symm, reference'⟩)
  subst slots
  have bound := sound.slot_lt member reference
  have balance := sound.accounted slot _ (getElem?_eq_getElem bound)
  have single : admission.calls.countP (permitOf slot) ≤ 1 := by
    rw [permits] at balance
    omega
  refine index_unique_of_countP_le_one single here there ?_ ?_
  · rw [permitOf, live, reference, beq_self_eq_true, Bool.true_and]
  · rw [permitOf, live', reference', beq_self_eq_true, Bool.true_and]

lemma inUse_bounded : admission.Bounded maxSlots := by
  intro keys distinct used
  exact (sound.table.keys_le distinct fun key member => inUse_iff.mp (used key member)).trans
    sound.bounded

lemma permits_answered : admission.Answered available :=
  ⟨fun call member live => (sound.answered call member live).1, sound.accounted⟩

lemma enter_full [DecidableEq K] {fresh : C} {saturated : E} {key : K} {error : E}
    (answered : (admission.enter fresh saturated key).2 = some (.error error)) :
    admission.Full maxSlots key := by
  have entered := enter_cases admission fresh saturated key
  generalize admission.enter fresh saturated key = result at entered answered
  cases entered with
  | found slot upgraded => cases answered
  | made upgraded room => cases answered
  | saturated upgraded full =>
    obtain ⟨keys, distinct, count, others⟩ := sound.table.others_held upgraded
    have most := sound.retain_length_le
    have limit := sound.limit
    refine ⟨keys, distinct, by omega, fun other member => ?_⟩
    exact ⟨(others other member).1, inUse_iff.mpr (others other member).2⟩

end

end Sound

end ResourceAdmission

/-! ## Answers -/

namespace ResourceAdmission

variable {K E C : Type} {admission : ResourceAdmission K E C}

def HasAnswer (admission : ResourceAdmission K E C) (number : Nat) (answer : Except E Unit) : Prop :=
  ∃ call, admission.calls[number]? = some call ∧ call.answer = some answer

variable {answer : Except E Unit} {number : Nat}

lemma HasAnswer.append (has : admission.HasAnswer number answer) (call : ResourceCall K E) :
    ∃ same, (admission.calls ++ [call])[number]? = some same ∧ same.answer = some answer := by
  obtain ⟨found, here, answered⟩ := has
  refine ⟨found, ?_, answered⟩
  rw [getElem?_append_left (List.getElem?_eq_some_iff.mp here).1]
  exact here

lemma HasAnswer.set {other : Nat} (has : admission.HasAnswer number answer)
    {call call' : ResourceCall K E} (found : admission.calls[other]? = some call)
    (keeps : ∀ answer, call.answer = some answer → call'.answer = some answer) :
    ∃ same, (admission.calls.set other call')[number]? = some same ∧
      same.answer = some answer := by
  obtain ⟨old, here, answered⟩ := has
  by_cases same : other = number
  · subst same
    rw [found] at here
    cases here
    refine ⟨call', ?_, keeps answer answered⟩
    rw [getElem?_set_self (List.getElem?_eq_some_iff.mp found).1]
  · refine ⟨old, ?_, answered⟩
    rw [getElem?_set_ne same]
    exact here

lemma HasAnswer.change [DecidableEq K] {available : C → Nat} {saturated : E}
    {acquired : Option K} (has : admission.HasAnswer number answer)
    {result : ResourceAdmission K E C × Option (Except E Unit)}
    (change : Change available saturated acquired admission result) :
    result.1.HasAnswer number answer := by
  have unanswered {call : ResourceCall K E} {new : Option (Except E Unit)}
      (none : call.answer = none) (answer : Except E Unit) (given : call.answer = some answer) :
      new = some answer := by
    rw [none] at given
    cases given
  cases change with
  | stays => exact has
  | refuse key error => exact has.append _
  | enter fresh key =>
    have entered := enter_cases admission fresh saturated key
    generalize admission.enter fresh saturated key = result at entered
    cases entered with
    | found => exact has.append _
    | made => exact has.append _
    | saturated => exact has.append _
  | fail _ call error found none => exact has.set found (unanswered none)
  | take _ call slot content content' found _ none => exact has.set found (unanswered none)
  | giveBack _ call slot content' found => exact has.set found fun _ given => given
  | letGo _ call found => exact has.set found fun _ given => given

lemma Change.saturated [DecidableEq K] {available : C → Nat} {saturated : E}
    {acquired : Option K} {result : ResourceAdmission K E C × Option (Except E Unit)}
    (change : Change available saturated acquired admission result)
    (told : result.2 = some (.error saturated)) :
    ∃ key fresh, acquired = some key ∧ result = admission.enter fresh saturated key := by
  cases change with
  | enter fresh key _ acquired => exact ⟨key, fresh, acquired, rfl⟩
  | refuse key error other => exact absurd (Except.error.inj (Option.some.inj told)) other
  | fail _ call error _ _ _ other => exact absurd (Except.error.inj (Option.some.inj told)) other
  | _ => cases told

/-! ## What admission is for -/

/-- What holds of an admission at any time: permits exclude each other, the keys
in use are bounded, only a call that was answered with a permit has one, a call is
told `saturated` only where all slots are for other keys in use, and no answer is
taken back. -/
structure Guarded {A : Type}
    (step : ResourceAdmission K E C → A → ResourceAdmission K E C × Option (Except E Unit))
    (acquires : A → Option K) (saturated : E) (available : C → Nat) (maxSlots : Nat)
    (admission : ResourceAdmission K E C) : Prop where
  exclusive : admission.Exclusive
  bounded : admission.Bounded maxSlots
  answered : admission.Answered available
  full : ∀ action, (step admission action).2 = some (.error saturated) →
    ∃ key, acquires action = some key ∧ admission.Full maxSlots key
  final : ∀ number answer actions, admission.HasAnswer number answer →
    (run step admission actions).HasAnswer number answer

/-- An admission whose steps are changes is guarded in every run. -/
lemma guarded_of_changes [DecidableEq K] {A : Type}
    {step : ResourceAdmission K E C → A → ResourceAdmission K E C × Option (Except E Unit)}
    {acquires : A → Option K} {saturated : E} {available : C → Nat}
    (changes : ∀ admission action,
      Change available saturated (acquires action) admission (step admission action))
    (maxSlots : Nat) (actions : List A) :
    Guarded step acquires saturated available maxSlots
      (run step (.start maxSlots) actions) := by
  have sound : Sound available maxSlots (run step (.start maxSlots) actions) :=
    run_invariant (fun admission action sound => sound.change (changes admission action))
      Sound.start actions
  refine ⟨sound.exclusive, sound.inUse_bounded, sound.permits_answered, fun action told => ?_,
    fun number answer later has => ?_⟩
  · obtain ⟨key, fresh, acquired, same⟩ := (changes _ action).saturated told
    rw [same] at told
    exact ⟨key, acquired, sound.enter_full told⟩
  · have kept : ∀ admission action,
        admission.HasAnswer number answer → (step admission action).1.HasAnswer number answer :=
      fun admission action has => has.change (changes admission action)
    exact run_invariant kept has later

end ResourceAdmission

/-! ## Both admissions -/

variable {K : Type} [DecidableEq K]

/-- The permits that a flag stands for. -/
def flagAvailable (occupied : Bool) : Nat := if occupied then 0 else 1

namespace TokioResourceAdmission

open ResourceAdmission

def acquires : TokioAdmissionAction K → Option K
  | .acquire key => some key
  | _ => none

lemma step_change (admission : TokioResourceAdmission K) (action : TokioAdmissionAction K) :
    Change id .saturated (acquires action) admission (step admission action) := by
  cases action with
  | acquire key => exact .enter 1 key rfl rfl
  | poll number cancellation granted elapsed =>
    unfold step
    dsimp only
    split
    · next key slot found =>
      unfold poll
      split
      · exact .fail number _ _ found rfl rfl nofun
      · exact .fail number _ _ found rfl rfl nofun
      · split
        · exact .stays
        · next permits present =>
          split_ifs with given late
          · rw [Bool.and_eq_true, decide_eq_true_eq] at given
            exact .take number _ slot permits _ found rfl rfl rfl present
              (Nat.sub_add_cancel given.2).symm
          · exact .fail number _ _ found rfl rfl nofun
          · exact .stays
    · exact .stays
  | releasePermit number =>
    unfold step
    dsimp only
    split
    · next key slot answer found =>
      split
      · next permits present =>
        refine .giveBack number _ slot _ found rfl rfl fun content inside zero => ?_
        rw [present] at inside
        cases inside
        exact congrArg (· + 1) zero
      · exact .stays
    · exact .stays
  | dropReference number =>
    unfold step
    dsimp only
    split
    · next key slot answer found => exact .letGo number _ found rfl
    · exact .stays

end TokioResourceAdmission

namespace BlockingResourceAdmission

open ResourceAdmission

def acquires : BlockingAdmissionAction K → Option K
  | .acquire key _ _ _ => some key
  | _ => none

lemma step_change (admission : BlockingResourceAdmission K) (action : BlockingAdmissionAction K) :
    Change flagAvailable .saturated (acquires action) admission (step admission action) := by
  cases action with
  | acquire key deadlineMs nowMs representable =>
    unfold step acquire
    dsimp only
    split
    · exact .refuse key _ nofun
    · split_ifs
      · exact .refuse key _ nofun
      · exact .enter false key rfl rfl
  | turn number isCancelled deadlineMs nowMs instantPassed =>
    unfold step
    dsimp only
    split
    · next key slot found =>
      unfold turn
      split
      · exact .stays
      · next occupied present =>
        split_ifs with stopped late free
        · exact .fail number _ _ found rfl rfl nofun
        · exact .fail number _ _ found rfl rfl nofun
        · rw [Bool.not_eq_true'] at free
          refine .take number _ slot occupied _ found rfl rfl rfl present ?_
          rw [free]
          rfl
        · exact .stays
    · exact .stays
  | dropPermit number =>
    unfold step
    dsimp only
    split
    · next key slot answer found => exact .giveBack number _ slot _ found rfl rfl fun _ _ _ => rfl
    · exact .stays
  | dropReference number =>
    unfold step
    dsimp only
    split
    · next key slot answer found => exact .letGo number _ found rfl
    · exact .stays

end BlockingResourceAdmission

/-- In every run of either admission, whatever the order of calls, answers,
releases and dropped references, permits for one key exclude each other, no more
than `maxSlots` keys are in use, and `saturated` is told only where they are. -/
theorem resource_admission_exclusive (maxSlots : Nat) :
    (∀ actions, ResourceAdmission.Guarded (TokioResourceAdmission.step (K := K))
      TokioResourceAdmission.acquires .saturated id maxSlots
      (Machine.run TokioResourceAdmission.step (.start maxSlots) actions)) ∧
    ∀ actions, ResourceAdmission.Guarded (step (K := K))
      acquires .saturated flagAvailable maxSlots
      (Machine.run step (.start maxSlots) actions) :=
  ⟨ResourceAdmission.guarded_of_changes TokioResourceAdmission.step_change maxSlots,
    ResourceAdmission.guarded_of_changes step_change maxSlots⟩

end Knowbee
