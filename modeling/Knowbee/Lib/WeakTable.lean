import Mathlib.Data.List.Nodup
import Mathlib.Data.List.Perm.Subperm

/-!
# Tables of weak references

A table names a slot for each key but does not keep the slot alive: a slot lives
while a reference to it is held.  A reference is noted with the key that it was
obtained for.  Where every held reference is still in the table, under its own
key, no two references for one key lead to different slots (`Sound.exclusive`),
and the keys that are held are not more than the entries (`Sound.keys_le`).
-/

abbrev WeakTable (K : Type) : Type := List (K × Nat)

namespace WeakTable

open List

variable {K : Type}

def strongCount (held : List (K × Nat)) (slot : Nat) : Nat := held.countP fun ref => ref.2 == slot

def retain (table : WeakTable K) (held : List (K × Nat)) : WeakTable K :=
  table.filter fun entry => 0 < strongCount held entry.2

def upgrade [DecidableEq K] (table : WeakTable K) (held : List (K × Nat)) (key : K) : Option Nat :=
  ((table.find? fun entry => entry.1 = key).map Prod.snd).filter fun slot =>
    0 < strongCount held slot

/-- Names a slot for a key, in place of what was named for it. -/
def insert [DecidableEq K] (table : WeakTable K) (key : K) (slot : Nat) : WeakTable K :=
  (key, slot) :: table.filter fun entry => entry.1 ≠ key

lemma strongCount_pos {held : List (K × Nat)} {slot : Nat} :
    0 < strongCount held slot ↔ ∃ key, (key, slot) ∈ held := by
  rw [strongCount, countP_pos_iff]
  constructor
  · rintro ⟨⟨key, other⟩, member, same⟩
    rw [beq_iff_eq] at same
    exact ⟨key, same ▸ member⟩
  · rintro ⟨key, member⟩
    exact ⟨(key, slot), member, beq_self_eq_true slot⟩

/-- Keys and slots are named once, and every held reference is named. -/
structure Sound (table : WeakTable K) (held : List (K × Nat)) : Prop where
  keys : (table.map Prod.fst).Nodup
  slots : (table.map Prod.snd).Nodup
  named : held ⊆ table

namespace Sound

variable {table : WeakTable K} {held held' : List (K × Nat)} {key : K} {slot : Nat}

lemma nil : Sound ([] : WeakTable K) [] := ⟨nodup_nil, nodup_nil, nil_subset _⟩

section

variable (sound : table.Sound held)
include sound

lemma mono (fewer : held' ⊆ held) : table.Sound held' :=
  ⟨sound.keys, sound.slots, List.Subset.trans fewer sound.named⟩

lemma retain : (table.retain held).Sound held := by
  refine ⟨sound.keys.sublist (filter_sublist.map _),
    sound.slots.sublist (filter_sublist.map _), fun ref member => ?_⟩
  refine mem_filter.mpr ⟨sound.named member, decide_eq_true ?_⟩
  exact strongCount_pos.mpr ⟨ref.1, member⟩

lemma slot_unique {slot' : Nat} (first : (key, slot) ∈ table)
    (second : (key, slot') ∈ table) : slot = slot' :=
  (Prod.mk.inj (inj_on_of_nodup_map sound.keys first second rfl)).2

lemma key_unique {key' : K} (first : (key, slot) ∈ table)
    (second : (key', slot) ∈ table) : key = key' :=
  (Prod.mk.inj (inj_on_of_nodup_map sound.slots first second rfl)).1

lemma exclusive {slot' : Nat} (first : (key, slot) ∈ held)
    (second : (key, slot') ∈ held) : slot = slot' :=
  sound.slot_unique (sound.named first) (sound.named second)

lemma keys_le {keys : List K} (distinct : keys.Nodup)
    (all : ∀ key ∈ keys, ∃ slot, (key, slot) ∈ held) : keys.length ≤ table.length := by
  have named : keys ⊆ table.map Prod.fst := fun key member => by
    obtain ⟨slot, ref⟩ := all key member
    exact mem_map.mpr ⟨(key, slot), sound.named ref, rfl⟩
  rw [← length_map Prod.fst]
  exact (subperm_of_subset distinct named).length_le

lemma retained_held (member : (key, slot) ∈ table.retain held) : (key, slot) ∈ held := by
  obtain ⟨named, alive⟩ := mem_filter.mp member
  obtain ⟨key', ref⟩ := strongCount_pos.mp (of_decide_eq_true alive)
  rwa [sound.key_unique named (sound.named ref)]

end

section Access

variable [DecidableEq K]

lemma upgrade_named (found : table.upgrade held key = some slot) : (key, slot) ∈ table := by
  obtain ⟨named, -⟩ := Option.filter_eq_some_iff.mp found
  obtain ⟨⟨other, slot'⟩, entry, same⟩ := Option.map_eq_some_iff.mp named
  have key' : other = key := by simpa using find?_some entry
  subst key' same
  exact mem_of_find?_eq_some entry

lemma found (sound : table.Sound held) (found : table.upgrade held key = some slot) :
    table.Sound ((key, slot) :: held) :=
  ⟨sound.keys, sound.slots, cons_subset.mpr ⟨upgrade_named found, sound.named⟩⟩

lemma unheld (sound : table.Sound held) (missing : table.upgrade held key = none) :
    (key, slot) ∉ held := by
  intro ref
  have named := sound.named ref
  unfold upgrade at missing
  cases entry : table.find? fun entry => entry.1 = key with
  | none =>
    have absent := find?_eq_none.mp entry (key, slot) named
    exact absent (decide_eq_true rfl)
  | some first =>
    have same : first.1 = key := by simpa using find?_some entry
    have slots : first.2 = slot := sound.slot_unique
      (same ▸ mem_of_find?_eq_some entry) named
    rw [entry, Option.map_some, slots, Option.filter_some,
      if_pos (decide_eq_true (strongCount_pos.mpr ⟨key, ref⟩))] at missing
    cases missing

lemma insert (sound : table.Sound held) (missing : table.upgrade held key = none)
    (new : slot ∉ table.map Prod.snd) : (table.insert key slot).Sound ((key, slot) :: held) := by
  refine ⟨?_, ?_, cons_subset.mpr ⟨mem_cons_self, fun ref member => ?_⟩⟩
  · refine nodup_cons.mpr ⟨fun member => ?_, sound.keys.sublist (filter_sublist.map _)⟩
    obtain ⟨entry, kept, same⟩ := mem_map.mp member
    exact of_decide_eq_true (mem_filter.mp kept).2 same
  · refine nodup_cons.mpr ⟨fun member => new ?_,
      sound.slots.sublist (filter_sublist.map _)⟩
    exact (filter_sublist.map _).subset member
  · refine mem_cons_of_mem _ (mem_filter.mpr ⟨sound.named member, decide_eq_true ?_⟩)
    rintro rfl
    exact sound.unheld missing member

/-- Room is refused only where as many other keys are held as there are entries. -/
lemma others_held (sound : table.Sound held)
    (missing : (table.retain held).upgrade held key = none) :
    ∃ keys : List K, keys.Nodup ∧ keys.length = (table.retain held).length ∧
      ∀ other ∈ keys, other ≠ key ∧ ∃ slot, (other, slot) ∈ held := by
  refine ⟨(table.retain held).map Prod.fst, sound.retain.keys, length_map _,
    fun other member => ?_⟩
  obtain ⟨⟨other', slot⟩, entry, rfl⟩ := mem_map.mp member
  have ref := sound.retained_held entry
  refine ⟨?_, slot, ref⟩
  rintro rfl
  exact sound.retain.unheld missing ref

end Access

end Sound

end WeakTable
