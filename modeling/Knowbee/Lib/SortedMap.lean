import Mathlib.Data.List.Basic
import Mathlib.Data.Prod.Lex
import Mathlib.Algebra.GroupWithZero.Nat

/-!
# Ordered maps

A map as the list of its bindings in strictly increasing key order, which is
how an ordered tree map iterates.  The order is a field of the structure, so
two maps that answer every lookup alike are equal (`SortedMap.ext_get?`), and
a map rebuilt from its own values under their keys is the map it came from
(`SortedMap.ofValues_values`).
-/

/-- A finite map from `K` to `V`, listed in increasing key order. -/
structure SortedMap (K V : Type) [LinearOrder K] where
  entries : List (K × V)
  sorted : entries.Pairwise (fun a b => a.1 < b.1)

namespace SortedMap

open List

variable {K V : Type} [LinearOrder K]

instance [DecidableEq V] : DecidableEq (SortedMap K V) := fun a b =>
  decidable_of_iff (a.entries = b.entries) ⟨fun h => by cases a; cases b; cases h; rfl, fun h => h ▸ rfl⟩

def lookupEntry (key : K) : List (K × V) → Option V
  | [] => none
  | (k, v) :: rest => if k = key then some v else lookupEntry key rest

/-- Insertion at the place the order assigns, replacing an equal key. -/
def insertEntry (key : K) (value : V) : List (K × V) → List (K × V)
  | [] => [(key, value)]
  | (k, v) :: rest =>
    if key < k then (key, value) :: (k, v) :: rest
    else if key = k then (key, value) :: rest
    else (k, v) :: insertEntry key value rest

attribute [local simp] lookupEntry insertEntry

variable {entries : List (K × V)} {key : K} {value : V} {keyOf : V → K}

lemma mem_insertEntry {entry : K × V} (member : entry ∈ insertEntry key value entries) :
    entry = (key, value) ∨ entry ∈ entries := by
  induction entries with
  | nil => simpa using member
  | cons head rest ih =>
    simp only [insertEntry] at member
    split_ifs at member <;> grind

lemma insertEntry_sorted (sorted : entries.Pairwise (fun a b => a.1 < b.1)) :
    (insertEntry key value entries).Pairwise (fun a b => a.1 < b.1) := by
  induction entries with
  | nil => simp
  | cons head rest ih =>
    obtain ⟨above, tail⟩ := pairwise_cons.mp sorted
    simp only [insertEntry]
    split_ifs with before same
    · refine pairwise_cons.mpr ⟨fun entry member => ?_, sorted⟩
      rcases mem_cons.mp member with rfl | later
      · exact before
      · exact before.trans (above entry later)
    · subst same
      exact pairwise_cons.mpr ⟨above, tail⟩
    · refine pairwise_cons.mpr ⟨fun entry member => ?_, ih tail⟩
      rcases mem_insertEntry member with rfl | later
      · exact lt_of_le_of_ne (not_lt.mp before) (Ne.symm same)
      · exact above entry later

lemma lookupEntry_insertEntry (key other : K) (value : V) (entries : List (K × V)) :
    lookupEntry other (insertEntry key value entries) =
      if other = key then some value else lookupEntry other entries := by
  induction entries with
  | nil => simp [eq_comm]
  | cons head rest ih =>
    obtain ⟨k, v⟩ := head
    simp only [insertEntry]
    split_ifs with before same <;> simp only [lookupEntry] <;> grind

lemma lookupEntry_eq_none (absent : ∀ entry ∈ entries, entry.1 ≠ key) :
    lookupEntry key entries = none := by
  induction entries with
  | nil => rfl
  | cons head rest ih =>
    simp only [lookupEntry, if_neg (absent head mem_cons_self)]
    exact ih fun entry member => absent entry (mem_cons_of_mem _ member)

lemma mem_iff_lookupEntry (sorted : entries.Pairwise (fun a b => a.1 < b.1)) :
    (key, value) ∈ entries ↔ lookupEntry key entries = some value := by
  induction entries with
  | nil => simp
  | cons head rest ih =>
    obtain ⟨k, v⟩ := head
    obtain ⟨above, tail⟩ := pairwise_cons.mp sorted
    simp only [mem_cons, Prod.mk.injEq, lookupEntry, ih tail]
    split_ifs with same
    · subst same
      have fresh : lookupEntry k rest = none :=
        lookupEntry_eq_none fun entry member => (above entry member).ne'
      simp [fresh, eq_comm]
    · simp [Ne.symm same]

lemma length_insertEntry (sorted : entries.Pairwise (fun a b => a.1 < b.1)) :
    (insertEntry key value entries).length =
      if (lookupEntry key entries).isSome then entries.length else entries.length + 1 := by
  induction entries with
  | nil => simp
  | cons head rest ih =>
    obtain ⟨k, v⟩ := head
    obtain ⟨above, tail⟩ := pairwise_cons.mp sorted
    rcases lt_trichotomy key k with before | rfl | after
    · have fresh : lookupEntry key rest = none :=
        lookupEntry_eq_none fun entry member => (before.trans (above entry member)).ne'
      simp [before, before.ne', fresh]
    · simp
    · simp only [insertEntry, lookupEntry, if_neg (not_lt.mpr after.le), if_neg after.ne',
        if_neg after.ne, length_cons, ih tail]
      split_ifs <;> rfl

lemma insertEntry_above (above : ∀ entry ∈ entries, entry.1 < key) :
    insertEntry key value entries = entries ++ [(key, value)] := by
  induction entries with
  | nil => rfl
  | cons head rest ih =>
    have before : head.1 < key := above head mem_cons_self
    have tail : insertEntry key value rest = rest ++ [(key, value)] :=
      ih fun entry member => above entry (mem_cons_of_mem _ member)
    simp only [insertEntry, if_neg before.not_gt, if_neg before.ne', tail, cons_append]

def empty : SortedMap K V := ⟨[], List.Pairwise.nil⟩

def get? (map : SortedMap K V) (key : K) : Option V := lookupEntry key map.entries

def insert (map : SortedMap K V) (key : K) (value : V) : SortedMap K V :=
  ⟨insertEntry key value map.entries, insertEntry_sorted map.sorted⟩

def erase (map : SortedMap K V) (key : K) : SortedMap K V :=
  ⟨map.entries.filter (fun entry => entry.1 ≠ key), map.sorted.filter _⟩

/-- Keeps the bindings that a test passes. -/
def retain (keep : K → V → Bool) (map : SortedMap K V) : SortedMap K V :=
  ⟨map.entries.filter fun entry => keep entry.1 entry.2, map.sorted.filter _⟩

def size (map : SortedMap K V) : Nat := map.entries.length

def keys (map : SortedMap K V) : List K := map.entries.map Prod.fst

def values (map : SortedMap K V) : List V := map.entries.map Prod.snd

def map {W : Type} (change : V → W) (map : SortedMap K V) : SortedMap K W :=
  ⟨map.entries.map fun entry => (entry.1, change entry.2),
    List.pairwise_map.mpr map.sorted⟩

variable {map : SortedMap K V}

lemma mem_entries : (key, value) ∈ map.entries ↔ map.get? key = some value :=
  mem_iff_lookupEntry map.sorted

@[simp] lemma get?_empty (key : K) : (empty : SortedMap K V).get? key = none := rfl

@[simp] lemma size_empty : (empty : SortedMap K V).size = 0 := rfl

@[simp] lemma get?_insert (map : SortedMap K V) (key other : K) (value : V) :
    (map.insert key value).get? other = if other = key then some value else map.get? other :=
  lookupEntry_insertEntry key other value map.entries

@[simp] lemma get?_erase (map : SortedMap K V) (key other : K) :
    (map.erase key).get? other = if other = key then none else map.get? other := by
  apply Option.ext
  intro value
  rw [← mem_entries]
  simp only [erase, mem_filter, mem_entries, decide_eq_true_eq]
  split_ifs with same <;> simp [same]

lemma get?_foldl_erase (keys : List K) (map : SortedMap K V) (key : K) :
    (keys.foldl erase map).get? key = if key ∈ keys then none else map.get? key := by
  induction keys generalizing map with
  | nil => simp
  | cons first rest ih =>
    rw [foldl_cons, ih, get?_erase]
    by_cases later : key ∈ rest <;> by_cases same : key = first <;> simp [later, same]

@[simp] lemma get?_retain (keep : K → V → Bool) (map : SortedMap K V) (key : K) :
    (map.retain keep).get? key = (map.get? key).filter (keep key) := by
  apply Option.ext
  intro value
  rw [← mem_entries]
  simp [retain, mem_filter, mem_entries, Option.filter_eq_some_iff]

lemma size_insert (map : SortedMap K V) (key : K) (value : V) :
    (map.insert key value).size =
      if (map.get? key).isSome then map.size else map.size + 1 :=
  length_insertEntry map.sorted

lemma size_insert_le (map : SortedMap K V) (key : K) (value : V) :
    (map.insert key value).size ≤ map.size + 1 := by
  rw [size_insert]
  split_ifs <;> omega

lemma size_erase_lt (bound : map.get? key = some value) : (map.erase key).size < map.size := by
  have member := mem_entries.mpr bound
  refine length_filter_lt_length_iff_exists.mpr ⟨(key, value), member, ?_⟩
  simp

@[simp] lemma get?_map {W : Type} (change : V → W) (map : SortedMap K V) (key : K) :
    (map.map change).get? key = (map.get? key).map change := by
  obtain ⟨entries, sorted⟩ := map
  simp only [get?, SortedMap.map]
  induction entries with
  | nil => rfl
  | cons head rest ih =>
    simp only [map_cons, lookupEntry]
    split_ifs
    · rfl
    · exact ih (pairwise_cons.mp sorted).2

@[simp] lemma size_map {W : Type} (change : V → W) (map : SortedMap K V) :
    (map.map change).size = map.size :=
  length_map _

lemma mem_keys : key ∈ map.keys ↔ (map.get? key).isSome := by
  simp only [keys, mem_map, Option.isSome_iff_exists, ← mem_entries]
  constructor
  · rintro ⟨⟨other, value⟩, member, rfl⟩
    exact ⟨value, member⟩
  · rintro ⟨value, member⟩
    exact ⟨(key, value), member, rfl⟩

lemma keys_nodup (map : SortedMap K V) : map.keys.Nodup :=
  pairwise_map.mpr (map.sorted.imp fun below => below.ne)

lemma mem_values : value ∈ map.values ↔ ∃ key, map.get? key = some value := by
  simp only [values, mem_map, ← mem_entries]
  constructor
  · rintro ⟨⟨key, other⟩, member, rfl⟩
    exact ⟨key, member⟩
  · rintro ⟨key, member⟩
    exact ⟨(key, value), member, rfl⟩

lemma ext_get? {left right : SortedMap K V}
    (agree : ∀ key, left.get? key = right.get? key) : left = right := by
  have same : left.entries = right.entries := by
    refine List.Perm.eq_of_pairwise
      (fun a b _ _ (ab : a.1 < b.1) ba => absurd (ab.trans ba) (lt_irrefl _))
      left.sorted right.sorted ?_
    have distinct (map : SortedMap K V) : map.entries.Nodup :=
      map.sorted.imp fun {a b} (before : a.1 < b.1) => fun same : a = b =>
        before.ne (congrArg Prod.fst same)
    refine (perm_ext_iff_of_nodup (distinct left) (distinct right)).mpr ?_
    rintro ⟨key, value⟩
    rw [mem_entries, mem_entries, agree]
  cases left
  cases right
  cases same
  rfl

def total (measure : V → Nat) (map : SortedMap K V) : Nat :=
  (map.entries.map fun entry => measure entry.2).sum

lemma total_eq_sum_values (measure : V → Nat) (map : SortedMap K V) :
    map.total measure = (map.values.map measure).sum := by
  rw [values, map_map]
  rfl

lemma values_insert_perm (absent : map.get? key = none) :
    (map.insert key value).values.Perm (value :: map.values) := by
  obtain ⟨entries, sorted⟩ := map
  simp only [get?, values, insert] at absent ⊢
  clear sorted
  induction entries with
  | nil => exact List.Perm.refl _
  | cons head rest ih =>
    simp only [lookupEntry] at absent
    split_ifs at absent with same
    simp only [insertEntry]
    split_ifs with before equal
    · exact List.Perm.refl _
    · exact absurd equal (Ne.symm same)
    · exact ((ih absent).cons head.2).trans (List.Perm.swap value head.2 _)

lemma values_erase_perm (bound : map.get? key = some value) :
    map.values.Perm (value :: (map.erase key).values) := by
  obtain ⟨entries, sorted⟩ := map
  simp only [get?, values, erase] at bound ⊢
  induction entries with
  | nil => cases bound
  | cons head rest ih =>
    obtain ⟨above, tail⟩ := pairwise_cons.mp sorted
    simp only [lookupEntry] at bound
    split_ifs at bound with same
    · cases bound
      have kept : rest.filter (fun entry => decide (entry.1 ≠ key)) = rest := by
        refine filter_eq_self.mpr fun entry member => ?_
        simpa [same] using (above entry member).ne'
      rw [filter_cons_of_neg (by simpa using same), kept]
      exact List.Perm.refl _
    · rw [filter_cons_of_pos (by simpa using same), map_cons, map_cons]
      exact ((ih tail bound).cons head.2).trans (List.Perm.swap value head.2 _)

lemma total_insert (measure : V → Nat) (absent : map.get? key = none) :
    (map.insert key value).total measure = map.total measure + measure value := by
  have perm : (map.insert key value).values.Perm (value :: map.values) := values_insert_perm absent
  have sum := (perm.map measure).sum_nat.trans sum_cons
  rw [total_eq_sum_values, total_eq_sum_values, sum, Nat.add_comm]

lemma total_erase (measure : V → Nat) (bound : map.get? key = some value) :
    (map.erase key).total measure + measure value = map.total measure := by
  have sum := (((values_erase_perm bound).map measure).sum_nat).trans sum_cons
  rw [total_eq_sum_values, total_eq_sum_values, sum, Nat.add_comm]

/-- Inserts each value under its own key, refusing a key that is bound
already. -/
def insertAll (keyOf : V → K) : List V → SortedMap K V → Option (SortedMap K V)
  | [], map => some map
  | value :: rest, map =>
    if (map.get? (keyOf value)).isSome then none
    else insertAll keyOf rest (map.insert (keyOf value) value)

def ofValues (keyOf : V → K) (values : List V) : Option (SortedMap K V) :=
  insertAll keyOf values empty

/-- Every binding is stored under the key its value names. -/
def Keyed (keyOf : V → K) (map : SortedMap K V) : Prop :=
  ∀ key value, map.get? key = some value → keyOf value = key

lemma keyed_empty (keyOf : V → K) : Keyed keyOf (empty : SortedMap K V) :=
  fun _ _ bound => by simp at bound

lemma Keyed.insert (keyed : Keyed keyOf map) (value : V) :
    Keyed keyOf (map.insert (keyOf value) value) := by
  intro key other bound
  rw [get?_insert] at bound
  split_ifs at bound with same
  · cases bound
    exact same.symm
  · exact keyed key other bound

lemma Keyed.erase (keyed : Keyed keyOf map) (key : K) : Keyed keyOf (map.erase key) := by
  intro other value bound
  rw [get?_erase] at bound
  split_ifs at bound
  exact keyed other value bound

/-- Inserting the remaining entries of a keyed map one by one gives a map that
answers from them first. -/
lemma insertAll_entries (map : SortedMap K V) (sorted : entries.Pairwise (fun a b => a.1 < b.1))
    (keyed : ∀ entry ∈ entries, keyOf entry.2 = entry.1)
    (fresh : ∀ entry ∈ entries, map.get? entry.1 = none) :
    ∃ result, insertAll keyOf (entries.map Prod.snd) map = some result ∧
      ∀ key, result.get? key = (lookupEntry key entries).or (map.get? key) := by
  induction entries generalizing map with
  | nil => exact ⟨map, rfl, fun key => rfl⟩
  | cons head rest ih =>
    obtain ⟨k, v⟩ := head
    obtain ⟨above, tail⟩ := pairwise_cons.mp sorted
    have named : keyOf v = k := keyed (k, v) mem_cons_self
    have free : map.get? k = none := fresh (k, v) mem_cons_self
    obtain ⟨result, built, answers⟩ := ih (map.insert k v) tail
      (fun entry member => keyed entry (mem_cons_of_mem _ member))
      (fun entry member => by
        rw [get?_insert, if_neg (above entry member).ne']
        exact fresh entry (mem_cons_of_mem _ member))
    refine ⟨result, ?_, fun key => ?_⟩
    · simp [map_cons, insertAll, named, free, Option.isSome_none, Bool.false_eq_true, built]
    · have absent : lookupEntry k rest = none :=
        lookupEntry_eq_none fun entry member => (above entry member).ne'
      rw [answers, get?_insert, lookupEntry]
      by_cases same : key = k
      · subst same
        simp [absent]
      · simp [same, Ne.symm same]

lemma ofValues_values (keyed : Keyed keyOf map) : ofValues keyOf map.values = some map := by
  obtain ⟨result, built, answers⟩ := insertAll_entries empty map.sorted
    (fun entry member => keyed entry.1 entry.2 (mem_entries.mp member))
    (fun entry _ => get?_empty entry.1)
  have same : result = map := ext_get? fun key => by
    rw [answers, get?_empty, Option.or_none]
    rfl
  rw [ofValues, values, built, same]

end SortedMap
