import Mathlib.Data.List.Forall2
import Knowbee.Lib.CasStore
import Knowbee.Lib.SortedMap

/-!
# Stores of keyed records

The common case of a store: an ordered map whose bindings are encoded one by
one, in key order, and decoded one by one into a map, a key that comes twice
being refused.  When every record decodes from its own encoding the map is read
back exactly (`loadRecords_encodeRecords`), and whatever is read is keyed by its
records and counts as many bindings as there were raw records
(`loadRecords_keyed`, `loadRecords_size`).
-/

/-- A printer and a parser for one wire format, the parser undoing the
printer; `length` is the size of what was printed. -/
structure Codec (Wire Raw : Type) where
  print : Wire → Option Raw
  parse : Raw → Option Wire
  length : Raw → Nat
  parse_print {wire : Wire} {raw : Raw} : print wire = some raw → parse raw = some wire

/-- A codec that can also read one field of what was printed, whatever the
rest is. -/
structure ProbedCodec (Wire Raw Field : Type) (field : Wire → Field) : Type
    extends Codec Wire Raw where
  probe : Raw → Option Field
  probe_print {wire : Wire} {raw : Raw} : print wire = some raw → probe raw = some (field wire)

/-- The codec that keeps the wire value itself. -/
def Codec.plain (Wire : Type) : Codec Wire Wire where
  print := some
  parse := some
  length := fun _ => 1
  parse_print := fun same => same ▸ rfl

/-- The codec that keeps the wire value itself, with its probe. -/
def ProbedCodec.plain {Wire Field : Type} (field : Wire → Field) :
    ProbedCodec Wire Wire Field field where
  toCodec := .plain Wire
  probe := fun wire => some (field wire)
  probe_print := fun same => Option.some.inj same ▸ rfl

namespace RecordStore

open List CasStore

variable {K V R Err : Type} [LinearOrder K]

/-- The raw records of a map in key order, unless one cannot be encoded. -/
def encodeRecords (encode : V → Option R) (map : SortedMap K V) : Option (List R) :=
  map.values.mapM encode

def loadRecords (decode : R → Except Err V) (keyOf : V → K) (duplicate : Err) :
    List R → SortedMap K V → Except Err (SortedMap K V)
  | [], map => .ok map
  | raw :: rest, map => do
    let value ← decode raw
    if (map.get? (keyOf value)).isSome then throw duplicate
    else loadRecords decode keyOf duplicate rest (map.insert (keyOf value) value)

structure BootErrors (Err : Type) where
  (invalidCapacity duplicate saturated unavailable : Err)

/-- Reads what a starting process finds: the revision and the raw records. -/
def contents (errors : BootErrors Err) : Read R → Except Err (Nat × List R)
  | .missing revision => .ok (revision, [])
  | .records revision records => .ok (revision, records)
  | .unavailable => .error errors.unavailable

/-- The start of a store of at most `capacity` records, itself at most
`largest`: the raw records are counted, decoded and gathered under their
keys. -/
def bootstrap (errors : BootErrors Err) (largest : Nat) (decode : R → Except Err V)
    (keyOf : V → K) (capacity : Nat) (read : Read R) :
    Except Err (Cache (SortedMap K V)) := do
  if capacity = 0 ∨ largest < capacity then throw errors.invalidCapacity
  else
    let (revision, raws) ← contents errors read
    if capacity < raws.length then throw errors.saturated
    else
      let map ← loadRecords decode keyOf errors.duplicate raws .empty
      return ⟨revision, map⟩

/-- Records with the property `P`, under their own keys, at most `capacity` of
them. -/
structure Within (keyOf : V → K) (capacity : Nat) (P : V → Prop) (map : SortedMap K V) :
    Prop where
  keyed : map.Keyed keyOf
  bounded : map.size ≤ capacity
  each {key : K} {value : V} : map.get? key = some value → P value

variable {encode : V → Option R} {decode : R → Except Err V} {keyOf : V → K} {duplicate : Err}

variable {raws : List R} {result : SortedMap K V} {key : K} {value : V} {map : SortedMap K V}

lemma loadRecords_insertAll {values : List V}
    (decoded : List.Forall₂ (fun raw value => decode raw = .ok value) raws values)
    (built : SortedMap.insertAll keyOf values map = some result) :
    loadRecords decode keyOf duplicate raws map = .ok result := by
  induction decoded generalizing map with
  | nil => exact congrArg _ (Option.some.inj built)
  | cons head _ ih =>
    simp only [SortedMap.insertAll] at built
    split_ifs at built with bound
    simp only [loadRecords, head, bind, Except.bind, if_neg bound]
    exact ih built

lemma mapM_forall₂ {values : List V} (mapped : values.mapM encode = some raws) :
    List.Forall₂ (fun value raw => encode value = some raw) values raws := by
  induction values generalizing raws with
  | nil =>
    cases mapped
    exact .nil
  | cons value rest ih =>
    simp only [mapM_cons, bind, Option.bind_eq_some_iff, pure, Option.some.injEq] at mapped
    obtain ⟨raw, head, tail, rest_mapped, rfl⟩ := mapped
    exact .cons head (ih rest_mapped)

lemma exists_of_forall₂ {α β : Type} {Rel : α → β → Prop} {xs : List α} {ys : List β} {x : α}
    (related : List.Forall₂ Rel xs ys) (member : x ∈ xs) : ∃ y ∈ ys, Rel x y := by
  induction related with
  | nil => cases member
  | cons head _ ih =>
    rcases mem_cons.mp member with rfl | later
    · exact ⟨_, mem_cons_self, head⟩
    · obtain ⟨y, found, one⟩ := ih later
      exact ⟨y, mem_cons_of_mem _ found, one⟩

lemma encodeRecords_forall₂ {Rel : R → V → Prop}
    (back : ∀ key value raw, map.get? key = some value → encode value = some raw → Rel raw value)
    (encoded : encodeRecords encode map = some raws) : List.Forall₂ Rel raws map.values := by
  have bound := (forall₂_and_left _ _).mpr
    ⟨fun value member => SortedMap.mem_values.mp member, mapM_forall₂ encoded⟩
  refine (bound.imp ?_).flip
  rintro value raw ⟨⟨key, bound⟩, one⟩
  exact back key value raw bound one

lemma loadRecords_encodeRecords (keyed : map.Keyed keyOf)
    (back : ∀ key value raw, map.get? key = some value → encode value = some raw →
      decode raw = .ok value)
    (encoded : encodeRecords encode map = some raws) :
    loadRecords decode keyOf duplicate raws .empty = .ok map :=
  loadRecords_insertAll (encodeRecords_forall₂ back encoded) (SortedMap.ofValues_values keyed)

lemma encodeRecords_length
    (encoded : encodeRecords encode map = some raws) : raws.length = map.size := by
  rw [← (mapM_forall₂ encoded).length_eq, SortedMap.values, length_map, SortedMap.size]

lemma exists_encodeRecords (encodes : ∀ value, ∃ raw, encode value = some raw)
    (map : SortedMap K V) : ∃ raws, encodeRecords encode map = some raws := by
  unfold encodeRecords
  induction map.values with
  | nil => exact ⟨[], rfl⟩
  | cons value rest ih =>
    obtain ⟨raw, head⟩ := encodes value
    obtain ⟨raws, tail⟩ := ih
    exact ⟨raw :: raws, by simp [head, tail]⟩

lemma encodeRecords_mem (encoded : encodeRecords encode map = some raws)
    (bound : map.get? key = some value) : ∃ raw ∈ raws, encode value = some raw :=
  exists_of_forall₂ (mapM_forall₂ encoded) (SortedMap.mem_values.mpr ⟨key, bound⟩)

lemma mem_encodeRecords {raw : R}
    (encoded : encodeRecords encode map = some raws) (member : raw ∈ raws) :
    ∃ key value, map.get? key = some value ∧ encode value = some raw := by
  obtain ⟨value, listed, one⟩ := exists_of_forall₂ (mapM_forall₂ encoded).flip member
  obtain ⟨key, bound⟩ := SortedMap.mem_values.mp listed
  exact ⟨key, value, bound, one⟩

lemma loadRecords_cons {raw : R}
    (loaded : loadRecords decode keyOf duplicate (raw :: raws) map = .ok result) :
    ∃ value, decode raw = .ok value ∧ map.get? (keyOf value) = none ∧
      loadRecords decode keyOf duplicate raws (map.insert (keyOf value) value) = .ok result := by
  simp only [loadRecords, bind, Except.bind] at loaded
  cases head : decode raw with
  | error err => simp [head] at loaded
  | ok value =>
    simp only [head] at loaded
    split_ifs at loaded with bound
    exact ⟨value, rfl, Option.not_isSome_iff_eq_none.mp bound, loaded⟩

lemma loadRecords_invariant {P : SortedMap K V → Prop}
    (keep : ∀ map raw value, P map → decode raw = .ok value → map.get? (keyOf value) = none →
      P (map.insert (keyOf value) value))
    (start : P map) (loaded : loadRecords decode keyOf duplicate raws map = .ok result) :
    P result := by
  induction raws generalizing map with
  | nil => exact Except.ok.inj loaded ▸ start
  | cons raw rest ih =>
    obtain ⟨value, head, free, loaded⟩ := loadRecords_cons loaded
    exact ih (keep map raw value start head free) loaded

lemma loadRecords_keyed (loaded : loadRecords decode keyOf duplicate raws .empty = .ok result) :
    result.Keyed keyOf :=
  loadRecords_invariant (P := fun map => map.Keyed keyOf)
    (fun _ _ value keyed _ _ => keyed.insert value) (SortedMap.keyed_empty keyOf) loaded

lemma loadRecords_keeps
    (loaded : loadRecords decode keyOf duplicate raws map = .ok result)
    (bound : map.get? key = some value) : result.get? key = some value := by
  refine loadRecords_invariant (P := fun map => map.get? key = some value)
    (fun map raw other holds _ free => ?_) bound loaded
  have apart : key ≠ keyOf other := by
    rintro rfl
    simp [free] at holds
  rw [SortedMap.get?_insert, if_neg apart]
  exact holds

lemma loadRecords_holds {raw : R}
    (loaded : loadRecords decode keyOf duplicate raws map = .ok result) (member : raw ∈ raws) :
    ∃ value, decode raw = .ok value ∧ result.get? (keyOf value) = some value := by
  induction raws generalizing map with
  | nil => cases member
  | cons first rest ih =>
    obtain ⟨value, head, -, onward⟩ := loadRecords_cons loaded
    rcases mem_cons.mp member with rfl | later
    · exact ⟨value, head, loadRecords_keeps onward (by rw [SortedMap.get?_insert, if_pos rfl])⟩
    · exact ih onward later

lemma loadRecords_decoded (loaded : loadRecords decode keyOf duplicate raws .empty = .ok result)
    (bound : result.get? key = some value) : ∃ raw, decode raw = .ok value := by
  refine loadRecords_invariant
    (P := fun map => ∀ key value, map.get? key = some value → ∃ raw, decode raw = .ok value)
    (fun map raw value holds decoded _ key other bound => ?_)
    (fun key value bound => by simp at bound) loaded key value bound
  rw [SortedMap.get?_insert] at bound
  split_ifs at bound
  · cases bound
    exact ⟨raw, decoded⟩
  · exact holds key other bound

lemma loadRecords_size
    (loaded : loadRecords decode keyOf duplicate raws map = .ok result) :
    result.size = map.size + raws.length := by
  induction raws generalizing map with
  | nil =>
    cases loaded
    rfl
  | cons raw rest ih =>
    obtain ⟨value, -, free, loaded⟩ := loadRecords_cons loaded
    rw [ih loaded, SortedMap.size_insert, free, length_cons]
    exact Nat.add_right_comm _ 1 _

section Bootstrap

variable {errors : BootErrors Err} {largest capacity : Nat} {P : V → Prop}

lemma bootstrap_unavailable (range : 0 < capacity ∧ capacity ≤ largest) :
    bootstrap errors largest decode keyOf capacity .unavailable = .error errors.unavailable := by
  have inRange : ¬(capacity = 0 ∨ largest < capacity) := by omega
  simp [bootstrap, if_neg inRange, contents, bind, Except.bind]

lemma bootstrap_missing (range : 0 < capacity ∧ capacity ≤ largest) (revision : Nat) :
    bootstrap errors largest decode keyOf capacity (.missing revision) =
      .ok ⟨revision, .empty⟩ := by
  have inRange : ¬(capacity = 0 ∨ largest < capacity) := by omega
  simp only [bootstrap, if_neg inRange, contents, bind, Except.bind]
  rfl

variable {cache : Cache (SortedMap K V)} {raws : List R} {revision : Nat}

lemma bootstrap_eq_ok {read : Read R}
    (booted : bootstrap errors largest decode keyOf capacity read = .ok cache) :
    (0 < capacity ∧ capacity ≤ largest) ∧ ∃ revision raws,
      contents errors read = .ok (revision, raws) ∧ raws.length ≤ capacity ∧
        loadRecords decode keyOf errors.duplicate raws .empty = .ok cache.records := by
  unfold bootstrap at booted
  split_ifs at booted with range
  rcases found : contents errors read with err | ⟨revision, raws⟩
  · simp [found, bind, Except.bind] at booted
  · simp only [found, bind, Except.bind] at booted
    split_ifs at booted with full
    cases loaded : loadRecords decode keyOf errors.duplicate raws .empty with
    | error err => simp [loaded] at booted
    | ok map =>
      simp only [loaded] at booted
      cases booted
      exact ⟨by omega, revision, raws, rfl, not_lt.mp full, loaded⟩

lemma bootstrap_holds {raw : R}
    (booted : bootstrap errors largest decode keyOf capacity (.records revision raws) = .ok cache)
    (member : raw ∈ raws) :
    ∃ value, decode raw = .ok value ∧ cache.records.get? (keyOf value) = some value := by
  obtain ⟨-, _, _, ⟨⟩, -, loaded⟩ := bootstrap_eq_ok booted
  exact loadRecords_holds loaded member

lemma bootstrap_decodes {key : K} {value : V}
    (encoded : encodeRecords encode map = some raws) (bound : map.get? key = some value)
    (booted : bootstrap errors largest decode keyOf capacity (.records revision raws) = .ok cache) :
    ∃ raw decoded, encode value = some raw ∧ decode raw = .ok decoded := by
  obtain ⟨raw, member, one⟩ := encodeRecords_mem encoded bound
  obtain ⟨decoded, ok, -⟩ := bootstrap_holds booted member
  exact ⟨raw, decoded, one, ok⟩

lemma bootstrap_ok {read : Read R}
    (decoded : ∀ raw value, decode raw = .ok value → P value)
    (booted : bootstrap errors largest decode keyOf capacity read = .ok cache) :
    (0 < capacity ∧ capacity ≤ largest) ∧ Within keyOf capacity P cache.records := by
  obtain ⟨range, revision, raws, -, fits, loaded⟩ := bootstrap_eq_ok booted
  refine ⟨range, loadRecords_keyed loaded, ?_, fun bound => ?_⟩
  · rw [loadRecords_size loaded, SortedMap.size_empty]
    omega
  · obtain ⟨raw, ok⟩ := loadRecords_decoded loaded bound
    exact decoded raw _ ok

lemma bootstrap_encodeRecords (range : 0 < capacity ∧ capacity ≤ largest)
    (back : ∀ value raw, P value → encode value = some raw → decode raw = .ok value)
    (within : Within keyOf capacity P map) (encoded : encodeRecords encode map = some raws) :
    bootstrap errors largest decode keyOf capacity (.records revision raws) =
      .ok ⟨revision, map⟩ := by
  have inRange : ¬(capacity = 0 ∨ largest < capacity) := by omega
  have fits : ¬capacity < raws.length := by
    have bounded := within.bounded
    rw [encodeRecords_length encoded]
    omega
  have loaded : loadRecords decode keyOf errors.duplicate raws .empty = .ok map :=
    loadRecords_encodeRecords within.keyed
      (fun _ value raw bound one => back value raw (within.each bound) one) encoded
  simp only [bootstrap, if_neg inRange, contents, bind, Except.bind, if_neg fits, loaded]
  rfl

end Bootstrap

section Within

variable {capacity : Nat} {P : V → Prop} {map : SortedMap K V}

lemma within_empty : Within keyOf capacity P (.empty : SortedMap K V) :=
  ⟨SortedMap.keyed_empty keyOf, Nat.zero_le _, fun bound => by simp at bound⟩

lemma Within.insert_new {value : V} (within : Within keyOf capacity P map)
    (free : map.get? (keyOf value) = none) (room : map.size < capacity) (holds : P value) :
    Within keyOf capacity P (map.insert (keyOf value) value) where
  keyed := within.keyed.insert value
  bounded := by
    rw [SortedMap.size_insert, free]
    exact room
  each bound := by
    rw [SortedMap.get?_insert] at bound
    split_ifs at bound
    · exact Option.some.inj bound ▸ holds
    · exact within.each bound

lemma Within.replace {old value : V} (within : Within keyOf capacity P map)
    (bound : map.get? (keyOf value) = some old) (holds : P value) :
    Within keyOf capacity P (map.insert (keyOf value) value) where
  keyed := within.keyed.insert value
  bounded := by
    rw [SortedMap.size_insert, bound]
    exact within.bounded
  each found := by
    rw [SortedMap.get?_insert] at found
    split_ifs at found
    · exact Option.some.inj found ▸ holds
    · exact within.each found

lemma Within.erase (within : Within keyOf capacity P map) (key : K) :
    Within keyOf capacity P (map.erase key) where
  keyed := within.keyed.erase key
  bounded := (length_filter_le _ _).trans within.bounded
  each bound := by
    rw [SortedMap.get?_erase] at bound
    split_ifs at bound
    exact within.each bound

end Within

end RecordStore
