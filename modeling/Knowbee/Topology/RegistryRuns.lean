import Knowbee.Topology.CompilerSound
import Knowbee.Topology.Registry

/-!
# Runs of the registry

Whatever operations are performed, the versions of a topology are numbered without
a gap and stay as they were stored, and the active version is one that could be
activated (`RegistryDb.Sound`).  An append returns the first record of the history,
which is its own exactly if it comes before the others (`OwnRecordFirst`).
-/

namespace Knowbee.Topology

open List Table TopologyActivationResult Bool HistoryRow Option

variable {Clock : Type} {db next : RegistryDb Clock} {moment : Moment Clock}

/-- A version with an executable validation and a snapshot that was compiled from it. -/
def Activatable (db : RegistryDb Clock) (topologyId : String) (version : Int) : Prop :=
  ∃ row validation compiled, getVersion db topologyId version = some row ∧
    getValidationSnapshot db topologyId version = some validation ∧
    validation.validation.executable = true ∧
    getCompiledSnapshot db topologyId version = some compiled ∧
    compiled.snapshot.topologyId = topologyId ∧
    compiled.snapshot.sourceTopologyVersion = toString version ∧
    compiled.snapshot.sourceTopologyHash = row.sourceHash

structure RegistryDb.Sound (db : RegistryDb Clock) : Prop where
  /-- The versions of a topology are numbered from 1 on. -/
  numbered : ∀ topologyId, ∃ count, versionNumbers db topologyId = upTo count
  active : ∀ row ∈ db.topologies, ∀ version, row.activeVersion = some version →
    Activatable db row.topologyId version
  /-- The foreign key of the versions. -/
  owned : ∀ row ∈ db.versions, (getTopology db row.topologyId).isSome = true

/-- What was found stays found. -/
structure RegistryDb.Grows (db next : RegistryDb Clock) : Prop where
  version : ∀ topologyId version row, getVersion db topologyId version = some row →
    getVersion next topologyId version = some row
  validation : ∀ topologyId version row, getValidationSnapshot db topologyId version = some row →
    getValidationSnapshot next topologyId version = some row
  compiled : ∀ topologyId version row, getCompiledSnapshot db topologyId version = some row →
    getCompiledSnapshot next topologyId version = some row

lemma Activatable.grow {topologyId : String} {version : Int}
    (activatable : Activatable db topologyId version) (grows : db.Grows next) :
    Activatable next topologyId version := by
  obtain ⟨row, validation, compiled, versioned, validated, executable, compiles, id, number, hash⟩ :=
    activatable
  exact ⟨row, validation, compiled, grows.version _ _ _ versioned,
    grows.validation _ _ _ validated, executable, grows.compiled _ _ _ compiles, id, number, hash⟩

/-! ## Insertions -/

lemma insertRow_eq_ok {Row : Type} {clash : Row → Row → Bool} {rows stored : List Row}
    {row : Row} : insertRow clash rows row = .ok stored ↔
      insert clash rows row = some stored := by
  unfold insertRow
  cases insert clash rows row with
  | none => exact ⟨nofun, nofun⟩
  | some rows' => rw [Except.ok.injEq, some.injEq]

lemma insertHistory_eq_ok {row : HistoryRow Clock} :
    insertHistory db row = .ok next ↔ (∀ old ∈ db.history, row.clash old = false) ∧
      next = { db with history := db.history ++ [row] } := by
  unfold insertHistory insertRow
  cases inserted : insert clash db.history row with
  | none =>
    refine ⟨nofun, fun free => ?_⟩
    cases inserted.symm.trans (insert_eq_some.mpr ⟨free.1, rfl⟩)
  | some history =>
    obtain ⟨free, rfl⟩ := insert_eq_some.mp inserted
    constructor
    · rintro ⟨⟩
      exact ⟨free, rfl⟩
    · rintro ⟨-, rfl⟩
      rfl

/-- A row of a new version that is not free. -/
def AppendedRows.Clashes (rows : AppendedRows Clock) (db : RegistryDb Clock) : Prop :=
  (∃ old ∈ db.versions, rows.version.clash old = true) ∨
    (∃ old ∈ db.validations, rows.validation.clash old = true) ∨
    (∃ row, rows.compiled = some row ∧ ∃ old ∈ db.compiled, row.clash old = true) ∨
    ∃ old ∈ db.history, rows.history.clash old = true

/-- The tables after a version was stored. -/
structure VersionStored (db : RegistryDb Clock) (rows : AppendedRows Clock) (time : Clock)
    (next : RegistryDb Clock) : Prop where
  topologies : next.topologies = (upsertTopologyRecord db rows.topology time).topologies
  versions : insert VersionRow.clash db.versions rows.version = some next.versions
  validations : insert ValidationRow.clash db.validations rows.validation =
    some next.validations
  compiled : insertCompiledSnapshot db.compiled rows.compiled = .ok next.compiled
  history : insert clash db.history rows.history = some next.history

section Store

variable {rows : AppendedRows Clock} {time : Clock}

lemma upsert_tables (topology : EnterpriseTopology) (time : Clock) :
    (upsertTopologyRecord db topology time).versions = db.versions ∧
      (upsertTopologyRecord db topology time).validations = db.validations ∧
      (upsertTopologyRecord db topology time).compiled = db.compiled ∧
      (upsertTopologyRecord db topology time).history = db.history := by
  unfold upsertTopologyRecord
  split_ifs <;> exact ⟨rfl, rfl, rfl, rfl⟩

lemma versionStored (stored : storeVersion db rows time = .ok next) :
    VersionStored db rows time next := by
  obtain ⟨versions, validations, compiled, history⟩ := @upsert_tables Clock db rows.topology time
  unfold storeVersion at stored
  simp only [versions, validations, compiled] at stored
  cases first : insertRow VersionRow.clash db.versions rows.version with
  | error error =>
    rw [first] at stored
    cases stored
  | ok versions' =>
    cases second : insertRow ValidationRow.clash db.validations rows.validation with
    | error error =>
      rw [first, second] at stored
      cases stored
    | ok validations' =>
      cases third : insertCompiledSnapshot db.compiled rows.compiled with
      | error error =>
        rw [first, second, third] at stored
        cases stored
      | ok compiled' =>
        rw [first, second, third] at stored
        obtain ⟨free, rfl⟩ := insertHistory_eq_ok.mp stored
        refine ⟨rfl, insertRow_eq_ok.mp first, insertRow_eq_ok.mp second, third, ?_⟩
        exact insert_eq_some.mpr ⟨history ▸ free, congrArg (· ++ [rows.history]) history⟩

lemma stored_of_not_clashes (free : ¬rows.Clashes db) :
    ∃ next, storeVersion db rows time = .ok next := by
  obtain ⟨tables, validationTable, compiledTable, historyTable⟩ :=
    @upsert_tables Clock db rows.topology time
  have versions : insertRow VersionRow.clash db.versions rows.version =
      .ok (db.versions ++ [rows.version]) :=
    insertRow_eq_ok.mpr (insert_eq_some.mpr ⟨fun old member =>
      eq_false_iff.mpr fun clash => free (.inl ⟨old, member, clash⟩), rfl⟩)
  have validations : insertRow ValidationRow.clash db.validations rows.validation =
      .ok (db.validations ++ [rows.validation]) :=
    insertRow_eq_ok.mpr (insert_eq_some.mpr ⟨fun old member =>
      eq_false_iff.mpr fun clash => free (.inr (.inl ⟨old, member, clash⟩)), rfl⟩)
  obtain ⟨compiled', compiled⟩ : ∃ compiled', insertCompiledSnapshot db.compiled rows.compiled =
      .ok compiled' := by
    cases made : rows.compiled with
    | none => exact ⟨_, rfl⟩
    | some row =>
      exact ⟨_, insertRow_eq_ok.mpr (insert_eq_some.mpr ⟨fun old member =>
        eq_false_iff.mpr fun clash =>
          free (.inr (.inr (.inl ⟨row, made, old, member, clash⟩))), rfl⟩)⟩
  unfold storeVersion
  simp only [tables, validationTable, compiledTable]
  rw [versions, validations, compiled]
  refine ⟨_, insertHistory_eq_ok.mpr ⟨fun old member => eq_false_iff.mpr fun clash => ?_, rfl⟩⟩
  exact free (.inr (.inr (.inr ⟨old, historyTable ▸ member, clash⟩)))

lemma not_clashes_of_stored (stored : VersionStored db rows time next) : ¬rows.Clashes db := by
  rintro (⟨old, member, clash⟩ | ⟨old, member, clash⟩ | ⟨row, made, old, member, clash⟩ |
    ⟨old, member, clash⟩)
  · cases clash.symm.trans ((insert_eq_some.mp stored.versions).1 old member)
  · cases clash.symm.trans ((insert_eq_some.mp stored.validations).1 old member)
  · have inserted := stored.compiled
    rw [made] at inserted
    cases clash.symm.trans
      ((insert_eq_some.mp (insertRow_eq_ok.mp inserted)).1 old member)
  · cases clash.symm.trans ((insert_eq_some.mp stored.history).1 old member)

lemma VersionStored.grows (stored : VersionStored db rows time next) : db.Grows next := by
  refine ⟨fun _ _ _ found => find?_insert stored.versions found,
    fun _ _ _ found => find?_insert stored.validations found, fun _ _ _ found => ?_⟩
  have inserted := stored.compiled
  cases made : rows.compiled with
  | none =>
    rw [made] at inserted
    have same : next.compiled = db.compiled := (Except.ok.inj inserted).symm
    unfold getCompiledSnapshot at found ⊢
    rwa [same]
  | some row =>
    rw [made] at inserted
    exact find?_insert (insertRow_eq_ok.mp inserted) found

lemma getTopology_map {topologies : List (TopologyRow Clock)} {topologyId : String}
    {change : TopologyRow Clock → TopologyRow Clock}
    (kept : ∀ row, (change row).topologyId = row.topologyId) :
    (topologies.map change).find? (·.topologyId = topologyId) =
      (topologies.find? (·.topologyId = topologyId)).map change := by
  rw [find?_map]
  refine congrArg (Option.map change) (congrArg (List.find? · topologies) (funext fun row => ?_))
  rw [Function.comp_apply, kept]

lemma isSome_getTopology_upsert (topology : EnterpriseTopology) (topologyId : String) :
    (getTopology (upsertTopologyRecord db topology time) topologyId).isSome = true ↔
      (getTopology db topologyId).isSome = true ∨ topologyId = topology.id := by
  unfold upsertTopologyRecord
  split_ifs with fresh
  · unfold getTopology
    dsimp only
    rw [find?_append, find?_singleton, isSome_or, or_eq_true]
    refine or_congr_right ?_
    by_cases own : topology.id = topologyId
    · simp [own]
    · simp [own, Ne.symm own]
  · unfold getTopology at fresh ⊢
    dsimp only
    rw [getTopology_map fun row => by split_ifs <;> rfl, isSome_map]
    refine (or_iff_left_of_imp ?_).symm
    rintro rfl
    exact isSome_iff_ne_none.mpr fun none => fresh (isNone_iff_eq_none.mpr none)

end Store

/-! ## What an operation does -/

section Steps

variable {platform : RegistryPlatform}

/-- What the operations other than an append do: nothing, one more record of the
history, or that and a change of the topologies. -/
inductive RegistryEffect {Result : Type} (history : Result → Option (HistoryRow Clock))
    (blocked : Result → Bool) (db : RegistryDb Clock) :
    Except RegistryError Result × RegistryDb Clock → Prop
  | failed (error : RegistryError) : RegistryEffect history blocked db (.error error, db)
  | unrecorded {result : Result} (none : history result = none) :
    RegistryEffect history blocked db (.ok result, db)
  | recorded {result : Result} {row : HistoryRow Clock} (record : history result = some row) :
    RegistryEffect history blocked db (.ok result, { db with history := db.history ++ [row] })
  | updated {result : Result} {row : HistoryRow Clock}
    {change : TopologyRow Clock → TopologyRow Clock} (record : history result = some row)
    (accepted : blocked result = false)
    (kept : ∀ topology, (change topology).topologyId = topology.topologyId)
    (active : ∀ topology version, (change topology).activeVersion = some version →
      topology.activeVersion = some version ∨ Activatable db topology.topologyId version) :
    RegistryEffect history blocked db (.ok result, { db with
      topologies := db.topologies.map change, history := db.history ++ [row] })

def TopologyActivationResult.history : TopologyActivationResult Clock → Option (HistoryRow Clock)
  | .success result => some result.history
  | .blocked result => result.history

def TopologyActivationResult.isBlocked : TopologyActivationResult Clock → Bool
  | .success _ => false
  | .blocked _ => true

section Activation

variable {topologyId : String} {version : Int} {versionRecord : VersionRow Clock}
  {validationSnapshot : ValidationRow Clock} {compiledSnapshot : CompiledRow Clock}
  {rollback : Bool}

lemma blockedActivation_effect {reasonCode : ActivationReason} {issues : List ActivationIssue} :
    RegistryEffect history isBlocked db
      (blockedActivation platform db moment topologyId version versionRecord rollback reasonCode
        issues) := by
  unfold blockedActivation recordBlockedActivation
  cases moment.now with
  | none => exact .failed _
  | some time =>
    dsimp only
    split
    · exact .failed _
    · rename_i stored inserted
      obtain ⟨-, rfl⟩ := insertHistory_eq_ok.mp inserted
      exact .recorded rfl

lemma passedActivation_effect (activatable : Activatable db topologyId version)
    (owned : (getTopology db topologyId).isSome = true) :
    RegistryEffect history isBlocked db
      (passedActivation platform db moment topologyId version versionRecord validationSnapshot
        compiledSnapshot rollback) := by
  unfold passedActivation storeActivation
  cases moment.now with
  | none => exact .failed _
  | some time =>
    dsimp only
    split
    · exact .failed _
    · rename_i stored inserted
      obtain ⟨-, rfl⟩ := insertHistory_eq_ok.mp inserted
      obtain ⟨row, found⟩ := isSome_iff_exists.mp owned
      unfold getTopology at found ⊢
      rw [getTopology_map fun row => by split_ifs <;> rfl, found]
      refine .updated rfl rfl (fun row => by split_ifs <;> rfl) fun row number active => ?_
      split_ifs at active with own
      · cases active
        exact .inr (own ▸ activatable)
      · exact .inl active

lemma activateVersion_effect (sound : db.Sound) :
    RegistryEffect history isBlocked db
      (activateVersion platform db moment topologyId version rollback) := by
  unfold activateVersion
  split_ifs
  · exact .failed _
  · split
    · exact .unrecorded rfl
    · rename_i versionRecord found
      split
      · exact blockedActivation_effect
      · rename_i validationSnapshot validated
        split_ifs with executable
        · exact blockedActivation_effect
        · split
          · exact blockedActivation_effect
          · rename_i compiledSnapshot compiled
            split_ifs with matching
            · unfold compiledSnapshotMatchesTopologyVersion at matching
              simp only [and_eq_true, decide_eq_true_eq] at matching
              have row := find?_some found
              simp only [and_eq_true, decide_eq_true_eq] at row
              have owned := sound.owned versionRecord (mem_of_find?_eq_some found)
              rw [row.1] at owned
              exact passedActivation_effect ⟨versionRecord, validationSnapshot, compiledSnapshot,
                found, validated, not_eq_false _ |>.mp executable, compiled, matching.1.1,
                matching.1.2, matching.2⟩ owned
            · exact blockedActivation_effect

lemma archiveTopology_effect :
    RegistryEffect id (fun _ => false) db (archiveTopology platform db moment topologyId) := by
  unfold archiveTopology storeArchive
  split_ifs
  · exact .failed _
  · split
    · exact .unrecorded rfl
    · cases moment.now with
      | none => exact .failed _
      | some time =>
        dsimp only
        split
        · exact .failed _
        · rename_i stored inserted
          obtain ⟨-, rfl⟩ := insertHistory_eq_ok.mp inserted
          refine .updated rfl rfl (fun row => by split_ifs <;> rfl) fun row number active => ?_
          split_ifs at active <;> exact .inl active

end Activation

section Keeps

variable {Result : Type} {history : Result → Option (HistoryRow Clock)} {blocked : Result → Bool}
  {outcome : Except RegistryError Result × RegistryDb Clock}

section

variable (effect : RegistryEffect history blocked db outcome)
include effect

lemma RegistryEffect.sound (sound : db.Sound) : outcome.2.Sound := by
  cases effect with
  | failed => exact sound
  | unrecorded => exact sound
  | recorded => exact ⟨sound.numbered, sound.active, sound.owned⟩
  | updated record accepted kept active =>
    refine ⟨sound.numbered, fun row member version now => ?_, fun row member => ?_⟩
    · obtain ⟨before, original, rfl⟩ := mem_map.mp member
      rw [kept]
      rcases active before version now with still | activatable
      · exact sound.active before original version still
      · exact activatable
    · have owned := sound.owned row member
      unfold getTopology at owned ⊢
      dsimp only
      rwa [getTopology_map kept, isSome_map]

lemma RegistryEffect.versions : outcome.2.versions = db.versions := by
  cases effect <;> rfl

lemma RegistryEffect.topologies
    (refused : ∀ result, outcome.1 = .ok result → blocked result = true) :
    outcome.2.topologies = db.topologies := by
  cases effect with
  | failed => rfl
  | unrecorded => rfl
  | recorded => rfl
  | updated record accepted kept active => cases accepted.symm.trans (refused _ rfl)

lemma RegistryEffect.own {result : Result}
    {row : HistoryRow Clock} (returned : outcome.1 = .ok result) (record : history result = some row) :
    outcome.2.history = db.history ++ [row] := by
  cases effect with
  | failed => cases returned
  | unrecorded none =>
    cases returned
    cases none.symm.trans record
  | recorded own =>
    cases returned
    cases own.symm.trans record
    rfl
  | updated own accepted kept active =>
    cases returned
    cases own.symm.trans record
    rfl

end

end Keeps

/-! ## Appending -/

section Append

variable {input : AppendTopologyVersionInput} {time : Clock}

lemma versionNumbers_stored {rows : AppendedRows Clock} (stored : VersionStored db rows time next)
    (topologyId : String) : versionNumbers next topologyId = versionNumbers db topologyId ++
      if rows.version.topologyId = topologyId then [rows.version.version] else [] := by
  unfold versionNumbers
  rw [(insert_eq_some.mp stored.versions).2, filter_append, map_append]
  refine congrArg (_ ++ ·) ?_
  split_ifs with own
  · rw [filter_singleton, decide_eq_true own]
    rfl
  · rw [filter_singleton, decide_eq_false own]
    rfl

lemma active_of_upsert {topology : EnterpriseTopology} {row : TopologyRow Clock} {version : Int}
    (member : row ∈ (upsertTopologyRecord db topology time).topologies)
    (active : row.activeVersion = some version) :
    ∃ old ∈ db.topologies, old.topologyId = row.topologyId ∧ old.activeVersion = some version := by
  unfold upsertTopologyRecord at member
  split_ifs at member
  · rcases mem_append.mp member with old | fresh
    · exact ⟨row, old, rfl, active⟩
    · cases mem_singleton.mp fresh
      cases active
  · obtain ⟨old, original, rfl⟩ := mem_map.mp member
    refine ⟨old, original, ?_, ?_⟩
    · split_ifs <;> rfl
    · split_ifs at active <;> exact active

lemma isSome_getTopology_stored {rows : AppendedRows Clock}
    (stored : VersionStored db rows time next) (topologyId : String) :
    (getTopology next topologyId).isSome = true ↔
      (getTopology db topologyId).isSome = true ∨ topologyId = rows.topology.id := by
  rw [← @isSome_getTopology_upsert Clock db time]
  unfold getTopology
  rw [stored.topologies]

lemma VersionStored.sound
    (stored : VersionStored db (appendedRows platform db input moment time) time next)
    (sound : db.Sound) : next.Sound := by
  refine ⟨fun topologyId => ?_, fun row member version active => ?_, fun row member => ?_⟩
  · obtain ⟨count, numbers⟩ := sound.numbered topologyId
    rw [versionNumbers_stored stored, numbers]
    split_ifs with own
    · have number : (appendedRows platform db input moment time).version.version =
          nextVersion db (appendedRows platform db input moment time).version.topologyId := rfl
      refine ⟨count + 1, ?_⟩
      rw [number, own, nextVersion, numbers, nextNumber_upTo, upTo_succ]
    · exact ⟨count, append_nil _⟩
  · rw [stored.topologies] at member
    obtain ⟨old, original, id, still⟩ := active_of_upsert member active
    exact id ▸ (sound.active old original version still).grow stored.grows
  · rw [(insert_eq_some.mp stored.versions).2] at member
    rw [isSome_getTopology_stored stored]
    rcases mem_append.mp member with old | fresh
    · exact .inl (sound.owned row old)
    · cases mem_singleton.mp fresh
      exact .inr rfl

lemma readAppended_ok [LinearOrder Clock]
    (stored : VersionStored db (appendedRows platform db input moment time) time next) :
    ∃ result, readAppended next (appendedRows platform db input moment time) = .ok result ∧
      (listHistory next (appendedRows platform db input moment time).history.topologyId).head? =
        some result.history := by
  generalize same : appendedRows platform db input moment time = rows at stored
  have ids : rows.version.topologyId = rows.topology.id ∧
      rows.validation.topologyId = rows.version.topologyId ∧
      rows.validation.version = rows.version.version ∧
      rows.history.topologyId = rows.version.topologyId := by
    subst same
    exact ⟨rfl, rfl, rfl, rfl⟩
  obtain ⟨topologyRecord, recorded⟩ := isSome_iff_exists.mp
    ((isSome_getTopology_stored stored rows.version.topologyId).mpr (.inr ids.1))
  have version : getVersion next rows.version.topologyId rows.version.version =
      some rows.version := by
    refine find?_inserted stored.versions (fun old found => ?_) (by simp)
    simp only [and_eq_true, decide_eq_true_eq] at found
    simp [VersionRow.clash, found.1, found.2]
  have validation : getValidationSnapshot next rows.version.topologyId rows.version.version =
      some rows.validation := by
    refine find?_inserted stored.validations (fun old found => ?_)
      (by simp [ids.2.1, ids.2.2.1])
    simp only [and_eq_true, decide_eq_true_eq] at found
    simp [ValidationRow.clash, found.1, found.2, ids.2.1, ids.2.2.1]
  have listed : rows.history ∈ listHistory next rows.version.topologyId := by
    refine (mem_insertionSort _).mpr (mem_filter.mpr ⟨?_, decide_eq_true ids.2.2.2⟩)
    rw [(insert_eq_some.mp stored.history).2]
    exact mem_append_right _ (mem_singleton_self _)
  obtain ⟨history, rest, sorted⟩ := exists_cons_of_ne_nil (ne_nil_of_mem listed)
  have first : (listHistory next rows.version.topologyId).head? = some history := by
    rw [sorted]
    rfl
  refine ⟨⟨topologyRecord, rows.version, rows.validation, rows.compiled.bind fun _ =>
    getCompiledSnapshot next rows.version.topologyId rows.version.version, history⟩, ?_,
    ids.2.2.2 ▸ first⟩
  unfold readAppended
  dsimp only
  rw [recorded, version, validation, first]
  rfl

/-- An append fails before it stores anything, or stores its rows and returns the
first record of the history. -/
lemma appendTopologyVersion_cases [LinearOrder Clock] :
    (∃ error, appendTopologyVersion platform db input moment = (.error error, db) ∧
      (moment.writeAllowed = false ∨ ∀ time, moment.now = some time →
        (appendedRows platform db input moment time).Clashes db)) ∨
    ∃ time result next, moment.writeAllowed = true ∧ moment.now = some time ∧
      VersionStored db (appendedRows platform db input moment time) time next ∧
      appendTopologyVersion platform db input moment = (.ok result, next) ∧
      (listHistory next (appendedRows platform db input moment time).history.topologyId).head? =
        some result.history := by
  unfold appendTopologyVersion
  cases allowed : moment.writeAllowed with
  | false => exact .inl ⟨_, if_pos rfl, .inl rfl⟩
  | true =>
    rw [if_neg nofun]
    cases now : moment.now with
    | none => exact .inl ⟨_, rfl, .inr nofun⟩
    | some time =>
      dsimp only
      cases stores : storeVersion db (appendedRows platform db input moment time) time with
      | error error =>
        refine .inl ⟨error, rfl, .inr fun other same => ?_⟩
        cases same
        by_contra free
        obtain ⟨next, stored⟩ := @stored_of_not_clashes _ _ _ time free
        cases stores.symm.trans stored
      | ok next =>
        have stored := versionStored stores
        obtain ⟨result, read, first⟩ := readAppended_ok stored
        exact .inr ⟨time, result, next, rfl, rfl, stored, congrArg (·, next) read, first⟩

end Append

end Steps

/-! ## The order of the history -/

section Order

variable [LinearOrder Clock]

instance : Std.Total (@Precedes Clock _) where
  total first second := by
    rcases lt_trichotomy first.createdAt second.createdAt with before | same | after
    · exact .inr (.inl before)
    · rcases le_total first.historyId second.historyId with le | le
      · exact .inr (.inr ⟨same, le⟩)
      · exact .inl (.inr ⟨same.symm, le⟩)
    · exact .inl (.inl after)

instance : IsTrans (HistoryRow Clock) Precedes where
  trans first second third := by
    rintro (before | ⟨same, le⟩) (before' | ⟨same', le'⟩)
    · exact .inl (before'.trans before)
    · exact .inl (same' ▸ before)
    · exact .inl (same ▸ before')
    · exact .inr ⟨same'.trans same, le'.trans le⟩

lemma historyId_of_precedes {first second : HistoryRow Clock} (before : first.Precedes second)
    (after : second.Precedes first) : first.historyId = second.historyId := by
  rcases before with before | ⟨same, le⟩
  · rcases after with after | ⟨same, -⟩
    · exact absurd before after.asymm
    · exact absurd same before.ne'
  · rcases after with after | ⟨-, ge⟩
    · exact absurd same after.ne'
    · exact le_antisymm ge le

lemma head?_listHistory {row : HistoryRow Clock} (fresh : ∀ old ∈ db.history, row.clash old = false)
    (history : next.history = db.history ++ [row]) :
    (listHistory next row.topologyId).head? = some row ↔
      ∀ old ∈ db.history, old.topologyId = row.topologyId → row.Precedes old := by
  unfold listHistory
  rw [history, filter_append, filter_singleton, decide_eq_true rfl, cond_true]
  refine (head?_insertionSort_concat fun old member before after => ?_).trans ?_
  · have free := fresh old (mem_filter.mp member).1
    rw [clash, decide_eq_false_iff_not] at free
    exact (free (historyId_of_precedes after before)).elim
  · simp

end Order

/-! ## The theorem -/

section Registry

variable [LinearOrder Clock]

/-- Whether an activation was blocked. -/
def RegistryResult.isBlocked : RegistryResult Clock → Bool
  | .activation result => result.isBlocked
  | _ => false

def OwnRecordFirst (platform : RegistryPlatform) (db : RegistryDb Clock) (moment : Moment Clock) :
    RegistryOperation → Prop
  | .append input => ∀ time, moment.writeAllowed = true → moment.now = some time →
      ¬(appendedRows platform db input moment time).Clashes db →
      ∀ old ∈ db.history,
        old.topologyId = (appendedRows platform db input moment time).history.topologyId →
        (appendedRows platform db input moment time).history.Precedes old
  | _ => True

/-- What holds of an operation and what it leaves. -/
structure PerformSound (db : RegistryDb Clock)
    (outcome : Except RegistryError (RegistryResult Clock) × RegistryDb Clock) (own : Prop) :
    Prop where
  sound : outcome.2.Sound
  /-- Versions never change once stored. -/
  versions : ∀ topologyId version row, getVersion db topologyId version = some row →
    getVersion outcome.2 topologyId version = some row
  /-- An operation that fails or is blocked changes neither the record nor the versions. -/
  unchanged : (∀ result, outcome.1 = .ok result → result.isBlocked = true) →
    outcome.2.topologies = db.topologies ∧ outcome.2.versions = db.versions
  /-- The returned history record is the one that was stored. -/
  history : (∀ result row, outcome.1 = .ok result → result.history = some row →
    outcome.2.history = db.history ++ [row]) ↔ own

section Perform

variable {platform : RegistryPlatform}

omit [LinearOrder Clock] in
lemma RegistryEffect.performSound {Result : Type} {history : Result → Option (HistoryRow Clock)}
    {blocked : Result → Bool} {outcome : Except RegistryError Result × RegistryDb Clock}
    (effect : RegistryEffect history blocked db outcome) (sound : db.Sound)
    (wrap : Result → RegistryResult Clock) (histories : ∀ result, (wrap result).history = history result)
    (blocks : ∀ result, (wrap result).isBlocked = true → blocked result = true) :
    PerformSound db (outcome.map (·.map wrap) id) True := by
  have versions := effect.versions
  refine ⟨effect.sound sound, fun topologyId version row found => ?_, fun refused => ?_,
    iff_of_true (fun result row returned record => ?_) trivial⟩
  · unfold getVersion at found ⊢
    exact (congrArg (List.find? _) versions).trans found
  · refine ⟨effect.topologies fun result returned => blocks result (refused (wrap result) ?_),
      versions⟩
    exact congrArg (Except.map wrap) returned
  · obtain ⟨answer, made⟩ := outcome
    cases answer with
    | error error => cases returned
    | ok result =>
      cases returned
      exact effect.own rfl ((histories result).symm.trans record)

lemma append_performSound (sound : db.Sound) (input : AppendTopologyVersionInput) :
    PerformSound db (perform platform db moment (.append input))
      (OwnRecordFirst platform db moment (.append input)) := by
  unfold perform
  dsimp only
  rcases @appendTopologyVersion_cases Clock db moment platform input _ with
    ⟨error, failed, refused⟩ | ⟨time, result, next, allowed, now, stored, appended, first⟩
  · rw [failed]
    refine ⟨sound, fun _ _ _ found => found, fun _ => ⟨rfl, rfl⟩,
      iff_of_true (fun _ _ returned => by cases returned) fun time allowed now free => ?_⟩
    rcases refused with refused | refused
    · cases refused.symm.trans allowed
    · exact (free (refused time now)).elim
  · rw [appended]
    obtain ⟨fresh, history⟩ := insert_eq_some.mp stored.history
    refine ⟨stored.sound sound, stored.grows.version, fun refused => ?_, ?_⟩
    · cases refused (.appended result) rfl
    · have own : (∀ returned row, Except.map RegistryResult.appended (.ok result) =
          (.ok returned : Except RegistryError (RegistryResult Clock)) →
          returned.history = some row → next.history = db.history ++ [row]) ↔
          result.history = (appendedRows platform db input moment time).history := by
        constructor
        · intro own
          have same := history.symm.trans (own _ _ rfl rfl)
          exact (singleton_injective (append_cancel_left same)).symm
        · rintro same returned row ⟨⟩ ⟨⟩
          rw [history]
          exact congrArg (db.history ++ [·]) same.symm
      refine own.trans ?_
      rw [← some.injEq, ← first, head?_listHistory fresh history]
      constructor
      · intro precedes other _ same _
        cases now.symm.trans same
        exact precedes
      · intro precedes
        exact precedes time allowed now (not_clashes_of_stored stored)

lemma perform_sound (sound : db.Sound) (operation : RegistryOperation) :
    PerformSound db (perform platform db moment operation)
      (OwnRecordFirst platform db moment operation) := by
  cases operation with
  | append input => exact append_performSound sound input
  | activate topologyId version =>
    exact (activateVersion_effect sound).performSound sound .activation (fun result => by
      cases result <;> rfl) fun _ blocked => blocked
  | rollback topologyId targetVersion =>
    exact (activateVersion_effect sound).performSound sound .activation (fun result => by
      cases result <;> rfl) fun _ blocked => blocked
  | archive topologyId =>
    have effect : RegistryEffect id (fun _ => false) db
        (archiveTopology platform db moment topologyId) := archiveTopology_effect
    exact effect.performSound sound .archived (fun _ => rfl) fun _ blocked => blocked

omit [LinearOrder Clock] in
lemma empty_sound : ({} : RegistryDb Clock).Sound :=
  ⟨fun _ => ⟨0, rfl⟩, nofun,
    fun _ member => (not_mem_nil member).elim⟩

lemma RegistryRun.sound (run : RegistryRun platform db) : db.Sound := by
  induction run with
  | opened => exact empty_sound
  | @operation before run moment operation ih =>
    have performed : PerformSound before (perform platform before moment operation)
        (OwnRecordFirst platform before moment operation) := perform_sound ih operation
    exact performed.sound

end Perform

/-- After any operations, whatever the clock and the random ids: the tables are
sound, versions stay, an operation that fails or is blocked changes neither record
nor versions, and the record returned is the operation's own exactly under the
condition. -/
theorem registry_sound_iff (platform : RegistryPlatform) (db : RegistryDb Clock)
    (run : RegistryRun platform db) (moment : Moment Clock) (operation : RegistryOperation) :
    PerformSound db (perform platform db moment operation)
      (OwnRecordFirst platform db moment operation) :=
  perform_sound run.sound operation

end Registry

/-! ## A clock that goes back -/

def plainRegistry : RegistryPlatform :=
  { plainCompiler with
    hashText := id
    profile := fun _ => .null }

def leadInput : AppendTopologyVersionInput where
  topology := plainTopology [plainNode "lead" [] []] [] []

def momentAt (time : Int) (uuid : String) : Moment Int := ⟨true, some time, 0, uuid⟩

/-- The tables after a first append at time 2. -/
def firstDb : RegistryDb Int := (perform plainRegistry {} (momentAt 2 "a") (.append leadInput)).2

lemma firstDb_run : RegistryRun plainRegistry firstDb := .operation .opened _ _

/-- The same topology appended again, at a time. -/
def secondAppend (time : Int) : Except RegistryError (RegistryResult Int) × RegistryDb Int :=
  perform plainRegistry firstDb (momentAt time "b") (.append leadInput)

theorem registry_sound_second :
    PerformSound firstDb (secondAppend 3)
        (OwnRecordFirst plainRegistry firstDb (momentAt 3 "b") (.append leadInput)) ∧
      OwnRecordFirst plainRegistry firstDb (momentAt 3 "b") (.append leadInput) := by
  refine ⟨registry_sound_iff plainRegistry firstDb firstDb_run (momentAt 3 "b") (.append leadInput),
    ?_⟩
  rintro time - ⟨⟩ - old member -
  cases mem_singleton.mp member
  exact .inl (by decide)

/-- The second append returns the record of the first. -/
theorem append_returns_earlier_record :
    RegistryRun plainRegistry firstDb ∧ ∃ result row, (secondAppend 1).1 = .ok result ∧
      result.history = some row ∧ (secondAppend 1).2.history ≠ firstDb.history ++ [row] := by
  have returned : ((secondAppend 1).1.toOption.bind RegistryResult.history).map (·.toVersion) =
      some (some 1) := by
    decide
  have stored : (secondAppend 1).2.history.map (·.toVersion) = [some 1, some 2] := by
    decide
  refine ⟨firstDb_run, ?_⟩
  cases answer : (secondAppend 1).1 with
  | error error =>
    rw [answer] at returned
    cases returned
  | ok result =>
    rw [answer] at returned
    obtain ⟨row, record, version⟩ := map_eq_some_iff.mp returned
    refine ⟨result, row, rfl, record, fun own => ?_⟩
    rw [own, map_append] at stored
    have last := congrArg getLast? stored
    rw [map_singleton, getLast?_concat, version] at last
    exact absurd last (by decide)

end Knowbee.Topology
