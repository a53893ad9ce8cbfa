import Knowbee.Lib.Machine
import Knowbee.Work.Canonical

/-!
# Runs of the canonical work use case

Any number of callers load, decide and save in any order, and a call may be lost
before its save.  A stored aggregate is a chain of receipts along the table
(`Chained`), and every step leaves the rows as they are, creates one, or adds one
receipt to one (`step_rows`).
-/

namespace Knowbee.Work

open List Machine Function

/-! ## Chains of receipts -/

/-- Receipts that lead from a state to another along the edges of the table,
numbered from `index + 1` on. -/
def Chained : CanonicalWorkState → Nat → List CanonicalWorkTransitionReceipt →
    CanonicalWorkState → Prop
  | state, _, [], last => state = last
  | state, index, receipt :: rest, last =>
    receipt.revision = index + 1 ∧ receipt.previousState = state ∧
      canonicalWorkTransitions state receipt.event = some receipt.nextState ∧
      jsTrim receipt.receiptRef = receipt.receiptRef ∧ receipt.receiptRef ≠ "" ∧
      Chained receipt.nextState (index + 1) rest last

variable {index : Nat} {last state : CanonicalWorkState}
  {receipt : CanonicalWorkTransitionReceipt} {receipts : List CanonicalWorkTransitionReceipt}
  {workId : String} {aggregate : CanonicalWorkAggregate} {rows rows' : CanonicalWorkRows}
  {seen : WorkSeen} {system : WorkSystem}

lemma Chained.concat (chained : Chained state index receipts last)
    (numbered : receipt.revision = index + receipts.length + 1)
    (previous : receipt.previousState = last)
    (edge : canonicalWorkTransitions last receipt.event = some receipt.nextState)
    (trimmed : jsTrim receipt.receiptRef = receipt.receiptRef) (present : receipt.receiptRef ≠ "") :
    Chained state index (receipts ++ [receipt]) receipt.nextState := by
  induction receipts generalizing state index with
  | nil =>
    cases chained
    exact ⟨numbered, previous, edge, trimmed, present, rfl⟩
  | cons first rest ih =>
    obtain ⟨number, before, step, trim, named, onward⟩ := chained
    refine ⟨number, before, step, trim, named, ih onward ?_⟩
    rw [numbered, length_cons]
    omega

lemma replay_of_chained (chained : Chained state index receipts last) :
    replay state index receipts = .ok (last, receipts) := by
  induction receipts generalizing state index with
  | nil =>
    cases chained
    rfl
  | cons receipt rest ih =>
    obtain ⟨number, before, edge, trim, named, onward⟩ := chained
    have open_ : state ≠ .userReport := by
      rintro rfl
      rw [no_edge_of_userReport] at edge
      cases edge
    have accepted : transitionCanonicalWorkState state receipt.event receipt.receiptRef =
        .accepted state receipt.event receipt.nextState receipt.receiptRef := by
      rw [transitionCanonicalWorkState, trim, if_neg named, if_neg open_, edge]
    rw [replay, if_neg (by rw [number, before]; simp), accepted]
    dsimp only
    rw [if_neg (not_not.mpr rfl), ih onward]
    show Except.ok _ = _
    rw [← number, ← before]

lemma Chained.last_of_userReport {position : Nat} (chained : Chained state index receipts last)
    (found : receipts[position]? = some receipt) (final : receipt.nextState = .userReport) :
    position + 1 = receipts.length := by
  induction receipts generalizing state index position with
  | nil => cases found
  | cons first rest ih =>
    obtain ⟨-, -, -, -, -, onward⟩ := chained
    cases position with
    | succ position => exact congrArg (· + 1) (ih onward found)
    | zero =>
      cases found
      cases rest with
      | nil => rfl
      | cons second rest =>
        obtain ⟨-, -, edge, -⟩ := onward
        rw [final, no_edge_of_userReport] at edge
        cases edge

/-! ## Sound rows -/

/-- A row that the repository reads as it is. -/
structure SoundRow (workId : String) (row : CanonicalWorkAggregate) : Prop where
  identified : row.workId = workId
  named : jsTrim row.workId ≠ "" ∧ jsTrim row.rootRunId ≠ ""
  counted : row.transitions.length = row.revision
  safe : isSafeInteger row.revision = true
  chained : Chained .requestReceived 0 row.transitions row.state

lemma SoundRow.parseAggregate_eq {row : CanonicalWorkAggregate} (sound : SoundRow workId row) :
    parseAggregate row = .ok row := by
  rw [parseAggregate, if_neg (not_or.mpr sound.named), if_neg (not_not.mpr sound.safe),
    if_neg (not_not.mpr sound.counted), replay_of_chained sound.chained]
  dsimp only [bind, Except.bind]
  rw [if_neg (not_not.mpr rfl)]
  rfl

lemma parseAggregate_ok {row parsed : CanonicalWorkAggregate}
    (accepted : parseAggregate row = .ok parsed) :
    (jsTrim row.workId ≠ "" ∧ jsTrim row.rootRunId ≠ "") ∧ isSafeInteger row.revision = true ∧
      row.transitions.length = row.revision := by
  unfold parseAggregate at accepted
  by_cases blank : jsTrim row.workId = "" ∨ jsTrim row.rootRunId = ""
  · rw [if_pos blank] at accepted
    cases accepted
  rw [if_neg blank] at accepted
  by_cases safe : isSafeInteger row.revision
  swap
  · rw [if_pos safe] at accepted
    cases accepted
  rw [if_neg (not_not.mpr safe)] at accepted
  by_cases counted : row.transitions.length = row.revision
  swap
  · rw [if_pos counted] at accepted
    cases accepted
  exact ⟨not_or.mp blank, safe, counted⟩

/-! ## The use case -/

/-- The aggregate `next` is `current` with one more receipt. -/
structure Extends (current next : CanonicalWorkAggregate) : Prop where
  workId : next.workId = current.workId
  rootRunId : next.rootRunId = current.rootRunId
  revision : next.revision = current.revision + 1
  transitions : ∃ receipt : CanonicalWorkTransitionReceipt,
    next.transitions = current.transitions ++ [receipt] ∧ receipt.revision = next.revision ∧
      receipt.previousState = current.state ∧ receipt.nextState = next.state ∧
      canonicalWorkTransitions current.state receipt.event = some next.state ∧
      jsTrim receipt.receiptRef = receipt.receiptRef ∧ receipt.receiptRef ≠ ""

lemma Extends.sound {current next : CanonicalWorkAggregate} (extended : Extends current next)
    (sound : SoundRow workId current) (safe : isSafeInteger next.revision = true) :
    SoundRow workId next := by
  obtain ⟨receipt, transitions, number, previous, after, edge, trimmed, present⟩ :=
    extended.transitions
  refine ⟨extended.workId.trans sound.identified, ?_, ?_, safe, ?_⟩
  · rw [extended.workId, extended.rootRunId]
    exact sound.named
  · rw [transitions, length_append, sound.counted, extended.revision]
    rfl
  · rw [transitions, ← after]
    refine sound.chained.concat ?_ previous (after ▸ edge) trimmed present
    rw [number, extended.revision, sound.counted, Nat.zero_add]

lemma applyCanonicalWorkEvent_applied {next : CanonicalWorkAggregate}
    {expectedRevision : JsNumber} {event : CanonicalWorkEvent} {receiptRef : String}
    (applied : applyCanonicalWorkEvent aggregate expectedRevision event receiptRef =
      .ok (.applied next receipt)) :
    Extends aggregate next := by
  unfold applyCanonicalWorkEvent at applied
  cases checked : revision expectedRevision "Expected revision" with
  | error thrown =>
    rw [checked] at applied
    cases applied
  | ok expected =>
    rw [checked] at applied
    dsimp only [bind, Except.bind] at applied
    by_cases current : expected = aggregate.revision
    swap
    · rw [if_pos current] at applied
      cases applied
    rw [if_neg (not_not.mpr current)] at applied
    cases decision : transitionCanonicalWorkState aggregate.state event receiptRef with
    | refused state event reasonCode =>
      rw [decision] at applied
      cases applied
    | accepted previousState event' nextState receiptRef' =>
      rw [decision] at applied
      obtain ⟨rfl, rfl, rfl, present, -, edge⟩ := transition_accepted decision
      cases applied
      exact ⟨rfl, rfl, rfl, _, rfl, rfl, rfl, rfl, edge, jsTrim_jsTrim _, present⟩

/-- A call is answered without being applied, or it comes to its save with a receipt more
than what it loaded. -/
lemma decide_cases {current : Option CanonicalWorkAggregate}
    {input : CanonicalWorkTransitionUseCaseInput}
    {result : CanonicalWorkTransitionUseCaseResult ⊕ PendingSave}
    (decided : decideCanonicalWorkTransition current input = .ok result) :
    (∃ answer, result = .inl answer ∧ ∀ aggregate projection, answer ≠ .applied aggregate projection) ∨
      ∃ pending loaded, result = .inr pending ∧ current = some loaded ∧
        Extends loaded pending.aggregate ∧ pending.expectedRevision = loaded.revision := by
  cases current with
  | none =>
    cases decided
    exact .inl ⟨_, rfl, fun _ _ same => nomatch same⟩
  | some loaded =>
    rw [decideCanonicalWorkTransition] at decided
    by_cases own : loaded.workId = input.workId
    swap
    · rw [if_pos own] at decided
      cases decided
      exact .inl ⟨_, rfl, fun _ _ same => nomatch same⟩
    rw [if_neg (not_not.mpr own)] at decided
    cases applied : applyCanonicalWorkEvent loaded input.expectedRevision input.event
        input.receiptRef with
    | error thrown =>
      rw [applied] at decided
      cases decided
    | ok transition =>
      rw [applied] at decided
      cases transition with
      | staleRevision currentRevision =>
        cases decided
        exact .inl ⟨_, rfl, fun _ _ same => nomatch same⟩
      | refused reasonCode =>
        cases decided
        exact .inl ⟨_, rfl, fun _ _ same => nomatch same⟩
      | applied next receipt =>
        dsimp only at decided
        cases projected : projectCanonicalWorkStateToRunStatus next.state input.waitingKind
            input.finalOutcome with
        | error reasonCode =>
          rw [projected] at decided
          cases decided
          exact .inl ⟨_, rfl, fun _ _ same => nomatch same⟩
        | ok projection =>
          rw [projected] at decided
          cases decided
          exact .inr ⟨_, loaded, rfl, rfl, applyCanonicalWorkEvent_applied applied, rfl⟩

/-! ## The system -/

/-- The rows, and the calls that have come to their save. -/
structure WorkSystem where
  rows : CanonicalWorkRows
  calls : Nat → Option PendingSave

def WorkSystem.initial : WorkSystem := { rows := fun _ => none, calls := fun _ => none }

/-- What the callers do: create work, begin a call, save its result, or give it up. -/
inductive WorkStep where
  | create (workId rootRunId : String)
  | request (caller : Nat) (input : CanonicalWorkTransitionUseCaseInput)
  | save (caller : Nat)
  | lose (caller : Nat)

inductive WorkSeen where
  | created (workId : String)
  | notCreated
  | answered (workId : String) (result : CanonicalWorkTransitionUseCaseResult)
  | threw (message : String)
  | silent

def createStep (system : WorkSystem) (workId rootRunId : String) : WorkSystem × WorkSeen :=
  match createCanonicalWorkAggregate workId rootRunId with
  | .error message => (system, .threw message)
  | .ok aggregate =>
    match system.rows.create aggregate with
    | .error message => (system, .threw message)
    | .ok (rows, true) => ({ system with rows }, .created aggregate.workId)
    | .ok (_, false) => (system, .notCreated)

def requestStep (system : WorkSystem) (caller : Nat) (input : CanonicalWorkTransitionUseCaseInput) :
    WorkSystem × WorkSeen :=
  match system.rows.load input.workId with
  | .error message => (system, .threw message)
  | .ok current =>
    match decideCanonicalWorkTransition current input with
    | .error message => (system, .threw message)
    | .ok (.inl result) => (system, .answered input.workId result)
    | .ok (.inr pending) =>
      ({ system with calls := update system.calls caller (some pending) }, .silent)

def saveStep (system : WorkSystem) (caller : Nat) : WorkSystem × WorkSeen :=
  match system.calls caller with
  | none => (system, .silent)
  | some pending =>
    let calls := update system.calls caller none
    match system.rows.save pending.aggregate pending.expectedRevision with
    | .error message => ({ system with calls }, .threw message)
    | .ok (rows, answer) =>
      ({ rows, calls }, .answered pending.aggregate.workId (pending.answer answer))

def workStep (system : WorkSystem) : WorkStep → WorkSystem × WorkSeen
  | .create workId rootRunId => createStep system workId rootRunId
  | .request caller input => requestStep system caller input
  | .save caller => saveStep system caller
  | .lose caller => ({ system with calls := update system.calls caller none }, .silent)

def WorkSeen.isApplied : WorkSeen → Bool
  | .answered _ (.applied _ _) => true
  | _ => false

/-! ## What a step does -/

/-- What every step keeps: rows read as they are, and a call that waits for its
save holds the stored aggregate or an earlier revision of it. -/
structure WorkInvariant (system : WorkSystem) : Prop where
  rows : ∀ workId row, system.rows workId = some row → SoundRow workId row
  calls : ∀ caller pending, system.calls caller = some pending → ∃ workId loaded row,
    SoundRow workId loaded ∧ Extends loaded pending.aggregate ∧
      pending.expectedRevision = loaded.revision ∧ system.rows workId = some row ∧
      (row = loaded ∨ loaded.revision < row.revision)

/-- What becomes of the rows in a step with what is seen of it. -/
inductive RowsChange (rows : CanonicalWorkRows) : CanonicalWorkRows → WorkSeen → Prop where
  | none {seen : WorkSeen} (quiet : seen.isApplied = false) : RowsChange rows rows seen
  | created {aggregate : CanonicalWorkAggregate} (absent : rows aggregate.workId = .none)
      (sound : SoundRow aggregate.workId aggregate) (start : aggregate.transitions = []) :
      RowsChange rows (rows.write aggregate) (.created aggregate.workId)
  | extended {current next : CanonicalWorkAggregate} (projection : CanonicalRunStatusProjection)
      (stored : rows next.workId = some current) (extended : Extends current next)
      (sound : SoundRow next.workId next) :
      RowsChange rows (rows.write next) (.answered next.workId (.applied next projection))

lemma write_same (rows : CanonicalWorkRows) (row : CanonicalWorkAggregate) :
    rows.write row row.workId = some row := update_self ..

lemma write_other {row : CanonicalWorkAggregate} (other : workId ≠ row.workId) :
    rows.write row workId = rows workId :=
  update_of_ne other ..

lemma WorkInvariant.initial : WorkInvariant .initial := by
  constructor
  · intro workId row stored
    cases stored
  · intro caller pending waiting
    cases waiting

lemma RowsChange.rows_sound (change : RowsChange rows rows' seen)
    (before : ∀ workId row, rows workId = some row → SoundRow workId row) :
    ∀ workId row, rows' workId = some row → SoundRow workId row := by
  have written {next : CanonicalWorkAggregate} (sound : SoundRow next.workId next) :
      ∀ workId row, rows.write next workId = some row → SoundRow workId row := by
    intro workId row found
    by_cases own : workId = next.workId
    · subst own
      rw [write_same] at found
      cases found
      exact sound
    · exact before workId row ((write_other own).symm.trans found)
  cases change with
  | none quiet => exact before
  | created absent sound start => exact written sound
  | extended projection stored extended sound => exact written sound

lemma RowsChange.row (change : RowsChange rows rows' seen) {row : CanonicalWorkAggregate}
    (stored : rows workId = some row) :
    ∃ row', rows' workId = some row' ∧ (row' = row ∨ row.revision < row'.revision) ∧
      row.transitions <+: row'.transitions := by
  cases change with
  | none quiet => exact ⟨row, stored, .inl rfl, prefix_refl _⟩
  | @created aggregate absent sound start =>
    have other : workId ≠ aggregate.workId := by
      rintro rfl
      cases stored.symm.trans absent
    exact ⟨row, (write_other other).trans stored, .inl rfl, prefix_refl _⟩
  | @extended current next projection before extended sound =>
    by_cases own : workId = next.workId
    · subst own
      cases stored.symm.trans before
      obtain ⟨receipt, transitions, -⟩ := extended.transitions
      refine ⟨next, write_same .., .inr ?_, transitions ▸ prefix_append _ _⟩
      rw [extended.revision]
      exact Nat.lt_succ_self _
    · exact ⟨row, (write_other own).trans stored, .inl rfl, prefix_refl _⟩

lemma createStep_change (system : WorkSystem) (workId rootRunId : String) :
    RowsChange system.rows (createStep system workId rootRunId).1.rows
      (createStep system workId rootRunId).2 ∧
    (createStep system workId rootRunId).1.calls = system.calls := by
  unfold createStep
  cases made : createCanonicalWorkAggregate workId rootRunId with
  | error message => exact ⟨.none rfl, rfl⟩
  | ok aggregate =>
    dsimp only
    have fresh : aggregate.state = .requestReceived ∧ aggregate.revision = 0 ∧
        aggregate.transitions = [] := by
      unfold createCanonicalWorkAggregate at made
      cases named : required workId "Work ID" with
      | error message =>
        rw [named] at made
        cases made
      | ok name =>
        rw [named] at made
        dsimp only [bind, Except.bind] at made
        cases rooted : required rootRunId "Root run ID" with
        | error message =>
          rw [rooted] at made
          cases made
        | ok root =>
          rw [rooted] at made
          cases made
          exact ⟨rfl, rfl, rfl⟩
    obtain ⟨state, revision, transitions⟩ := fresh
    unfold CanonicalWorkRows.create
    cases parsed : parseAggregate aggregate with
    | error message => exact ⟨.none rfl, rfl⟩
    | ok checked =>
      obtain ⟨named, safe, counted⟩ := parseAggregate_ok parsed
      cases stored : system.rows aggregate.workId with
      | some row =>
        simp only [bind, Except.bind, pure, Except.pure, revision, state, ne_eq, not_true_eq_false,
          or_self, ↓reduceIte, and_true]
        exact .none rfl
      | none =>
        simp only [bind, Except.bind, pure, Except.pure, revision, state, ne_eq, not_true_eq_false,
          or_self, ↓reduceIte, and_true]
        refine .created stored ⟨rfl, named, counted, safe, ?_⟩ transitions
        rw [transitions, state]
        rfl

lemma load_eq (sound : ∀ workId row, rows workId = some row → SoundRow workId row)
    (workId : String) : rows.load workId = .ok (rows workId) := by
  unfold CanonicalWorkRows.load
  cases stored : rows workId with
  | none => rfl
  | some row =>
    dsimp only
    rw [(sound workId row stored).parseAggregate_eq]
    rfl

lemma save_eq {expectedRevision : Nat} {answer : SaveAnswer}
    (saved : rows.save aggregate expectedRevision = .ok (rows', answer)) :
    (rows' = rows ∧ ∃ currentRevision, answer = .revisionConflict currentRevision) ∨
      ∃ row, rows aggregate.workId = some row ∧ row.revision = expectedRevision ∧
        rows' = rows.write { aggregate with rootRunId := row.rootRunId } ∧ answer = .saved ∧
        isSafeInteger aggregate.revision = true := by
  unfold CanonicalWorkRows.save at saved
  cases parsed : parseAggregate aggregate with
  | error message =>
    rw [parsed] at saved
    cases saved
  | ok checked =>
    rw [parsed] at saved
    dsimp only [bind, Except.bind] at saved
    by_cases next : aggregate.revision = expectedRevision + 1
    swap
    · rw [if_pos next] at saved
      cases saved
    rw [if_neg (not_not.mpr next)] at saved
    cases stored : rows aggregate.workId with
    | none =>
      rw [stored] at saved
      cases saved
      exact .inl ⟨rfl, _, rfl⟩
    | some row =>
      rw [stored] at saved
      dsimp only at saved
      by_cases current : row.revision = expectedRevision
      · rw [if_pos current] at saved
        cases saved
        exact .inr ⟨row, rfl, current, rfl, rfl, (parseAggregate_ok parsed).2.1⟩
      · rw [if_neg current] at saved
        cases saved
        exact .inl ⟨rfl, _, rfl⟩

lemma saveStep_change (inv : WorkInvariant system) (caller : Nat) :
    RowsChange system.rows (saveStep system caller).1.rows (saveStep system caller).2 ∧
      ∀ other pending, (saveStep system caller).1.calls other = some pending →
        system.calls other = some pending := by
  have forgotten : ∀ other pending, update system.calls caller none other = some pending →
      system.calls other = some pending := by
    intro other pending found
    by_cases own : other = caller
    · subst own
      rw [update_self] at found
      cases found
    · rwa [update_of_ne own] at found
  unfold saveStep
  cases waiting : system.calls caller with
  | none => exact ⟨.none rfl, fun _ _ found => found⟩
  | some pending =>
    obtain ⟨workId, loaded, row, sound, extended, expected, stored, order⟩ :=
      inv.calls caller pending waiting
    have name : pending.aggregate.workId = workId := extended.workId.trans sound.identified
    dsimp only
    cases saved : system.rows.save pending.aggregate pending.expectedRevision with
    | error message => exact ⟨.none rfl, forgotten⟩
    | ok result =>
      obtain ⟨rows', answer⟩ := result
      refine ⟨?_, forgotten⟩
      rcases save_eq saved with ⟨rfl, currentRevision, rfl⟩ | ⟨found, at_, current, rfl, rfl, safe⟩
      · exact .none rfl
      · -- the row of the expected revision is the one that was loaded
        have same : found = loaded := by
          have both : row = found := by
            rw [name, stored] at at_
            exact Option.some.inj at_
          rcases order with eq | later
          · exact both.symm.trans eq
          · rw [both, current, expected] at later
            exact absurd later (Nat.lt_irrefl _)
        subst same
        have kept : { pending.aggregate with rootRunId := found.rootRunId } = pending.aggregate := by
          rw [← extended.rootRunId]
        rw [kept]
        refine .extended pending.projection at_ extended ?_
        rw [name]
        exact extended.sound sound safe

lemma requestStep_change (inv : WorkInvariant system) (caller : Nat)
    (input : CanonicalWorkTransitionUseCaseInput) :
    RowsChange system.rows (requestStep system caller input).1.rows
        (requestStep system caller input).2 ∧
      (requestStep system caller input).1.rows = system.rows ∧
      ∀ other pending, (requestStep system caller input).1.calls other = some pending →
        system.calls other = some pending ∨ ∃ loaded, system.rows input.workId = some loaded ∧
          Extends loaded pending.aggregate ∧ pending.expectedRevision = loaded.revision := by
  unfold requestStep
  rw [load_eq inv.rows]
  dsimp only
  cases decided : decideCanonicalWorkTransition (system.rows input.workId) input with
  | error message => exact ⟨.none rfl, rfl, fun _ _ found => .inl found⟩
  | ok outcome =>
    rcases decide_cases decided with ⟨result, rfl, refuses⟩ | ⟨pending, loaded, rfl, extended⟩
    · refine ⟨.none ?_, rfl, fun _ _ found => .inl found⟩
      cases result with
      | applied aggregate projection => exact absurd rfl (refuses aggregate projection)
      | rejected reasonCode => rfl
      | conflict currentRevision => rfl
    · refine ⟨.none rfl, rfl, fun other waiting found => ?_⟩
      dsimp only at found
      by_cases own : other = caller
      · subst own
        rw [update_self] at found
        cases found
        exact .inr ⟨loaded, extended⟩
      · rw [update_of_ne own] at found
        exact .inl found

lemma step_rows (inv : WorkInvariant system) (step : WorkStep) :
    RowsChange system.rows (workStep system step).1.rows (workStep system step).2 := by
  cases step with
  | create workId rootRunId => exact (createStep_change system workId rootRunId).1
  | request caller input => exact (requestStep_change inv caller input).1
  | save caller => exact (saveStep_change inv caller).1
  | lose caller => exact .none rfl

lemma WorkInvariant.step (inv : WorkInvariant system) (step : WorkStep) :
    WorkInvariant (workStep system step).1 := by
  have change := step_rows inv step
  -- a call that waits already still holds the stored aggregate or an earlier one
  have stays : ∀ caller pending, system.calls caller = some pending → ∃ workId loaded row,
      SoundRow workId loaded ∧ Extends loaded pending.aggregate ∧
        pending.expectedRevision = loaded.revision ∧ (workStep system step).1.rows workId = some row ∧
        (row = loaded ∨ loaded.revision < row.revision) := by
    intro caller pending waiting
    obtain ⟨workId, loaded, row, sound, extended, expected, stored, order⟩ :=
      inv.calls caller pending waiting
    obtain ⟨row', stored', grown, -⟩ := change.row stored
    refine ⟨workId, loaded, row', sound, extended, expected, stored', ?_⟩
    rcases grown with rfl | grown
    · exact order
    · rcases order with rfl | order
      · exact .inr grown
      · exact .inr (order.trans grown)
  refine ⟨change.rows_sound inv.rows, ?_⟩
  cases step with
  | create workId rootRunId =>
    intro caller pending waiting
    exact stays caller pending ((createStep_change system workId rootRunId).2 ▸ waiting)
  | save caller =>
    intro other pending waiting
    exact stays other pending ((saveStep_change inv caller).2 other pending waiting)
  | lose caller =>
    intro other pending waiting
    refine stays other pending ?_
    by_cases own : other = caller
    · subst own
      cases (update_self ..).symm.trans waiting
    · exact (update_of_ne own ..).symm.trans waiting
  | request caller input =>
    intro other pending waiting
    obtain ⟨-, same, calls⟩ := requestStep_change inv caller input
    rcases calls other pending waiting with old | ⟨loaded, stored, extended, expected⟩
    · exact stays other pending old
    · exact ⟨input.workId, loaded, loaded, inv.rows _ _ stored, extended, expected,
        (congrFun same _).trans stored, .inl rfl⟩

/-! ## Runs -/

lemma workInvariant_run (steps : List WorkStep) : WorkInvariant (run workStep .initial steps) :=
  run_invariant (fun _ step inv => inv.step step) .initial steps

def revisionOf (rows : CanonicalWorkRows) (workId : String) : Nat :=
  (rows workId).elim 0 (·.revision)

def WorkSeen.applies (workId : String) : WorkSeen → Bool
  | .answered name (.applied _ _) => name = workId
  | _ => false

lemma RowsChange.revisionOf (change : RowsChange rows rows' seen) (workId : String) :
    revisionOf rows' workId = revisionOf rows workId + if seen.applies workId then 1 else 0 := by
  unfold Work.revisionOf
  cases change with
  | none quiet =>
    have other : seen.applies workId = false := by
      cases seen with
      | answered name result =>
        cases result with
        | applied aggregate projection => cases quiet
        | _ => rfl
      | _ => rfl
    rw [other]
    rfl
  | @created aggregate absent sound start =>
    by_cases own : workId = aggregate.workId
    · subst own
      rw [write_same, absent]
      have zero : aggregate.revision = 0 := by rw [← sound.counted, start, length_nil]
      exact zero
    · rw [write_other own]
      rfl
  | @extended current next projection stored extended sound =>
    by_cases own : workId = next.workId
    · subst own
      rw [write_same, stored]
      simp only [Option.elim_some, WorkSeen.applies, decide_true, if_true]
      exact extended.revision
    · have other : (WorkSeen.answered next.workId (.applied next projection)).applies workId =
          false := decide_eq_false fun same => own same.symm
      rw [write_other own, other]
      rfl

lemma revisionOf_run (inv : WorkInvariant system) (steps : List WorkStep) (workId : String) :
    revisionOf (run workStep system steps).rows workId =
      revisionOf system.rows workId +
        (trace workStep system steps).countP (·.applies workId) := by
  induction steps generalizing system with
  | nil => rfl
  | cons step rest ih =>
    rw [run, ih (inv.step step), (step_rows inv step).revisionOf workId, trace,
      countP_cons]
    omega

lemma transitions_run (inv : WorkInvariant system) (steps : List WorkStep)
    {row : CanonicalWorkAggregate} (stored : system.rows workId = some row) :
    ∃ row', (run workStep system steps).rows workId = some row' ∧
      row.transitions <+: row'.transitions := by
  induction steps generalizing system row with
  | nil => exact ⟨row, stored, prefix_refl _⟩
  | cons step rest ih =>
    obtain ⟨next, stored', -, grown⟩ := (step_rows inv step).row stored
    obtain ⟨last, found, grown'⟩ := ih (inv.step step) stored'
    exact ⟨last, found, grown.trans grown'⟩

/-- In every run, stored work is a chain of receipts along the table that ends with
a final report if it holds one, as many as its revision says and as callers were
answered; receipts are never taken back; and a step that is not answered with an
applied transition leaves all stored work as it is. -/
theorem canonical_work_history (steps : List WorkStep) :
    (∀ workId row, (run workStep .initial steps).rows workId = some row →
      row.revision = row.transitions.length ∧
      row.revision = (trace workStep .initial steps).countP (·.applies workId) ∧
      Chained .requestReceived 0 row.transitions row.state ∧
      (∀ position receipt, row.transitions[position]? = some receipt →
        receipt.nextState = .userReport → position + 1 = row.transitions.length) ∧
      ∀ more, ∃ row', (run workStep .initial (steps ++ more)).rows workId = some row' ∧
        row.transitions <+: row'.transitions) ∧
    ∀ step, RowsChange (run workStep .initial steps).rows
      (workStep (run workStep .initial steps) step).1.rows
      (workStep (run workStep .initial steps) step).2 := by
  have inv := workInvariant_run steps
  refine ⟨fun workId row stored => ?_, step_rows inv⟩
  have sound := inv.rows workId row stored
  refine ⟨sound.counted.symm, ?_, sound.chained, fun _ _ => sound.chained.last_of_userReport,
    fun more => ?_⟩
  · have counted := revisionOf_run .initial steps workId
    rw [revisionOf, stored] at counted
    exact counted.trans (Nat.zero_add _)
  · rw [run_append]
    exact transitions_run inv more stored

end Knowbee.Work
