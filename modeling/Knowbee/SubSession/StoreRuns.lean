import Knowbee.SubSession.LifecycleRuns
import Knowbee.SubSession.Store

/-!
# Runs of calls on one table

Every order of the operations of any number of calls.  As long as an insertion is refused only
where the key of its call is stored too, a handler is called only by a call that inserted its
record, once for a key and once for an id, and a call updates only that record
(`handlers_at_most_once`).
-/

namespace Knowbee

open List SubSessionStore RunSubSessions

variable {R : Type}

namespace SubSessionStore

/-- The call of this number inserted the record of this contract. -/
def Owns (store : SubSessionStore) (number : Nat) (contract : SubSessionContract) : Prop :=
  ∃ row ∈ store.table.rows, row.subSessionId = contract.subSessionId ∧
    row.idempotencyKey = contract.idempotencyKey ∧ row.createdBy = some number

def KeyStored (store : SubSessionStore) (contract : SubSessionContract) : Prop :=
  ∃ row ∈ store.table.rows, row.idempotencyKey = contract.idempotencyKey

def IdStored (store : SubSessionStore) (contract : SubSessionContract) : Prop :=
  ∃ row ∈ store.table.rows, row.subSessionId = contract.subSessionId

instance (store : SubSessionStore) (contract : SubSessionContract) :
    Decidable (store.KeyStored contract) :=
  inferInstanceAs (Decidable (∃ row ∈ store.table.rows, _))

instance (store : SubSessionStore) (contract : SubSessionContract) :
    Decidable (store.IdStored contract) :=
  inferInstanceAs (Decidable (∃ row ∈ store.table.rows, _))

/-- Every row is still there under its id and its key. -/
def Keeps (store after : SubSessionStore) : Prop :=
  ∀ row ∈ store.table.rows, ∃ row' ∈ after.table.rows,
    row'.subSessionId = row.subSessionId ∧ row'.idempotencyKey = row.idempotencyKey ∧
      row'.createdBy = row.createdBy

variable {store after : SubSessionStore} {number : Nat} {contract : SubSessionContract}

lemma Keeps.refl (store : SubSessionStore) : store.Keeps store :=
  fun row member => ⟨row, member, rfl, rfl, rfl⟩

lemma Keeps.trans {last : SubSessionStore} (first : store.Keeps after) (second : after.Keeps last) :
    store.Keeps last := by
  intro row member
  obtain ⟨row', member', id, key, creator⟩ := first row member
  obtain ⟨row'', member'', id', key', creator'⟩ := second row' member'
  exact ⟨row'', member'', id'.trans id, key'.trans key, creator'.trans creator⟩

lemma Owns.kept (owns : store.Owns number contract) (keeps : store.Keeps after) :
    after.Owns number contract := by
  obtain ⟨row, member, id, key, creator⟩ := owns
  obtain ⟨row', member', id', key', creator'⟩ := keeps row member
  exact ⟨row', member', id'.trans id, key'.trans key, creator'.trans creator⟩

lemma KeyStored.kept (stored : store.KeyStored contract) (keeps : store.Keeps after) :
    after.KeyStored contract := by
  obtain ⟨row, member, key⟩ := stored
  obtain ⟨row', member', -, key', -⟩ := keeps row member
  exact ⟨row', member', key'.trans key⟩

lemma eq_of_same {row other : DbRunSubSession} (here : row ∈ store.table.rows)
    (there : other ∈ store.table.rows)
    (same : row.subSessionId = other.subSessionId ∨ row.idempotencyKey = other.idempotencyKey) :
    row = other := by
  by_contra differ
  have apart : row.Apart other := store.table.apart.forall here there differ
  rcases same with id | key
  · exact apart.1 id
  · exact apart.2 key

lemma Owns.number_eq {number' : Nat} {contract' : SubSessionContract}
    (owns : store.Owns number contract) (owns' : store.Owns number' contract')
    (same : contract.subSessionId = contract'.subSessionId ∨
      contract.idempotencyKey = contract'.idempotencyKey) : number = number' := by
  obtain ⟨row, member, id, key, creator⟩ := owns
  obtain ⟨row', member', id', key', creator'⟩ := owns'
  have one : row = row' := by
    refine eq_of_same member member' (same.imp (fun same => ?_) fun same => ?_)
    · rw [id, id', same]
    · rw [key, key', same]
  subst one
  exact Option.some.inj (creator.symm.trans creator')

lemma found_of_keyStored (stored : store.KeyStored contract) :
    (store.table.getRunSubSessionByIdempotencyKey contract.idempotencyKey).isSome := by
  obtain ⟨row, member, key⟩ := stored
  exact find?_isSome.mpr ⟨row, member, decide_eq_true key⟩

lemma insert_cases (store : SubSessionStore) (contract : SubSessionContract) (number : Nat) :
    let result := store.table.insertRunSubSession contract number
    store.Keeps { store with table := result.2 } ∧
      ((result.1 = true ∧ Owns { store with table := result.2 } number contract) ∨
        (result.1 = false ∧ (store.IdStored contract ∨ store.KeyStored contract))) := by
  simp only [insertRunSubSession]
  split_ifs with free
  · refine ⟨fun row member => ⟨row, mem_append_left _ member, rfl, rfl, rfl⟩, .inl ⟨rfl, ?_⟩⟩
    exact ⟨_, mem_append_right _ (mem_singleton_self _), rfl, rfl, rfl⟩
  · refine ⟨Keeps.refl store, .inr ⟨rfl, ?_⟩⟩
    by_contra neither
    refine free fun other member => ⟨fun id => neither (.inl ⟨other, member, id⟩), fun key => ?_⟩
    exact neither (.inr ⟨other, member, key⟩)

lemma update_owned (owns : store.Owns number contract) (status : SubSessionStatus) :
    store.Keeps (store.update number contract status) ∧
      (store.update number contract status).invoked = store.invoked ∧
      ∀ entry ∈ (store.update number contract status).updated,
        entry ∈ store.updated ∨ entry = (number, some number) := by
  obtain ⟨mine, here, id, key, creator⟩ := owns
  unfold update updateRunSubSession
  split_ifs with updatable
  · refine ⟨fun row member => ?_, rfl, fun entry noted => ?_⟩
    · refine ⟨_, mem_map_of_mem member, updatedRow_subSessionId _ _ _, ?_⟩
      unfold updatedRow
      split_ifs with hit
      · have one : row = mine := eq_of_same member here (.inl (hit.trans id.symm))
        exact ⟨(one ▸ key).symm, rfl⟩
      · exact ⟨rfl, rfl⟩
    · refine (mem_append.mp noted).imp_right fun fresh => ?_
      obtain ⟨row, member, rfl⟩ := mem_map.mp fresh
      obtain ⟨found, hit⟩ := mem_filter.mp member
      have one : row = mine := eq_of_same found here (.inl ((of_decide_eq_true hit).trans id.symm))
      rw [one, creator]
  · exact ⟨Keeps.refl store, rfl, fun _ => .inl⟩

lemma write_owned (owns : store.Owns number contract) (before world : SubSessionWorld) :
    store.Keeps (store.write number contract before world) ∧
      (store.write number contract before world).invoked = store.invoked ∧
      ∀ entry ∈ (store.write number contract before world).updated,
        entry ∈ store.updated ∨ entry = (number, some number) := by
  unfold write
  generalize world.persisted.drop before.persisted.length = statuses
  induction statuses generalizing store with
  | nil => exact ⟨Keeps.refl store, rfl, fun _ => .inl⟩
  | cons status rest ih =>
    obtain ⟨keeps, same, noted⟩ := update_owned owns status
    obtain ⟨keeps', same', noted'⟩ := ih (owns.kept keeps)
    refine ⟨keeps.trans keeps', same'.trans same, fun entry member => ?_⟩
    rcases noted' entry member with earlier | fresh
    · exact noted entry earlier
    · exact .inr fresh

end SubSessionStore

/-- What a call has of the store: nothing yet, the knowledge that its key is
stored, or its own record. -/
inductive CallClaim where
  | entering
  | refused
  | owning (stage : CallStage)

namespace CallClaim

def next : CallClaim → (op : SubSessionOp) → SubSessionAns R op → CallClaim
  | .entering, .persistSubSession, .ok true => .owning (.starting .created)
  | .entering, .persistSubSession, .ok false => .refused
  | .owning stage, .runner op, ans => .owning (stage.next op ans)
  | claim, _, _ => claim

/-- Only the owner of a record goes past the insertion. -/
def may : CallClaim → SubSessionOp → Prop
  | .entering, .persistSubSession => True
  | .owning stage, .runner op => stage.may op
  | _, .loadSubSessionByIdempotencyKey => True
  | _, .appendReplayEvent => True
  | _, _ => False

/-- After a refused insertion a record is found. -/
def gets : CallClaim → (op : SubSessionOp) → SubSessionAns R op → Prop
  | .refused, .loadSubSessionByIdempotencyKey, answer => answer ≠ .ok none
  | .owning stage, .runner op, ans => stage.gets False False op ans
  | _, _, _ => True

end CallClaim

def claimRules (R : Type) : Rules RunSubSessionInput SubSessionOp (SubSessionAns R) CallClaim :=
  ⟨fun _ => .entering, CallClaim.next, CallClaim.may, CallClaim.gets⟩

namespace SubSessionRunner

open Throwing

abbrev AnyEnd {E : Type} (_ : CallClaim) (_ : E) : Prop := True

lemma replay_meets {claim : CallClaim} (status : SubSessionStatus)
    (may : claim.may .appendReplayEvent) :
    Meets (claimRules R) AnyEnd AnyEnd claim
      (replay status : SubSessionProg R (SubSessionOutcome R)) := by
  refine Meets.bind AnyEnd (Meets.attempt may fun recorded _ => ?_) fun _ _ _ => Meets.pure trivial
  cases recorded <;> trivial

lemma runRest_meets (hasModelSnapshot : Bool) :
    Meets (claimRules R) AnyEnd AnyEnd (.owning (.starting .created))
      (runRest hasModelSnapshot : SubSessionProg R (SubSessionOutcome R)) := by
  have inner : Prog.Obeys (claimRules R) (Ends AnyEnd AnyEnd) (.owning (.starting .created))
      ((runCreated hasModelSnapshot).run.embed SubSessionOp.runner fun _ ans => ans) := by
    refine Prog.Obeys.embed CallClaim.owning (fun _ _ may => may) (fun _ _ _ gets => gets)
      (fun _ _ _ => rfl) (fun _ result _ => ?_) (runCreated_meets hasModelSnapshot)
    cases result <;> trivial
  exact Meets.bind AnyEnd inner fun _ _ _ => Meets.pure trivial

lemma persistAndRun_meets (hasModelSnapshot : Bool) :
    Meets (claimRules R) AnyEnd AnyEnd .entering
      (persistAndRun hasModelSnapshot : SubSessionProg R (SubSessionOutcome R)) := by
  let claimed (claim : CallClaim) (inserted : Bool) : Prop :=
    claim = if inserted then .owning (.starting .created) else .refused
  refine Meets.bind claimed (Meets.attempt trivial fun answer _ => ?_) ?_
  · rcases answer with error | (_ | _) <;> trivial
  rintro _ inserted rfl
  cases inserted with
  | true => exact runRest_meets hasModelSnapshot
  | false =>
    -- the second load does not miss
    refine Meets.bind (fun claim found => claim = .refused ∧ found ≠ none)
      (Meets.attempt trivial fun answer gets => ?_) ?_
    · cases answer with
      | error error => trivial
      | ok found => exact ⟨rfl, fun missed => gets (congrArg Except.ok missed)⟩
    rintro _ (_ | status) ⟨rfl, found⟩
    · exact absurd rfl found
    · exact replay_meets status trivial

lemma runSubSession_meets (hasModelSnapshot : Bool) :
    Meets (claimRules R) AnyEnd AnyEnd .entering
      (runSubSession hasModelSnapshot : SubSessionProg R (SubSessionOutcome R)) := by
  refine Meets.bind (fun claim _ => claim = .entering) (Meets.attempt trivial fun answer _ => ?_) ?_
  · cases answer <;> trivial
  rintro _ (_ | status) rfl
  · exact persistAndRun_meets hasModelSnapshot
  · exact Meets.ite (fun _ => replay_meets status trivial) fun _ =>
      persistAndRun_meets hasModelSnapshot

end SubSessionRunner

namespace SubSessionStore

/-- The handler of the call was called. -/
def Invoked (store : SubSessionStore) (number : Nat) : Prop := number ∈ store.invoked.map Prod.fst

/-- Handlers were called once, by the owners of their records, and a call updated
only its own record. -/
structure Sound (store : SubSessionStore) (count : Nat) : Prop where
  owned : ∀ entry ∈ store.invoked, entry.1 < count ∧ store.Owns entry.1 entry.2
  once : (store.invoked.map Prod.fst).Nodup
  own : ∀ entry ∈ store.updated, entry.2 = some entry.1

/-- Nothing was called or updated but by this call, and no row was lost. -/
structure Moved (store after : SubSessionStore) (number : Nat) : Prop where
  keeps : store.Keeps after
  invoked : ∀ other, after.Invoked other → store.Invoked other ∨ other = number

variable {store after : SubSessionStore} {count number : Nat}

lemma Sound.quiet (sound : store.Sound count) (keeps : store.Keeps after)
    (same : after.invoked = store.invoked)
    (noted : ∀ entry ∈ after.updated, entry ∈ store.updated ∨ entry = (number, some number)) :
    after.Sound count ∧ store.Moved after number := by
  refine ⟨⟨fun entry member => ?_, same ▸ sound.once, fun entry member => ?_⟩, keeps, ?_⟩
  · obtain ⟨bound, owns⟩ := sound.owned entry (same ▸ member)
    exact ⟨bound, owns.kept keeps⟩
  · rcases noted entry member with earlier | rfl
    · exact sound.own entry earlier
    · rfl
  · intro other invoked
    rw [Invoked, same] at invoked
    exact .inl invoked

lemma Sound.invoke {contract : SubSessionContract} (sound : store.Sound count)
    (bound : number < count) (owns : store.Owns number contract) (fresh : ¬store.Invoked number) :
    let after := { store with invoked := store.invoked ++ [(number, contract)] }
    after.Sound count ∧ store.Moved after number := by
  refine ⟨⟨fun entry member => ?_, ?_, sound.own⟩, Keeps.refl store, fun other invoked => ?_⟩
  · rcases mem_append.mp member with earlier | last
    · exact sound.owned entry earlier
    · cases mem_singleton.mp last
      exact ⟨bound, owns⟩
  · rw [map_append, map_singleton, nodup_append]
    refine ⟨sound.once, nodup_singleton _, fun other member last here same => ?_⟩
    cases mem_singleton.mp here
    have mine : other = number := same
    exact fresh (mine ▸ member)
  · have member : other ∈ (store.invoked ++ [(number, contract)]).map Prod.fst := invoked
    rw [map_append, mem_append] at member
    exact member.imp_right fun last => mem_singleton.mp last

lemma Moved.refl (store : SubSessionStore) (number : Nat) : store.Moved store number :=
  ⟨Keeps.refl store, fun _ => .inl⟩

lemma Moved.trans {last : SubSessionStore} (first : store.Moved after number)
    (second : after.Moved last number) : store.Moved last number :=
  ⟨first.keeps.trans second.keeps, fun other invoked =>
    (second.invoked other invoked).elim (first.invoked other) .inr⟩

end SubSessionStore

lemma CallStage.starting_of_next {stage : CallStage} {op : RunnerOp} {ans : RunnerAns R op}
    {status : SubSessionStatus} (starting : stage.next op ans = .starting status) :
    ∃ before, stage = .starting before := by
  have of_changed {target : SubSessionStatus} (same : stage.changed target = .starting status) :
      ∃ before, stage = .starting before := by
    unfold CallStage.changed at same
    split_ifs at same
    cases stage with
    | starting before => exact ⟨before, rfl⟩
    | live => cases same
    | settled known => cases same
  unfold CallStage.next at starting
  split at starting
  · exact of_changed starting
  · cases stage with
    | starting before => exact ⟨before, rfl⟩
    | live => cases starting
    | settled known => cases starting
  · exact of_changed starting
  · exact of_changed starting
  · cases starting
  · exact of_changed starting
  · exact ⟨status, starting⟩

namespace CallClaim

def Holds (store : SubSessionStore) (number : Nat) (own : SubSessionOwn) : CallClaim → Prop
  | .entering => ¬store.Invoked number ∧ own.2.handlerCalled = false
  | .refused => store.KeyStored own.1 ∧ ¬store.Invoked number ∧ own.2.handlerCalled = false
  | .owning stage => store.Owns number own.1 ∧
      ∀ status, stage = .starting status → ¬store.Invoked number

variable {store after : SubSessionStore} {number other : Nat} {own : SubSessionOwn}
  {claim : CallClaim}

lemma Holds.moved (holds : claim.Holds store other own) (moved : store.Moved after number)
    (differ : other ≠ number) : claim.Holds after other own := by
  have uncalled fresh : ¬after.Invoked other := fun invoked =>
    (moved.invoked other invoked).elim fresh differ
  cases claim with
  | entering => exact ⟨uncalled holds.1, holds.2⟩
  | refused => exact ⟨holds.1.kept moved.keeps, uncalled holds.2.1, holds.2.2⟩
  | owning stage =>
    exact ⟨holds.1.kept moved.keeps, fun status starting => uncalled (holds.2 status starting)⟩

end CallClaim

def persisting (state : Calls SubSessionOp (SubSessionAns R)
      (Except ThrownError (SubSessionOutcome R)) SubSessionStore SubSessionOwn) :
    CallSystem.Event RunSubSessionInput (RunnerChoice R) → Option SubSessionContract
  | .enter _ => none
  | .proceed number _ =>
    match state.calls[number]? with
    | some ((contract, _), .call .persistSubSession _) => some contract
    | _ => none

/-- An insertion is refused only where the key of its call is stored. -/
def RefusedByKey (state : Calls SubSessionOp (SubSessionAns R)
      (Except ThrownError (SubSessionOutcome R)) SubSessionStore SubSessionOwn)
    (event : CallSystem.Event RunSubSessionInput (RunnerChoice R)) : Prop :=
  ∀ contract ∈ persisting state event,
    state.store.IdStored contract → state.store.KeyStored contract

instance (state : Calls SubSessionOp (SubSessionAns R)
      (Except ThrownError (SubSessionOutcome R)) SubSessionStore SubSessionOwn)
    (event : CallSystem.Event RunSubSessionInput (RunnerChoice R)) :
    Decidable (RefusedByKey state event) :=
  inferInstanceAs (Decidable (∀ contract ∈ persisting state event, _ → _))

lemma SubSessionWorld.meanwhile_quiet {world : SubSessionWorld} (choice : RunnerChoice R)
    (quiet : world.handlerCalled = false) :
    (world.meanwhile choice).persisted = world.persisted ∧
      (world.meanwhile choice).handlerCalled = false := by
  unfold SubSessionWorld.meanwhile
  induction choice.meanwhile generalizing world with
  | nil => exact ⟨rfl, quiet⟩
  | cons interference rest ih =>
    have same : (world.interfere interference).persisted = world.persisted ∧
        (world.interfere interference).handlerCalled = false := by
      cases interference with
      | abort => exact ⟨rfl, quiet⟩
      | emitProgress status updateFails =>
        have silent : ¬(world.handlerCalled = true ∧ status ≠ world.status) :=
          fun emits => Bool.false_ne_true (quiet ▸ emits.1)
        rw [SubSessionWorld.interfere, if_neg silent]
        exact ⟨rfl, quiet⟩
    obtain ⟨persisted, handlerCalled⟩ := ih same.2
    exact ⟨persisted.trans same.1, handlerCalled⟩

lemma CallStage.gets_free (stage : CallStage) (op : RunnerOp) (ans : RunnerAns R op) :
    stage.gets False False op ans := by
  cases op with
  | appendParentEvent place event => exact fun _ strict => strict.elim
  | recordLedgerEvent place event => exact fun _ strict => strict.elim
  | changeStatus target => exact fun _ _ _ works => works.elim
  | isParentCancelled => exact False.elim
  | enterCatch error => exact False.elim
  | readStatus => exact fun _ _ works => works.elim
  | _ => trivial

section Steps

variable {store : SubSessionStore} {count number : Nat} {contract : SubSessionContract}
  {world : SubSessionWorld} {choice : RunnerChoice R}

lemma persist_step (sound : store.Sound count) (uninvoked : ¬store.Invoked number)
    (quiet : world.handlerCalled = false)
    (agree : store.IdStored contract → store.KeyStored contract) :
    let result := handle choice number (store, contract, world) .persistSubSession
    result.2.1.Sound count ∧ store.Moved result.2.1 number ∧
      (CallClaim.entering.next .persistSubSession result.1).Holds result.2.1 number result.2.2 := by
  simp only [handle]
  cases choice.throws with
  | some error => exact ⟨sound, .refl store number, uninvoked, quiet⟩
  | none =>
    obtain ⟨keeps, inserted⟩ := store.insert_cases contract number
    obtain ⟨sound', moved⟩ : Sound _ count ∧ store.Moved _ number :=
      sound.quiet keeps rfl fun _ => .inl
    refine ⟨sound', moved, ?_⟩
    rcases inserted with ⟨made, owns⟩ | ⟨refused, stored⟩
    · simp only [made]
      exact ⟨owns, fun _ _ => uninvoked⟩
    · simp only [refused]
      have key : store.KeyStored contract := stored.elim agree id
      exact ⟨key.kept keeps, uninvoked, quiet⟩

lemma runner_step {stage : CallStage} {op : RunnerOp} (sound : store.Sound count)
    (bound : number < count) (owns : store.Owns number contract)
    (fresh : ∀ status, stage = .starting status → ¬store.Invoked number) (may : stage.may op) :
    let result := handle choice number (store, contract, world) (.runner op)
    result.2.1.Sound count ∧ store.Moved result.2.1 number ∧
      ((CallClaim.owning stage).next (.runner op) result.1).Holds result.2.1 number result.2.2 := by
  simp only [handle]
  generalize world.handle (choice.refusing ¬store.table.Updatable contract) op = answer
  obtain ⟨ans, world'⟩ := answer
  obtain ⟨keeps, same, noted⟩ := write_owned owns world world'
  obtain ⟨sound', moved⟩ := sound.quiet keeps same noted
  have fresh' (status : SubSessionStatus) (starting : stage = .starting status) :
      ¬(store.write number contract world world').Invoked number := by
    rw [Invoked, same]
    exact fresh status starting
  by_cases calls : op = .callHandler
  · subst calls
    obtain ⟨status, rfl⟩ := may
    obtain ⟨sound'', moved'⟩ := sound'.invoke bound (owns.kept keeps) (fresh' status rfl)
    exact ⟨sound'', moved.trans moved', (owns.kept keeps).kept moved'.keeps, nofun⟩
  · have silent : (store.write number contract world world').noteHandler number contract op =
        store.write number contract world world' := by
      cases op <;> first | rfl | exact absurd rfl calls
    rw [silent]
    refine ⟨sound', moved, owns.kept keeps, fun status starting => ?_⟩
    obtain ⟨before, was⟩ := CallStage.starting_of_next starting
    exact fresh' before was

end Steps

lemma claimRules_guards (R : Type) :
    (claimRules R).Guards (subSessionSystem R)
      (Throwing.Ends SubSessionRunner.AnyEnd SubSessionRunner.AnyEnd) RefusedByKey
      SubSessionStore.Sound (fun store number own claim => claim.Holds store number own) where
  program input := SubSessionRunner.runSubSession_meets input.hasModelSnapshot
  enter {store count input} sound := by
    refine ⟨⟨fun entry member => ?_, sound.once, sound.own⟩, fun invoked => ?_, rfl⟩
    · obtain ⟨bound, owns⟩ := sound.owned entry member
      exact ⟨Nat.lt_succ_of_lt bound, owns⟩
    · obtain ⟨entry, member, same⟩ := mem_map.mp invoked
      exact absurd (same ▸ (sound.owned entry member).1) (Nat.lt_irrefl _)
  call {state number own claim op next choice} sound bound found holds permits may := by
    obtain ⟨contract, world⟩ := own
    cases op with
    | loadSubSessionByIdempotencyKey =>
      refine ⟨?_, sound, by cases claim <;> exact holds, fun _ _ _ _ held => held⟩
      cases claim with
      | entering => trivial
      | owning stage => trivial
      | refused =>
        obtain ⟨row, same⟩ := Option.isSome_iff_exists.mp
          (SubSessionStore.found_of_keyStored holds.1)
        simp only [subSessionSystem, SubSessionStore.handle, same, throwOr]
        cases choice.throws <;> nofun
    | persistSubSession =>
      cases claim with
      | refused => exact may.elim
      | owning stage => exact may.elim
      | entering =>
        have agree : state.store.IdStored contract → state.store.KeyStored contract := by
          have next : persisting state (.proceed number choice) = some contract := by
            simp [persisting, found]
          exact permits contract next
        obtain ⟨sound', moved, holds'⟩ := persist_step sound holds.1 holds.2 agree
        exact ⟨trivial, sound', holds', fun _ _ _ differ held => held.moved moved differ⟩
    | appendReplayEvent =>
      refine ⟨by cases claim <;> trivial, sound, ?_, fun _ _ _ _ held => held⟩
      cases claim <;> exact holds
    | runner op =>
      cases claim with
      | entering => exact may.elim
      | refused => exact may.elim
      | owning stage =>
        obtain ⟨sound', moved, holds'⟩ := runner_step sound bound
          holds.1 holds.2 may
        refine ⟨stage.gets_free op _, sound', holds', fun _ _ _ differ held => ?_⟩
        exact held.moved moved differ
  after {state number own claim choice} sound bound holds _ := by
    obtain ⟨contract, world⟩ := own
    simp only [subSessionSystem, SubSessionStore.after]
    generalize (choice.refusing ¬state.store.table.Updatable contract) = choice
    have silent (quiet : world.handlerCalled = false) :
        state.store.write number contract world (world.meanwhile choice) = state.store := by
      rw [SubSessionStore.write, (world.meanwhile_quiet choice quiet).1, drop_length]
      rfl
    cases claim with
    | entering =>
      rw [silent holds.2]
      exact ⟨sound, ⟨holds.1, (world.meanwhile_quiet choice holds.2).2⟩, fun _ _ _ _ held => held⟩
    | refused =>
      rw [silent holds.2.2]
      refine ⟨sound, ⟨holds.1, holds.2.1, ?_⟩, fun _ _ _ _ held => held⟩
      exact (world.meanwhile_quiet choice holds.2.2).2
    | owning stage =>
      obtain ⟨keeps, same, noted⟩ :=
        SubSessionStore.write_owned holds.1 world (world.meanwhile choice)
      obtain ⟨sound', moved⟩ := sound.quiet keeps same noted
      refine ⟨sound', ⟨holds.1.kept keeps, fun status starting => ?_⟩, fun _ _ _ differ held => ?_⟩
      · rw [SubSessionStore.Invoked, same]
        exact holds.2 status starting
      · exact held.moved moved differ

/-- In every run in which an insertion is refused only where the key of its call is
stored, a handler is called only by a call that inserted its record, once for each
key and each id, and a call updates only the record that it inserted. -/
theorem handlers_at_most_once {table : RunSubSessions}
    {events : List (CallSystem.Event RunSubSessionInput (RunnerChoice R))}
    (along : Machine.Along (subSessionSystem R).step RefusedByKey
      (CallSystem.idle (start table)) events) :
    let store := ((subSessionSystem R).run (CallSystem.idle (start table)) events).store
    (∀ entry ∈ store.invoked, store.Owns entry.1 entry.2) ∧
      (store.invoked.map (·.2.idempotencyKey)).Nodup ∧
      (store.invoked.map (·.2.subSessionId)).Nodup ∧
      ∀ entry ∈ store.updated, entry.2 = some entry.1 := by
  intro store
  have start : (start table).Sound 0 := ⟨nofun, nodup_nil, nofun⟩
  have sound := ((claimRules_guards R).run (Rules.guarded_idle start) along).inv
  have apart (entry other : Nat × SubSessionContract) (here : entry ∈ store.invoked)
      (there : other ∈ store.invoked) (same : entry.2.subSessionId = other.2.subSessionId ∨
        entry.2.idempotencyKey = other.2.idempotencyKey) : entry = other := by
    have number : entry.1 = other.1 :=
      (sound.owned entry here).2.number_eq (sound.owned other there).2 same
    exact inj_on_of_nodup_map sound.once here there number
  have distinct : store.invoked.Nodup := sound.once.of_map
  refine ⟨fun entry member => (sound.owned entry member).2, ?_, ?_, sound.own⟩
  · exact distinct.map_on fun entry here other there key => apart entry other here there (.inr key)
  · exact distinct.map_on fun entry here other there id => apart entry other here there (.inl id)

namespace SubSessionRun

open LifecycleRun

def input (idempotencyKey : String) : RunSubSessionInput :=
  ⟨⟨"sub:1", "run:1", idempotencyKey⟩, true⟩

/-- Two calls one after the other, to their ends. -/
def twoCalls (first second : String) : List (CallSystem.Event RunSubSessionInput (RunnerChoice Unit)) :=
  .enter (input first) :: List.replicate 29 (.proceed 0 quiet) ++
    .enter (input second) :: List.replicate 30 (.proceed 1 quiet)

end SubSessionRun

open SubSessionRun in
theorem handlers_at_most_once_repeated :
    let store := ((subSessionSystem Unit).run
      (CallSystem.idle (start ⟨[], .nil⟩)) (twoCalls "key:1" "key:1")).store
    (∀ entry ∈ store.invoked, store.Owns entry.1 entry.2) ∧
      (store.invoked.map (·.2.idempotencyKey)).Nodup ∧
      (store.invoked.map (·.2.subSessionId)).Nodup ∧
      ∀ entry ∈ store.updated, entry.2 = some entry.1 :=
  handlers_at_most_once (by decide)

open SubSessionRun in
/-- A second call for the same sub-session under another key calls its handler too
and updates the record that the first inserted. -/
theorem colliding_id_runs_twice :
    let store := ((subSessionSystem Unit).run
      (CallSystem.idle (start ⟨[], .nil⟩)) (twoCalls "key:1" "key:2")).store
    store.invoked.map (·.2.subSessionId) = ["sub:1", "sub:1"] ∧ (1, some 0) ∈ store.updated ∧
      store.table.rows.map (·.createdBy) = [some 0] := by
  decide +kernel

end Knowbee
