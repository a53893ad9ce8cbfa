import Knowbee.SideEffect.ExecutorRuns

/-!
# Calls of the side-effect use case

Any number of callers reserve operations and move them, with receipts and revisions of their
choice, each call taking its steps at the repository between those of others.  Every operation
stays a record of what moved it: its transitions lead from the reservation to its state, and each
has a receipt that was made for it (`operations_sound`).
-/

namespace Knowbee

open List SideEffectStore

/-! ## Records of transitions -/

/-- The transitions lead from the first state to the second by the table. -/
def Composes (state : SideEffectOperationState) :
    List SideEffectOperationTransitionRecord → SideEffectOperationState → Prop
  | [], final => state = final
  | item :: rest, final => item.previousState = state ∧
      state.after item.event = some item.nextState ∧ Composes item.nextState rest final

def SideEffectOperationTransitionRecord.Settles (item : SideEffectOperationTransitionRecord) :
    Prop :=
  item.event = .recordEffect ∨ item.event = .requestCancel

/-- What an operation and the receipts beside it say of each other. -/
structure SideEffectStore.Sound (store : SideEffectStore)
    (aggregate : SideEffectOperationAggregate) : Prop where
  counted : aggregate.revision = aggregate.transitions.length
  numbered (index : Nat) (item : SideEffectOperationTransitionRecord) :
    aggregate.transitions[index]? = some item → item.revision = index + 1
  composes : Composes .reserved aggregate.transitions aggregate.state
  unlocked (item : SideEffectOperationTransitionRecord) :
    item ∈ aggregate.transitions → item.previousState.isTerminal = false
  receipted (item : SideEffectOperationTransitionRecord) : item ∈ aggregate.transitions →
    ∃ receipt, store.receipts.get? receipt.receiptId = some receipt ∧
      jsTrim receipt.receiptId = item.receiptRef ∧
      validateSideEffectOperationReceipt receipt aggregate.identity item.event item.revision = true

section

variable {state final next : SideEffectOperationState} {event : SideEffectOperationEvent}
  {front back transitions : List SideEffectOperationTransitionRecord}
  {item : SideEffectOperationTransitionRecord}

lemma Composes.append : Composes state (front ++ back) final ↔
    ∃ middle, Composes state front middle ∧ Composes middle back final := by
  induction front generalizing state with
  | nil => simp [Composes]
  | cons item rest ih => simp [cons_append, Composes, ih, exists_and_left, and_assoc]

lemma Composes.concat (composes : Composes state transitions final)
    (after : final.after event = some next) (revision : Nat) (receiptRef : String) :
    Composes state (transitions ++ [⟨revision, final, event, next, receiptRef⟩]) next :=
  Composes.append.mpr ⟨final, composes, rfl, after, rfl⟩

/-- The states that an operation is in once an effect was recorded or its
cancellation was asked for. -/
def SideEffectOperationState.isSettled : SideEffectOperationState → Bool
  | .reserved => false
  | .effectStarted => false
  | .effectRejected => false
  | _ => true

lemma settled_after (after : state.after event = some next) (settled : next.isSettled = true) :
    event = .recordEffect ∨ event = .requestCancel ∨ state.isSettled = true := by
  cases state <;> cases event <;> cases after <;> first | decide | cases settled

lemma verifying_of_after (after : state.after event = some .verified) : state = .verifying := by
  cases state <;> cases event <;> first | rfl | cases after

lemma Composes.settles (composes : Composes state transitions final)
    (fresh : state.isSettled = false) (settled : final.isSettled = true) :
    ∃ item ∈ transitions, item.Settles := by
  induction transitions generalizing state with
  | nil =>
    subst composes
    rw [fresh] at settled
    cases settled
  | cons item rest ih =>
    obtain ⟨-, after, onward⟩ := composes
    cases reached : item.nextState.isSettled with
    | false =>
      obtain ⟨later, member, settles⟩ := ih onward reached
      exact ⟨later, mem_cons_of_mem _ member, settles⟩
    | true =>
      rcases settled_after after reached with effect | cancel | before
      · exact ⟨item, mem_cons_self, .inl effect⟩
      · exact ⟨item, mem_cons_self, .inr cancel⟩
      · rw [fresh] at before
        cases before

/-- A transition to the verified state comes after one that recorded an effect
or asked for the operation to be cancelled. -/
lemma Composes.settles_before (composes : Composes .reserved (front ++ item :: back) final)
    (verified : item.nextState = .verified) : ∃ earlier ∈ front, earlier.Settles := by
  obtain ⟨middle, before, -, after, -⟩ := Composes.append.mp composes
  rw [verified] at after
  rw [verifying_of_after after] at before
  exact before.settles rfl rfl

end

/-! ## The calls -/

namespace SideEffectCalls

open SideEffectExecutors (World Ports handle)

variable {Tid : Type}

inductive Call where
  | reserve (identity : SideEffectOperationIdentity)
  | transition (operationId scopeId : String) (expectedRevision : Nat)
      (event : SideEffectOperationEvent) (receipt : SideEffectOperationReceipt)

inductive Outcome where
  | reserve (result : ReserveSideEffectOperationResult)
  | transition (result : TransitionSideEffectOperationResult)

def perform : Call → SideEffectProg Unit Outcome
  | .reserve identity => do
    return .reserve (← reserveSideEffectOperation identity)
  | .transition operationId scopeId expectedRevision event receipt => do
    return .transition
      (← transitionReservedSideEffectOperation operationId scopeId expectedRevision event receipt)

/-- Calls over a repository that outlives them. -/
def calls : Process Call (SideEffectStep Unit) (SideEffectStep.Answer Unit) Outcome World
    (Ports Unit) Unit where
  program := perform
  handle := handle
  fail := fun _ world => world

abbrev CallPool (Tid : Type) : Type :=
  Pool Tid Call (SideEffectStep Unit) (SideEffectStep.Answer Unit) Outcome World

def idle : CallPool Tid := Process.idle ⟨.empty, []⟩

/-! ## The discipline of a call -/

structure Moves (current aggregate : SideEffectOperationAggregate) (expectedRevision : Nat)
    (receipt : SideEffectOperationReceipt) : Prop where
  level : current.revision = expectedRevision
  moved : ∃ event nextState, current.state.after event = some nextState ∧
    current.state.isTerminal = false ∧
    validateSideEffectOperationReceipt receipt current.identity event (current.revision + 1) ∧
    aggregate = { current with
      state := nextState
      revision := current.revision + 1
      transitions := current.transitions ++
        [⟨current.revision + 1, current.state, event, nextState, jsTrim receipt.receiptId⟩] }

/-- What was called, the operation that was loaded last and the identity that one
was created for. -/
structure Summary where
  call : Call
  loaded : Option SideEffectOperationAggregate
  made : Option SideEffectOperationIdentity

def rules : Rules Call (SideEffectStep Unit) (SideEffectStep.Answer Unit) Summary where
  start call := ⟨call, none, none⟩
  next
    | g, .loadByScope _, .ok found => { g with loaded := found }
    | g, .create aggregate, created =>
      if created then { g with made := some aggregate.identity } else g
    | g, _, _ => g
  may
    | _, .loadByScope _ => True
    | _, .create aggregate => aggregate = ⟨aggregate.identity, .reserved, 0, []⟩
    | _, .loadReceipt _ => True
    | g, .saveTransition aggregate expectedRevision receipt =>
      ∃ current, g.loaded = some current ∧ Moves current aggregate expectedRevision receipt
    | _, _ => False
  gets _ _ _ := True

lemma summary_call (thread : Thread Call (SideEffectStep Unit) (SideEffectStep.Answer Unit)
    Outcome) : (rules.summary thread).call = thread.job := by
  obtain ⟨job, past, prog⟩ := thread
  induction past with
  | nil => rfl
  | cons answered past ih =>
    obtain ⟨op, ans⟩ := answered
    rw [Rules.summary_cons rules job op ans past prog prog]
    cases op with
    | create aggregate =>
      simp only [rules]
      split_ifs <;> exact ih
    | loadByScope scopeId => cases ans <;> exact ih
    | _ => exact ih

/-- The call was answered with an operation, new or not. -/
def Grants (outcome : Outcome) (aggregate : SideEffectOperationAggregate) : Prop :=
  outcome = .reserve (.reserved aggregate) ∨ outcome = .reserve (.existing aggregate)

/-- A reservation is answered with the operation it created or loaded, which has
the identity that was called with. -/
def Answers (g : Summary) (outcome : Outcome) : Prop :=
  ∀ aggregate, Grants outcome aggregate → g.call = .reserve aggregate.identity ∧
    (g.loaded = some aggregate ∨ g.made = some aggregate.identity)

variable {g : Summary}

variable {current aggregate : SideEffectOperationAggregate} {expectedRevision : Nat}
  {receipt : SideEffectOperationReceipt} {store : SideEffectStore}

lemma saveTransition_obeys {event : SideEffectOperationEvent} (loaded : g.loaded = some current) :
    (saveSideEffectTransition (T := Unit) current expectedRevision event receipt).Obeys rules
      (fun _ _ => True) g := by
  unfold saveSideEffectTransition
  refine .ite (fun _ => trivial) fun level => .ite (fun _ => trivial) fun valid => ?_
  rcases decided : transitionSideEffectOperation current.state event receipt.receiptId with
    ⟨previousState, decided_event, nextState, receiptRef⟩ | ⟨state, refused, reasonCode⟩
  · obtain ⟨rfl, after⟩ := transition_accepted decided
    obtain ⟨unlocked, rfl, rfl⟩ := transition_moves decided
    have moves := Moves.mk (not_not.mp level)
      ⟨decided_event, nextState, after, unlocked, not_not.mp valid, rfl⟩
    refine ⟨⟨current, loaded, moves⟩, fun result _ => ?_⟩
    cases result <;> exact trivial
  · exact trivial

lemma transitionReserved_obeys {operationId scopeId : String} {event : SideEffectOperationEvent} :
    (transitionReservedSideEffectOperation (T := Unit) operationId scopeId expectedRevision event
      receipt).Obeys rules (fun _ _ => True) g := by
  unfold transitionReservedSideEffectOperation
  refine Prog.Obeys.perform trivial fun found _ => ?_
  rcases found with message | _ | current
  · exact trivial
  · exact trivial
  · have saves : (saveSideEffectTransition (T := Unit) current expectedRevision event receipt).Obeys
        rules (fun _ _ => True) { g with loaded := some current } :=
      saveTransition_obeys (g := { g with loaded := some current }) rfl
    refine .ite (fun _ => trivial) fun _ => .ite (fun _ => ?_) fun _ => saves
    refine Prog.Obeys.perform trivial fun persisted _ => ?_
    cases persisted with
    | error message => exact trivial
    | ok persisted => exact .ite (fun _ => .ite (fun _ => trivial) fun _ => trivial) fun _ => saves

lemma grants_reserved {aggregate' : SideEffectOperationAggregate}
    (grants : Grants (.reserve (.reserved aggregate)) aggregate') : aggregate' = aggregate := by
  rcases grants with same | other
  · cases same
    rfl
  · cases other

lemma grants_existing {aggregate' : SideEffectOperationAggregate}
    (grants : Grants (.reserve (.existing aggregate)) aggregate') : aggregate' = aggregate := by
  rcases grants with other | same
  · cases other
  · cases same
    rfl

lemma grants_rejected {reasonCode : ReserveRefusal} :
    ¬Grants (.reserve (.rejected reasonCode)) aggregate := by
  rintro (other | other) <;> cases other

lemma reserve_obeys {identity : SideEffectOperationIdentity} (called : g.call = .reserve identity) :
    (reserveSideEffectOperation (T := Unit) identity).Obeys rules
      (fun g' result => Answers g' (.reserve result)) g := by
  have existing current (same : current.identity = identity) :
      Answers { g with loaded := some current } (.reserve (.existing current)) := by
    intro aggregate grants
    rw [grants_existing grants]
    exact ⟨same ▸ called, .inl rfl⟩
  have rejected g' reasonCode :
      Answers g' (.reserve (.rejected reasonCode)) :=
    fun _ grants => absurd grants grants_rejected
  have threw g' message : Answers g' (.reserve (.threw message)) := by
    rintro aggregate (other | other) <;> cases other
  unfold reserveSideEffectOperation
  refine Prog.Obeys.perform trivial fun found _ => ?_
  rcases found with message | _ | current
  · exact threw _ _
  · refine Prog.Obeys.perform rfl fun created _ => .ite (fun new => ?_) fun old => ?_
    · intro aggregate grants
      rw [grants_reserved grants]
      simp only [rules, new, if_true]
      exact ⟨called, .inr trivial⟩
    · refine Prog.Obeys.perform trivial fun raced _ => ?_
      simp only [rules, if_neg old]
      rcases raced with message | _ | raced
      · exact threw _ _
      · exact rejected _ _
      · exact .ite (fun same => existing raced same) fun _ => rejected _ _
  · exact .ite (fun same => existing current same) fun _ => rejected _ _

lemma perform_obeys (call : Call) : (perform call).Obeys rules Answers (rules.start call) := by
  cases call with
  | reserve identity => exact Prog.Obeys.bind _ (reserve_obeys rfl) fun g result answers => answers
  | transition operationId scopeId expectedRevision event receipt =>
    refine Prog.Obeys.bind _ transitionReserved_obeys fun g result _ aggregate grants => ?_
    rcases grants with other | other <;> cases other

/-! ## The invariant -/

/-- The store has an operation of the identity. -/
def Held (store : SideEffectStore) (identity : SideEffectOperationIdentity) : Prop :=
  ∃ row, store.operations.get? identity.scopeId = some row ∧ row.identity.tidy = identity.tidy

/-- The operation is one that the store has or had: what is stored for its scope
has gone on from it. -/
def Recalled (store : SideEffectStore) (current : SideEffectOperationAggregate) : Prop :=
  ∃ row, store.operations.get? current.identity.scopeId = some row ∧
    row.identity.tidy = current.identity ∧ current.transitions <+: row.transitions ∧
    store.Sound current

structure Safe (world : World) (returned : List (Call × Outcome)) (gs : Tid → Option Summary) :
    Prop where
  rows (scope : String) (row : SideEffectOperationAggregate) :
    world.store.operations.get? scope = some row →
      row.identity.scopeId = scope ∧ world.store.Sound row.tidy
  distinct (scope scope' : String) (row row' : SideEffectOperationAggregate) :
    world.store.operations.get? scope = some row → world.store.operations.get? scope' = some row' →
      row.identity.operationId = row'.identity.operationId → scope = scope'
  recalled (tid : Tid) (g : Summary) (current : SideEffectOperationAggregate) :
    gs tid = some g → g.loaded = some current → Recalled world.store current
  made (tid : Tid) (g : Summary) (identity : SideEffectOperationIdentity) :
    gs tid = some g → g.made = some identity → Held world.store identity
  granted (call : Call) (outcome : Outcome) (aggregate : SideEffectOperationAggregate) :
    (call, outcome) ∈ returned → Grants outcome aggregate →
      call = .reserve aggregate.identity ∧ Held world.store aggregate.identity

lemma Recalled.held (recalled : Recalled store current) : Held store current.identity := by
  obtain ⟨row, stored, same, -⟩ := recalled
  exact ⟨row, stored, by rw [← same, SideEffectOperationIdentity.tidy_tidy]⟩

/-- What is read of an operation is its row, with the identity built again. -/
lemma hydrate_sound {row : SideEffectOperationAggregate} (sound : store.Sound row.tidy)
    (hydrated : hydrate row = .ok aggregate) : aggregate = row.tidy := by
  obtain ⟨identity, state, revision, again⟩ := hydrate_ok hydrated
  have transitions : aggregate.transitions = row.transitions := by
    refine hydrateTransitions_eq again fun item member => ?_
    obtain ⟨receipt, -, named, -⟩ := sound.receipted item member
    rw [← named, jsTrim_jsTrim]
  cases aggregate
  simp only at identity state revision transitions
  rw [identity, state, revision, transitions]
  rfl

lemma sound_mono {store' : SideEffectStore} (sound : store.Sound aggregate)
    (more : ∀ receiptId receipt, store.receipts.get? receiptId = some receipt →
      store'.receipts.get? receiptId = some receipt) :
    store'.Sound aggregate := by
  refine ⟨sound.counted, sound.numbered, sound.composes, sound.unlocked, fun item member => ?_⟩
  obtain ⟨receipt, stored, rest⟩ := sound.receipted item member
  exact ⟨receipt, more _ _ stored, rest⟩

lemma sound_fresh (store : SideEffectStore) (identity : SideEffectOperationIdentity) :
    store.Sound ⟨identity, .reserved, 0, []⟩ := by
  refine ⟨rfl, fun index item found => ?_, rfl, fun item member => ?_, fun item member => ?_⟩
  · rw [getElem?_nil] at found
    cases found
  · cases member
  · cases member

lemma sound_moves (sound : store.Sound current)
    (moves : Moves current aggregate expectedRevision receipt)
    (stored : store.receipts.get? receipt.receiptId = some receipt) : store.Sound aggregate := by
  obtain ⟨event, nextState, after, unlocked, valid, rfl⟩ := moves.moved
  have counted := sound.counted
  refine ⟨?_, fun index item found => ?_, sound.composes.concat after _ _, fun item member => ?_,
    fun item member => ?_⟩
  · simp only [length_append, length_singleton]
    omega
  · simp only [getElem?_append] at found
    split_ifs at found with earlier
    · exact sound.numbered index item found
    · have last : index - current.transitions.length = 0 := by
        by_contra later
        rw [getElem?_eq_none (by simp only [length_singleton]; omega)] at found
        cases found
      simp only [last, getElem?_cons_zero, Option.some.injEq] at found
      subst found
      simp only
      omega
  · rcases mem_append.mp member with earlier | last
    · exact sound.unlocked item earlier
    · rw [mem_singleton.mp last]
      exact unlocked
  · rcases mem_append.mp member with earlier | last
    · exact sound.receipted item earlier
    · rw [mem_singleton.mp last]
      exact ⟨receipt, stored, rfl, valid⟩

/-- The operations and receipts of the first store are still there, and each
operation has gone on from what it was. -/
structure Grows (store store' : SideEffectStore) : Prop where
  rows (scope : String) (row : SideEffectOperationAggregate) :
    store.operations.get? scope = some row →
      ∃ row', store'.operations.get? scope = some row' ∧ row'.identity = row.identity ∧
        row.transitions <+: row'.transitions
  receipts (receiptId : String) (receipt : SideEffectOperationReceipt) :
    store.receipts.get? receiptId = some receipt → store'.receipts.get? receiptId = some receipt

lemma Recalled.mono {store' : SideEffectStore} (recalled : Recalled store current)
    (grows : Grows store store') : Recalled store' current := by
  obtain ⟨row, stored, same, front, sound⟩ := recalled
  obtain ⟨row', stored', same', onward⟩ := grows.rows _ row stored
  exact ⟨row', stored', by rw [same', same], front.trans onward, sound_mono sound grows.receipts⟩

lemma Held.mono {store' : SideEffectStore} {identity : SideEffectOperationIdentity}
    (held : Held store identity) (grows : Grows store store') : Held store' identity := by
  obtain ⟨row, stored, same⟩ := held
  obtain ⟨row', stored', same', -⟩ := grows.rows _ row stored
  exact ⟨row', stored', by rw [same', same]⟩

lemma create_cases (store : SideEffectStore) (aggregate : SideEffectOperationAggregate) :
    store.create aggregate = (false, store) ∨
      store.operations.get? aggregate.identity.scopeId = none ∧
        (∀ scope row, store.operations.get? scope = some row →
          row.identity.operationId ≠ aggregate.identity.operationId) ∧
        store.create aggregate = (true, { store with
          operations := store.operations.insert aggregate.identity.scopeId aggregate }) := by
  unfold create
  split_ifs with taken
  · exact .inl rfl
  · simp only [not_or, Option.not_isSome_iff_eq_none, any_eq_true, not_exists, not_and,
      decide_eq_true_eq] at taken
    exact .inr ⟨taken.1, fun scope row stored =>
      taken.2 row (SortedMap.mem_values.mpr ⟨scope, stored⟩), rfl⟩

section

variable {world : World} {returned : List (Call × Outcome)} {gs : Tid → Option Summary}
  {tid : Tid} {g : Summary}

lemma Safe.grow (safe : Safe world returned gs) {store : SideEffectStore}
    (grows : Grows world.store store)
    (rows : ∀ scope row, store.operations.get? scope = some row →
      row.identity.scopeId = scope ∧ store.Sound row.tidy)
    (distinct : ∀ scope scope' row row', store.operations.get? scope = some row →
      store.operations.get? scope' = some row' →
      row.identity.operationId = row'.identity.operationId → scope = scope') :
    Safe { world with store } returned gs := by
  refine ⟨rows, distinct, fun other g current here loaded => ?_,
    fun other g identity here made => ?_, fun call outcome aggregate member grants => ?_⟩
  · exact (safe.recalled other g current here loaded).mono grows
  · exact (safe.made other g identity here made).mono grows
  · obtain ⟨called, held⟩ := safe.granted call outcome aggregate member grants
    exact ⟨called, held.mono grows⟩

variable {aggregate : SideEffectOperationAggregate}

lemma Safe.create (safe : Safe world returned gs)
    (fresh : aggregate = ⟨aggregate.identity, .reserved, 0, []⟩) :
    Safe { world with store := (world.store.create aggregate).2 } returned gs ∧
      ((world.store.create aggregate).1 = true →
        Held (world.store.create aggregate).2 aggregate.identity) := by
  rcases create_cases world.store aggregate with same | ⟨free, new, result⟩
  · rw [same]
    exact ⟨safe, by simp⟩
  rw [result]
  refine ⟨safe.grow ⟨fun scope row stored => ?_, fun _ _ stored => stored⟩ ?_ ?_,
    fun _ => ⟨aggregate, by simp only [SortedMap.get?_insert, if_true], rfl⟩⟩
  · refine ⟨row, ?_, rfl, prefix_rfl⟩
    have different : scope ≠ aggregate.identity.scopeId := by
      rintro rfl
      rw [free] at stored
      cases stored
    simp only [SortedMap.get?_insert, if_neg different, stored]
  · intro scope row found
    simp only [SortedMap.get?_insert] at found
    split_ifs at found with same
    · cases found
      refine ⟨same.symm, ?_⟩
      rw [fresh]
      exact sound_fresh _ _
    · obtain ⟨named, sound⟩ := safe.rows scope row found
      exact ⟨named, sound_mono sound fun _ _ stored => stored⟩
  · intro scope scope' row row' found found' same
    simp only [SortedMap.get?_insert] at found found'
    split_ifs at found found' with here here'
    · exact here.trans here'.symm
    · cases found
      exact absurd same.symm (new scope' row' found')
    · cases found'
      exact absurd same (new scope row found)
    · exact safe.distinct scope scope' row row' found found' same

lemma Safe.save (safe : Safe world returned gs) (found : gs tid = some g)
    {current : SideEffectOperationAggregate} {expectedRevision : Nat}
    {receipt : SideEffectOperationReceipt} (loaded : g.loaded = some current)
    (moves : Moves current aggregate expectedRevision receipt) :
    Safe { world with store := (world.store.saveTransition aggregate expectedRevision receipt).2 }
      returned gs := by
  rcases world.store.saveTransition_cases aggregate expectedRevision receipt with
    ⟨-, same⟩ | ⟨row, stored, level, free, result⟩
  · rw [same]
    exact safe
  obtain ⟨row', stored', identity, front, sound⟩ := safe.recalled tid g current found loaded
  obtain ⟨event, nextState, -, -, -, whole⟩ := moves.moved
  have scope : aggregate.identity.scopeId = current.identity.scopeId := by rw [whole]
  rw [scope] at stored
  obtain rfl : row = row' := Option.some.inj (stored.symm.trans stored')
  obtain ⟨named, kept⟩ := safe.rows _ row stored
  have counted : row.revision = row.transitions.length := kept.counted
  have transitions : current.transitions = row.transitions := by
    apply front.eq_of_length
    rw [← counted, ← sound.counted, level]
    exact moves.level
  -- The row that is written is read as the aggregate of the caller.
  let written : SideEffectOperationAggregate := { row with
    state := aggregate.state
    revision := aggregate.revision
    transitions := aggregate.transitions }
  have tidied : written.tidy = aggregate := by
    rw [whole, ← identity]
    simp only [written, whole]
    rfl
  rw [result, scope]
  have stays scope' row' (there : (world.store.operations.insert current.identity.scopeId
      written).get? scope' = some row') :
      ∃ before, world.store.operations.get? scope' = some before ∧
        before.identity = row'.identity := by
    rw [SortedMap.get?_insert] at there
    split_ifs at there with here
    · cases there
      exact ⟨row, here ▸ stored, rfl⟩
    · exact ⟨row', there, rfl⟩
  have grows : Grows world.store ⟨world.store.operations.insert current.identity.scopeId written,
      world.store.receipts.insert receipt.receiptId receipt⟩ := by
    refine ⟨fun other before there => ?_, fun receiptId other persisted => ?_⟩
    · simp only [SortedMap.get?_insert]
      by_cases same : other = current.identity.scopeId
      · rw [same, stored] at there
        cases there
        refine ⟨written, if_pos same, rfl, ?_⟩
        simp only [written, whole, transitions]
        exact prefix_append _ _
      · exact ⟨before, by rw [if_neg same, there], rfl, prefix_rfl⟩
    · have different : receiptId ≠ receipt.receiptId := by
        rintro rfl
        rw [free] at persisted
        cases persisted
      simp only [SortedMap.get?_insert, if_neg different]
      exact persisted
  refine safe.grow grows (fun other row' here => ?_) fun other other' row' row'' here here' same => ?_
  · simp only [SortedMap.get?_insert] at here
    split_ifs at here with same
    · cases here
      refine ⟨named.trans same.symm, ?_⟩
      rw [tidied]
      refine sound_moves (sound_mono sound grows.receipts) moves ?_
      simp only [SortedMap.get?_insert, if_true]
    · obtain ⟨named, sound⟩ := safe.rows other row' here
      exact ⟨named, sound_mono sound grows.receipts⟩
  · obtain ⟨before, was, named⟩ := stays other row' here
    obtain ⟨before', was', named'⟩ := stays other' row'' here'
    exact safe.distinct other other' before before' was was' (by rw [named, named', same])

variable [DecidableEq Tid]

lemma Safe.update (safe : Safe world returned gs) {summary : Option Summary}
    (recalls : ∀ g current, summary = some g → g.loaded = some current →
      Recalled world.store current)
    (holds : ∀ g identity, summary = some g → g.made = some identity →
      Held world.store identity) : Safe world returned (Function.update gs tid summary) := by
  have cases_on {P : Summary → Prop} (new : ∀ g, summary = some g → P g)
      (old : ∀ other g, gs other = some g → P g) (other : Tid) (g : Summary)
      (here : Function.update gs tid summary other = some g) : P g := by
    by_cases same : other = tid
    · rw [same, Function.update_self] at here
      exact new g here
    · rw [Function.update_of_ne same] at here
      exact old other g here
  refine ⟨safe.rows, safe.distinct, fun other g current => ?_, fun other g identity => ?_,
    safe.granted⟩
  · exact cases_on (P := fun g => g.loaded = some current → Recalled world.store current)
      (fun g => recalls g current) (fun other g => safe.recalled other g current) other g
  · exact cases_on (P := fun g => g.made = some identity → Held world.store identity)
      (fun g => holds g identity) (fun other g => safe.made other g identity) other g

lemma upholds : rules.Upholds calls Answers (fun (_ : CallPool Tid) _ => True)
    (fun world returned gs => Safe world returned gs) where
  program := perform_obeys
  spawn safe _ := by
    refine safe.update (fun g current eq loaded => ?_) fun g identity eq made => ?_
    · cases eq
      cases loaded
    · cases eq
      cases made
  ret {pool tid thread value} safe found answers := by
    have summary : rules.summaries pool tid = some (rules.summary thread) := by
      simp only [Rules.summaries, found, Option.map_some]
    have gone : Safe pool.state pool.returned
        (Function.update (rules.summaries pool) tid none) :=
      safe.update (fun _ _ eq => by cases eq) fun _ _ eq => by cases eq
    refine ⟨gone.rows, gone.distinct, gone.recalled, gone.made,
      fun call outcome aggregate member grants => ?_⟩
    rcases mem_cons.mp member with here | before
    · cases here
      obtain ⟨called, loaded | made⟩ := answers aggregate grants
      · rw [summary_call] at called
        exact ⟨called, (safe.recalled tid _ aggregate summary loaded).held⟩
      · rw [summary_call] at called
        exact ⟨called, safe.made tid _ _ summary made⟩
    · exact safe.granted call outcome aggregate before grants
  fault safe := ⟨safe.rows, safe.distinct, fun _ _ _ here => (by cases here),
    fun _ _ _ here => (by cases here), safe.granted⟩
  call {pool tid thread op onward choice} safe found _ _ may := by
    have summary : rules.summaries pool tid = some (rules.summary thread) := by
      simp [Rules.summaries, found, Option.map_some]
    have loads {world' returned'} (safe : Safe world' returned' (rules.summaries pool)) current :=
      safe.recalled tid (rules.summary thread) current summary
    have makes {world' returned'} (safe : Safe world' returned' (rules.summaries pool)) identity :=
      safe.made tid (rules.summary thread) identity summary
    cases op with
    | loadByScope scopeId =>
      refine ⟨trivial, safe.update (fun g current eq loaded => ?_) fun g identity eq made => ?_⟩
      · cases eq
        simp only [rules, calls, handle] at loaded
        cases read : pool.state.store.loadByScope scopeId with
        | error message =>
          rw [read] at loaded
          exact loads safe current loaded
        | ok found =>
          rw [read] at loaded
          cases loaded
          obtain ⟨row, stored, hydrated⟩ := pool.state.store.loadByScope_some read
          obtain ⟨named, sound⟩ := safe.rows scopeId row stored
          rw [hydrate_sound sound hydrated]
          exact ⟨row, named.symm ▸ stored, rfl, prefix_rfl, sound⟩
      · cases eq
        simp only [rules, calls, handle] at made
        cases read : pool.state.store.loadByScope scopeId <;> rw [read] at made <;>
          exact makes safe identity made
    | create aggregate =>
      obtain ⟨created, held⟩ := safe.create may
      refine ⟨trivial, created.update (fun g current eq loaded => ?_) fun g identity eq made => ?_⟩
      · cases eq
        simp only [rules, calls, handle] at loaded
        split_ifs at loaded <;> exact loads created current loaded
      · cases eq
        simp only [rules, calls, handle] at made
        split_ifs at made with new
        · cases made
          exact held new
        · exact makes created identity made
    | loadReceipt receiptId =>
      exact ⟨trivial, safe.update (fun g current eq => by cases eq; exact loads safe current)
        fun g identity eq => by cases eq; exact makes safe identity⟩
    | saveTransition aggregate expectedRevision receipt =>
      obtain ⟨current, loaded, moves⟩ := may
      have saved := safe.save summary loaded moves
      exact ⟨trivial, saved.update (fun g current eq => by cases eq; exact loads saved current)
        fun g identity eq => by cases eq; exact makes saved identity⟩
    | _ => exact absurd may id

lemma run_safe (events : List (Process.Event Tid Call (Ports Unit) Unit)) :
    Safe (calls.run (idle : CallPool Tid) events).state
      (calls.run (idle : CallPool Tid) events).returned
      (rules.summaries (calls.run (idle : CallPool Tid) events)) := by
  have vacant {scope : String} {row : SideEffectOperationAggregate}
      (found : empty.operations.get? scope = some row) : False := by
    rw [empty, SortedMap.get?_empty] at found
    cases found
  have start : Safe ⟨.empty, []⟩ [] (fun _ : Tid => none) :=
    ⟨fun _ _ found => (vacant found).elim, fun _ _ _ _ found => (vacant found).elim,
      fun _ _ _ here => (by cases here), fun _ _ _ here => (by cases here),
      fun _ _ _ member => (by cases member)⟩
  exact (upholds.run (Rules.kept_idle start) (Machine.along_of_forall (fun _ _ => trivial) _ _)).inv

/-- Reservations that are granted in one run for one scope are granted for one
identity, as an identity is built. -/
lemma reservations_agree {events : List (Process.Event Tid Call (Ports Unit) Unit)}
    {identity identity' : SideEffectOperationIdentity} {outcome outcome' : Outcome}
    {aggregate' : SideEffectOperationAggregate}
    (first : (.reserve identity, outcome) ∈ (calls.run (idle : CallPool Tid) events).returned)
    (second : (.reserve identity', outcome') ∈ (calls.run (idle : CallPool Tid) events).returned)
    (grants : Grants outcome aggregate) (grants' : Grants outcome' aggregate')
    (same : identity.scopeId = identity'.scopeId) : identity.tidy = identity'.tidy := by
  obtain ⟨called, row, stored, own⟩ := (run_safe events).granted _ _ aggregate first grants
  obtain ⟨called', row', stored', own'⟩ := (run_safe events).granted _ _ aggregate' second grants'
  cases called
  cases called'
  rw [same, stored'] at stored
  cases stored
  exact own.symm.trans own'

end

/-- The receipt of a transition is read where its id has no white space around
it. -/
lemma Safe.loadReceipt {world : World} {returned : List (Call × Outcome)}
    {gs : Tid → Option Summary} (safe : Safe world returned gs) {scopeId : String}
    (stored : world.store.loadByScope scopeId = .ok (some aggregate))
    {item : SideEffectOperationTransitionRecord} (member : item ∈ aggregate.transitions)
    (persisted : world.store.receipts.get? receipt.receiptId = some receipt)
    (named : receipt.receiptId = item.receiptRef)
    (valid : validateSideEffectOperationReceipt receipt aggregate.identity item.event item.revision =
      true) : world.store.loadReceipt receipt.receiptId = .ok (some receipt) := by
  obtain ⟨row, found, hydrated⟩ := world.store.loadByScope_some stored
  obtain ⟨-, sound⟩ := safe.rows scopeId row found
  have tidied := hydrate_sound sound hydrated
  obtain ⟨operation, event, revision⟩ := receipt_valid valid
  have own : row.identity.operationId = receipt.operationId := by
    rw [operation, tidied]
    rfl
  have only : world.store.operations.values.find? (·.identity.operationId = receipt.operationId) =
      some row := by
    cases first : world.store.operations.values.find?
        (·.identity.operationId = receipt.operationId) with
    | none =>
      exact absurd (decide_eq_true own)
        (find?_eq_none.mp first row (SortedMap.mem_values.mpr ⟨scopeId, found⟩))
    | some other =>
      obtain ⟨scope, there⟩ := SortedMap.mem_values.mp (mem_of_find?_eq_some first)
      have same : other.identity.operationId = receipt.operationId :=
        of_decide_eq_true (find?_some (p := fun row : SideEffectOperationAggregate =>
          decide (row.identity.operationId = receipt.operationId)) first)
      obtain rfl := safe.distinct scope scopeId other row there found (same.trans own.symm)
      rw [← there, found]
  obtain ⟨index, bound, here⟩ := getElem_of_mem member
  have at_index : aggregate.transitions[index]? = some item := by
    rw [getElem?_eq_getElem bound, here]
  have numbered : item.revision = index + 1 :=
    sound.numbered index item (by rw [tidied] at at_index; exact at_index)
  rw [← event, ← revision] at valid
  unfold SideEffectStore.loadReceipt
  simp only [persisted, only, hydrated, bind, Except.bind]
  rw [if_pos]
  refine ⟨valid, ?_⟩
  rw [revision, numbered, Nat.add_sub_cancel, at_index, Option.any_some, event, named]
  simp

/-! ## Results -/

/-! ## A cancelled operation that is verified -/

open SideEffectExecutors (sampleIdentity sampleFingerprint samplePorts)

def sampleReceipt (event : SideEffectOperationEvent) (operationRevision : Nat) :
    SideEffectOperationReceipt :=
  { SideEffectExecutors.sampleReceipt with
    receiptId := "receipt:" ++ toString operationRevision
    event
    kind := event.receiptKind
    operationRevision }

def sampleCalls : List (Process.Event Nat Call (Ports Unit) Unit) :=
  let transition (event : SideEffectOperationEvent) (revision : Nat) : Call :=
    .transition sampleIdentity.operationId sampleIdentity.scopeId revision event
      (sampleReceipt event (revision + 1))
  [.reserve sampleIdentity, transition .requestCancel 0, transition .beginVerification 1,
    transition .verificationPassed 2].flatMap
    fun call => [.spawn 0 call, .step 0 samplePorts, .step 0 samplePorts, .step 0 samplePorts]

def cancelledOperation : SideEffectOperationAggregate where
  identity := sampleIdentity
  state := .verified
  revision := 3
  transitions := [⟨1, .reserved, .requestCancel, .cancelRequested, "receipt:1"⟩,
    ⟨2, .cancelRequested, .beginVerification, .verifying, "receipt:2"⟩,
    ⟨3, .verifying, .verificationPassed, .verified, "receipt:3"⟩]

end SideEffectCalls

end Knowbee
