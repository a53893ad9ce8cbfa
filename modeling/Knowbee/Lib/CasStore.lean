import Mathlib.Logic.Relation
import Knowbee.Lib.Machine

/-!
# Stores behind a compare-and-swap

A repository keeps its records in memory and commits every change to a durable storage by
compare-and-swap before it adopts it.  The storage may refuse a write, lose contact, or take the
write and fail to say so, and the process may stop and be bootstrapped again between any two
calls.

A repository is given by its pure parts: how it reads a storage at bootstrap, how it encodes its
records, and what each call plans to do with the records it holds.  `Repository.Since.step` shows
that every step keeps `Consistent`: the storage can always be bootstrapped, and the memory is what
is stored or one unreported commit behind it.
-/

namespace CasStore

/-! ## The storage -/

inductive Read (R : Type) where
  | missing (revision : Nat)
  | records (revision : Nat) (records : List R)
  | unavailable
  deriving DecidableEq

inductive Write where
  | written (revision : Nat)
  | conflict
  | unavailable
  deriving DecidableEq

/-- A durable storage: a revision and, once something was written, the records. -/
structure Storage (R : Type) where
  revision : Nat
  records : Option (List R)

/-- What happens to one compare-and-swap.  A write that takes effect moves the
storage to a larger revision; `unreported` takes effect and is answered as
unavailable. -/
inductive Fate where
  | applied (revision : Nat)
  | unreported (revision : Nat)
  | conflict
  | unavailable

def Storage.read {R : Type} (storage : Storage R) : Read R :=
  match storage.records with
  | none => .missing storage.revision
  | some records => .records storage.revision records

def Storage.compareAndSwap {R : Type} (storage : Storage R) (fate : Fate) (expected : Nat)
    (records : List R) : Storage R × Write :=
  match fate with
  | .applied revision =>
    if storage.revision ≠ expected then (storage, .conflict)
    else if storage.revision < revision then (⟨revision, some records⟩, .written revision)
    else (storage, .written revision)
  | .unreported revision =>
    if storage.revision = expected ∧ storage.revision < revision
    then (⟨revision, some records⟩, .unavailable)
    else (storage, .unavailable)
  | .conflict => (storage, .conflict)
  | .unavailable => (storage, .unavailable)

/-! ## Repositories -/

/-- The records in memory and the storage revision they were committed at. -/
structure Cache (M : Type) where
  revision : Nat
  records : M
  deriving DecidableEq

/-- How a commit went, as the caller of the commit can tell. -/
inductive Committed where
  | written | conflict | unavailable
  deriving DecidableEq

/-- The answer of a caller that only asks whether its commit was written. -/
def Committed.ifWritten {Res : Type} (committed : Committed) (ok failed : Res) : Res :=
  match committed with
  | .written => ok
  | _ => failed

lemma Committed.ifWritten_failed {Res : Type} {committed : Committed}
    (unwritten : committed ≠ .written) (ok failed : Res) :
    committed.ifWritten ok failed = failed := by
  cases committed with
  | written => exact absurd rfl unwritten
  | conflict => rfl
  | unavailable => rfl

/-- What a call does with the records in memory: answer from them, or commit a
new set of records and answer according to how that went. -/
inductive Plan (M Res : Type) where
  | reply (res : Res)
  | commit (next : M) (answer : Committed → Res)

def Plan.map {M Res Out : Type} (rename : Res → Out) : Plan M Res → Plan M Out
  | .reply res => .reply (rename res)
  | .commit next answer => .commit next (fun committed => rename (answer committed))

lemma Plan.map_id {M Res : Type} (plan : Plan M Res) : plan.map id = plan := by
  cases plan <;> rfl

lemma Plan.map_eq_commit {M Res Out : Type} {rename : Res → Out} {plan : Plan M Res} {next : M}
    {answer : Committed → Out} (mapped : plan.map rename = .commit next answer) :
    ∃ inner, plan = .commit next inner ∧ answer = fun committed => rename (inner committed) := by
  cases plan with
  | reply res => cases mapped
  | commit other inner =>
    cases mapped
    exact ⟨inner, rfl, rfl⟩

/-- The records and the answer of a plan whose commit is written. -/
def Plan.whenWritten {M Res : Type} (plan : Plan M Res) (records : M) : M × Res :=
  match plan with
  | .reply res => (records, res)
  | .commit next answer => (next, answer .written)

lemma Plan.whenWritten_map {M Res Out : Type} (rename : Res → Out) (plan : Plan M Res)
    (records : M) :
    (plan.map rename).whenWritten records = (plan.whenWritten records).map id rename := by
  cases plan <;> rfl

/-- The pure parts of a repository. -/
structure Repository (R M Op Res Err : Type) where
  /-- What the process makes of a storage when it starts. -/
  bootstrap : Read R → Except Err (Cache M)
  /-- What the bootstrap commits before it serves any call, if anything. -/
  recovery : M → Option M
  /-- The raw records of a set of records, unless one cannot be encoded. -/
  encode : M → Option (List R)
  /-- What a call does with the records in memory. -/
  plan : Op → M → Plan M Res

/-- A storage and the process in front of it, if one runs. -/
structure Node (R M : Type) where
  storage : Storage R
  cache : Option (Cache M)

/-- What the environment decides: a call with the fate of its commit, or a
restart with the fate of the commit the bootstrap may make and whether the
storage can be read. -/
inductive Event (Op : Type) where
  | call (op : Op) (fate : Fate)
  | restart (readable : Bool) (fate : Fate)

/-- What is seen of a step: a call and its answer, if a process was there to
give one. -/
inductive Seen (Op Res : Type) where
  | answered (op : Op) (res : Res)
  | unanswered (op : Op)
  | restarted

def Seen.answer? {Op Res : Type} : Seen Op Res → Option Res
  | .answered _ res => some res
  | .unanswered _ => none
  | .restarted => none

variable {R M Op Res Err : Type}

/-- Commits `next` by compare-and-swap and adopts it if the storage confirms a
larger revision. -/
def commit (encode : M → Option (List R)) (fate : Fate) (storage : Storage R) (cache : Cache M)
    (next : M) : Storage R × Cache M × Committed :=
  match encode next with
  | none => (storage, cache, .unavailable)
  | some records =>
    match storage.compareAndSwap fate cache.revision records with
    | (after, .written revision) =>
      if cache.revision < revision then (after, ⟨revision, next⟩, .written)
      else (after, cache, .unavailable)
    | (after, .conflict) => (after, cache, .conflict)
    | (after, .unavailable) => (after, cache, .unavailable)

/-- Carries a plan out under the fate of its commit. -/
def Plan.execute (encode : M → Option (List R)) (fate : Fate) (storage : Storage R)
    (cache : Cache M) : Plan M Res → Storage R × Cache M × Res
  | .reply res => (storage, cache, res)
  | .commit next answer =>
    match CasStore.commit encode fate storage cache next with
    | (after, kept, committed) => (after, kept, answer committed)

namespace Repository

def call (repo : Repository R M Op Res Err) (op : Op) (fate : Fate) (storage : Storage R)
    (cache : Cache M) : Storage R × Cache M × Res :=
  (repo.plan op cache.records).execute repo.encode fate storage cache

def start (repo : Repository R M Op Res Err) (readable : Bool) (fate : Fate)
    (storage : Storage R) : Node R M :=
  match repo.bootstrap (if readable then storage.read else .unavailable) with
  | .error _ => ⟨storage, none⟩
  | .ok cache =>
    match repo.recovery cache.records with
    | none => ⟨storage, some cache⟩
    | some next =>
      match commit repo.encode fate storage cache next with
      | (after, kept, .written) => ⟨after, some kept⟩
      | (after, _, _) => ⟨after, none⟩

def step (repo : Repository R M Op Res Err) (node : Node R M) (event : Event Op) :
    Node R M × Seen Op Res :=
  match event with
  | .call op fate =>
    match node.cache with
    | none => (node, .unanswered op)
    | some cache =>
      match repo.call op fate node.storage cache with
      | (storage, kept, res) => (⟨storage, some kept⟩, .answered op res)
  | .restart readable fate => (repo.start readable fate node.storage, .restarted)

abbrev run (repo : Repository R M Op Res Err) : Node R M → List (Event Op) → Node R M :=
  Machine.run repo.step

abbrev trace (repo : Repository R M Op Res Err) :
    Node R M → List (Event Op) → List (Seen Op Res) :=
  Machine.trace repo.step

/-- Some call or recovery commits `next` from `records`. -/
inductive Commits (repo : Repository R M Op Res Err) (records next : M) : Prop where
  | plan (op : Op) (answer : Committed → Res) :
      repo.plan op records = .commit next answer → Commits repo records next
  | recovery : repo.recovery records = some next → Commits repo records next

/-- `next` is reached from `records` by commits. -/
abbrev Evolves (repo : Repository R M Op Res Err) : M → M → Prop :=
  Relation.ReflTransGen repo.Commits

def Stores (repo : Repository R M Op Res Err) (storage : Storage R) (records : M) : Prop :=
  repo.bootstrap storage.read = .ok ⟨storage.revision, records⟩

end Repository

/-! ## What a commit can do -/

variable {after storage : Storage R} {fate : Fate} {cache kept : Cache M}
  {encode : M → Option (List R)} {next : M}

lemma Storage.compareAndSwap_cases {expected : Nat} {records : List R} {write : Write}
    (swap : storage.compareAndSwap fate expected records = (after, write)) :
    (after = storage ∧ ∀ revision, write = .written revision → revision ≤ expected) ∨
      ∃ revision, storage.revision = expected ∧ storage.revision < revision ∧
        after = ⟨revision, some records⟩ ∧
        (write = .written revision ∧ fate = .applied revision ∨
          write = .unavailable ∧ fate = .unreported revision) := by
  cases fate with
  | applied revision =>
    simp only [Storage.compareAndSwap] at swap
    split_ifs at swap with current larger <;> cases swap
    · exact .inl ⟨rfl, nofun⟩
    · exact .inr ⟨revision, not_not.mp current, larger, rfl, .inl ⟨rfl, rfl⟩⟩
    · refine .inl ⟨rfl, fun other same => ?_⟩
      cases same
      have := not_not.mp current
      omega
  | unreported revision =>
    simp only [Storage.compareAndSwap] at swap
    split_ifs at swap with effect <;> cases swap
    · exact .inr ⟨revision, effect.1, effect.2, rfl, .inr ⟨rfl, rfl⟩⟩
    · exact .inl ⟨rfl, nofun⟩
  | conflict =>
    cases swap
    exact .inl ⟨rfl, nofun⟩
  | unavailable =>
    cases swap
    exact .inl ⟨rfl, nofun⟩

/-- The three outcomes of a commit: nothing happened, it took effect and was
adopted, or it took effect behind the process's back. -/
inductive CommitStep (encode : M → Option (List R)) (fate : Fate) (storage : Storage R)
    (cache : Cache M) (next : M) : Storage R → Cache M → Committed → Prop where
  | refused {committed : Committed} : committed ≠ .written →
      CommitStep encode fate storage cache next storage cache committed
  | adopted {records : List R} {revision : Nat} : encode next = some records →
      storage.revision = cache.revision → storage.revision < revision →
      fate = .applied revision →
      CommitStep encode fate storage cache next ⟨revision, some records⟩ ⟨revision, next⟩ .written
  | unreported {records : List R} {revision : Nat} : encode next = some records →
      storage.revision = cache.revision → storage.revision < revision →
      fate = .unreported revision →
      CommitStep encode fate storage cache next ⟨revision, some records⟩ cache .unavailable

/-- The storage takes a commit of `next`: the records can be encoded, the
process is level with the storage, and the write goes through, reported or
not. -/
def Taken (encode : M → Option (List R)) (fate : Fate) (storage : Storage R) (cache : Cache M)
    (next : M) : Prop :=
  ∃ records revision, encode next = some records ∧ storage.revision = cache.revision ∧
    storage.revision < revision ∧ (fate = .applied revision ∨ fate = .unreported revision)

lemma commit_step {committed : Committed}
    (run : commit encode fate storage cache next = (after, kept, committed)) :
    CommitStep encode fate storage cache next after kept committed := by
  unfold commit at run
  cases encoded : encode next with
  | none =>
    simp only [encoded] at run
    cases run
    exact .refused (by decide)
  | some records =>
    simp only [encoded] at run
    rcases swap : storage.compareAndSwap fate cache.revision records with ⟨swapped, write⟩
    rcases Storage.compareAndSwap_cases swap with
      ⟨rfl, stale⟩ | ⟨revision, current, larger, rfl, ⟨rfl, rfl⟩ | ⟨rfl, rfl⟩⟩
    · cases write with
      | written revision =>
        simp only [swap, if_neg (Nat.not_lt.mpr (stale revision rfl))] at run
        cases run
        exact .refused (by decide)
      | conflict =>
        simp only [swap] at run
        cases run
        exact .refused (by decide)
      | unavailable =>
        simp only [swap] at run
        cases run
        exact .refused (by decide)
    · simp only [swap, if_pos (current ▸ larger)] at run
      cases run
      exact .adopted encoded current larger rfl
    · simp only [swap] at run
      cases run
      exact .unreported encoded current larger rfl

/-- What carrying a plan out does: it replies, or takes the step of its commit. -/
inductive PlanStep (encode : M → Option (List R)) (fate : Fate) (storage : Storage R)
    (cache : Cache M) {Res : Type} : Plan M Res → Storage R → Cache M → Res → Prop where
  | replied {res : Res} : PlanStep encode fate storage cache (.reply res) storage cache res
  | committed {next : M} {answer : Committed → Res} {after : Storage R} {kept : Cache M}
      {committed : Committed} : CommitStep encode fate storage cache next after kept committed →
      PlanStep encode fate storage cache (.commit next answer) after kept (answer committed)

lemma Plan.execute_step {plan : Plan M Res} {res : Res}
    (run : plan.execute encode fate storage cache = (after, kept, res)) :
    PlanStep encode fate storage cache plan after kept res := by
  cases plan with
  | reply answer =>
    cases run
    exact .replied
  | commit next answer =>
    simp only [Plan.execute] at run
    rcases outcome : CasStore.commit encode fate storage cache next with ⟨s, c, committed⟩
    simp only [outcome] at run
    cases run
    exact .committed (commit_step outcome)

lemma Plan.execute_cases {plan : Plan M Res} {res : Res}
    (run : plan.execute encode fate storage cache = (after, kept, res)) :
    (after = storage ∧ kept = cache) ∨
      ∃ next answer records revision, plan = .commit next answer ∧ encode next = some records ∧
        after = ⟨revision, some records⟩ ∧ (kept = cache ∨ kept = ⟨revision, next⟩) ∧
        Taken encode fate storage cache next := by
  cases Plan.execute_step run with
  | replied => exact .inl ⟨rfl, rfl⟩
  | @committed next answer _ _ _ step =>
    cases step with
    | refused => exact .inl ⟨rfl, rfl⟩
    | adopted encoded current larger fated =>
      exact .inr ⟨next, answer, _, _, rfl, encoded, rfl, .inr rfl,
        ⟨_, _, encoded, current, larger, .inl fated⟩⟩
    | unreported encoded current larger fated =>
      exact .inr ⟨next, answer, _, _, rfl, encoded, rfl, .inl rfl,
        ⟨_, _, encoded, current, larger, .inr fated⟩⟩

lemma Plan.execute_ifWritten {ok failed res : Res}
    (run : (Plan.commit next fun committed => committed.ifWritten ok failed).execute encode fate
      storage cache = (after, kept, res)) :
    ∃ committed, res = committed.ifWritten ok failed ∧
      CommitStep encode fate storage cache next after kept committed := by
  cases Plan.execute_step run with
  | committed step => exact ⟨_, rfl, step⟩

lemma Plan.execute_taken {answer : Committed → Res}
    (taken : Taken encode fate storage cache next) :
    ∃ records revision, encode next = some records ∧
      ((Plan.commit next answer).execute encode fate storage cache).1 =
        ⟨revision, some records⟩ := by
  obtain ⟨records, revision, encoded, current, larger, fated⟩ := taken
  refine ⟨records, revision, encoded, ?_⟩
  have ahead : cache.revision < revision := current ▸ larger
  simp only [Plan.execute, CasStore.commit, encoded]
  rcases fated with rfl | rfl
  · simp [Storage.compareAndSwap, current, ahead]
  · simp [Storage.compareAndSwap, current, ahead]

namespace Repository

variable {cache : Cache M}

lemma call_kept {repo : Repository R M Op Res Err} {op : Op} {fate : Fate}
    {storage after : Storage R} {kept : Cache M} {res : Res}
    (run : repo.call op fate storage cache = (after, kept, res)) :
    kept = cache ∨ ∃ next answer, repo.plan op cache.records = .commit next answer ∧
      res = answer .written ∧ kept.records = next := by
  unfold Repository.call at run
  generalize planned : repo.plan op cache.records = plan at run
  cases Plan.execute_step run with
  | replied => exact .inl rfl
  | committed step =>
    cases step with
    | refused => exact .inl rfl
    | adopted => exact .inr ⟨_, _, rfl, rfl, rfl⟩
    | unreported => exact .inl rfl

lemma call_applied (repo : Repository R M Op Res Err) {storage : Storage R} {revision : Nat}
    (op : Op) (encodes : ∀ records, ∃ encoded, repo.encode records = some encoded)
    (current : cache.revision = storage.revision) (larger : storage.revision < revision) :
    ∃ after kept, repo.call op (.applied revision) storage cache =
        (after, kept, ((repo.plan op cache.records).whenWritten cache.records).2) ∧
      kept.records = ((repo.plan op cache.records).whenWritten cache.records).1 ∧
      kept.revision = after.revision := by
  unfold Repository.call
  cases planned : repo.plan op cache.records with
  | reply res => exact ⟨storage, cache, rfl, rfl, current⟩
  | commit next answer =>
    obtain ⟨encoded, printed⟩ := encodes next
    have ahead : cache.revision < revision := current ▸ larger
    refine ⟨⟨revision, some encoded⟩, ⟨revision, next⟩, ?_, rfl, rfl⟩
    simp [Plan.execute, CasStore.commit, printed, Storage.compareAndSwap, current, larger,
      Plan.whenWritten]

/-! ## The invariant -/

/-- A call of the process writes: it plans a commit and the storage takes it. -/
def Writes (repo : Repository R M Op Res Err) (node : Node R M) (op : Op) (fate : Fate)
    (cache : Cache M) : Prop :=
  node.cache = some cache ∧ ∃ next answer, repo.plan op cache.records = .commit next answer ∧
    Taken repo.encode fate node.storage cache next

lemma Writes.stored {repo : Repository R M Op Res Err} {node : Node R M} {op : Op} {fate : Fate}
    (writes : repo.Writes node op fate cache) :
    ∃ next answer encoded revision, repo.plan op cache.records = .commit next answer ∧
      repo.encode next = some encoded ∧
      (repo.step node (.call op fate)).1.storage = ⟨revision, some encoded⟩ := by
  obtain ⟨storage, held⟩ := node
  obtain ⟨rfl, next, answer, planned, taken⟩ := writes
  obtain ⟨encoded, revision, printed, stored⟩ := Plan.execute_taken taken
  refine ⟨next, answer, encoded, revision, planned, printed, ?_⟩
  simp only [Repository.step, Repository.call, planned]
  exact stored

/-- An event is permitted unless it is a call that writes without being
permitted. -/
def Permits (repo : Repository R M Op Res Err) (Permitted : Op → M → Prop) (node : Node R M) :
    Event Op → Prop
  | .call op fate => ∀ cache, repo.Writes node op fate cache → Permitted op cache.records
  | .restart _ _ => True

lemma permits_all (repo : Repository R M Op Res Err) (node : Node R M) (event : Event Op) :
    repo.Permits (fun (_ : Op) _ => True) node event := by
  cases event with
  | call op fate => exact fun _ _ => trivial
  | restart readable fate => trivial

/-- What a lawful repository owes: it does not start on a storage it cannot
read, it starts on the encoding of every valid set of records with exactly
these, and validity is kept by what the permitted calls and the recovery
commit. -/
structure Lawful (repo : Repository R M Op Res Err) (Valid : M → Prop)
    (Permitted : Op → M → Prop) : Prop where
  bootstrap_unavailable : ∃ err, repo.bootstrap .unavailable = .error err
  bootstrap_encode {revision : Nat} {records : M} {encoded : List R} : Valid records →
    repo.encode records = some encoded →
      repo.bootstrap (.records revision encoded) = .ok ⟨revision, records⟩
  plan_valid {op : Op} {records next : M} {answer : Committed → Res} : Valid records →
    Permitted op records → repo.plan op records = .commit next answer → Valid next
  recovery_valid {records next : M} : Valid records →
    repo.recovery records = some next → Valid next

/-- At most one commit leads from `records` to `next`. -/
abbrev Moves (repo : Repository R M Op Res Err) : M → M → Prop := Relation.ReflGen repo.Commits

/-- The storage can be bootstrapped to valid records, and the process holds
these or is one commit behind, which it was not told of. -/
structure Consistent (repo : Repository R M Op Res Err) (Valid : M → Prop) (node : Node R M)
    (stored : M) : Prop where
  stores : repo.Stores node.storage stored
  valid : Valid stored
  cache_valid {cache : Cache M} : node.cache = some cache → Valid cache.records
  behind {cache : Cache M} : node.cache = some cache → cache.revision ≤ node.storage.revision
  current {cache : Cache M} : node.cache = some cache →
    cache.revision = node.storage.revision → cache.records = stored
  moves {cache : Cache M} : node.cache = some cache → repo.Moves cache.records stored

section Steps

variable {repo : Repository R M Op Res Err} {Valid : M → Prop} {Permitted : Op → M → Prop}

variable {storage after : Storage R} {stored base : M} {cache kept : Cache M} {fate : Fate}
  {node : Node R M} {event : Event Op}

lemma Consistent.down (stores : repo.Stores storage stored) (valid : Valid stored) :
    repo.Consistent Valid ⟨storage, none⟩ stored :=
  ⟨stores, valid, nofun, nofun, nofun, nofun⟩

lemma Consistent.up (stores : repo.Stores storage stored) (valid : Valid stored) :
    repo.Consistent Valid ⟨storage, some ⟨storage.revision, stored⟩⟩ stored := by
  refine ⟨stores, valid, ?_, ?_, ?_, ?_⟩
  all_goals intro cache held; cases held
  · exact valid
  · exact Nat.le_refl _
  · exact fun _ => rfl
  · exact .refl

/-- What carrying a plan out did to the records held and stored, with its
answer: nothing, or a commit from records both were at, which the storage took
and the process adopted or was not told of. -/
inductive Carried {Out : Type} (plan : Plan M Out) (held stored : M) (res : Out) : M → M → Prop where
  | replied : plan = .reply res → Carried plan held stored res held stored
  | refused {next : M} {answer : Committed → Out} {committed : Committed} :
      plan = .commit next answer → res = answer committed → committed ≠ .written →
      Carried plan held stored res held stored
  | adopted {next : M} {answer : Committed → Out} : plan = .commit next answer →
      res = answer .written → held = stored → Carried plan held stored res next next
  | unreported {next : M} {answer : Committed → Out} : plan = .commit next answer →
      res = answer .unavailable → held = stored → Carried plan held stored res held next

lemma Carried.moves {Out : Type} {plan : Plan M Out} {res : Out} {held held' stored' : M}
    (carried : Carried plan held stored res held' stored')
    (commits : ∀ next answer, plan = .commit next answer → repo.Commits held next) :
    repo.Moves stored stored' ∧ repo.Moves held held' := by
  cases carried with
  | replied => exact ⟨.refl, .refl⟩
  | refused => exact ⟨.refl, .refl⟩
  | adopted planned _ level =>
    have moves := Relation.ReflGen.single (commits _ _ planned)
    exact ⟨level ▸ moves, moves⟩
  | unreported planned _ level => exact ⟨level ▸ .single (commits _ _ planned), .refl⟩

lemma Carried.written {next held held' stored' : M}
    (carried : Carried (.commit next id) held stored .written held' stored') : held' = stored' := by
  cases carried with
  | replied planned => cases planned
  | refused planned same failed =>
    cases planned
    exact absurd same.symm failed
  | adopted => rfl
  | unreported planned same =>
    cases planned
    cases same

section

variable (lawful : repo.Lawful Valid Permitted)
include lawful

section

variable (consistent : repo.Consistent Valid ⟨storage, some cache⟩ stored)

include consistent

lemma Consistent.commit {Out : Type} {answer : Committed → Out} {next : M}
    {committed : Committed} (commits : repo.Commits cache.records next)
    (next_valid : Taken repo.encode fate storage cache next → Valid next)
    (step : CommitStep repo.encode fate storage cache next after kept committed) :
    ∃ stored', repo.Consistent Valid ⟨after, some kept⟩ stored' ∧
      Carried (.commit next answer) cache.records stored (answer committed) kept.records
        stored' := by
  cases step with
  | refused failed => exact ⟨stored, consistent, .refused rfl rfl failed⟩
  | adopted encoded current larger fated =>
    have same : cache.records = stored := consistent.current rfl current.symm
    have valid : Valid next := next_valid ⟨_, _, encoded, current, larger, .inl fated⟩
    exact ⟨next, .up (lawful.bootstrap_encode valid encoded) valid, .adopted rfl rfl same⟩
  | unreported encoded current larger fated =>
    have same : cache.records = stored := consistent.current rfl current.symm
    have valid : Valid next := next_valid ⟨_, _, encoded, current, larger, .inr fated⟩
    refine ⟨next, ⟨lawful.bootstrap_encode valid encoded, valid, ?_, ?_, ?_, ?_⟩,
      .unreported rfl rfl same⟩
    all_goals intro held eq; cases eq
    · exact consistent.cache_valid rfl
    · exact Nat.le_of_lt (current ▸ larger)
    · intro revision_eq
      simp only at revision_eq larger
      omega
    · exact .single commits

lemma Consistent.carry {Out : Type} {plan : Plan M Out} {res : Out}
    (commits : ∀ next answer, plan = .commit next answer → repo.Commits cache.records next ∧ (Taken
      repo.encode fate storage cache next → Valid next))
    (run : plan.execute repo.encode fate storage cache = (after, kept, res)) :
    ∃ stored', repo.Consistent Valid ⟨after, some kept⟩ stored' ∧
      Carried plan cache.records stored res kept.records stored' := by
  cases Plan.execute_step run with
  | replied => exact ⟨stored, consistent, .replied rfl⟩
  | committed step =>
    obtain ⟨commits, valid⟩ := commits _ _ rfl
    exact consistent.commit lawful commits valid step

lemma Consistent.call {op : Op} {res : Res}
    (permits : repo.Permits Permitted ⟨storage, some cache⟩ (.call op fate))
    (run : repo.call op fate storage cache = (after, kept, res)) :
    ∃ stored', repo.Consistent Valid ⟨after, some kept⟩ stored' ∧
      repo.Moves stored stored' ∧ repo.Moves cache.records kept.records := by
  obtain ⟨stored', kept_consistent, carried⟩ := consistent.carry lawful
    (fun next answer planned => ⟨.plan op answer planned, fun taken =>
      lawful.plan_valid (consistent.cache_valid rfl)
        (permits cache ⟨rfl, next, answer, planned, taken⟩) planned⟩) run
  exact ⟨stored', kept_consistent, carried.moves fun _ answer planned => .plan op answer planned⟩

end

section

variable (consistent : repo.Consistent Valid node stored)

include consistent

/-- A call that leaves the memory as it was leaves the storage as it was too,
unless the storage took its write and did not say so. -/
lemma Consistent.call_unreported {op : Op} {res : Res} (held : node.cache = some cache)
    (permitted : Permitted op cache.records)
    (run : repo.call op fate node.storage cache = (after, cache, res)) :
    after = node.storage ∨ (∃ revision, fate = .unreported revision) ∧
      ∃ next answer, repo.plan op cache.records = .commit next answer ∧
        res = answer .unavailable ∧ repo.Stores after next := by
  generalize planned : repo.plan op cache.records = plan
  obtain ⟨kept, kept_eq, step⟩ : ∃ kept, cache = kept ∧
      PlanStep repo.encode fate node.storage cache plan after kept res :=
    ⟨cache, rfl, planned ▸ Plan.execute_step run⟩
  cases step with
  | replied => exact .inl rfl
  | @committed next answer _ _ _ step =>
    cases step with
    | refused => exact .inl rfl
    | @adopted _ revision encoded current larger =>
      -- An adopted write has moved the memory to the larger revision.
      rw [current, kept_eq] at larger
      exact absurd larger (Nat.lt_irrefl revision)
    | unreported encoded current larger fated =>
      have valid := lawful.plan_valid (consistent.cache_valid held) permitted planned
      exact .inr ⟨⟨_, fated⟩, next, answer, rfl, rfl, lawful.bootstrap_encode valid encoded⟩

lemma Consistent.start (readable : Bool) (fate : Fate) :
    ∃ stored', repo.Consistent Valid (repo.start readable fate node.storage) stored' ∧
      repo.Moves stored stored' ∧
      ∀ cache, (repo.start readable fate node.storage).cache = some cache →
        cache.records = stored' := by
  unfold Repository.start
  cases readable with
  | false =>
    obtain ⟨err, refused⟩ := lawful.bootstrap_unavailable
    simp only [Bool.false_eq_true, if_false, refused]
    exact ⟨stored, .down consistent.stores consistent.valid, .refl, nofun⟩
  | true =>
    have booted : repo.bootstrap node.storage.read = .ok ⟨node.storage.revision, stored⟩ :=
      consistent.stores
    have up := Consistent.up consistent.stores consistent.valid
    simp only [if_true, booted]
    cases recovered : repo.recovery stored with
    | none =>
      simp only
      refine ⟨stored, up, .refl, fun cache held => ?_⟩
      cases held
      rfl
    | some next =>
      rcases outcome : CasStore.commit repo.encode fate node.storage
        ⟨node.storage.revision, stored⟩ next with ⟨after, kept, committed⟩
      obtain ⟨stored', kept_consistent, carried⟩ : ∃ stored', _ ∧ Carried (.commit next id)
          stored stored committed kept.records stored' := up.commit lawful
        (.recovery recovered) (fun _ => lawful.recovery_valid consistent.valid recovered)
        (commit_step outcome)
      have forward := (carried.moves fun _ _ same => by cases same; exact .recovery recovered).1
      have down := Consistent.down kept_consistent.stores kept_consistent.valid
      simp only [outcome]
      cases committed with
      | written =>
        refine ⟨stored', kept_consistent, forward, fun cache held => ?_⟩
        cases held
        exact carried.written
      | conflict => exact ⟨stored', down, forward, nofun⟩
      | unavailable => exact ⟨stored', down, forward, nofun⟩

lemma Consistent.start_recovers {readable : Bool}
    (up : (repo.start readable fate node.storage).cache = some cache) :
    cache.records = (repo.recovery stored).getD stored := by
  unfold Repository.start at up
  cases readable with
  | false =>
    obtain ⟨err, refused⟩ := lawful.bootstrap_unavailable
    simp [refused] at up
  | true =>
    have booted : repo.bootstrap node.storage.read = .ok ⟨node.storage.revision, stored⟩ :=
      consistent.stores
    simp only [if_true, booted] at up
    cases recovered : repo.recovery stored with
    | none =>
      simp only [recovered] at up
      cases up
      rfl
    | some next =>
      rcases outcome : CasStore.commit repo.encode fate node.storage
        ⟨node.storage.revision, stored⟩ next with ⟨after, kept, committed⟩
      simp only [recovered, outcome] at up
      cases committed with
      | conflict => cases up
      | unavailable => cases up
      | written =>
        cases up
        cases commit_step outcome with
        | refused failed => exact absurd rfl failed
        | adopted => rfl

end

end

lemma Consistent.start_serves {revision : Nat} (consistent : repo.Consistent Valid node stored)
    (encodes : ∀ records, ∃ encoded, repo.encode records = some encoded)
    (larger : node.storage.revision < revision) :
    (repo.start true (.applied revision) node.storage).cache.isSome := by
  have booted : repo.bootstrap node.storage.read = .ok ⟨node.storage.revision, stored⟩ :=
    consistent.stores
  unfold Repository.start
  simp only [if_true, booted]
  cases recovered : repo.recovery stored with
  | none => rfl
  | some next =>
    obtain ⟨encoded, printed⟩ := encodes next
    simp [CasStore.commit, printed, Storage.compareAndSwap, larger]

/-- One event keeps the node consistent.  What is stored moves by at most one
commit, and a process holds what is stored or what it held before, moved by at
most one commit. -/
lemma Consistent.step (lawful : repo.Lawful Valid Permitted)
    (consistent : repo.Consistent Valid node stored) (event : Event Op)
    (permits : repo.Permits Permitted node event) :
    ∃ stored', repo.Consistent Valid (repo.step node event).1 stored' ∧
      repo.Moves stored stored' ∧
      ∀ later, (repo.step node event).1.cache = some later → later.records = stored' ∨
        ∃ cache, node.cache = some cache ∧ repo.Moves cache.records later.records := by
  cases event with
  | restart readable fate =>
    obtain ⟨stored', started, forward, up⟩ := consistent.start lawful readable fate
    exact ⟨stored', started, forward, fun later held => .inl (up later held)⟩
  | call op fate =>
    obtain ⟨storage, _ | cache⟩ := node
    · exact ⟨stored, consistent, .refl, nofun⟩
    · rcases outcome : repo.call op fate storage cache with ⟨after, kept, res⟩
      obtain ⟨stored', called, forward, onward⟩ := consistent.call lawful permits outcome
      simp only [Repository.step, outcome]
      refine ⟨stored', called, forward, fun later held => .inr ⟨cache, rfl, ?_⟩⟩
      cases held
      exact onward

/-- Everything stored or held is reached by commits from `base`, and the node
is consistent. -/
def Since (repo : Repository R M Op Res Err) (Valid : M → Prop) (base : M) (node : Node R M) :
    Prop :=
  ∃ stored, repo.Consistent Valid node stored ∧ repo.Evolves base stored ∧
    ∀ cache, node.cache = some cache → repo.Evolves base cache.records

lemma Since.step (lawful : repo.Lawful Valid Permitted) (since : repo.Since Valid base node)
    (event : Event Op) (permits : repo.Permits Permitted node event) :
    repo.Since Valid base (repo.step node event).1 := by
  obtain ⟨stored, consistent, ahead, held⟩ := since
  obtain ⟨stored', after, forward, onward⟩ := consistent.step lawful event permits
  have further := ahead.trans forward.to_reflTransGen
  refine ⟨stored', after, further, fun later now => ?_⟩
  rcases onward later now with same | ⟨cache, before, moves⟩
  · exact same ▸ further
  · exact (held cache before).trans moves.to_reflTransGen

lemma Since.run (lawful : repo.Lawful Valid Permitted) (since : repo.Since Valid base node)
    {events : List (Event Op)}
    (along : Machine.Along repo.step (repo.Permits Permitted) node events) :
    repo.Since Valid base (repo.run node events) :=
  Machine.run_invariant_along (fun _ event holds permits => holds.step lawful event permits)
    since along

lemma Since.run_all (lawful : repo.Lawful Valid fun _ _ => True)
    (since : repo.Since Valid base node) (events : List (Event Op)) :
    repo.Since Valid base (repo.run node events) :=
  Machine.run_invariant
    (fun node event holds => holds.step lawful event (repo.permits_all node event)) since events

lemma Consistent.run_all (lawful : repo.Lawful Valid fun _ _ => True)
    (consistent : repo.Consistent Valid node stored) (events : List (Event Op)) :
    ∃ stored', repo.Consistent Valid (repo.run node events) stored' ∧
      repo.Evolves stored stored' := by
  have keep : ∀ node event,
      (∃ later, repo.Consistent Valid node later ∧ repo.Evolves stored later) →
      ∃ later, repo.Consistent Valid (repo.step node event).1 later ∧
        repo.Evolves stored later := by
    rintro node event ⟨later, now, ahead⟩
    obtain ⟨next, after, forward, -⟩ := now.step lawful event (repo.permits_all node event)
    exact ⟨next, after, ahead.trans forward.to_reflTransGen⟩
  exact Machine.run_invariant keep ⟨stored, consistent, .refl⟩ events

/-- Without a recovery, one event moves what the process holds by at most one
commit. -/
lemma Consistent.step_moves {later : Cache M} (lawful : repo.Lawful Valid Permitted)
    (plain : ∀ records, repo.recovery records = none)
    (consistent : repo.Consistent Valid node stored) (permits : repo.Permits Permitted node event)
    (held : node.cache = some cache) (after : (repo.step node event).1.cache = some later) :
    repo.Moves cache.records later.records := by
  obtain ⟨storage, held_cache⟩ := node
  cases held
  cases event with
  | call op fate =>
    rcases outcome : repo.call op fate storage cache with ⟨written, kept, res⟩
    obtain ⟨-, -, -, onward⟩ := consistent.call lawful permits outcome
    simp only [Repository.step, outcome] at after
    cases after
    exact onward
  | restart readable fate =>
    have booted : repo.bootstrap storage.read = .ok ⟨storage.revision, stored⟩ := consistent.stores
    simp only [Repository.step, Repository.start] at after
    cases readable with
    | false =>
      obtain ⟨err, refused⟩ := lawful.bootstrap_unavailable
      simp [refused] at after
    | true =>
      simp only [if_true, booted, plain] at after
      cases after
      exact consistent.moves rfl

/-- The records a consistent process holds are a base for everything after. -/
lemma Consistent.since (consistent : repo.Consistent Valid node stored)
    (held : node.cache = some cache) : repo.Since Valid cache.records node := by
  refine ⟨stored, consistent, (consistent.moves held).to_reflTransGen, fun other eq => ?_⟩
  cases held.symm.trans eq
  exact .refl

/-- What a storage holds before any process ran is a base for everything
after. -/
lemma Since.down (stores : repo.Stores storage stored) (valid : Valid stored) :
    repo.Since Valid stored ⟨storage, none⟩ :=
  ⟨stored, .down stores valid, .refl, nofun⟩

/-- `P` holds of whatever is stored and of whatever is held. -/
def Everywhere (repo : Repository R M Op Res Err) (P : M → Prop) (node : Node R M) : Prop :=
  (∀ stored, repo.Stores node.storage stored → P stored) ∧
    ∀ cache, node.cache = some cache → P cache.records

lemma Stores.unique {first second : M} (one : repo.Stores storage first)
    (other : repo.Stores storage second) : first = second := by
  have same := one.symm.trans other
  cases same
  rfl

lemma Everywhere.step {P : M → Prop} (lawful : repo.Lawful Valid Permitted)
    (consistent : repo.Consistent Valid node stored) (permits : repo.Permits Permitted node event)
    (keep : ∀ {records next}, Valid records → repo.Commits records next → P records → P next)
    (holds : repo.Everywhere P node) : repo.Everywhere P (repo.step node event).1 := by
  have moved {records next : M} (valid : Valid records) (start : P records)
      (moves : repo.Moves records next) : P next := by
    cases moves with
    | refl => exact start
    | single commits => exact keep valid commits start
  obtain ⟨stored', after, forward, onward⟩ := consistent.step lawful event permits
  have further : P stored' := moved consistent.valid (holds.1 stored consistent.stores) forward
  refine ⟨fun other stores => (after.stores.unique stores) ▸ further, fun later now => ?_⟩
  rcases onward later now with same | ⟨cache, before, moves⟩
  · exact same ▸ further
  · exact moved (consistent.cache_valid before) (holds.2 cache before) moves

/-! ## Storages that boot -/

/-- What is stored can be bootstrapped; a process holds exactly that, or is
behind it by one commit it was not told of. -/
def Bootstraps (repo : Repository R M Op Res Err) (node : Node R M) : Prop :=
  ∃ stored, repo.Stores node.storage stored ∧ ∀ cache, node.cache = some cache →
    (cache.revision = node.storage.revision → cache.records = stored) ∧
    repo.Moves cache.records stored

/-- After one more write the storage can be bootstrapped exactly when that
write was permitted. -/
def BootsExactlyWhen (repo : Repository R M Op Res Err) (Permitted : Op → M → Prop)
    (node : Node R M) : Prop :=
  ∀ op fate cache, repo.Writes node op fate cache →
    let next := (repo.step node (.call op fate)).1
    (∃ booted, repo.bootstrap next.storage.read = .ok booted) ↔ Permitted op cache.records

lemma Consistent.bootstraps (consistent : repo.Consistent Valid node stored) :
    repo.Bootstraps node :=
  ⟨stored, consistent.stores, fun _ held => ⟨consistent.current held, consistent.moves held⟩⟩

/-- Where no other commit can be bootstrapped, the permitted writes are exactly
those that leave a storage that boots. -/
lemma Consistent.boots_exactly_when (lawful : repo.Lawful Valid Permitted)
    (consistent : repo.Consistent Valid node stored)
    (necessary : ∀ {op records next answer encoded revision booted}, Valid records →
      repo.plan op records = .commit next answer → repo.encode next = some encoded →
        repo.bootstrap (.records revision encoded) = .ok booted → Permitted op records) :
    repo.BootsExactlyWhen Permitted node := by
  intro op fate cache writes next
  constructor
  · rintro ⟨booted, ok⟩
    obtain ⟨records, reply, encoded, revision, planned, printed, after⟩ := writes.stored
    have found : next.storage.read = .records revision encoded := by
      simp [next, after, Storage.read]
    rw [found] at ok
    exact necessary (consistent.cache_valid writes.1) planned printed ok
  · intro permitted
    have permits : repo.Permits Permitted node (.call op fate) := by
      intro other other_writes
      cases writes.1.symm.trans other_writes.1
      exact permitted
    obtain ⟨stored', after, -, -⟩ := consistent.step lawful (.call op fate) permits
    exact ⟨_, after.stores⟩

/-! ## Answers that are given once -/

/-- A kind of answer that is given only with a commit, which leaves a mark that
no commit removes and that was not there before. -/
structure GrantsOnce (repo : Repository R M Op Res Err) (Valid : M → Prop)
    (granted : Op → Res → Prop) (done : M → Prop) : Prop where
  reply {op : Op} {records : M} {res : Res} :
    repo.plan op records = .reply res → ¬granted op res
  commit {op : Op} {records next : M} {answer : Committed → Res} {committed : Committed} :
    repo.plan op records = .commit next answer → granted op (answer committed) →
      committed = .written ∧ done next ∧ ¬done records
  keep {records next : M} : Valid records → repo.Commits records next → done records → done next

def Granted (granted : Op → Res → Prop) : Seen Op Res → Prop
  | .answered op res => granted op res
  | .unanswered _ => False
  | .restarted => False

lemma GrantsOnce.step {granted : Op → Res → Prop} {done : M → Prop}
    (lawful : repo.Lawful Valid fun _ _ => True) (once : repo.GrantsOnce Valid granted done)
    (consistent : repo.Consistent Valid node stored)
    (given : Granted granted (repo.step node event).2) :
    ¬repo.Everywhere done node ∧ repo.Everywhere done (repo.step node event).1 := by
  cases event with
  | restart readable fate => exact given.elim
  | call op fate =>
    obtain ⟨storage, _ | cache⟩ := node
    · exact given.elim
    · rcases outcome : repo.call op fate storage cache with ⟨after, kept, res⟩
      obtain ⟨stored', called, -, -⟩ := consistent.call lawful (fun _ _ => trivial) outcome
      simp only [Repository.step, outcome] at given ⊢
      have step : PlanStep repo.encode fate storage cache (repo.plan op cache.records) after kept
        res := Plan.execute_step outcome
      generalize planned : repo.plan op cache.records = plan at step
      cases step with
      | replied => exact absurd given (once.reply planned)
      | committed step =>
        obtain ⟨rfl, marked, unmarked⟩ := once.commit planned given
        refine ⟨fun holds => unmarked (holds.2 cache rfl), ?_⟩
        cases step with
        | refused failed => exact absurd rfl failed
        | adopted encoded current larger =>
          have same := called.current rfl rfl
          refine ⟨fun other stores => ?_, fun later held => ?_⟩
          · exact (called.stores.unique stores) ▸ same ▸ marked
          · cases held
            exact marked

lemma GrantsOnce.trace {granted : Op → Res → Prop} {done : M → Prop}
    (lawful : repo.Lawful Valid fun _ _ => True) (once : repo.GrantsOnce Valid granted done)
    (consistent : repo.Consistent Valid node stored) (events : List (Event Op)) :
    (repo.trace node events).Pairwise fun first second =>
      ¬(Granted granted first ∧ Granted granted second) := by
  refine Machine.trace_pairwise (fun node => ∃ stored, repo.Consistent Valid node stored)
    (fun seen node => Granted granted seen → repo.Everywhere done node)
    ?_ ?_ ?_ ?_ ⟨stored, consistent⟩ events
  · intro node event ⟨stored, consistent⟩
    obtain ⟨stored', after, -⟩ := consistent.step lawful event (repo.permits_all node event)
    exact ⟨stored', after⟩
  · intro node event ⟨stored, consistent⟩ given
    exact (once.step lawful consistent given).2
  · intro seen node event ⟨stored, consistent⟩ marked given
    exact (marked given).step lawful consistent (repo.permits_all node event) once.keep
  · intro seen node event ⟨stored, consistent⟩ marked ⟨first, second⟩
    exact (once.step lawful consistent second).1 (marked first)

lemma Evolves.keeps {P : M → Prop} (keep : ∀ {records next}, P records →
    repo.Commits records next → P next) {records next : M} (evolves : repo.Evolves records next)
    (holds : P records) : P next := by
  induction evolves with
  | refl => exact holds
  | tail _ commits ih => exact keep ih commits

end Steps

end Repository

end CasStore
