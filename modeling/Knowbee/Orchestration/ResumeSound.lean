import Knowbee.Orchestration.EventLedger

/-!
# What a restart resumes

The lifecycle of a sub-session is folded over the rows that a query selects:
it begins with the first event that queues, starts or reports it, and nothing
follows its end.  The projection folds the page instead, and its last lifecycle
event alone decides (`mem_activeSubSessionIds`), so it reports the lifecycle
exactly where the page tells it (`PageTells`, `resume_exact_iff`).
-/

namespace Knowbee.Orchestration

open List OrchestrationEventKind

/-- The event shows its sub-session at work or waiting to be. -/
def OrchestrationEventKind.begins : OrchestrationEventKind → Bool
  | .subSessionQueued | .subSessionStarted | .subSessionProgressReported => true
  | _ => false

def OrchestrationEventKind.isTerminal : OrchestrationEventKind → Bool
  | .subSessionCompleted | .subSessionFailed | .subSessionCancelled => true
  | _ => false

inductive Lifecycle where
  | fresh | begun | ended
  deriving DecidableEq

/-- The lifecycle after an event; an end is final. -/
def Lifecycle.after (lifecycle : Lifecycle) (kind : OrchestrationEventKind) : Lifecycle :=
  if lifecycle = .ended ∨ kind.isTerminal = true then .ended
  else if kind.begins then .begun else lifecycle

variable {kind : OrchestrationEventKind} {entries : List SubSessionEntry} {subSessionId : String}

lemma Lifecycle.after_of_terminal (terminal : kind.isTerminal = true) (lifecycle : Lifecycle) :
    lifecycle.after kind = .ended :=
  if_pos (.inr terminal)

lemma Lifecycle.after_of_not_terminal {lifecycle : Lifecycle} (live : lifecycle ≠ .ended)
    (terminal : ¬kind.isTerminal = true) :
    lifecycle.after kind = if kind.begins then .begun else lifecycle :=
  if_neg (not_or.mpr ⟨live, terminal⟩)

def kindsOf (subSessionId : String) (events : List OrchestrationEvent) :
    List OrchestrationEventKind :=
  (events.filter fun event => event.subSessionId = some subSessionId).map (·.eventKind)

def lifecycleOf (subSessionId : String) (events : List OrchestrationEvent) : Lifecycle :=
  (kindsOf subSessionId events).foldl Lifecycle.after .fresh

variable (kinds : List OrchestrationEventKind)

lemma foldl_after_ended : kinds.foldl Lifecycle.after .ended = .ended := by
  induction kinds with
  | nil => rfl
  | cons kind rest ih => exact ih

lemma foldl_after_begun :
    kinds.foldl Lifecycle.after .begun = .begun ↔ ∀ kind ∈ kinds, kind.isTerminal = false := by
  induction kinds with
  | nil => simp
  | cons kind rest ih =>
    rw [foldl_cons, forall_mem_cons]
    by_cases terminal : kind.isTerminal = true
    · rw [Lifecycle.after_of_terminal terminal, foldl_after_ended, terminal]
      simp
    · rw [Lifecycle.after_of_not_terminal (by decide) terminal, ite_self, ih]
      simp [terminal]

/-- A lifecycle has begun and not ended when an event began it and none ended it. -/
lemma foldl_after_fresh : kinds.foldl Lifecycle.after .fresh = .begun ↔
      (∃ kind ∈ kinds, kind.begins = true) ∧ ∀ kind ∈ kinds, kind.isTerminal = false := by
  induction kinds with
  | nil => simp
  | cons kind rest ih =>
    rw [foldl_cons, forall_mem_cons, exists_mem_cons_iff]
    by_cases terminal : kind.isTerminal = true
    · rw [Lifecycle.after_of_terminal terminal, foldl_after_ended, terminal]
      simp
    · rw [Lifecycle.after_of_not_terminal (by decide) terminal]
      by_cases begins : kind.begins = true
      · rw [if_pos begins, foldl_after_begun]
        simp [terminal, begins]
      · rw [if_neg begins, ih]
        simp [terminal, begins]

lemma findEntry_setEntry (entry : SubSessionEntry) (entries : List SubSessionEntry)
    (subSessionId : String) : findEntry (setEntry entry entries) subSessionId =
      if entry.subSessionId = subSessionId then some entry else findEntry entries subSessionId := by
  induction entries with
  | nil =>
    unfold setEntry findEntry
    by_cases own : entry.subSessionId = subSessionId <;> simp [own]
  | cons first rest ih =>
    unfold findEntry at ih ⊢
    rw [setEntry]
    by_cases same : first.subSessionId = entry.subSessionId
    · rw [if_pos same, find?_cons, find?_cons, same]
      by_cases own : entry.subSessionId = subSessionId <;> simp [own]
    · rw [if_neg same, find?_cons, find?_cons]
      by_cases own : first.subSessionId = subSessionId
      · have other : entry.subSessionId ≠ subSessionId := fun eq => same (own.trans eq.symm)
        simp [own, other]
      · simpa [own] using ih

lemma mem_ids_setEntry {entry : SubSessionEntry}
    (member : subSessionId ∈ (setEntry entry entries).map (·.subSessionId)) :
    subSessionId = entry.subSessionId ∨ subSessionId ∈ entries.map (·.subSessionId) := by
  induction entries with
  | nil => exact .inl (mem_singleton.mp member)
  | cons first rest ih =>
    rw [setEntry] at member
    by_cases same : first.subSessionId = entry.subSessionId
    · rw [if_pos same] at member
      rcases mem_cons.mp member with here | later
      · exact .inl here
      · exact .inr (mem_cons_of_mem _ later)
    · rw [if_neg same] at member
      rcases mem_cons.mp member with here | later
      · exact .inr (here ▸ mem_cons_self)
      · exact (ih later).imp_right (mem_cons_of_mem _)

lemma setEntry_nodup (entry : SubSessionEntry) (distinct : (entries.map (·.subSessionId)).Nodup) :
    ((setEntry entry entries).map (·.subSessionId)).Nodup := by
  induction entries with
  | nil => exact nodup_singleton _
  | cons first rest ih =>
    obtain ⟨new, distinct⟩ := nodup_cons.mp distinct
    rw [setEntry]
    by_cases same : first.subSessionId = entry.subSessionId
    · rw [if_pos same, map_cons]
      exact nodup_cons.mpr ⟨same ▸ new, distinct⟩
    · rw [if_neg same, map_cons]
      refine nodup_cons.mpr ⟨fun member => ?_, ih distinct⟩
      rcases mem_ids_setEntry member with here | later
      · exact same here
      · exact new later

lemma recordEvent_nodup (distinct : (entries.map (·.subSessionId)).Nodup)
    (event : OrchestrationEvent) : ((recordEvent entries event).map (·.subSessionId)).Nodup := by
  unfold recordEvent
  cases event.subSessionId with
  | none => exact distinct
  | some subSessionId =>
    dsimp only
    by_cases blank : subSessionId = ""
    · rw [if_pos blank]
      exact distinct
    · rw [if_neg blank]
      exact setEntry_nodup _ distinct

variable (table : List OrchestrationEvent)

variable (query : OrchestrationEventQuery)

lemma monitored_nodup : ((monitoredSubSessions table query).map (·.subSessionId)).Nodup := by
  unfold monitoredSubSessions
  have kept (events : List OrchestrationEvent) entries
      (distinct : (entries.map (·.subSessionId)).Nodup) :
      ((events.foldl recordEvent entries).map (·.subSessionId)).Nodup := by
    induction events generalizing entries with
    | nil => exact distinct
    | cons event rest ih => exact ih _ (recordEvent_nodup distinct event)
  exact kept _ [] nodup_nil

lemma status_recordEvent (entries : List SubSessionEntry) (event : OrchestrationEvent)
    (named : subSessionId ≠ "") :
    (findEntry (recordEvent entries event) subSessionId).map (·.status) =
      if event.subSessionId = some subSessionId
      then some (statusAfter ((findEntry entries subSessionId).map (·.status)) event.eventKind)
      else (findEntry entries subSessionId).map (·.status) := by
  unfold recordEvent
  cases owner : event.subSessionId with
  | none => rfl
  | some other =>
    dsimp only
    by_cases blank : other = ""
    · have different : ¬some other = some subSessionId := fun same =>
        named ((Option.some.inj same).symm.trans blank)
      rw [if_pos blank, if_neg different]
    · rw [if_neg blank, findEntry_setEntry]
      by_cases own : other = subSessionId
      · subst own
        rw [if_pos rfl, if_pos rfl]
        rfl
      · rw [if_neg own, if_neg fun same => own (Option.some.inj same)]

/-- The status that kinds of events leave, from a status on. -/
def statusFold (status : Option SubSessionStatus) (kinds : List OrchestrationEventKind) :
    Option SubSessionStatus :=
  kinds.foldl (fun status kind => some (statusAfter status kind)) status

lemma status_foldl (events : List OrchestrationEvent) (entries : List SubSessionEntry)
    (named : subSessionId ≠ "") :
    (findEntry (events.foldl recordEvent entries) subSessionId).map (·.status) =
      statusFold ((findEntry entries subSessionId).map (·.status)) (kindsOf subSessionId events) := by
  induction events generalizing entries with
  | nil => rfl
  | cons event rest ih =>
    rw [foldl_cons, ih, status_recordEvent entries event named]
    unfold kindsOf
    by_cases own : event.subSessionId = some subSessionId
    · rw [if_pos own, filter_cons_of_pos (by simpa using own)]
      rfl
    · rw [if_neg own, filter_cons_of_neg (by simpa using own)]

def OrchestrationEventKind.isLifecycle (kind : OrchestrationEventKind) : Bool :=
  kind.begins || kind.isTerminal

def lastLifecycle : Option OrchestrationEventKind := (kinds.filter (·.isLifecycle)).getLast?

def SubSessionStatus.isActive (status : SubSessionStatus) : Bool :=
  status = .queued || status = .running

lemma isActive_statusAfter (previous : Option SubSessionStatus) (kind : OrchestrationEventKind) :
    (statusAfter previous kind).isActive = true ↔
      kind.begins = true ∨ kind.isTerminal = false ∧ ∃ status ∈ previous, status.isActive = true := by
  cases previous with
  | none => cases kind <;> simp [statusAfter, SubSessionStatus.isActive,
      begins, isTerminal]
  | some status => cases kind <;> cases status <;> simp [statusAfter, SubSessionStatus.isActive,
      begins, isTerminal]

lemma isActive_statusFold : (∃ status ∈ statusFold none kinds, status.isActive = true) ↔
      ∃ kind ∈ lastLifecycle kinds, kind.begins = true := by
  induction kinds using reverseRecOn with
  | nil => simp [statusFold, lastLifecycle]
  | append_singleton kinds kind ih =>
    unfold statusFold lastLifecycle at ih ⊢
    rw [foldl_append, foldl_cons, foldl_nil, filter_append]
    have only {status : SubSessionStatus} : (∃ found ∈ some status, found.isActive = true) ↔
        status.isActive = true := by simp
    rw [only, isActive_statusAfter, ih]
    by_cases lifecycle : kind.isLifecycle = true
    · rw [filter_cons_of_pos lifecycle, filter_nil, getLast?_concat]
      have one : kind.begins = true ∨ kind.isTerminal = true := by
        simpa [isLifecycle] using lifecycle
      rcases one with begins | terminal
      · simp [begins]
      · have other : kind.begins = false := by
          cases kind <;> first | rfl | cases terminal
        simp [terminal, other]
    · rw [filter_cons_of_neg lifecycle, filter_nil, append_nil]
      have neither : kind.begins = false ∧ kind.isTerminal = false := by
        simpa [isLifecycle] using lifecycle
      simp [neither.1, neither.2]

lemma mem_activeSubSessionIds {table : List OrchestrationEvent}
    {query : OrchestrationEventQuery} (named : subSessionId ≠ "") :
    subSessionId ∈ (buildRestartResumeProjection table query).activeSubSessionIds ↔
      ∃ kind ∈ lastLifecycle (kindsOf subSessionId (listOrchestrationEventLedger table query)),
        kind.begins = true := by
  have status : (findEntry (monitoredSubSessions table query) subSessionId).map (·.status) =
      statusFold none (kindsOf subSessionId (listOrchestrationEventLedger table query)) :=
    status_foldl (listOrchestrationEventLedger table query) [] named
  rw [← isActive_statusFold, ← status]
  have found entry : findEntry (monitoredSubSessions table query) subSessionId =
      some entry ↔ entry ∈ monitoredSubSessions table query ∧ entry.subSessionId = subSessionId := by
    constructor
    · intro at_
      exact ⟨mem_of_find?_eq_some at_, by simpa using find?_some at_⟩
    · rintro ⟨member, rfl⟩
      cases other : findEntry (monitoredSubSessions table query) entry.subSessionId with
      | none =>
        have none_ := find?_eq_none.mp other entry member
        simp at none_
      | some first =>
        have same : first.subSessionId = entry.subSessionId := by
          simpa using find?_some other
        rw [inj_on_of_nodup_map (monitored_nodup table query)
          (mem_of_find?_eq_some other) member same]
  unfold buildRestartResumeProjection
  simp only [mem_map, mem_filter, Option.mem_def, Option.map_eq_some_iff]
  constructor
  · rintro ⟨entry, ⟨member, active⟩, own⟩
    exact ⟨entry.status, ⟨entry, (found entry).mpr ⟨member, own⟩, rfl⟩, active⟩
  · rintro ⟨status, ⟨entry, at_, rfl⟩, active⟩
    obtain ⟨member, own⟩ := (found entry).mp at_
    exact ⟨entry, ⟨member, active⟩, own⟩

def ledgerOf : List OrchestrationEvent := table.filter query.selects

/-- The restart resumes the sub-sessions at work, and no other. -/
def ResumesExactly : Prop :=
  ∀ subSessionId ≠ "",
    subSessionId ∈ (buildRestartResumeProjection table query).activeSubSessionIds ↔
      lifecycleOf subSessionId (ledgerOf table query) = .begun

/-- What the page must show of a sub-session: the end of one that has ended, if
it shows anything of it that changes its status, as the last such event; and the
beginning of one that has begun and not ended. -/
structure PageTells (ledger page : List OrchestrationEvent) (subSessionId : String) : Prop where
  ended : (∃ kind ∈ kindsOf subSessionId ledger, kind.isTerminal = true) →
    ∀ kind ∈ lastLifecycle (kindsOf subSessionId page), kind.isTerminal = true
  begun : (∀ kind ∈ kindsOf subSessionId ledger, kind.isTerminal = false) →
    (∃ kind ∈ kindsOf subSessionId ledger, kind.begins = true) →
    ∃ kind ∈ kindsOf subSessionId page, kind.begins = true

lemma kindsOf_sublist (subSessionId : String) :
    (kindsOf subSessionId (listOrchestrationEventLedger table query)).Sublist
      (kindsOf subSessionId (ledgerOf table query)) := by
  have page : (listOrchestrationEventLedger table query).Sublist (ledgerOf table query) :=
    (take_sublist _ _).trans (monotone_filter_right table fun event selected =>
      (Bool.and_eq_true_iff.mp selected).1)
  exact (page.filter _).map _

lemma not_begins_of_isTerminal (terminal : kind.isTerminal = true) : kind.begins = false := by
  cases kind <;> first | rfl | cases terminal

lemma mem_lastLifecycle {kinds : List OrchestrationEventKind}
    (last : kind ∈ lastLifecycle kinds) : kind ∈ kinds ∧ kind.isLifecycle = true :=
  mem_filter.mp (mem_of_getLast? last)

lemma exists_lastLifecycle {kinds : List OrchestrationEventKind} (member : kind ∈ kinds)
    (lifecycle : kind.isLifecycle = true) : ∃ last, last ∈ lastLifecycle kinds := by
  cases found : lastLifecycle kinds with
  | some last => exact ⟨last, rfl⟩
  | none =>
    have empty := getLast?_eq_none_iff.mp found
    have present := mem_filter.mpr ⟨member, lifecycle⟩
    rw [empty] at present
    cases present

/-- The last lifecycle event of a page agrees with the lifecycle that the ledger
tells exactly where the page tells it. -/
lemma lifecycle_iff_pageTells {table : List OrchestrationEvent} {query : OrchestrationEventQuery}
    (subSessionId : String) :
    ((∃ kind ∈ lastLifecycle (kindsOf subSessionId (listOrchestrationEventLedger table query)),
        kind.begins = true) ↔ lifecycleOf subSessionId (ledgerOf table query) = .begun) ↔
      PageTells (ledgerOf table query) (listOrchestrationEventLedger table query) subSessionId := by
  have within := (kindsOf_sublist table query subSessionId).subset
  rw [lifecycleOf, foldl_after_fresh]
  constructor
  · intro same
    constructor
    · rintro ⟨ending, held, terminal⟩ kind last
      by_contra live
      have begins : kind.begins = true := by
        simpa [isLifecycle, live] using (mem_lastLifecycle last).2
      have none_ := (same.mp ⟨kind, last, begins⟩).2 ending held
      exact absurd terminal (Bool.eq_false_iff.mp none_)
    · intro live begun
      obtain ⟨kind, last, begins⟩ := same.mpr ⟨begun, live⟩
      exact ⟨kind, (mem_lastLifecycle last).1, begins⟩
  · intro tells
    constructor
    · rintro ⟨kind, last, begins⟩
      refine ⟨⟨kind, within (mem_lastLifecycle last).1, begins⟩, fun ending held => ?_⟩
      by_contra terminal
      have over_ := tells.ended ⟨ending, held, Bool.not_eq_false _ |>.mp terminal⟩ kind last
      exact absurd begins (Bool.eq_false_iff.mp (not_begins_of_isTerminal over_))
    · rintro ⟨begun, live⟩
      obtain ⟨kind, shown, begins⟩ := tells.begun live begun
      obtain ⟨last, found⟩ := exists_lastLifecycle shown
        (by rw [isLifecycle, begins, Bool.true_or])
      obtain ⟨held, lifecycle⟩ := mem_lastLifecycle found
      refine ⟨last, found, ?_⟩
      simpa [isLifecycle, live last (within held)] using lifecycle

/-- The projection resumes what is at work exactly when its page tells of every
sub-session whether it is. -/
theorem resume_exact_iff (table : List OrchestrationEvent) (query : OrchestrationEventQuery) :
    ResumesExactly table query ↔ ∀ subSessionId ≠ "",
      PageTells (ledgerOf table query) (listOrchestrationEventLedger table query) subSessionId := by
  refine forall₂_congr fun subSessionId named => ?_
  rw [mem_activeSubSessionIds named]
  exact lifecycle_iff_pageTells subSessionId

def workerEvent (sequence : Nat) (eventKind : OrchestrationEventKind) : OrchestrationEvent where
  sequence
  createdAt := sequence
  eventKind
  runId := some "run"
  requestGroupId := some "group"
  subSessionId := some "worker"
  agentId := some "agent"
  teamId := none
  exchangeId := none
  approvalId := none
  correlationId := "group"

/-- A progress report that arrives after the end brings the sub-session back. -/
theorem late_progress_resumes : ¬ResumesExactly
    [workerEvent 1 .subSessionStarted, workerEvent 2 .subSessionCompleted,
      workerEvent 3 .subSessionProgressReported] {} := by
  intro exactly_
  have reported := exactly_ "worker" (by decide)
  revert reported
  decide

end Knowbee.Orchestration
