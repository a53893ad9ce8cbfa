import Mathlib.Data.List.Perm.Basic

/-!
# Outboxes

A queue of messages that wait until another party accepts them.  Every message
has a place, which is counted when it is put in and which a newer message takes
over from the one it replaces.  `Exact` says that the messages accepted and
those that wait are in the order of their places, and that these and the
messages that were withdrawn are all that were put in, each once.
-/

/-- What was put into an outbox and withdrawn from it, under its places. -/
structure Outbox (M : Type) where
  places : Nat
  (given withdrawn : List (Nat × M))

namespace Outbox

open List

variable {M : Type} {outbox : Outbox M} {accepted queue : List (Nat × M)}

def empty : Outbox M := ⟨0, [], []⟩

def place : Nat → List M → List (Nat × M)
  | _, [] => []
  | start, message :: rest => (start, message) :: place (start + 1) rest

def give (outbox : Outbox M) (messages : List M) : Outbox M :=
  { outbox with
    places := outbox.places + messages.length
    given := outbox.given ++ place outbox.places messages }

def renew (outbox : Outbox M) (at' : Nat) (old new : M) : Outbox M :=
  { outbox with
    given := outbox.given ++ [(at', new)]
    withdrawn := outbox.withdrawn ++ [(at', old)] }

def withdraw (outbox : Outbox M) (entries : List (Nat × M)) : Outbox M :=
  { outbox with withdrawn := outbox.withdrawn ++ entries }

/-- The accepted messages and those in the queue are in the order of places, and
with the withdrawn ones they are what was given. -/
structure Exact (outbox : Outbox M) (accepted queue : List (Nat × M)) : Prop where
  ordered : ((accepted ++ queue).map Prod.fst).Pairwise (· < ·)
  placed : ∀ entry ∈ accepted ++ queue, entry.1 < outbox.places
  kept : (accepted ++ queue ++ outbox.withdrawn).Perm outbox.given

lemma exact_empty : Exact (empty : Outbox M) [] [] :=
  ⟨List.Pairwise.nil, nofun, List.Perm.refl _⟩

lemma mem_place {start : Nat} {messages : List M} {entry : Nat × M}
    (member : entry ∈ place start messages) :
    start ≤ entry.1 ∧ entry.1 < start + messages.length := by
  induction messages generalizing start with
  | nil => cases member
  | cons message rest ih =>
    rw [length_cons]
    rcases mem_cons.mp member with rfl | later
    · exact ⟨Nat.le_refl start, by omega⟩
    · have bounds := ih later
      omega

lemma place_ordered (start : Nat) (messages : List M) :
    ((place start messages).map Prod.fst).Pairwise (· < ·) := by
  induction messages generalizing start with
  | nil => exact List.Pairwise.nil
  | cons message rest ih =>
    refine pairwise_cons.mpr ⟨fun number member => ?_, ih (start + 1)⟩
    obtain ⟨entry, present, rfl⟩ := mem_map.mp member
    exact (mem_place present).1

lemma Exact.give (exact : Exact outbox accepted queue) (messages : List M) :
    Exact (outbox.give messages) accepted (queue ++ place outbox.places messages) := by
  refine ⟨?_, fun entry member => ?_, ?_⟩
  · rw [← append_assoc, map_append]
    refine pairwise_append.mpr
      ⟨exact.ordered, place_ordered _ _, fun before member after later => ?_⟩
    obtain ⟨entry, present, rfl⟩ := mem_map.mp member
    obtain ⟨entry', present', rfl⟩ := mem_map.mp later
    exact Nat.lt_of_lt_of_le (exact.placed entry present) (mem_place present').1
  · rw [← append_assoc] at member
    rcases mem_append.mp member with old | new
    · exact Nat.lt_of_lt_of_le (exact.placed entry old) (Nat.le_add_right _ _)
    · exact (mem_place new).2
  · have moved : (accepted ++ (queue ++ place outbox.places messages) ++ outbox.withdrawn).Perm
        (accepted ++ queue ++ outbox.withdrawn ++ place outbox.places messages) := by
      rw [← append_assoc accepted, append_assoc _ _ outbox.withdrawn,
        append_assoc _ outbox.withdrawn]
      exact perm_append_comm.append_left _
    exact moved.trans (exact.kept.append_right _)

lemma Exact.accept {entry : Nat × M} (exact : Exact outbox accepted (entry :: queue)) :
    Exact outbox (accepted ++ [entry]) queue := by
  have same : accepted ++ [entry] ++ queue = accepted ++ entry :: queue := by
    rw [append_assoc, singleton_append]
  obtain ⟨ordered, placed, kept⟩ := exact
  rw [← same] at ordered placed kept
  exact ⟨ordered, placed, kept⟩

lemma Exact.renew {front back : List (Nat × M)} {at' : Nat} {old : M}
    (exact : Exact outbox accepted (front ++ (at', old) :: back)) (new : M) :
    Exact (outbox.renew at' old new) accepted (front ++ (at', new) :: back) := by
  obtain ⟨ordered, placed, kept⟩ := exact
  refine ⟨?_, fun entry member => ?_, ?_⟩
  · simp only [map_append, map_cons] at ordered ⊢
    exact ordered
  · rcases mem_append.mp member with before | waits
    · exact placed entry (mem_append_left _ before)
    · rcases mem_append.mp waits with ahead | behind
      · exact placed entry (mem_append_right _ (mem_append_left _ ahead))
      · rcases mem_cons.mp behind with rfl | after
        · exact placed (at', old) (mem_append_right _
            (mem_append_right _ mem_cons_self))
        · exact placed entry (mem_append_right _
            (mem_append_right _ (mem_cons_of_mem _ after)))
  · have moved : (accepted ++ (front ++ (at', new) :: back) ++
        (outbox.withdrawn ++ [(at', old)])).Perm
        (accepted ++ (front ++ (at', old) :: back) ++ outbox.withdrawn ++ [(at', new)]) := by
      classical
      rw [perm_iff_count]
      intro entry
      simp only [count_append, count_cons, count_nil]
      omega
    exact moved.trans (kept.append_right _)

lemma Exact.withdraw (exact : Exact outbox accepted queue) {rest gone : List (Nat × M)}
    (remains : rest.Sublist queue) (parts : (rest ++ gone).Perm queue) :
    Exact (outbox.withdraw gone) accepted rest := by
  obtain ⟨ordered, placed, kept⟩ := exact
  have fewer : (accepted ++ rest).Sublist (accepted ++ queue) := remains.append_left accepted
  refine ⟨ordered.sublist (fewer.map _), fun entry member => placed entry (fewer.subset member), ?_⟩
  have moved : (accepted ++ rest ++ (outbox.withdrawn ++ gone)).Perm
      (accepted ++ (rest ++ gone) ++ outbox.withdrawn) := by
    rw [append_assoc, append_assoc, append_assoc]
    exact (perm_append_comm.append_left rest).append_left accepted
  have joined : (accepted ++ (rest ++ gone)).Perm (accepted ++ queue) := parts.append_left accepted
  exact moved.trans ((joined.append_right _).trans kept)

end Outbox
