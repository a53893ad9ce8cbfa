import Mathlib.Data.List.Basic

/-!
# Chains of promises

A call is chained to the promise that is held under its key, if there is one, and
its own promise is held in its place until the call has ended.  Where a call that
is chained to another waits until that has ended, a call is past its wait only
behind calls of its key that have ended (`Sound.turn`).
-/

namespace PromiseChain

open List

/-- What is read off a call.  One that has ended waits no more. -/
structure Reading (K α : Type) where
  key : α → K
  previous : α → Option Nat
  (waits ended : α → Bool)
  past {call : α} : ended call = true → waits call = false

variable {K α : Type} {reading : Reading K α} {held : K → Option Nat} {calls : List α}

/-- What is held under a key is its last call, which has not ended, and nothing is held
where all calls have. -/
structure Sound (reading : Reading K α) (held : K → Option Nat) (calls : List α) : Prop where
  behind {i j : Nat} {a b : α} : calls[i]? = some a → calls[j]? = some b → i < j →
    reading.key a = reading.key b → reading.waits b = false → reading.ended a = true
  chained {i j : Nat} {b : α} : calls[j]? = some b → reading.previous b = some i →
    i < j ∧ ∃ a, calls[i]? = some a ∧ reading.key a = reading.key b
  waiting {i j : Nat} {a b : α} : calls[i]? = some a → calls[j]? = some b → i < j →
    reading.key a = reading.key b →
      reading.ended a = true ∨ ∃ place, reading.previous b = some place ∧ i ≤ place
  mapped {key : K} {i : Nat} : held key = some i →
    (∃ a, calls[i]? = some a ∧ reading.key a = key ∧ reading.ended a = false) ∧
      ∀ {k : Nat} {c : α}, i < k → calls[k]? = some c → reading.key c ≠ key
  unmapped {key : K} {i : Nat} {a : α} : held key = none → calls[i]? = some a →
    reading.key a = key → reading.ended a = true

lemma sound_nil (held : K → Option Nat) (free : ∀ key, held key = none) :
    Sound reading held [] where
  behind found := by cases found
  chained found := by cases found
  waiting found := by cases found
  mapped found := nomatch (free _).symm.trans found
  unmapped _ found := by cases found

lemma getElem?_append_call {call found : α} {i : Nat} (here : (calls ++ [call])[i]? = some found) :
    (i < calls.length ∧ calls[i]? = some found) ∨ (i = calls.length ∧ found = call) := by
  rcases Nat.lt_trichotomy i calls.length with before | rfl | after
  · rw [getElem?_append_left before] at here
    exact .inl ⟨before, here⟩
  · rw [getElem?_concat_length] at here
    exact .inr ⟨rfl, (Option.some.inj here).symm⟩
  · rw [getElem?_eq_none (by simp; omega)] at here
    cases here

lemma getElem?_set_call {call found : α} {id i : Nat} (here : (calls.set id call)[i]? = some found) :
    (i = id ∧ found = call) ∨ (i ≠ id ∧ calls[i]? = some found) := by
  rw [getElem?_set] at here
  split_ifs at here with same inside
  · exact .inl ⟨same.symm, (Option.some.inj here).symm⟩
  · exact .inr ⟨fun same' => same same'.symm, here⟩

namespace Sound

variable (sound : Sound reading held calls)
include sound

variable {call : α}

lemma turn {id : Nat} (found : calls[id]? = some call)
    (free : ∀ place a, reading.previous call = some place → calls[place]? = some a → reading.ended a = true)
    {i : Nat} {a : α} (here : calls[i]? = some a) (less : i < id)
    (same : reading.key a = reading.key call) : reading.ended a = true := by
  rcases sound.waiting here found less same with ended | ⟨place, chain, below⟩
  · exact ended
  · obtain ⟨-, b, there, own⟩ := sound.chained found chain
    have ended := free place b chain there
    rcases Nat.lt_or_eq_of_le below with earlier | rfl
    · exact sound.behind here there earlier (same.trans own.symm) (reading.past ended)
    · cases here.symm.trans there
      exact ended

lemma append {held' : K → Option Nat}
    (previous : reading.previous call = held (reading.key call))
    (waits : reading.waits call = true) (begins : reading.ended call = false)
    (place : held' (reading.key call) = some calls.length)
    (others : ∀ {key}, key ≠ reading.key call → held' key = held key) :
    Sound reading held' (calls ++ [call]) := by
  have old {i : Nat} {a : α} (found : calls[i]? = some a) : (calls ++ [call])[i]? = some a :=
    (getElem?_append_left (List.getElem?_eq_some_iff.mp found).1).trans found
  refine ⟨fun {i j a b} first second less same past => ?_, fun {i j b} found chain => ?_,
    fun {i j a b} first second less same => ?_, fun {key i} found => ?_,
    fun {key i a} absent found own => ?_⟩
  · rcases getElem?_append_call second with ⟨below, second⟩ | ⟨rfl, rfl⟩
    · rcases getElem?_append_call first with ⟨-, first⟩ | ⟨rfl, rfl⟩
      · exact sound.behind first second less same past
      · omega
    · exact nomatch past.symm.trans waits
  · rcases getElem?_append_call found with ⟨-, found⟩ | ⟨rfl, rfl⟩
    · obtain ⟨less, a, here, own⟩ := sound.chained found chain
      exact ⟨less, a, old here, own⟩
    · obtain ⟨⟨a, here, own, -⟩, -⟩ := sound.mapped (previous.symm.trans chain)
      exact ⟨(List.getElem?_eq_some_iff.mp here).1, a, old here, own⟩
  · rcases getElem?_append_call first with ⟨-, before⟩ | ⟨rfl, rfl⟩
    · rcases getElem?_append_call second with ⟨-, behind⟩ | ⟨-, rfl⟩
      · exact sound.waiting before behind less same
      · cases taken : held (reading.key b) with
        | none => exact .inl (sound.unmapped taken before same)
        | some place =>
          exact .inr ⟨place, previous.trans taken,
            Nat.le_of_not_lt fun above => (sound.mapped taken).2 above before same⟩
    · rcases getElem?_append_call second with ⟨below, -⟩ | ⟨rfl, -⟩ <;> omega
  · by_cases own : key = reading.key call
    · cases place.symm.trans (own ▸ found)
      refine ⟨⟨call, getElem?_concat_length, own.symm, begins⟩, fun above other => ?_⟩
      rcases getElem?_append_call other with ⟨below, -⟩ | ⟨rfl, -⟩ <;> omega
    · obtain ⟨⟨a, here, same, running⟩, later⟩ := sound.mapped ((others own).symm.trans found)
      refine ⟨⟨a, old here, same, running⟩, fun above other => ?_⟩
      rcases getElem?_append_call other with ⟨-, other⟩ | ⟨-, rfl⟩
      · exact later above other
      · exact fun eq => own eq.symm
  · by_cases here : key = reading.key call
    · cases place.symm.trans (here ▸ absent)
    · rcases getElem?_append_call found with ⟨-, found⟩ | ⟨-, rfl⟩
      · exact sound.unmapped ((others here).symm.trans absent) found own
      · exact absurd own.symm here

lemma set {held' : K → Option Nat} {id : Nat} {changed : α} (found : calls[id]? = some call)
    (key : reading.key changed = reading.key call)
    (previous : reading.previous changed = reading.previous call)
    (stays : reading.ended call = true → reading.ended changed = true)
    (free : reading.waits call = true → reading.waits changed = false → ∀ place a, reading.previous
      call = some place → calls[place]? = some a → reading.ended a = true)
    (mapped : ∀ {key : K} {i : Nat}, held' key = some i → held key = some i ∧ (i = id →
      reading.ended changed = false))
    (unmapped : ∀ {key : K}, held' key = none → held key = none ∨ held key = some id ∧
      reading.ended changed = true) :
    Sound reading held' (calls.set id changed) := by
  have here : (calls.set id changed)[id]? = some changed :=
    getElem?_set_self (List.getElem?_eq_some_iff.mp found).1
  -- A call afterwards is one from before, ended if that was.
  have came {i : Nat} {a : α} (there : (calls.set id changed)[i]? = some a) : ∃ b,
      calls[i]? = some b ∧ reading.key b = reading.key a ∧
        reading.previous b = reading.previous a ∧
        (reading.ended b = true → reading.ended a = true) := by
    rcases getElem?_set_call there with ⟨rfl, rfl⟩ | ⟨-, there⟩
    · exact ⟨call, found, key.symm, previous.symm, stays⟩
    · exact ⟨a, there, rfl, rfl, fun same => same⟩
  have ahead {i : Nat} {a : α} (there : calls[i]? = some a) (less : i < id)
      (same : reading.key a = reading.key call) (past : reading.waits changed = false) :
      reading.ended a = true := by
    cases waits : reading.waits call with
    | true => exact sound.turn found (free waits past) there less same
    | false => exact sound.behind there found less same waits
  refine ⟨fun {i j a b} first second less same past => ?_, fun {i j b} second chain => ?_,
    fun {i j a b} first second less same => ?_, fun {name i} taken => ?_,
    fun {name i a} absent first own => ?_⟩
  · obtain ⟨a', before, key', -, stays'⟩ := came first
    refine stays' ?_
    rcases getElem?_set_call second with ⟨rfl, rfl⟩ | ⟨-, behind⟩
    · exact ahead before less (key'.trans (same.trans key)) past
    · exact sound.behind before behind less (key'.trans same) past
  · obtain ⟨b', there, own, chain', -⟩ := came second
    obtain ⟨less, a, first, same⟩ := sound.chained there (chain'.trans chain)
    refine ⟨less, ?_⟩
    by_cases place : i = id
    · subst place
      cases found.symm.trans first
      exact ⟨changed, here, key.trans (same.trans own)⟩
    · exact ⟨a, (getElem?_set_ne (Ne.symm place)).trans first, same.trans own⟩
  · obtain ⟨a', before, own, -, stays'⟩ := came first
    obtain ⟨b', behind, own', chain, -⟩ := came second
    rw [← chain]
    exact (sound.waiting before behind less (own.trans (same.trans own'.symm))).imp_left stays'
  · obtain ⟨taken', running⟩ := mapped taken
    obtain ⟨⟨a, there, own, unended⟩, later⟩ := sound.mapped taken'
    refine ⟨?_, fun above other => ?_⟩
    · by_cases place : i = id
      · subst place
        cases found.symm.trans there
        exact ⟨changed, here, key.trans own, running rfl⟩
      · exact ⟨a, (getElem?_set_ne (Ne.symm place)).trans there, own, unended⟩
    · obtain ⟨c, there, own', -⟩ := came other
      rw [← own']
      exact later above there
  · obtain ⟨b, there, own', -, stays'⟩ := came first
    rcases unmapped absent with none | ⟨taken, ended⟩
    · exact stays' (sound.unmapped none there (own'.trans own))
    · obtain ⟨⟨c, there', same, -⟩, later⟩ := sound.mapped taken
      cases found.symm.trans there'
      rcases Nat.lt_trichotomy i id with before | rfl | behind
      · exact stays' (ahead there before (own'.trans (own.trans same.symm)) (reading.past ended))
      · cases here.symm.trans first
        exact ended
      · exact absurd (own'.trans own) (later behind there)

end Sound

end PromiseChain
