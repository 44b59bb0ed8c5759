import StreamTable.Proofs.Refusals

/-! How the page's sanitizer is found, fragment after fragment. It may be replaced by its
own calls, and the events that a call causes may look it up in between. So what a lookup
finds is what the one before it left, and the first within a call finds what the call did. -/

namespace StreamTable.Page

namespace Lookup

/-- A text that a call of the sanitizer returned for the fragment of a lookup. -/
def Returned (lookup : Lookup) (safe : String) : Prop :=
  ∃ call, lookup.found.function? = some call ∧ (call lookup.fragment).reply = .returned (.string safe)

/-- What becomes of a fragment that was looked up: only without a sanitizer it stays, and
with one it becomes the text that the call returned, or else empty. -/
inductive Gives (lookup : Lookup) : String → Prop where
  | verbatim (missing : lookup.found.isLoaded = false) : Gives lookup lookup.fragment
  | returned {safe : String} (done : lookup.Returned safe) : Gives lookup safe
  | emptied (loaded : lookup.found.isLoaded) (failed : ∀ safe, ¬ lookup.Returned safe) : Gives lookup ""

variable {lookup : Lookup} {safe : String}

theorem Gives.of_loaded (gives : lookup.Gives safe) (loaded : lookup.found.isLoaded) :
    safe = "" ∨ lookup.Returned safe := by
  cases gives with
  | verbatim missing => rw [loaded] at missing; cases missing
  | returned done => exact Or.inr done
  | emptied => exact Or.inl rfl

theorem Gives.of_reply {call : String → Cleaning} (found : lookup.found.function? = some call)
    (unusable : ∀ safe, (call lookup.fragment).reply ≠ .returned (.string safe)) : lookup.Gives "" := by
  refine .emptied (by simp [Purifier.isLoaded, found]) ?_
  rintro safe ⟨other, same, done⟩
  cases found.symm.trans same
  exact unusable safe done

theorem gives_answer (purifier : Purifier) (fragment : String) :
    Gives ⟨fragment, purifier⟩ (purifier.answer fragment).1 := by
  cases known : purifier.function? with
  | none =>
    simp only [Purifier.answer, Purifier.reply?, known, Option.map_none]
    exact .verbatim (by simp [Purifier.isLoaded, known])
  | some call =>
    simp only [Purifier.answer, Purifier.reply?, known, Option.map_some]
    cases reply : (call fragment).reply with
    | thrown value => exact .of_reply known (by simp [reply])
    | returned value =>
      cases value with
      | string safe => exact .returned ⟨call, known, reply⟩
      | undefined | null | number _ | error _ _ => exact .of_reply known (by simp [reply])

end Lookup

/-- The lookups of a log that are made outside of all calls, in a row, each finding what the
one before it left. Those that are made within its call come between them in the log. -/
inductive Follows : Purifier → List Lookup → List Lookup → Purifier → Prop where
  | nil {purifier : Purifier} : Follows purifier [] [] purifier
  | cons {fragment : String} {purifier inner last : Purifier} {calls outer within rest : List Lookup}
      (nested : Follows purifier calls within inner)
      (later : Follows ((purifier.replacement? fragment).getD inner) outer rest last) :
      Follows purifier (⟨fragment, purifier⟩ :: outer) (⟨fragment, purifier⟩ :: within ++ rest) last

theorem Follows.append {first second third : Purifier} {outer next earlier later : List Lookup}
    (before : Follows first outer earlier second) (after : Follows second next later third) :
    Follows first (outer ++ next) (earlier ++ later) third := by
  induction before with
  | nil => exact after
  | cons nested _ _ ih =>
    rw [List.append_assoc]
    exact .cons nested (ih after)

/-- Cells as they were received and as they were cleaned: an HTML cell holds what its own
lookup gives, and a text cell is never looked up. -/
inductive Cleaned : List Cell → List Lookup → List Cell → Prop where
  | nil : Cleaned [] [] []
  | text {shown : String} {received cleaned : List Cell} {lookups : List Lookup}
      (rest : Cleaned received lookups cleaned) : Cleaned (.text shown :: received) lookups (.text shown :: cleaned)
  | html {lookup : Lookup} {safe : String} {received cleaned : List Cell} {lookups : List Lookup}
      (gives : lookup.Gives safe) (rest : Cleaned received lookups cleaned) :
      Cleaned (.html lookup.fragment :: received) (lookup :: lookups) (.html safe :: cleaned)

end StreamTable.Page
