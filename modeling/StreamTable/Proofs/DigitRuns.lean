import StreamTable.Key.Collator
import Mathlib.Data.List.DropRight
import Mathlib.Data.List.Forall2
import Mathlib.Data.List.SplitBy

/-! The runs of a text. Digits that stand together are one run, and every other character
is a run by itself. A text has one element for each of its runs, and of a run of digits
only the zeros that it begins with are lost. So texts of the same elements are the same
but for these zeros, run by run. -/

namespace StreamTable

/-- The maximal runs of digits of a text and the single characters between them. -/
def digitRuns (text : List Char) : List (List Char) :=
  text.splitBy fun first second => first.isDigit && second.isDigit

/-- A run without the zeros that it begins with. Of a run of zeros one is left. -/
def trimZeros (run : List Char) : List Char := if run.all (· == '0') then ['0'] else run.dropWhile (· == '0')

def trimmed (text : List Char) : List Char := (digitRuns text).flatMap trimZeros

def AllDigits (run : List Char) : Prop := ∀ c ∈ run, c.isDigit

instance (run : List Char) : Decidable (AllDigits run) := decidable_of_iff (run.all Char.isDigit) List.all_eq_true

inductive IsRun : List Char → Prop
  | letter {c : Char} (other : c.isDigit = false) : IsRun [c]
  | digits {first : Char} {rest : List Char} (all : AllDigits (first :: rest)) : IsRun (first :: rest)

/-- The runs of some text: no two runs of digits are next to each other. -/
structure AreRuns (runs : List (List Char)) : Prop where
  each : ∀ run ∈ runs, IsRun run
  apart : runs.IsChain fun first second => ¬ (AllDigits first ∧ AllDigits second)

theorem AllDigits.cons {c : Char} {rest : List Char} (digit : c.isDigit) (all : AllDigits rest) : AllDigits (c :: rest) := by
  intro other member
  cases List.mem_cons.mp member with
  | inl same => exact same ▸ digit
  | inr inside => exact all other inside

theorem AllDigits.tail {c : Char} {rest : List Char} (all : AllDigits (c :: rest)) : AllDigits rest :=
  fun other member => all other (List.mem_cons_of_mem c member)

theorem AllDigits.dropWhile {run : List Char} (all : AllDigits run) (dropped : Char → Bool) :
    AllDigits (run.dropWhile dropped) := fun c member => all c ((List.dropWhile_sublist dropped).subset member)

namespace IsRun

variable {run : List Char}

theorem ne_nil (isRun : IsRun run) : run ≠ [] := by
  cases isRun <;> simp

theorem head_isDigit_iff (isRun : IsRun run) : (run.head isRun.ne_nil).isDigit ↔ AllDigits run := by
  cases isRun with
  | letter other => simp [AllDigits, other]
  | digits all => exact ⟨fun _ => all, fun _ => all _ List.mem_cons_self⟩

theorem getLast_isDigit_iff (isRun : IsRun run) : (run.getLast isRun.ne_nil).isDigit ↔ AllDigits run := by
  cases isRun with
  | letter other => simp [AllDigits, other]
  | digits all => exact ⟨fun _ => all, fun _ => all _ (List.getLast_mem _)⟩

theorem of_isChain (some : run ≠ []) (chain : run.IsChain fun first second => first.isDigit && second.isDigit) :
    IsRun run := by
  induction run with
  | nil => exact absurd rfl some
  | cons c rest ih =>
    cases rest with
    | nil =>
      cases digit : c.isDigit with
      | false => exact .letter digit
      | true => exact .digits (.cons digit (by simp [AllDigits]))
    | cons next rest =>
      obtain ⟨both, later⟩ := List.isChain_cons_cons.mp chain
      obtain ⟨digit, nextDigit⟩ := Bool.and_eq_true_iff.mp both
      have isRun := ih (by simp) later
      exact .digits (.cons digit (isRun.head_isDigit_iff.mp nextDigit))

theorem isChain (isRun : IsRun run) : run.IsChain fun first second => first.isDigit && second.isDigit := by
  cases isRun with
  | letter => exact List.isChain_singleton _
  | digits all =>
    refine (List.pairwise_of_forall_mem_list fun first inside second insideToo => ?_).isChain
    simp [all first inside, all second insideToo]

theorem apart_iff {first second : List Char} (firstRun : IsRun first) (secondRun : IsRun second) :
    (∃ (some : first ≠ []) (someMore : second ≠ []),
        ((first.getLast some).isDigit && (second.head someMore).isDigit) = false) ↔
      ¬ (AllDigits first ∧ AllDigits second) := by
  rw [← firstRun.getLast_isDigit_iff, ← secondRun.head_isDigit_iff, ← Bool.and_eq_true, Bool.not_eq_true]
  exact ⟨fun ⟨_, _, apart⟩ => apart, fun apart => ⟨firstRun.ne_nil, secondRun.ne_nil, apart⟩⟩

end IsRun

theorem digitRuns_eq_iff {text : List Char} {runs : List (List Char)} :
    digitRuns text = runs ↔ text = runs.flatten ∧ AreRuns runs := by
  rw [digitRuns, List.splitBy_eq_iff]
  constructor
  · rintro ⟨whole, filled, chains, apart⟩
    have each : ∀ run ∈ runs, IsRun run := fun run member =>
      .of_isChain (fun empty => filled (empty ▸ member)) (chains run member)
    refine ⟨whole, each, ?_⟩
    exact apart.imp_of_mem_imp fun first second inside insideToo cut =>
      ((each first inside).apart_iff (each second insideToo)).mp cut
  · rintro ⟨whole, areRuns⟩
    refine ⟨whole, fun empty => (areRuns.each [] empty).ne_nil rfl, fun run member => (areRuns.each run member).isChain, ?_⟩
    exact areRuns.apart.imp_of_mem_imp fun first second inside insideToo apart =>
      ((areRuns.each first inside).apart_iff (areRuns.each second insideToo)).mpr apart

theorem areRuns_digitRuns (text : List Char) : AreRuns (digitRuns text) := (digitRuns_eq_iff.mp rfl).2

theorem flatten_digitRuns (text : List Char) : (digitRuns text).flatten = text := (digitRuns_eq_iff.mp rfl).1.symm

section Trim

variable {run : List Char}

theorem trimZeros_of_digits (all : AllDigits run) : IsRun (trimZeros run) ∧ AllDigits (trimZeros run) := by
  unfold trimZeros
  split
  · have digits : AllDigits ['0'] := by simp [AllDigits]
    exact ⟨.digits digits, digits⟩
  next more =>
    have digits : AllDigits (run.dropWhile (· == '0')) := all.dropWhile _
    cases left : run.dropWhile (· == '0') with
    | nil => exact absurd (List.all_eq_true.mpr (List.dropWhile_eq_nil_iff.mp left)) more
    | cons first rest =>
      rw [left] at digits
      exact ⟨.digits digits, digits⟩

theorem trimZeros_letter {c : Char} (other : c.isDigit = false) : trimZeros [c] = [c] := by
  have visible : c ≠ '0' := by
    rintro rfl
    exact absurd other (by decide)
  simp [trimZeros, visible]

theorem IsRun.trim (isRun : IsRun run) : IsRun (trimZeros run) := by
  cases isRun with
  | letter other =>
    rw [trimZeros_letter other]
    exact .letter other
  | digits all => exact (trimZeros_of_digits all).1

theorem IsRun.allDigits_trim_iff (isRun : IsRun run) : AllDigits (trimZeros run) ↔ AllDigits run := by
  cases isRun with
  | letter other => rw [trimZeros_letter other]
  | digits all => exact ⟨fun _ => all, fun _ => (trimZeros_of_digits all).2⟩

theorem AreRuns.trim {runs : List (List Char)} (areRuns : AreRuns runs) : AreRuns (runs.map trimZeros) where
  each trimmed member := by
    obtain ⟨run, inside, rfl⟩ := List.mem_map.mp member
    exact (areRuns.each run inside).trim
  apart := (List.isChain_map trimZeros).mpr <| areRuns.apart.imp_of_mem_imp fun first second inside insideToo apart => by
    rwa [(areRuns.each first inside).allDigits_trim_iff, (areRuns.each second insideToo).allDigits_trim_iff]

/-- Trimming changes no run but for its leading zeros and joins no two of them. -/
theorem digitRuns_trimmed (text : List Char) : digitRuns (trimmed text) = (digitRuns text).map trimZeros :=
  digitRuns_eq_iff.mpr ⟨List.flatMap_def, (areRuns_digitRuns text).trim⟩

end Trim

namespace Element

def ofRun : List Char → Element
  | [] => number []
  | c :: rest => if c.isDigit then number ((c :: rest).dropWhile (· == '0')) else character c

theorem ofRun_letter {c : Char} (other : c.isDigit = false) : ofRun [c] = character c := by simp [ofRun, other]

theorem ofRun_digits {run : List Char} (all : AllDigits run) : ofRun run = number (run.dropWhile (· == '0')) := by
  cases run with
  | nil => rfl
  | cons first rest => exact if_pos (all first List.mem_cons_self)

/-- A text that does not go on with a digit. -/
def Ends (text : List Char) : Prop := ∀ c ∈ text.head?, c.isDigit = false

private theorem foldl_extend (read digits : List Char) :
    digits.foldl extend read = if read = [] then digits.dropWhile (· == '0') else read ++ digits := by
  induction digits generalizing read with
  | nil => by_cases empty : read = [] <;> simp [empty]
  | cons digit digits ih =>
    rw [List.foldl_cons, ih, List.dropWhile_cons]
    by_cases empty : read = []
    · by_cases zero : digit = '0' <;> simp [extend, empty, zero]
    · simp [extend, empty]

private theorem gather_run {rest : List Char} (ends : Ends rest) {digits : List Char} (all : AllDigits digits)
    (read : List Char) :
    gather (some read) (digits ++ rest) = number (digits.foldl extend read) :: gather none rest := by
  induction digits generalizing read with
  | nil =>
    cases rest with
    | nil => rfl
    | cons c rest => simp [gather, pending, ends c rfl]
  | cons digit digits ih =>
    have first : digit.isDigit := all digit List.mem_cons_self
    rw [List.cons_append, gather, if_pos first, ih all.tail]
    rfl

theorem gather_letter {c : Char} (other : c.isDigit = false) (rest : List Char) :
    gather none (c :: rest) = character c :: gather none rest := by
  simp [gather, other, pending]

/-- A run of digits is one number, as long as no digit stands behind it. -/
theorem gather_digits {first : Char} {digits rest : List Char} (all : AllDigits (first :: digits)) (ends : Ends rest) :
    gather none ((first :: digits) ++ rest) = number ((first :: digits).dropWhile (· == '0')) :: gather none rest := by
  have digit : first.isDigit := all first List.mem_cons_self
  have begun : gather none ((first :: digits) ++ rest) = gather (some (extend [] first)) (digits ++ rest) := by
    rw [List.cons_append, gather, if_pos digit]
    rfl
  have folded := foldl_extend [] (first :: digits)
  rw [if_pos rfl] at folded
  rw [begun, gather_run ends all.tail, ← folded]
  rfl

theorem gather_append {c : Char} (other : c.isDigit = false) (run : Option (List Char)) (front rest : List Char) :
    gather run (front ++ c :: rest) = gather run (front ++ [c]) ++ gather none rest := by
  induction front generalizing run with
  | nil => simp [gather, pending, other]
  | cons first front ih =>
    simp only [List.cons_append, gather]
    split
    · exact ih _
    · rw [ih, List.append_assoc, List.cons_append]

/-- Digits between others are one number, whatever stands before and behind them. -/
theorem gather_between {front digits rest : List Char} (closed : ∀ c ∈ front.getLast?, c.isDigit = false)
    (some : digits ≠ []) (all : AllDigits digits) (ends : Ends rest) :
    gather none (front ++ (digits ++ rest)) =
      gather none front ++ number (digits.dropWhile (· == '0')) :: gather none rest := by
  obtain ⟨first, more, rfl⟩ := List.exists_cons_of_ne_nil some
  rw [← gather_digits all ends]
  rcases List.eq_nil_or_concat front with rfl | ⟨front, last, rfl⟩
  · rfl
  · have other : last.isDigit = false := closed last (by simp)
    simpa using gather_append other none front (first :: more ++ rest)

theorem gather_flatten {runs : List (List Char)} (areRuns : AreRuns runs) : gather none runs.flatten = runs.map ofRun := by
  obtain ⟨each, apart⟩ := areRuns
  induction runs with
  | nil => rfl
  | cons run runs ih =>
    obtain ⟨next, later⟩ := List.isChain_cons.mp apart
    have gathered := ih (fun other member => each other (List.mem_cons_of_mem run member)) later
    rw [List.flatten_cons, List.map_cons, ← gathered]
    cases each run List.mem_cons_self with
    | letter other =>
      rw [List.singleton_append, gather_letter other, ofRun_letter other]
    | digits all =>
      have ends : Ends runs.flatten := by
        cases runs with
        | nil => simp [Ends]
        | cons second runs =>
          have separate : ¬ AllDigits second := fun digits => next second rfl ⟨all, digits⟩
          cases each second (by simp) with
          | letter other => simp [Ends, other]
          | digits digits => exact absurd digits separate
      rw [gather_digits all ends, ofRun_digits all]

theorem gather_eq_map (text : List Char) : gather none text = (digitRuns text).map ofRun := by
  have gathered := gather_flatten (areRuns_digitRuns text)
  rwa [flatten_digitRuns] at gathered

end Element

/-- Runs that differ at most in the zeros that they begin with. -/
inductive SameRun : List Char → List Char → Prop
  | letter {c : Char} (other : c.isDigit = false) : SameRun [c] [c]
  | digits {first second : List Char} (some : first ≠ [] ∧ second ≠ []) (all : AllDigits first ∧ AllDigits second)
      (same : first.dropWhile (· == '0') = second.dropWhile (· == '0')) : SameRun first second

private theorem trimZeros_eq (run : List Char) :
    trimZeros run = if run.dropWhile (· == '0') = [] then ['0'] else run.dropWhile (· == '0') := by
  unfold trimZeros
  congr 1
  rw [List.all_eq_true, List.dropWhile_eq_nil_iff]

private theorem ofRun_trimZeros {run : List Char} (isRun : IsRun run) :
    Element.ofRun (trimZeros run) = Element.ofRun run := by
  cases isRun with
  | letter other => rw [trimZeros_letter other]
  | digits all =>
    rw [Element.ofRun_digits (trimZeros_of_digits all).2, Element.ofRun_digits all, trimZeros_eq]
    split
    next zeros =>
      rw [zeros]
      rfl
    next => rw [List.dropWhile_idempotent]

namespace IsRun

variable {first second : List Char} (firstRun : IsRun first) (secondRun : IsRun second)
include firstRun secondRun

theorem ofRun_eq_iff : Element.ofRun first = Element.ofRun second ↔ SameRun first second := by
  constructor
  · intro same
    cases firstRun with
    | letter other =>
      cases secondRun with
      | letter otherToo =>
        rw [Element.ofRun_letter other, Element.ofRun_letter otherToo] at same
        exact Element.character.inj same ▸ .letter other
      | digits all =>
        rw [Element.ofRun_letter other, Element.ofRun_digits all] at same
        cases same
    | digits all =>
      cases secondRun with
      | letter other =>
        rw [Element.ofRun_digits all, Element.ofRun_letter other] at same
        cases same
      | digits allToo =>
        rw [Element.ofRun_digits all, Element.ofRun_digits allToo] at same
        exact .digits (by simp) ⟨all, allToo⟩ (Element.number.inj same)
  · intro same
    cases same with
    | letter => rfl
    | digits _ all same => rw [Element.ofRun_digits all.1, Element.ofRun_digits all.2, same]

theorem trimZeros_eq_iff : trimZeros first = trimZeros second ↔ SameRun first second := by
  constructor
  · intro same
    rw [← firstRun.ofRun_eq_iff secondRun, ← ofRun_trimZeros firstRun, same, ofRun_trimZeros secondRun]
  · intro same
    cases same with
    | letter => rfl
    | digits _ _ same => rw [trimZeros_eq, trimZeros_eq, same]

end IsRun

private theorem map_eq_map_iff_forall₂ {α β : Type} {f : α → β} {related : α → α → Prop} {first second : List α}
    (same : ∀ a ∈ first, ∀ b ∈ second, f a = f b ↔ related a b) :
    first.map f = second.map f ↔ List.Forall₂ related first second := by
  induction first generalizing second with
  | nil => simp [eq_comm]
  | cons a first ih =>
    cases second with
    | nil => simp
    | cons b second =>
      have heads := same a List.mem_cons_self b List.mem_cons_self
      have tails := ih fun x inside y insideToo =>
        same x (List.mem_cons_of_mem a inside) y (List.mem_cons_of_mem b insideToo)
      rw [List.map_cons, List.map_cons, List.cons.injEq, List.forall₂_cons, heads, tails]

/-- Texts have the same elements exactly if they are the same without leading zeros, and
exactly if they are made of the same runs but for leading zeros. -/
theorem gather_eq_iff (a b : List Char) :
    (Element.gather none a = Element.gather none b ↔ trimmed a = trimmed b) ∧
      (trimmed a = trimmed b ↔ List.Forall₂ SameRun (digitRuns a) (digitRuns b)) := by
  have isRun {text run : List Char} (member : run ∈ digitRuns text) := (areRuns_digitRuns text).each run member
  have elements : Element.gather none a = Element.gather none b ↔ List.Forall₂ SameRun (digitRuns a) (digitRuns b) := by
    rw [Element.gather_eq_map, Element.gather_eq_map]
    exact map_eq_map_iff_forall₂ fun _ inside _ insideToo => (isRun inside).ofRun_eq_iff (isRun insideToo)
  have texts : trimmed a = trimmed b ↔ List.Forall₂ SameRun (digitRuns a) (digitRuns b) := by
    rw [← map_eq_map_iff_forall₂ fun _ inside _ insideToo => (isRun inside).trimZeros_eq_iff (isRun insideToo)]
    constructor
    · intro same
      rw [← digitRuns_trimmed, ← digitRuns_trimmed, same]
    · intro same
      rw [trimmed, trimmed, List.flatMap_def, List.flatMap_def, same]
  exact ⟨elements.trans texts.symm, texts⟩

end StreamTable
