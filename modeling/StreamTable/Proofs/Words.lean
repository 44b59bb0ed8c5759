import StreamTable.Proofs.ComposedParts
import StreamTable.Proofs.KeyLetters

/-! Texts as words between blanks. To collapse blanks is to write the words of a text with
one space between any two. No blank is composed or moved, so ordering the marks of a text
and composing it leave its blanks where they are. -/

namespace StreamTable

open Unicode

namespace Unicode

theorem combiningClass_blank {c : Char} (blank : isBlank c) : combiningClass c = 0 := by
  have checked : blanks.allPoints fun point => combiningClass (Char.ofNat point) == 0 := by decide +kernel
  have passed := RangeMap.check_of_contains checked blank
  rwa [Char.ofNat_toNat, beq_iff_eq] at passed

theorem not_isBlank_of_isHangul {c : Char} (held : Hangul.isHangul c.toNat) : isBlank c = false := by
  have checked : blanks.allPoints fun point => !Hangul.isHangul point := by decide +kernel
  rw [Bool.eq_false_iff]
  intro blank
  have passed := RangeMap.check_of_contains checked blank
  simp [held] at passed

/-- No blank is composed or takes part in a composition. -/
theorem solid_of_compose? {first second whole : Char} (made : compose? first second = some whole) :
    isBlank first = false ∧ isBlank second = false ∧ isBlank whole = false := by
  rcases compose?_cases made with syllable | listed
  · obtain ⟨firstHeld, secondHeld, wholeHeld⟩ := Hangul.isHangul_of_compose? syllable
    exact ⟨not_isBlank_of_isHangul firstHeld, not_isBlank_of_isHangul secondHeld, not_isBlank_of_isHangul wholeHeld⟩
  · have passed := listed (fun first second whole => !isBlank first && !isBlank second && !isBlank whole) (by decide +kernel)
    simpa [and_assoc] using passed

theorem opens_blank {c : Char} (blank : isBlank c) : Opens c where
  starts := combiningClass_blank blank
  unjoined first := by
    cases made : compose? first c with
    | none => rfl
    | some whole => simp [(solid_of_compose? made).2.1] at blank

theorem compose_blank {c : Char} (blank : isBlank c) (rest : List Char) : compose (c :: rest) = c :: compose rest := by
  apply compose_cons_alone (combiningClass_blank blank)
  intro second
  cases made : compose? c second with
  | none => rfl
  | some whole => simp [(solid_of_compose? made).1] at blank

end Unicode

namespace Key

/-- No blank stands at an end or next to another. -/
structure Tidy (text : List Char) : Prop where
  opens : ∀ c ∈ text.head?, isBlank c = false
  closes : ∀ c ∈ text.getLast?, isBlank c = false
  apart : text.IsChain fun first second => isBlank first = false ∨ isBlank second = false

def Filled (text : List Char) : Prop := text ≠ [] ∧ Tidy text

theorem tidy_nil : Tidy [] := ⟨by simp, by simp, .nil⟩

theorem tidy_of_solid {text : List Char} (solid : ∀ c ∈ text, isBlank c = false) : Tidy text where
  opens c heads := solid c (List.mem_of_mem_head? heads)
  closes c lasts := solid c (List.mem_of_mem_getLast? lasts)
  apart := (List.pairwise_of_forall_mem_list fun first inside _ _ => Or.inl (solid first inside)).isChain

theorem tidy_cut {blank : Char} (isBlank : isBlank blank) (front rest : List Char) :
    Tidy (front ++ blank :: rest) ↔ Filled front ∧ Filled rest := by
  constructor
  · intro ⟨opens, closes, apart⟩
    obtain ⟨before, behind, between⟩ := List.isChain_append.mp apart
    obtain ⟨next, later⟩ := List.isChain_cons.mp behind
    have frontSome : front ≠ [] := by
      rintro rfl
      simp [isBlank] at opens
    have restSome : rest ≠ [] := by
      rintro rfl
      simp [isBlank] at closes
    refine ⟨⟨frontSome, ?_, ?_, before⟩, restSome, ?_, ?_, later⟩
    · intro c heads
      exact opens c (by simp [List.head?_append, Option.mem_def.mp heads])
    · intro c lasts
      simpa [isBlank] using between c lasts blank rfl
    · intro c heads
      simpa [isBlank] using next c heads
    · intro c lasts
      exact closes c (by simp [List.getLast?_append, List.getLast?_cons, Option.mem_def.mp lasts])
  · rintro ⟨⟨frontSome, front⟩, restSome, rest⟩
    refine ⟨?_, ?_, ?_⟩
    · intro c heads
      rw [List.head?_append_of_ne_nil _ frontSome] at heads
      exact front.opens c heads
    · intro c lasts
      rw [List.getLast?_append_of_ne_nil _ (List.cons_ne_nil _ _), List.getLast?_cons_of_ne_nil restSome] at lasts
      exact rest.closes c lasts
    · refine List.isChain_append.mpr ⟨front.apart, List.isChain_cons.mpr ⟨?_, rest.apart⟩, ?_⟩
      · exact fun c heads => Or.inr (rest.opens c heads)
      · exact fun c lasts _ _ => Or.inl (front.closes c lasts)

/-- Texts are taken apart at their blanks, the first one first. -/
@[elab_as_elim]
theorem blank_induction {property : List Char → Prop}
    (solid : ∀ text, (∀ c ∈ text, isBlank c = false) → property text)
    (cut : ∀ front blank rest, (∀ c ∈ front, isBlank c = false) → isBlank blank → property rest →
      property (front ++ blank :: rest)) (text : List Char) : property text := by
  have after : ∀ front, (∀ c ∈ front, isBlank c = false) → property text ∧ property (front ++ text) := by
    induction text with
    | nil =>
      intro front visible
      exact ⟨solid [] (by simp), solid _ (by simpa using visible)⟩
    | cons c rest ih =>
      intro front visible
      cases blank : isBlank c with
      | true =>
        have later := (ih [] (by simp)).1
        exact ⟨cut [] c rest (by simp) blank later, cut front c rest visible blank later⟩
      | false =>
        have longer := (ih (front ++ [c]) (by simpa [blank, or_imp, forall_and] using visible)).2
        have single := (ih [c] (by simpa using blank)).2
        exact ⟨single, by simpa using longer⟩
  exact (after [] (by simp)).1

/-- A mapping of texts that leaves the blanks in them where they are. -/
structure KeepsBlanks (form : List Char → List Char) : Prop where
  solid : ∀ text, (∀ c ∈ text, isBlank c = false) → ∀ c ∈ form text, isBlank c = false
  empty : ∀ text, form text = [] ↔ text = []
  cut : ∀ front blank rest, isBlank blank → form (front ++ blank :: rest) = form front ++ blank :: form rest

namespace KeepsBlanks

variable {form : List Char → List Char} (keeps : KeepsBlanks form)
include keeps

theorem tidy_iff (text : List Char) : Tidy (form text) ↔ Tidy text := by
  induction text using blank_induction with
  | solid text solid => exact ⟨fun _ => tidy_of_solid solid, fun _ => tidy_of_solid (keeps.solid text solid)⟩
  | cut front blank rest solid isBlank ih =>
    have fronts : Tidy (form front) ↔ Tidy front :=
      ⟨fun _ => tidy_of_solid solid, fun _ => tidy_of_solid (keeps.solid front solid)⟩
    rw [keeps.cut front blank rest isBlank, tidy_cut isBlank, tidy_cut isBlank]
    simp only [Filled, Ne, keeps.empty, fronts, ih]

theorem closes_iff (text : List Char) :
    (∀ c ∈ (form text).getLast?, isBlank c = false) ↔ ∀ c ∈ text.getLast?, isBlank c = false := by
  induction text using blank_induction with
  | solid text solid => exact ⟨fun _ => (tidy_of_solid solid).closes, fun _ => (tidy_of_solid (keeps.solid text solid)).closes⟩
  | cut front blank rest solid isBlank ih =>
    rw [keeps.cut front blank rest isBlank]
    by_cases empty : rest = []
    · simp [empty, (keeps.empty []).mpr rfl]
    · have kept : form rest ≠ [] := fun nothing => empty ((keeps.empty rest).mp nothing)
      simpa [List.getLast?_append, List.getLast?_cons_of_ne_nil, empty, kept] using ih

theorem mem_of_blank {text : List Char} {c : Char} (member : c ∈ form text) (blank : isBlank c) : c ∈ text := by
  induction text using blank_induction with
  | solid text solid => simp [keeps.solid text solid c member] at blank
  | cut front other rest solid isBlank ih =>
    rw [keeps.cut front other rest isBlank, List.mem_append, List.mem_cons] at member
    rcases member with inside | same | inside
    · simp [keeps.solid front solid c inside] at blank
    · simp [same]
    · simp [ih inside]

end KeepsBlanks

theorem keepsBlanks_orderMarks : KeepsBlanks orderMarks where
  solid text solid c member := solid c ((orderMarks_perm text).mem_iff.mp member)
  empty text := by
    have same := (orderMarks_perm text).length_eq
    rw [← List.length_eq_zero_iff, same, List.length_eq_zero_iff]
  cut front _ rest blank := orderMarks_append_starter (combiningClass_blank blank) front rest

theorem keepsBlanks_compose : KeepsBlanks compose where
  solid text solid := compose_forall (fun _ _ _ made _ _ => (solid_of_compose? made).2.2) solid
  empty := compose_eq_nil_iff
  cut front _ rest blank := by rw [compose_append (opens_blank blank), compose_blank blank]

theorem keepsBlanks_flatMap {image : Char → List Char} (blanks : ∀ c, isBlank c → image c = [c])
    (letters : ∀ c, isBlank c = false → image c ≠ [] ∧ ∀ part ∈ image c, isBlank part = false) :
    KeepsBlanks fun text => text.flatMap image where
  solid text solid part member := by
    obtain ⟨c, held, inside⟩ := List.mem_flatMap.mp member
    exact (letters c (solid c held)).2 part inside
  empty text := by
    have some : ∀ c, image c ≠ [] := by
      intro c
      cases blank : isBlank c with
      | true => simp [blanks c blank]
      | false => exact (letters c blank).1
    cases text <;> simp [some]
  cut front blank rest isBlank := by rw [List.flatMap_append, List.flatMap_cons, blanks blank isBlank, List.singleton_append]

/-- What blanks a normal form has, it has in the parts of its characters. -/
theorem tidy_nfkc_iff (text : List Char) : Tidy (nfkc text) ↔ Tidy (text.flatMap decompose) :=
  (keepsBlanks_compose.tidy_iff _).trans (keepsBlanks_orderMarks.tidy_iff _)

def words (text : List Char) : List (List Char) := (text.splitOnP isBlank).filter fun word => !word.isEmpty

def initials (text : List Char) : List Char := (words text).filterMap List.head?

theorem words_solid {text : List Char} (solid : ∀ c ∈ text, isBlank c = false) :
    words text = if text = [] then [] else [text] := by
  rw [words, List.splitOnP_eq_singleton solid]
  cases text <;> simp

theorem words_cut {blank : Char} (isBlank : isBlank blank) (front rest : List Char) :
    words (front ++ blank :: rest) = words front ++ words rest := by
  rw [words, List.splitOnP_append_cons _ _ isBlank, List.filter_append]
  rfl

theorem mem_words {text word : List Char} (member : word ∈ words text) : word ≠ [] ∧ ∀ c ∈ word, c ∈ text ∧ isBlank c = false := by
  induction text using blank_induction with
  | solid text solid =>
    rw [words_solid solid] at member
    split at member
    next => cases member
    next some =>
      cases List.mem_singleton.mp member
      exact ⟨some, fun c inside => ⟨inside, solid c inside⟩⟩
  | cut front blank rest solid isBlank ih =>
    rw [words_cut isBlank, words_solid solid, List.mem_append] at member
    rcases member with first | later
    · split at first
      next => cases first
      next some =>
        cases List.mem_singleton.mp first
        exact ⟨some, fun c inside => ⟨List.mem_append_left _ inside, solid c inside⟩⟩
    · obtain ⟨some, each⟩ := ih later
      exact ⟨some, fun c inside => ⟨by simp [(each c inside).1], (each c inside).2⟩⟩

theorem mem_initials {text : List Char} {c : Char} (member : c ∈ initials text) : c ∈ text ∧ isBlank c = false := by
  obtain ⟨word, inside, heads⟩ := List.mem_filterMap.mp member
  exact (mem_words inside).2 c (List.mem_of_mem_head? heads)

theorem collapse_cons_blank {c : Char} (blank : isBlank c) (rest : List Char) : collapse (c :: rest) = collapse rest := by
  rw [collapse, List.dropWhile_cons_of_pos blank, collapse]

theorem joinWords_owed (text : List Char) :
    joinWords true text = if collapse text = [] then [] else ' ' :: collapse text := by
  induction text with
  | nil => rfl
  | cons c rest ih =>
    cases blank : isBlank c with
    | true => rw [joinWords, if_pos blank, ih, collapse_cons_blank blank]
    | false =>
      have begun : collapse (c :: rest) = c :: joinWords false rest := by
        rw [collapse, List.dropWhile_cons_of_neg (by simp [blank]), joinWords]
        simp [blank]
      simp [joinWords, blank, begun]

theorem collapse_cut {front : List Char} (some : front ≠ []) (solid : ∀ c ∈ front, isBlank c = false) {blank : Char}
    (isBlank : isBlank blank) (rest : List Char) :
    collapse (front ++ blank :: rest) = front ++ if collapse rest = [] then [] else ' ' :: collapse rest := by
  rw [collapse_solid some solid, joinWords, if_pos isBlank, joinWords_owed]

theorem intercalate_ne_nil {pieces : List (List Char)} (some : pieces ≠ []) (each : ∀ piece ∈ pieces, piece ≠ []) :
    [' '].intercalate pieces ≠ [] := by
  obtain ⟨first, rest, rfl⟩ := List.exists_cons_of_ne_nil some
  have begun := each first List.mem_cons_self
  cases rest with
  | nil => rwa [List.intercalate_singleton]
  | cons => simp [List.intercalate_cons_cons, begun]

/-- To collapse blanks is to write the words with one space between any two. -/
theorem collapse_eq_intercalate (text : List Char) : collapse text = [' '].intercalate (words text) := by
  induction text using blank_induction with
  | solid text solid =>
    rw [words_solid solid]
    split
    next empty =>
      rw [empty]
      rfl
    next some =>
      have whole := collapse_solid some solid []
      rw [List.append_nil] at whole
      rw [whole, List.intercalate_singleton, joinWords, List.append_nil]
  | cut front blank rest solid isBlank ih =>
    rw [words_cut isBlank, words_solid solid]
    split
    next empty => rw [empty, List.nil_append, List.nil_append, collapse_cons_blank isBlank, ih]
    next some =>
      rw [collapse_cut some solid isBlank, ih, List.singleton_append]
      by_cases last : words rest = []
      · simp [last, List.intercalate_singleton]
      · have more := intercalate_ne_nil last fun word member => (mem_words member).1
        rw [if_neg more, List.intercalate_cons_of_ne_nil last, List.append_assoc, List.singleton_append]

private theorem spaces_joinWords (owed : Bool) (text : List Char) : ∀ c ∈ joinWords owed text, isBlank c → c = ' ' := by
  fun_induction joinWords owed text with
  | case1 => simp
  | case2 owed c rest blank ih => exact ih
  | case3 c rest visible ih => simpa [visible] using ih
  | case4 owed c rest visible missed ih => simpa [visible] using ih

theorem spaces_collapse (text : List Char) : ∀ c ∈ collapse text, isBlank c → c = ' ' := spaces_joinWords _ _

theorem mem_collapse_iff {text : List Char} {c : Char} (solid : isBlank c = false) : c ∈ collapse text ↔ c ∈ text := by
  have space : isBlank ' ' := by decide +kernel
  have other : c ≠ ' ' := by
    rintro rfl
    simp [space] at solid
  induction text using blank_induction with
  | solid text visible =>
    rw [collapse_eq_intercalate, words_solid visible]
    split
    next empty => simp [empty, List.intercalate]
    next => rw [List.intercalate_singleton]
  | cut front blank rest visible isBlank ih =>
    have apart : c ≠ blank := by
      rintro rfl
      simp [isBlank] at solid
    by_cases some : front = []
    · simp [some, collapse_cons_blank isBlank, ih, apart]
    · rw [collapse_cut some visible isBlank]
      split
      next empty => simp [← ih, empty, apart]
      next => simp [ih, apart, other]

theorem collapse_eq_self {text : List Char} (tidy : Tidy text) (spaces : ∀ c ∈ text, isBlank c → c = ' ') :
    collapse text = text := by
  induction text using blank_induction with
  | solid text solid =>
    rw [collapse_eq_intercalate, words_solid solid]
    split
    next empty => simp [empty]
    next => rw [List.intercalate_singleton]
  | cut front blank rest solid isBlank ih =>
    obtain ⟨⟨some, -⟩, restSome, restTidy⟩ := (tidy_cut isBlank front rest).mp tidy
    have space : blank = ' ' := spaces blank (by simp) isBlank
    have same := ih restTidy fun c member => spaces c (by simp [member])
    rw [collapse_cut some solid isBlank, same, if_neg restSome, space]

theorem flatMap_intercalate {image : Char → List Char} (space : image ' ' = [' ']) (pieces : List (List Char)) :
    ([' '].intercalate pieces).flatMap image = [' '].intercalate (pieces.map fun piece => piece.flatMap image) := by
  induction pieces with
  | nil => rfl
  | cons first rest ih =>
    cases rest with
    | nil => simp [List.intercalate_singleton]
    | cons second rest =>
      rw [List.map_cons, List.map_cons, List.intercalate_cons_cons, List.intercalate_cons_cons, ← List.map_cons, ← ih]
      simp [space]

theorem KeepsBlanks.words_eq {form : List Char → List Char} (keeps : KeepsBlanks form) (text : List Char) :
    words (form text) = (words text).map form := by
  have word : ∀ text, (∀ c ∈ text, isBlank c = false) → words (form text) = (words text).map form := by
    intro text solid
    rw [words_solid solid, words_solid (keeps.solid text solid)]
    simp only [keeps.empty]
    split <;> rfl
  induction text using blank_induction with
  | solid text solid => exact word text solid
  | cut front blank rest solid isBlank ih =>
    rw [keeps.cut front blank rest isBlank, words_cut isBlank, words_cut isBlank, ih, word front solid, List.map_append]

theorem collapse_flatMap {image : Char → List Char} (keeps : KeepsBlanks fun text => text.flatMap image)
    (space : image ' ' = [' ']) (text : List Char) : collapse (text.flatMap image) = (collapse text).flatMap image := by
  rw [collapse_eq_intercalate, collapse_eq_intercalate, keeps.words_eq, flatMap_intercalate space]

end Key

end StreamTable
