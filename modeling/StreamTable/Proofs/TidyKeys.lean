import StreamTable.Proofs.Words

/-! Blanks in normal forms. A key is trimmed and its blanks are collapsed before it is
composed, and some characters decompose to a space and a mark upon it: an accent that stands
by itself, for one. Where such a character begins a word, its space is a second blank or one
at the front, which collapsing would have taken away. Nothing else disturbs a normal form,
and normalizing once more leaves none. -/

namespace StreamTable

open Unicode

namespace Key

/-- Blanks that are spaces, none of them last or next to another. One may be first. -/
structure Spaced (parts : List Char) : Prop where
  filled : parts ≠ []
  closes : ∀ c ∈ parts.getLast?, isBlank c = false
  apart : parts.IsChain fun first second => isBlank first = false ∨ isBlank second = false
  spaces : ∀ c ∈ parts, isBlank c → c = ' '

def isSpaced (parts : List Char) : Bool :=
  parts.getLast?.any (!isBlank ·) && decide (parts.IsChain fun first second => isBlank first = false ∨ isBlank second = false) &&
    parts.all fun c => !isBlank c || c == ' '

theorem spaced_of_isSpaced {parts : List Char} (spaced : isSpaced parts) : Spaced parts := by
  simp only [isSpaced, Bool.and_eq_true, decide_eq_true_eq, List.all_eq_true, Bool.or_eq_true, Bool.not_eq_true',
    beq_iff_eq] at spaced
  obtain ⟨⟨last, apart⟩, spaces⟩ := spaced
  obtain ⟨c, lasts, solid⟩ := (Option.any_eq_true _ _).mp last
  refine ⟨?_, ?_, apart, fun c member blank => (spaces c member).resolve_left (by simp [blank])⟩
  · rintro rfl
    cases lasts
  · intro other lastsToo
    cases lasts.symm.trans lastsToo
    simpa using solid

theorem spaced_of_solid {parts : List Char} (filled : parts ≠ []) (solid : ∀ c ∈ parts, isBlank c = false) : Spaced parts where
  filled := filled
  closes := (tidy_of_solid solid).closes
  apart := (tidy_of_solid solid).apart
  spaces c member blank := by simp [solid c member] at blank

namespace Spaced

variable {first second : List Char}

theorem append (one : Spaced first) (other : Spaced second) : Spaced (first ++ second) where
  filled := by simp [one.filled]
  closes := by
    intro c lasts
    rw [List.getLast?_append_of_ne_nil _ other.filled] at lasts
    exact other.closes c lasts
  apart := List.isChain_append.mpr ⟨one.apart, other.apart, fun c lasts _ _ => Or.inl (one.closes c lasts)⟩
  spaces c member blank := by
    rcases List.mem_append.mp member with inside | inside
    · exact one.spaces c inside blank
    · exact other.spaces c inside blank

theorem tidy_iff (one : Spaced first) : Tidy first ↔ ∀ c ∈ first.head?, isBlank c = false :=
  ⟨fun tidy => tidy.opens, fun opens => ⟨opens, one.closes, one.apart⟩⟩

end Spaced

private theorem decompositionsFor_spaced (point : Nat) : (decompositionsFor point).allMapped fun other points =>
    blanks.contains other || points.all (fun part => !isBlank (Char.ofNat part)) || isSpaced (points.map Char.ofNat) := by
  unfold decompositionsFor
  repeat' split
  all_goals decide +kernel

theorem spaced_decompose {c : Char} (solid : isBlank c = false) : Spaced (decompose c) := by
  rcases decompose_cases c with ⟨-, parts⟩ | ⟨held, parts⟩ | ⟨points, parts, checked⟩
  · rw [parts]
    exact spaced_of_solid (List.cons_ne_nil c []) (by simpa using solid)
  · refine spaced_of_solid (decompose_ne_nil c) fun part member => ?_
    rw [parts] at member
    obtain ⟨point, inside, rfl⟩ := List.mem_map.mp member
    have jamo := Hangul.isHangul_of_mem_decompose held inside
    rw [← Hangul.toNat_ofNat jamo] at jamo
    exact not_isBlank_of_isHangul jamo
  · have passed := checked _ decompositionsFor_spaced
    have unlisted : blanks.contains c.toNat = false := solid
    rw [unlisted, Bool.false_or, Bool.or_eq_true] at passed
    rcases passed with visible | spaced
    · refine spaced_of_solid (decompose_ne_nil c) fun part member => ?_
      rw [parts] at member
      obtain ⟨point, inside, rfl⟩ := List.mem_map.mp member
      simpa using List.all_eq_true.mp visible point inside
    · rw [parts]
      exact spaced_of_isSpaced spaced

theorem spaced_word {word : List Char} (some : word ≠ []) (solid : ∀ c ∈ word, isBlank c = false) :
    Spaced (word.flatMap decompose) := by
  induction word with
  | nil => exact absurd rfl some
  | cons c rest ih =>
    have first := spaced_decompose (solid c List.mem_cons_self)
    rw [List.flatMap_cons]
    by_cases last : rest = []
    · rwa [last, List.flatMap_nil, List.append_nil]
    · exact first.append (ih last fun other member => solid other (List.mem_cons_of_mem c member))

/-- Whether a character decomposes to a space and what is put on it. -/
def opensWithBlank (c : Char) : Bool := (decompose c).head?.any isBlank

theorem tidy_word_iff {word : List Char} (some : word ≠ []) (solid : ∀ c ∈ word, isBlank c = false) :
    Tidy (word.flatMap decompose) ↔ ∀ c ∈ word.head?, opensWithBlank c = false := by
  obtain ⟨first, rest, rfl⟩ := List.exists_cons_of_ne_nil some
  have begun : ((first :: rest).flatMap decompose).head? = (decompose first).head? := by
    rw [List.flatMap_cons, List.head?_append_of_ne_nil _ (decompose_ne_nil first)]
  rw [(spaced_word some solid).tidy_iff, begun, List.head?_cons]
  cases heads : (decompose first).head? <;> simp [opensWithBlank, heads]

theorem decompose_space : decompose ' ' = [' '] := by decide +kernel

private theorem tidy_intercalate_iff {pieces : List (List Char)} (each : ∀ piece ∈ pieces, piece ≠ []) :
    Tidy ([' '].intercalate pieces) ↔ ∀ piece ∈ pieces, Tidy piece := by
  have space : isBlank ' ' := by decide +kernel
  induction pieces with
  | nil => exact ⟨fun _ => by simp, fun _ => tidy_nil⟩
  | cons first rest ih =>
    obtain ⟨some, others⟩ := List.forall_mem_cons.mp each
    cases rest with
    | nil => simp [List.intercalate_singleton]
    | cons second rest =>
      have more := intercalate_ne_nil (List.cons_ne_nil second rest) others
      have later := ih others
      rw [List.intercalate_cons_cons, List.append_assoc, List.singleton_append, tidy_cut space, List.forall_mem_cons]
      simp only [Filled, Ne, some, more, later, not_false_eq_true, true_and]

theorem tidy_normalizeText_iff (text : List Char) :
    Tidy (normalizeText text) ↔ ∀ c ∈ initials text, opensWithBlank c = false := by
  have filled : ∀ piece ∈ (words text).map fun word => word.flatMap decompose, piece ≠ [] := by
    intro piece member
    obtain ⟨word, inside, rfl⟩ := List.mem_map.mp member
    obtain ⟨some, solid⟩ := mem_words inside
    exact (spaced_word some fun c held => (solid c held).2).filled
  rw [normalizeText, tidy_nfkc_iff, collapse_eq_intercalate, flatMap_intercalate decompose_space,
    tidy_intercalate_iff filled, List.forall_mem_map]
  have each : ∀ word ∈ words text, Tidy (word.flatMap decompose) ↔ ∀ c ∈ word.head?, opensWithBlank c = false := by
    intro word member
    obtain ⟨some, solid⟩ := mem_words member
    exact tidy_word_iff some fun c held => (solid c held).2
  rw [forall₂_congr each]
  constructor
  · intro all c member
    obtain ⟨word, inside, heads⟩ := List.mem_filterMap.mp member
    exact all word inside c heads
  · intro all word inside c heads
    exact all c (List.mem_filterMap.mpr ⟨word, inside, heads⟩)

private theorem closes_intercalate {pieces : List (List Char)}
    (each : ∀ piece ∈ pieces, piece ≠ [] ∧ ∀ c ∈ piece.getLast?, isBlank c = false) :
    ∀ c ∈ ([' '].intercalate pieces).getLast?, isBlank c = false := by
  induction pieces with
  | nil => simp [List.intercalate]
  | cons first rest ih =>
    obtain ⟨⟨-, closes⟩, others⟩ := List.forall_mem_cons.mp each
    cases rest with
    | nil => rwa [List.intercalate_singleton]
    | cons second rest =>
      have more := intercalate_ne_nil (List.cons_ne_nil second rest) fun piece member => (others piece member).1
      rw [List.intercalate_cons_cons, List.getLast?_append_of_ne_nil _ more]
      exact ih others

theorem closes_normalizeText (text : List Char) : ∀ c ∈ (normalizeText text).getLast?, isBlank c = false := by
  apply (keepsBlanks_compose.closes_iff _).mpr
  apply (keepsBlanks_orderMarks.closes_iff _).mpr
  rw [collapse_eq_intercalate, flatMap_intercalate decompose_space]
  apply closes_intercalate
  intro piece member
  obtain ⟨word, inside, rfl⟩ := List.mem_map.mp member
  obtain ⟨some, solid⟩ := mem_words inside
  have spaced := spaced_word some fun c held => (solid c held).2
  exact ⟨spaced.filled, spaced.closes⟩

theorem spaces_normalizeText (text : List Char) : ∀ c ∈ normalizeText text, isBlank c → c = ' ' := by
  apply nfkc_forall
  · intro first second whole made _ _ blank
    simp [(solid_of_compose? made).2.2] at blank
  · intro c member part inside
    cases blank : isBlank c with
    | true =>
      have same : c = ' ' := spaces_collapse text c member blank
      rw [same, decompose_space] at inside
      exact fun _ => List.mem_singleton.mp inside
    | false => exact (spaced_decompose blank).spaces part inside

/-- No character of a composed text hides a space. -/
theorem opensWithBlank_nfkc (text : List Char) : ∀ c ∈ nfkc text, opensWithBlank c = isBlank c := by
  apply nfkc_forall
  · intro first second whole made before _
    obtain ⟨firstSolid, -, wholeSolid⟩ := solid_of_compose? made
    have parts : (decompose whole).head? = (decompose first).head? := by
      rw [decompose_of_compose? made, List.head?_append_of_ne_nil _ (decompose_ne_nil first)]
    calc opensWithBlank whole = opensWithBlank first := by rw [opensWithBlank, parts, opensWithBlank]
      _ = isBlank first := before
      _ = isBlank whole := by rw [firstSolid, wholeSolid]
  · intro c _ part inside
    simp [opensWithBlank, decompose_part inside]

theorem tidy_normalizeText_nfkc (text : List Char) : Tidy (normalizeText (nfkc text)) := by
  apply (tidy_normalizeText_iff _).mpr
  intro c member
  obtain ⟨held, solid⟩ := mem_initials member
  rw [opensWithBlank_nfkc text c held, solid]

theorem nfkc_nfkc (text : List Char) : nfkc (nfkc text) = nfkc text := (nfkc_eq_iff _ _).mpr (nfkd_nfkc text)

/-- A text is in normal form exactly if no blank of it is out of place, all of them are
spaces and it is composed. -/
theorem normalizeText_eq_self_iff (text : List Char) :
    normalizeText text = text ↔ Tidy text ∧ (∀ c ∈ text, isBlank c → c = ' ') ∧ nfkc text = text := by
  constructor
  · intro same
    have composed : nfkc (collapse text) = text := same
    have tidy := tidy_normalizeText_nfkc (collapse text)
    have spaces := spaces_normalizeText text
    rw [composed, same] at tidy
    rw [same] at spaces
    exact ⟨tidy, spaces, by rw [← composed, nfkc_nfkc]⟩
  · rintro ⟨tidy, spaces, composed⟩
    rw [normalizeText, collapse_eq_self tidy spaces, composed]

theorem normalizeText_normalizeText_iff (text : List Char) :
    normalizeText (normalizeText text) = normalizeText text ↔ Tidy (normalizeText text) := by
  have composed : nfkc (normalizeText text) = normalizeText text := nfkc_nfkc (collapse text)
  rw [normalizeText_eq_self_iff, composed]
  exact ⟨fun normal => normal.1, fun tidy => ⟨tidy, spaces_normalizeText text, rfl⟩⟩

/-- A normal form never ends with a blank. It begins with none, has no two in a row and is
its own normal form, exactly if no word of the key begins with a character that decomposes to
a blank and what stands on it. The normal form of a normal form is always so. -/
theorem normalize_tidy_iff (key : String) :
    (Tidy (normalize key).toList ↔ ∀ c ∈ initials key.toList, opensWithBlank c = false) ∧
      (normalize (normalize key) = normalize key ↔ ∀ c ∈ initials key.toList, opensWithBlank c = false) ∧
      (∀ c ∈ (normalize key).toList.getLast?, isBlank c = false) ∧
      Tidy (normalize (normalize key)).toList ∧
      normalize (normalize (normalize key)) = normalize (normalize key) := by
  simp only [normalize, String.toList_ofList]
  refine ⟨tidy_normalizeText_iff _, ?_, closes_normalizeText _, tidy_normalizeText_nfkc _, ?_⟩
  · rw [← tidy_normalizeText_iff, ← normalizeText_normalizeText_iff]
    exact ⟨fun same => String.ofList_injective same, congrArg String.ofList⟩
  · have tidy : Tidy (normalizeText (normalizeText key.toList)) := tidy_normalizeText_nfkc _
    exact congrArg String.ofList ((normalizeText_normalizeText_iff _).mpr tidy)

/-- A diaeresis that stands by itself is a space and a mark upon it. -/
theorem diaeresis_untidy :
    ¬ ∀ key, Tidy (normalize key).toList ∧ normalize (normalize key) = normalize key := by
  intro law
  have opens := (law "¨").1.opens
  have begun : (normalize "¨").toList.head? = some ' ' := by decide +kernel
  have solid := opens ' ' begun
  exact absurd solid (by decide +kernel)

end Key

end StreamTable
