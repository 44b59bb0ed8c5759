import StreamTable.Proofs.CollationOrder
import StreamTable.Proofs.LetterCase

/-! Keys of one identity and the order. An identity is the lower case of a whole text,
where a capital sigma that ends a word becomes a final one; the order takes the lower
case letter by letter, where it never does. So keys of one identity tie unless a
capital sigma of one stands against a final sigma of the other. -/

namespace StreamTable

open Unicode

namespace Element

/-- Texts that go on differently after a common front still do so behind it. -/
theorem gather_tail {run : Option (List Char)} (front : List Char) {first second : List Char}
    (same : gather run (front ++ first) = gather run (front ++ second)) :
    ∃ later, gather later first = gather later second := by
  induction front generalizing run with
  | nil => exact ⟨run, same⟩
  | cons c rest ih =>
    simp only [List.cons_append, gather] at same
    split at same
    · exact ih same
    · exact ih (List.cons.inj (List.append_cancel_left same)).2

theorem gather_head {run : Option (List Char)} {a b : Char} {first second : List Char}
    (same : gather run (a :: first) = gather run (b :: second))
    (aLetter : a.isDigit = false) (bLetter : b.isDigit = false) : a = b := by
  simp only [gather, aLetter, bLetter, Bool.false_eq_true, ite_false] at same
  exact Element.character.inj (List.cons.inj (List.append_cancel_left same)).1

end Element

namespace Key

/-- A letter with both small sigmas as one. -/
def medial (c : Char) : Char := if c = finalSigma then smallSigma else c

/-- The lower case of a text differs from that of its letters in sigmas only. -/
theorem map_medial_lowerText (text : List Char) :
    (lowerText text).map medial = (text.flatMap lower).map medial := by
  have after : ∀ before, (lowerAfter before text).map medial = (text.flatMap lower).map medial := by
    induction text with
    | nil => simp [lowerAfter]
    | cons c rest ih =>
      intro before
      have image : (if c = capitalSigma then
          [if nearestIsCased before && !nearestIsCased rest then finalSigma else smallSigma]
          else lower c).map medial = (lower c).map medial := by
        split
        next capital =>
          have single : lower capitalSigma = [smallSigma] := by decide +kernel
          rw [capital, single]
          split <;> rfl
        next => rfl
      simp only [lowerAfter, List.map_append, List.flatMap_cons, ih, image]
  exact after []

theorem lowerText_eq_flatMap {text : List Char} (absent : capitalSigma ∉ text) :
    lowerText text = text.flatMap lower := by
  have after : ∀ before, lowerAfter before text = text.flatMap lower := by
    induction text with
    | nil => simp [lowerAfter]
    | cons c rest ih =>
      intro before
      have other : c ≠ capitalSigma := fun same => absent (same ▸ List.mem_cons_self)
      have later : capitalSigma ∉ rest := fun member => absent (List.mem_cons_of_mem c member)
      simp [lowerAfter, other, ih later]
  exact after []

/-- Different letters that agree up to sigmas are sigmas, and each of these is its own
letter. -/
private theorem letter_of_medial_eq {a b : Char} (alike : medial a = medial b) (different : a ≠ b) :
    letter a = [a] ∧ a.isDigit = false := by
  have sigma : a = smallSigma ∨ a = finalSigma := by
    unfold medial at alike
    split at alike <;> split at alike
    next first second => exact absurd (first.trans second.symm) different
    next first _ => exact Or.inr first
    next => exact Or.inl alike
    next => exact absurd alike different
  rcases sigma with rfl | rfl
  · exact ⟨by decide +kernel, by decide⟩
  · exact ⟨by decide +kernel, by decide⟩

/-- Letters that agree up to sigmas have the same elements only if they agree in
sigmas too. -/
theorem eq_of_gather_letters_eq {first second : List Char} (alike : first.map medial = second.map medial)
    {run : Option (List Char)}
    (same : Element.gather run (first.flatMap letter) = Element.gather run (second.flatMap letter)) :
    first = second := by
  induction first generalizing second run with
  | nil => exact (List.map_eq_nil_iff.mp alike.symm).symm
  | cons a first ih =>
    cases second with
    | nil => simp at alike
    | cons b second =>
      have ⟨headAlike, tailAlike⟩ := List.cons.inj alike
      have headSame : a = b := by
        by_contra different
        obtain ⟨aLetter, aNoDigit⟩ := letter_of_medial_eq headAlike different
        obtain ⟨bLetter, bNoDigit⟩ := letter_of_medial_eq headAlike.symm (Ne.symm different)
        simp only [List.flatMap_cons, aLetter, bLetter] at same
        exact different (Element.gather_head same aNoDigit bNoDigit)
      subst headSame
      obtain ⟨later, tailSame⟩ := Element.gather_tail (letter a) same
      rw [ih tailAlike tailSame]

/-- The normal form of a key in lower case, letter by letter. -/
def lowerLetters (key : String) : List Char := (normalizeText key.toList).flatMap lower

theorem order_eq_iff_gather (a b : String) :
    Key.order a b = .eq ↔
      Element.gather none ((lowerLetters a).flatMap letter) = Element.gather none ((lowerLetters b).flatMap letter) := by
  have collated : Key.order a b = _ := Collator.order_eq_collate {} a b
  rw [collated, Collator.collate_eq_iff]
  simp [Sensitivity.levels, Collator.elements, letters_eq_flatMap_lower, lowerLetters]

theorem lowerLetters_eq_of_identity_eq {a b : String} (same : identity a = identity b)
    (absentFirst : capitalSigma ∉ normalizeText a.toList) (absentSecond : capitalSigma ∉ normalizeText b.toList) :
    lowerLetters a = lowerLetters b := by
  have text : identityText a.toList = identityText b.toList := String.ofList_injective same
  rwa [identityText, identityText, lowerText_eq_flatMap absentFirst, lowerText_eq_flatMap absentSecond] at text

/-- The lower-case letters of keys of one identity differ at most in a small sigma that
stands against a final one. The keys tie exactly if they differ nowhere, and so
whenever neither normal form has a capital sigma. -/
theorem order_eq_iff_of_identity_eq {a b : String} (same : identity a = identity b) :
    (lowerLetters a).map medial = (lowerLetters b).map medial ∧
      (Key.order a b = .eq ↔ lowerLetters a = lowerLetters b) ∧
      (capitalSigma ∉ normalizeText a.toList → capitalSigma ∉ normalizeText b.toList → Key.order a b = .eq) := by
  have text : identityText a.toList = identityText b.toList := String.ofList_injective same
  have alike : (lowerLetters a).map medial = (lowerLetters b).map medial := by
    have lowered := congrArg (List.map medial) text
    simpa only [identityText, map_medial_lowerText, lowerLetters] using lowered
  have ties : Key.order a b = .eq ↔ lowerLetters a = lowerLetters b := by
    rw [order_eq_iff_gather]
    constructor
    · exact fun gathered => eq_of_gather_letters_eq alike gathered
    · exact fun letters => by rw [letters]
  exact ⟨alike, ties, fun absentFirst absentSecond => ties.mpr (lowerLetters_eq_of_identity_eq same absentFirst absentSecond)⟩

theorem order_eq_iff_of_identity_eq_within_word :
    identity "ΟΔΥΣΣΕΥς" = identity "οδυσσευς" ∧
      (lowerLetters "ΟΔΥΣΣΕΥς").map medial = (lowerLetters "οδυσσευς").map medial ∧
      (Key.order "ΟΔΥΣΣΕΥς" "οδυσσευς" = .eq ↔ lowerLetters "ΟΔΥΣΣΕΥς" = lowerLetters "οδυσσευς") ∧
      (capitalSigma ∉ normalizeText "ΟΔΥΣΣΕΥς".toList → capitalSigma ∉ normalizeText "οδυσσευς".toList →
        Key.order "ΟΔΥΣΣΕΥς" "οδυσσευς" = .eq) := by
  have same : identity "ΟΔΥΣΣΕΥς" = identity "οδυσσευς" := by decide +kernel
  exact ⟨same, order_eq_iff_of_identity_eq same⟩

/-- A word in capitals and the same word with its final sigma have one identity, but
they do not tie. -/
theorem identity_eq_without_tie : ¬ ∀ a b : String, identity a = identity b → Key.order a b = .eq := by
  intro law
  have tie := law "ΑΣ" "ας" (by decide +kernel)
  exact absurd tie (by decide +kernel)

end Key

end StreamTable
