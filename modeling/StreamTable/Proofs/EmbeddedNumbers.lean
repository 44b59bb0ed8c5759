import StreamTable.Proofs.DigitRuns
import StreamTable.Proofs.KeyLetters
import Mathlib.Algebra.Group.Nat.Defs

/-! Numbers within keys go by their values. A number is kept as its digits without leading
zeros, so the longer is the greater, and of two as long the first digit that differs
decides; both are the order of the values, whatever the length. Between ASCII letters, or
at an end of the key, a run of digits stays as it is in the normal form and is one element
at every level. -/

namespace StreamTable

open Unicode

def decimal (digits : List Char) : Nat := Nat.ofDigitChars 10 digits 0

theorem compare_eq_compare_toNat (c d : Char) : compare c d = compare c.toNat d.toNat := by
  have less : c < d ↔ c.toNat < d.toNat := Iff.rfl
  have same : c = d ↔ c.toNat = d.toNat := Char.toNat_inj.symm
  change compareOfLessAndEq c d = compareOfLessAndEq c.toNat d.toNat
  simp only [compareOfLessAndEq, less, same]

theorem decimal_cons (c : Char) (rest : List Char) :
    decimal (c :: rest) = 10 ^ rest.length * (c.toNat - '0'.toNat) + decimal rest := by
  rw [decimal, Nat.ofDigitChars_cons, Nat.ofDigitChars_eq_ofDigitChars_zero, Nat.mul_zero, Nat.zero_add]
  rfl

theorem toNat_of_isDigit {c : Char} (digit : c.isDigit) : '0'.toNat ≤ c.toNat ∧ c.toNat < '0'.toNat + 10 := by
  simp only [Char.isDigit, Bool.and_eq_true, decide_eq_true_eq, ge_iff_le, UInt32.le_iff_toNat_le] at digit
  have ends : '0'.toNat = '0'.val.toNat ∧ '9'.val.toNat = '0'.toNat + 9 := by decide
  have value : c.toNat = c.val.toNat := rfl
  omega

theorem decimal_lt {digits : List Char} (all : AllDigits digits) : decimal digits < 10 ^ digits.length := by
  induction digits with
  | nil => decide
  | cons c rest ih =>
    have below := ih all.tail
    have digit := toNat_of_isDigit (all c List.mem_cons_self)
    have scaled : 10 ^ rest.length * (c.toNat - '0'.toNat) ≤ 10 ^ rest.length * 9 := Nat.mul_le_mul_left _ (by omega)
    rw [decimal_cons, List.length_cons, Nat.pow_succ]
    omega

theorem decimal_dropWhile (digits : List Char) : decimal (digits.dropWhile (· == '0')) = decimal digits := by
  induction digits with
  | nil => rfl
  | cons c rest ih =>
    rw [List.dropWhile_cons]
    split
    next zero => rw [ih, decimal_cons, beq_iff_eq.mp zero, Nat.sub_self, Nat.mul_zero, Nat.zero_add]
    next => rfl

theorem pow_le_decimal {c : Char} {rest : List Char} (digit : c.isDigit) (visible : c ≠ '0') :
    10 ^ rest.length ≤ decimal (c :: rest) := by
  have bounds := toNat_of_isDigit digit
  have apart : c.toNat ≠ '0'.toNat := fun same => visible (Char.toNat_inj.mp same)
  have scaled : 10 ^ rest.length * 1 ≤ 10 ^ rest.length * (c.toNat - '0'.toNat) := Nat.mul_le_mul_left _ (by omega)
  rw [decimal_cons]
  omega

private theorem decimal_lt_decimal {c d : Char} {first second : List Char} (firstDigits : AllDigits (c :: first))
    (lengths : first.length = second.length) (less : c.toNat < d.toNat) :
    decimal (c :: first) < decimal (d :: second) := by
  have firstBelow := decimal_lt firstDigits.tail
  have firstDigit := toNat_of_isDigit (firstDigits c List.mem_cons_self)
  have scaled : 10 ^ first.length * (c.toNat - '0'.toNat + 1) ≤ 10 ^ first.length * (d.toNat - '0'.toNat) :=
    Nat.mul_le_mul_left _ (by omega)
  rw [Nat.mul_succ] at scaled
  rw [decimal_cons, decimal_cons, ← lengths]
  omega

theorem compare_eq_compare_decimal {first second : List Char} (firstDigits : AllDigits first)
    (secondDigits : AllDigits second) (lengths : first.length = second.length) :
    compare first second = compare (decimal first) (decimal second) := by
  induction first generalizing second with
  | nil =>
    cases second with
    | nil => rfl
    | cons => cases lengths
  | cons c first ih =>
    cases second with
    | nil => cases lengths
    | cons d second =>
      have others := Nat.succ.inj lengths
      rw [List.compare_cons_cons, compare_eq_compare_toNat]
      rcases Nat.lt_trichotomy c.toNat d.toNat with less | same | greater
      · have values := decimal_lt_decimal firstDigits others less
        rw [Nat.compare_eq_lt.mpr less, Nat.compare_eq_lt.mpr values]
        rfl
      · have rests := ih firstDigits.tail secondDigits.tail others
        rw [Nat.compare_eq_eq.mpr same, rests, decimal_cons, decimal_cons, same, others]
        simp only [Ordering.then, compare, compareOfLessAndEq, Nat.add_lt_add_iff_left, Nat.add_left_cancel_iff]
      · have values := decimal_lt_decimal secondDigits others.symm greater
        rw [Nat.compare_eq_gt.mpr greater, Nat.compare_eq_gt.mpr values]
        rfl

/-- Of digits that begin with no zero fewer write a lesser number. -/
private theorem decimal_lt_of_length_lt {first second : List Char} (firstDigits : AllDigits first)
    (secondDigits : AllDigits second) (visible : ∀ c ∈ second.head?, c ≠ '0') (shorter : first.length < second.length) :
    decimal first < decimal second := by
  cases second with
  | nil => cases shorter
  | cons c rest =>
    have below := decimal_lt firstDigits
    have above : 10 ^ rest.length ≤ decimal (c :: rest) :=
      pow_le_decimal (secondDigits c List.mem_cons_self) (visible c rfl)
    have powers : 10 ^ first.length ≤ 10 ^ rest.length :=
      Nat.pow_le_pow_right (by decide) (Nat.le_of_lt_succ shorter)
    omega

private theorem orderDigits_of_visible {first second : List Char} (firstDigits : AllDigits first)
    (secondDigits : AllDigits second) (firstVisible : ∀ c ∈ first.head?, c ≠ '0')
    (secondVisible : ∀ c ∈ second.head?, c ≠ '0') :
    Element.orderDigits first second = compare (decimal first) (decimal second) := by
  unfold Element.orderDigits
  rcases Nat.lt_trichotomy first.length second.length with shorter | same | longer
  · have values := decimal_lt_of_length_lt firstDigits secondDigits secondVisible shorter
    rw [Nat.compare_eq_lt.mpr shorter, Nat.compare_eq_lt.mpr values]
    rfl
  · rw [Nat.compare_eq_eq.mpr same, compare_eq_compare_decimal firstDigits secondDigits same]
    rfl
  · have values := decimal_lt_of_length_lt secondDigits firstDigits firstVisible longer
    rw [Nat.compare_eq_gt.mpr longer, Nat.compare_eq_gt.mpr values]
    rfl

/-- Numbers go by their values. -/
theorem orderDigits_eq_compare_decimal {first second : List Char} (firstDigits : AllDigits first)
    (secondDigits : AllDigits second) :
    Element.orderDigits (first.dropWhile (· == '0')) (second.dropWhile (· == '0')) =
      compare (decimal first) (decimal second) := by
  have visible (digits : List Char) : ∀ c ∈ (digits.dropWhile (· == '0')).head?, c ≠ '0' := by
    intro c heads
    have first := List.head?_dropWhile_not (· == '0') digits
    simpa [Option.mem_def.mp heads] using first
  rw [orderDigits_of_visible (firstDigits.dropWhile _) (secondDigits.dropWhile _) (visible first) (visible second),
    decimal_dropWhile, decimal_dropWhile]

/-- A text that is empty or ends in an ASCII letter. -/
def EndsInLetter (text : List Char) : Prop := ∀ c ∈ text.getLast?, c.isAlpha

def BeginsWithLetter (text : List Char) : Prop := ∀ c ∈ text.head?, c.isAlpha

instance (text : List Char) : Decidable (EndsInLetter text) :=
  decidable_of_iff (text.getLast?.all Char.isAlpha) (Option.all_eq_true _ _)

instance (text : List Char) : Decidable (BeginsWithLetter text) :=
  decidable_of_iff (text.head?.all Char.isAlpha) (Option.all_eq_true _ _)

namespace Collator

variable (collator : Collator) (level : Level)

/-- What a level sees of a text behind a number. -/
def lettersBehind (text : List Char) : List Char := collator.letters level (Key.joinWords false text)

theorem letters_digits {digits : List Char} (all : AllDigits digits) (rest : List Char) :
    collator.letters level (digits ++ rest) = digits ++ collator.letters level rest := by
  induction digits with
  | nil => rfl
  | cons c digits ih =>
    have digit : c.isDigit := all c List.mem_cons_self
    have cut := collator.letters_append level (isAlphanum_of_isDigit digit) [] (digits ++ rest)
    rw [plainLetter_of_isDigit level digit, ih all.tail] at cut
    exact cut

theorem ends_lettersBehind {text : List Char} (letter : BeginsWithLetter text) :
    Element.Ends (collator.lettersBehind level text) := by
  cases text with
  | nil =>
    have nothing : collator.lettersBehind level [] = [] := rfl
    simp [Element.Ends, nothing]
  | cons c rest =>
    have first : c.isAlpha := letter c rfl
    have alphanumeric := isAlphanum_of_isAlpha first
    have joined : Key.joinWords false (c :: rest) = c :: Key.joinWords false rest := by
      simp [Key.joinWords, isBlank_of_isAlphanum alphanumeric]
    have seen : collator.lettersBehind level (c :: rest) = plainLetter level c :: collator.lettersBehind level rest := by
      rw [lettersBehind, joined]
      exact collator.letters_append level alphanumeric [] _
    simp [Element.Ends, seen, isDigit_plainLetter level first]

/-- Digits are seen as they are. Before them a level sees what does not depend on them
and ends in no digit. -/
theorem letters_of_number {before : List Char} (letter : EndsInLetter before) :
    ∃ front : List Char, (∀ c ∈ front.getLast?, c.isDigit = false) ∧
      ∀ digits after, digits ≠ [] → AllDigits digits →
        collator.letters level (Key.normalizeText (before ++ digits ++ after)) =
          front ++ (digits ++ collator.lettersBehind level after) := by
  have solid {digits : List Char} (all : AllDigits digits) : ∀ c ∈ digits, isBlank c = false :=
    fun c member => isBlank_of_isAlphanum (isAlphanum_of_isDigit (all c member))
  rcases List.eq_nil_or_concat before with rfl | ⟨before, last, rfl⟩
  · refine ⟨[], by simp, fun digits after some all => ?_⟩
    rw [letters_normalizeText, List.nil_append, Key.collapse_solid some (solid all), letters_digits collator level all]
    rfl
  · have isLetter : last.isAlpha := letter last (by simp)
    have alphanumeric := isAlphanum_of_isAlpha isLetter
    obtain ⟨front, collapsed⟩ := Key.collapse_append (isBlank_of_isAlphanum alphanumeric) before
    refine ⟨collator.letters level front ++ [plainLetter level last], by simp [isDigit_plainLetter level isLetter],
      fun digits after _ all => ?_⟩
    have whole : before.concat last ++ digits ++ after = before ++ last :: (digits ++ after) := by simp
    rw [letters_normalizeText, whole, collapsed, Key.joinWords_solid (solid all), letters_append collator level alphanumeric,
      letters_digits collator level all, List.append_assoc]
    rfl

/-- At every level a number between letters is one element. -/
theorem elements_of_number (numeric : collator.numeric = true) {before : List Char} (letter : EndsInLetter before) :
    ∃ front : List Element, ∀ digits after, digits ≠ [] → AllDigits digits → BeginsWithLetter after →
      collator.elements level (Key.normalizeText (before ++ digits ++ after)) =
        front ++ .number (digits.dropWhile (· == '0')) :: Element.gather none (collator.lettersBehind level after) := by
  obtain ⟨front, closed, letters⟩ := collator.letters_of_number level letter
  refine ⟨Element.gather none front, fun digits after some all behind => ?_⟩
  have ends := collator.ends_lettersBehind level behind
  rw [elements, if_pos numeric, letters digits after some all, Element.gather_between closed some all ends]

private theorem compare_append {α : Type} [Ord α] [Std.ReflOrd α] (front first second : List α) :
    compare (front ++ first) (front ++ second) = compare first second := by
  induction front with
  | nil => rfl
  | cons a front ih =>
    rw [List.cons_append, List.cons_append, List.compare_cons_cons, Std.ReflOrd.compare_self, ih]
    rfl

theorem compare_elements_of_numbers (numeric : collator.numeric = true) {before : List Char} (letter : EndsInLetter before)
    {first second : List Char} (some : first ≠ [] ∧ second ≠ []) (all : AllDigits first ∧ AllDigits second)
    {behind behindToo : List Char} (letters : BeginsWithLetter behind ∧ BeginsWithLetter behindToo) :
    compare (collator.elements level (Key.normalizeText (before ++ first ++ behind)))
        (collator.elements level (Key.normalizeText (before ++ second ++ behindToo))) =
      (compare (decimal first) (decimal second)).then
        (compare (Element.gather none (collator.lettersBehind level behind))
          (Element.gather none (collator.lettersBehind level behindToo))) := by
  obtain ⟨front, elements⟩ := collator.elements_of_number level numeric letter
  have numbers : compare (Element.number (first.dropWhile (· == '0'))) (.number (second.dropWhile (· == '0'))) =
      compare (decimal first) (decimal second) := orderDigits_eq_compare_decimal all.1 all.2
  rw [elements first behind some.1 all.1 letters.1, elements second behindToo some.2 all.2 letters.2, compare_append,
    List.compare_cons_cons, numbers]

/-- Numbers between ASCII letters, or at an end of a key, go by their values whatever
their length, and whatever follows them. Numbers of one value tie, however many zeros
they begin with. -/
theorem order_embedded_numbers (numeric : collator.numeric = true) {m n before behind behindToo : String}
    (some : m ≠ "" ∧ n ≠ "") (digits : AllDigits m.toList ∧ AllDigits n.toList) (letter : EndsInLetter before.toList)
    (letters : BeginsWithLetter behind.toList ∧ BeginsWithLetter behindToo.toList) :
    (decimal m.toList ≠ decimal n.toList →
        collator.order (before ++ m ++ behind) (before ++ n ++ behindToo) = compare (decimal m.toList) (decimal n.toList)) ∧
      (decimal m.toList = decimal n.toList → collator.order (before ++ m ++ behind) (before ++ n ++ behind) = .eq) := by
  have visible : m.toList ≠ [] ∧ n.toList ≠ [] := by simpa [String.toList_eq_nil_iff] using some
  constructor
  · intro apart
    have values : compare (decimal m.toList) (decimal n.toList) ≠ .eq := fun same => apart (Nat.compare_eq_eq.mp same)
    simp only [order_eq_collate, String.toList_append]
    refine collator.collate_of_forall fun level _ => ?_
    rw [collator.compare_elements_of_numbers level numeric letter visible digits letters]
    cases answer : compare (decimal m.toList) (decimal n.toList) with
    | lt | gt => rfl
    | eq => exact absurd answer values
  · intro same
    simp only [order_eq_collate, String.toList_append]
    refine collator.collate_of_forall fun level _ => ?_
    rw [collator.compare_elements_of_numbers level numeric letter visible digits ⟨letters.1, letters.1⟩,
      Nat.compare_eq_eq.mpr same]
    exact Std.ReflCmp.compare_self

/-- Numbers beyond any machine word, an accent and blanks before them, and zeros. -/
theorem order_embedded_numbers_long :
    let collator : Collator := ⟨.variant, false, true⟩
    collator.order ("É  v" ++ "0018446744073709551616" ++ "b") ("É  v" ++ "99999999999999999999" ++ "") = .lt ∧
      collator.order ("É  v" ++ "000" ++ "bé") ("É  v" ++ "0" ++ "bé") = .eq := by
  intro collator
  have longDigits : AllDigits "0018446744073709551616".toList ∧ AllDigits "99999999999999999999".toList := by decide
  have zeros : AllDigits "000".toList ∧ AllDigits "0".toList := by decide
  have letter : EndsInLetter "É  v".toList := by decide
  obtain ⟨byValue, -⟩ := collator.order_embedded_numbers rfl (by decide) longDigits letter
    (by decide : BeginsWithLetter "b".toList ∧ BeginsWithLetter "".toList)
  obtain ⟨-, tied⟩ := collator.order_embedded_numbers rfl (by decide) zeros letter
    (by decide : BeginsWithLetter "bé".toList ∧ BeginsWithLetter "bé".toList)
  have less : decimal "0018446744073709551616".toList < decimal "99999999999999999999".toList := by decide
  exact ⟨(byValue (Nat.ne_of_lt less)).trans (Nat.compare_eq_lt.mpr less), tied (by decide)⟩

end Collator

end StreamTable
