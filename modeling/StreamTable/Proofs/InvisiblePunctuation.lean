import StreamTable.Proofs.KeyLetters
import StreamTable.Proofs.MarklessLetters

/-! ASCII punctuation and blanks do not count where neither marks nor punctuation do. A level
that drops marks reads a key character by character, and of such a character it reads
nothing, be it in a word, in a number, between jamo or before a mark. Collapsing blanks
takes away or puts in only what such a level does not see, and composing changes nothing. -/

namespace StreamTable

open Unicode

namespace Key

def isPunctuation (c : Char) : Bool := decide (c.toNat < 128) && !c.isAlphanum

def withoutPunctuation (text : List Char) : List Char := text.filter (!isPunctuation ·)

private theorem filter_joinWords (owed : Bool) (text : List Char) :
    (joinWords owed text).filter (!isBlank ·) = text.filter (!isBlank ·) := by
  have space : isBlank ' ' := by decide +kernel
  fun_induction joinWords owed text with
  | case1 => rfl
  | case2 owed c rest blank ih => simp [ih, blank]
  | case3 c rest visible ih => simp [ih, visible, space]
  | case4 owed c rest visible free ih => simp [ih, visible]

theorem filter_collapse (text : List Char) : (collapse text).filter (!isBlank ·) = text.filter (!isBlank ·) := by
  rw [collapse, filter_joinWords]
  induction text with
  | nil => rfl
  | cons c rest ih =>
    rw [List.dropWhile_cons]
    split
    next blank => simp [ih, blank]
    next => rfl

end Key

namespace Collator

private theorem flatMap_filter {keep : Char → Bool} {f : Char → List Char} (nothing : ∀ c, keep c = false → f c = [])
    (text : List Char) : (text.filter keep).flatMap f = text.flatMap f := by
  induction text with
  | nil => rfl
  | cons c rest ih =>
    cases kept : keep c with
    | false => simp [kept, nothing c kept, ih]
    | true => simp [kept, ih]

section Level

variable {collator : Collator} {level : Level} (markless : level.keepMarks = false)
  (ignoring : collator.ignorePunctuation = true)
include markless ignoring

theorem lettersOf_eq_nil {c : Char} (unseen : ∀ part ∈ decompose c, isMark part ∨ isAlphanumeric part = false) :
    collator.lettersOf level c = [] := by
  have dropped : (decompose c).filter (collator.keeps level) = [] := by
    refine List.filter_eq_nil_iff.mpr fun part member => ?_
    rcases unseen part member with mark | other
    · simp [keeps, markless, mark]
    · simp [keeps, markless, ignoring, other]
  rw [lettersOf, dropped, List.flatMap_nil]

theorem lettersOf_blank {c : Char} (blank : isBlank c) : collator.lettersOf level c = [] := by
  have checked : blanks.allPoints fun point =>
      (decompose (Char.ofNat point)).all fun part => isMark part || !isAlphanumeric part := by decide +kernel
  have passed := RangeMap.check_of_contains checked blank
  rw [Char.ofNat_toNat] at passed
  refine lettersOf_eq_nil markless ignoring fun part member => ?_
  simpa using List.all_eq_true.mp passed part member

theorem lettersOf_punctuation {c : Char} (punctuation : Key.isPunctuation c) : collator.lettersOf level c = [] := by
  simp only [Key.isPunctuation, Bool.and_eq_true, decide_eq_true_eq, Bool.not_eq_true'] at punctuation
  obtain ⟨below, other⟩ := punctuation
  have plain := plainAscii below
  refine lettersOf_eq_nil markless ignoring fun part member => ?_
  rw [plain.fixed, List.mem_singleton] at member
  exact Or.inr (member ▸ plain.alphanumeric.trans other)

/-- A level that drops marks and punctuation sees of a key what its characters other than
ASCII punctuation amount to, one by one. -/
theorem letters_eq_withoutPunctuation (text : List Char) :
    collator.letters level (Key.normalizeText text) =
      (Key.withoutPunctuation text).flatMap (collator.lettersOf level) := by
  have blanks : ∀ c, (!isBlank c) = false → collator.lettersOf level c = [] :=
    fun c blank => lettersOf_blank markless ignoring (by simpa using blank)
  have punctuation : ∀ c, (!Key.isPunctuation c) = false → collator.lettersOf level c = [] :=
    fun c unseen => lettersOf_punctuation markless ignoring (by simpa using unseen)
  rw [letters_normalizeText, letters_eq_flatMap collator level markless]
  calc (Key.collapse text).flatMap (collator.lettersOf level)
      = ((Key.collapse text).filter (!isBlank ·)).flatMap (collator.lettersOf level) := (flatMap_filter blanks _).symm
    _ = (text.filter (!isBlank ·)).flatMap (collator.lettersOf level) := by rw [Key.filter_collapse]
    _ = text.flatMap (collator.lettersOf level) := flatMap_filter blanks text
    _ = (Key.withoutPunctuation text).flatMap (collator.lettersOf level) := (flatMap_filter punctuation text).symm

end Level

/-- ASCII punctuation may be put into keys and taken out of them anywhere: their order stays
the same. -/
theorem order_ignores_punctuation {collator : Collator} (base : collator.sensitivity = .base)
    (ignoring : collator.ignorePunctuation = true) :
    (∀ (u v : String) (c : Char), Key.isPunctuation c → collator.order (u.push c ++ v) (u ++ v) = .eq) ∧
      (∀ a a' b b' : String,
        Key.withoutPunctuation a.toList = Key.withoutPunctuation a'.toList →
        Key.withoutPunctuation b.toList = Key.withoutPunctuation b'.toList →
        collator.order a b = collator.order a' b') := by
  have elements {a b : String} (same : Key.withoutPunctuation a.toList = Key.withoutPunctuation b.toList) :
      collator.elements ⟨false, false⟩ (Key.normalizeText a.toList) =
        collator.elements ⟨false, false⟩ (Key.normalizeText b.toList) := by
    rw [elements, elements, letters_eq_withoutPunctuation rfl ignoring, letters_eq_withoutPunctuation rfl ignoring, same]
  have orders : ∀ a a' b b' : String,
      Key.withoutPunctuation a.toList = Key.withoutPunctuation a'.toList →
      Key.withoutPunctuation b.toList = Key.withoutPunctuation b'.toList →
      collator.order a b = collator.order a' b' := by
    intro a a' b b' first second
    simp only [order_eq_collate, collate, base, Sensitivity.levels, List.foldr_cons, List.foldr_nil, elements first,
      elements second]
  refine ⟨fun u v c punctuation => ?_, orders⟩
  have inserted : Key.withoutPunctuation (u.push c ++ v).toList = Key.withoutPunctuation (u ++ v).toList := by
    simp [Key.withoutPunctuation, punctuation]
  rw [orders _ _ _ _ inserted rfl]
  exact Std.ReflCmp.compare_self

/-- Punctuation before a mark and between jamo, blanks at both ends and in a number. -/
theorem order_ignores_punctuation_inside :
    let collator : Collator := ⟨.base, true, true⟩
    collator.order ("e".push '-' ++ "\u0301") ("e" ++ "\u0301") = .eq ∧
      collator.order "\t\u1112\u1161\u11ab 0_0 7\n" "(\u1112-\u1161-\u11ab) #10" =
        collator.order "\u1112\u1161\u11ab007" "\u1112\u1161\u11ab10" ∧
      collator.order "\u1112\u1161\u11ab007" "\u1112\u1161\u11ab10" = .lt := by
  intro collator
  have punctuation : Key.isPunctuation '-' := by decide
  have first : Key.withoutPunctuation "\t\u1112\u1161\u11ab 0_0 7\n".toList =
      Key.withoutPunctuation "\u1112\u1161\u11ab007".toList := by decide
  have second : Key.withoutPunctuation "(\u1112-\u1161-\u11ab) #10".toList =
      Key.withoutPunctuation "\u1112\u1161\u11ab10".toList := by decide
  obtain ⟨inserted, orders⟩ := order_ignores_punctuation (rfl : collator.sensitivity = .base) rfl
  exact ⟨inserted "e" "\u0301" '-' punctuation, orders _ _ _ _ first second, by decide +kernel⟩

/-- Where marks count this fails: punctuation keeps the marks around it in their order. -/
example : (⟨.accent, true, true⟩ : Collator).order "a\u0301-\u0323" "a\u0301\u0323" ≠ .eq := by decide +kernel

end Collator

end StreamTable
