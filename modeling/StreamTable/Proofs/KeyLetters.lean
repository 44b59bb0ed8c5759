import StreamTable.Proofs.CollationOrder
import StreamTable.Proofs.Recomposition

/-! The letters of a key, read off the key itself. A level decomposes what was composed, so
composing does not matter to it, and an ASCII letter or digit neither takes part in a
composition nor lets a mark pass. So what a level sees of a key may be cut there. -/

namespace StreamTable

open Unicode

/-- What the character database says of ASCII characters. -/
structure PlainAscii (c : Char) : Prop where
  fixed : decompose c = [c]
  starts : combiningClass c = 0
  unmarked : isMark c = false
  alphanumeric : isAlphanumeric c = c.isAlphanum
  lowered : lower c = [c.toLower]
  visible : c.isAlphanum → isBlank c = false

def isPlain (c : Char) : Bool :=
  decompose c == [c] && combiningClass c == 0 && !isMark c && isAlphanumeric c == c.isAlphanum &&
    lower c == [c.toLower] && (!c.isAlphanum || !isBlank c)

theorem forall_ascii_of_points {property : Char → Prop} [DecidablePred property]
    (checked : ∀ point ∈ List.range 128, property (Char.ofNat point)) : ∀ c : Char, c.toNat < 128 → property c := by
  intro c below
  have passed := checked c.toNat (List.mem_range.mpr below)
  rwa [Char.ofNat_toNat] at passed

theorem plainAscii {c : Char} (below : c.toNat < 128) : PlainAscii c := by
  have checked : ∀ c : Char, c.toNat < 128 → isPlain c := forall_ascii_of_points (by decide +kernel)
  have passed := checked c below
  simp only [isPlain, Bool.and_eq_true, beq_iff_eq, Bool.not_eq_true', Bool.or_eq_true] at passed
  obtain ⟨⟨⟨⟨⟨fixed, starts⟩, unmarked⟩, alphanumeric⟩, lowered⟩, visible⟩ := passed
  exact ⟨fixed, starts, unmarked, alphanumeric, lowered, fun letter => visible.resolve_left (by simp [letter])⟩

theorem isAlphanum_of_isDigit {c : Char} (digit : c.isDigit) : c.isAlphanum := by simp [Char.isAlphanum, digit]

theorem isAlphanum_of_isAlpha {c : Char} (letter : c.isAlpha) : c.isAlphanum := by simp [Char.isAlphanum, letter]

theorem toNat_lt_of_isAlphanum {c : Char} (letter : c.isAlphanum) : c.toNat < 128 := by
  delta Char.isAlphanum Char.isAlpha Char.isUpper Char.isLower Char.isDigit at letter
  simp only [Bool.or_eq_true, Bool.and_eq_true, decide_eq_true_eq, ge_iff_le, UInt32.le_iff_toNat_le] at letter
  have ends : 'Z'.val.toNat < 128 ∧ 'z'.val.toNat < 128 ∧ '9'.val.toNat < 128 := by decide
  have value : c.toNat = c.val.toNat := rfl
  omega

theorem isBlank_of_isAlphanum {c : Char} (letter : c.isAlphanum) : isBlank c = false :=
  (plainAscii (toNat_lt_of_isAlphanum letter)).visible letter

/-- A text may be decomposed in parts before a starter that does not decompose. -/
theorem nfkd_append {c : Char} (fixed : decompose c = [c]) (starts : combiningClass c = 0) (front rest : List Char) :
    nfkd (front ++ c :: rest) = nfkd front ++ c :: nfkd rest := by
  rw [nfkd, List.flatMap_append, List.flatMap_cons, fixed, List.singleton_append, orderMarks_append_starter starts]
  rfl

namespace Key

theorem joinWords_append {last : Char} (visible : isBlank last = false) (before : List Char) (owed : Bool) :
    ∃ front, ∀ rest, joinWords owed (before ++ last :: rest) = front ++ last :: joinWords false rest := by
  induction before generalizing owed with
  | nil => exact ⟨if owed then [' '] else [], fun rest => by cases owed <;> simp [joinWords, visible]⟩
  | cons c before ih =>
    by_cases blank : isBlank c
    · obtain ⟨front, joined⟩ := ih true
      exact ⟨front, fun rest => by simp [joinWords, blank, joined]⟩
    · obtain ⟨front, joined⟩ := ih false
      exact ⟨(if owed then [' ', c] else [c]) ++ front, fun rest => by cases owed <;> simp [joinWords, blank, joined]⟩

theorem collapse_append {last : Char} (visible : isBlank last = false) (before : List Char) :
    ∃ front, ∀ rest, collapse (before ++ last :: rest) = front ++ last :: joinWords false rest := by
  obtain ⟨front, joined⟩ := joinWords_append visible (before.dropWhile isBlank) false
  refine ⟨front, fun rest => ?_⟩
  have trimmed : (before ++ last :: rest).dropWhile isBlank = before.dropWhile isBlank ++ last :: rest := by
    rw [List.dropWhile_append]
    split
    next empty => simp [List.isEmpty_iff.mp empty, visible]
    next => rfl
  rw [collapse, trimmed, joined]

theorem joinWords_solid {word : List Char} (visible : ∀ c ∈ word, isBlank c = false) (rest : List Char) :
    joinWords false (word ++ rest) = word ++ joinWords false rest := by
  induction word with
  | nil => rfl
  | cons c word ih =>
    have later := ih fun other member => visible other (List.mem_cons_of_mem c member)
    simp [joinWords, visible c List.mem_cons_self, later]

theorem collapse_solid {word : List Char} (some : word ≠ []) (visible : ∀ c ∈ word, isBlank c = false) (rest : List Char) :
    collapse (word ++ rest) = word ++ joinWords false rest := by
  rw [← joinWords_solid visible, collapse]
  obtain ⟨first, more, rfl⟩ := List.exists_cons_of_ne_nil some
  rw [List.cons_append, List.dropWhile_cons_of_neg (by simp [visible first List.mem_cons_self])]

end Key

namespace Collator

variable (collator : Collator) (level : Level)

/-- Composition changes nothing that a level sees. -/
theorem letters_normalizeText (text : List Char) :
    collator.letters level (Key.normalizeText text) = collator.letters level (Key.collapse text) := by
  rw [letters, Key.normalizeText, nfkd_nfkc, letters]

def plainLetter (c : Char) : Char := if level.keepCase then c else c.toLower

theorem plainLetter_of_isDigit {c : Char} (digit : c.isDigit) : plainLetter level c = c := by
  have below := toNat_lt_of_isAlphanum (isAlphanum_of_isDigit digit)
  have lowered : ∀ c : Char, c.toNat < 128 → c.isDigit → c.toLower = c := forall_ascii_of_points (by decide +kernel)
  rw [plainLetter, lowered c below digit, ite_self]

theorem isDigit_plainLetter {c : Char} (letter : c.isAlpha) : (plainLetter level c).isDigit = false := by
  have below := toNat_lt_of_isAlphanum (isAlphanum_of_isAlpha letter)
  have others : ∀ c : Char, c.toNat < 128 → c.isAlpha → c.isDigit = false ∧ c.toLower.isDigit = false :=
    forall_ascii_of_points (by decide +kernel)
  obtain ⟨kept, lowered⟩ := others c below letter
  unfold plainLetter
  split <;> assumption

theorem letters_append {c : Char} (letter : c.isAlphanum) (front rest : List Char) :
    collator.letters level (front ++ c :: rest) =
      collator.letters level front ++ plainLetter level c :: collator.letters level rest := by
  have plain := plainAscii (toNat_lt_of_isAlphanum letter)
  have kept : collator.keeps level c := by simp [keeps, plain.unmarked, plain.alphanumeric, letter]
  have shown : (if level.keepCase then [c] else lower c) = [plainLetter level c] := by
    rw [plain.lowered, plainLetter]
    split <;> rfl
  rw [letters, nfkd_append plain.fixed plain.starts, List.filter_append, List.filter_cons_of_pos kept,
    List.flatMap_append, List.flatMap_cons, shown]
  rfl

end Collator

end StreamTable
