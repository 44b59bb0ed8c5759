import Mathlib.Data.List.Basic
import Mathlib.Data.List.Induction
import Mathlib.Data.Nat.Digits.Defs
import StreamTable.Proofs.MarkedText

/-! The grammar of character references. A name is one of six, or a number in one of two
bases; what is read beyond these is a number with a plus sign before its digits. The text
of a fragment is given by rules that know no scan, over any notion of a reference's name.
The scan follows them step by step where it and the notion agree on the ampersands that it
comes to, and it agrees with the grammar everywhere but at numbers with a sign. -/

namespace StreamTable.Markup

/-- The value of a digit in either case. Other characters have the value 16. -/
def digitValue (c : Char) : Nat := "0123456789abcdef".toList.idxOf c.toLower

structure IsNumeral (base : Nat) (digits : List Char) (number : Nat) : Prop where
  begun : digits ≠ []
  below : ∀ c ∈ digits, digitValue c < base
  value : Nat.ofDigits base (digits.map digitValue).reverse = number

theorem digitValue_of_not_ascii {c : Char} (beyond : 128 ≤ c.toNat) : digitValue c = 16 := by
  have same : c.toLower = c := by
    refine dif_neg fun upper => ?_
    have below : c.val.toNat ≤ 90 := by simpa [UInt32.le_iff_toNat_le] using upper.2
    have value : c.toNat = c.val.toNat := rfl
    omega
  have below : "0123456789abcdef".toList.all (·.toNat < 128) := by decide
  have absent : c ∉ "0123456789abcdef".toList := fun member =>
    Nat.not_lt.mpr beyond (of_decide_eq_true (List.all_eq_true.mp below c member))
  rw [digitValue, same, List.idxOf_eq_length absent]
  rfl

theorem digit?_of_not_ascii {base : Nat} {c : Char} (beyond : 128 ≤ c.toNat) : digit? base c = none := by
  have above (last : Char) (small : last.toNat < 128) : ¬ c ≤ last := by
    rw [Char.le_def, UInt32.le_iff_toNat_le]
    exact Nat.not_le.mpr (Nat.lt_of_lt_of_le small beyond)
  simp [digit?, above '9' (by decide), above 'f' (by decide), above 'F' (by decide)]

/-- A property of characters is checked on the first 128 and shown of the others. -/
theorem forall_of_ascii {property : Char → Prop} [DecidablePred property]
    (checked : ∀ point ∈ List.range 128, property (Char.ofNat point))
    (beyond : ∀ c : Char, 128 ≤ c.toNat → property c) (c : Char) : property c := by
  rcases Nat.lt_or_ge c.toNat 128 with below | above
  · have passed := checked c.toNat (List.mem_range.mpr below)
    rwa [Char.ofNat_toNat] at passed
  · exact beyond c above

theorem isAlphanum_of_digitValue : ∀ c : Char, digitValue c < 16 → c.isAlphanum := by
  refine forall_of_ascii (by decide +kernel) ?_
  intro c beyond digit
  rw [digitValue_of_not_ascii beyond] at digit
  exact absurd digit (Nat.lt_irrefl 16)

theorem digit?_eq_ite :
    ∀ c : Char, ∀ base ≤ 16, digit? base c = if digitValue c < base then some (digitValue c) else none := by
  refine forall_of_ascii (by decide +kernel) ?_
  intro c beyond base small
  rw [digit?_of_not_ascii beyond, digitValue_of_not_ascii beyond, if_neg (Nat.not_lt.mpr small)]

/-- Digits are read from the front and weighed from the back, so the induction is on the last one. -/
theorem digits?_eq_some_iff {base number : Nat} {digits : List Char} (small : base ≤ 16) :
    digits? base 0 digits = some number ↔
      (∀ c ∈ digits, digitValue c < base) ∧ Nat.ofDigits base (digits.map digitValue).reverse = number := by
  induction digits using List.reverseRecOn generalizing number with
  | nil => simp [digits?]
  | append_singleton front last ih =>
    have shown : digits? base 0 (front ++ [last]) = some number ↔
        ∃ read, digits? base 0 front = some read ∧ digitValue last < base ∧ base * read + digitValue last = number := by
      rw [digits?_append, Option.bind_eq_some_iff]
      refine exists_congr fun read => and_congr_right fun _ => ?_
      rw [digits?, digit?_eq_ite last base small]
      by_cases digit : digitValue last < base <;> simp [digit, digits?]
    rw [shown]
    simp only [ih, List.map_append, List.map_cons, List.map_nil, List.reverse_append, List.reverse_cons,
      List.reverse_nil, List.nil_append, List.cons_append, Nat.ofDigits_cons, List.mem_append, List.mem_singleton]
    constructor
    · rintro ⟨read, ⟨fronts, rfl⟩, digit, value⟩
      refine ⟨?_, by omega⟩
      rintro c (member | rfl)
      · exact fronts c member
      · exact digit
    · rintro ⟨all, value⟩
      exact ⟨_, ⟨fun c member => all c (Or.inl member), rfl⟩, all last (Or.inr rfl), by omega⟩

theorem isNumeral_iff {base number : Nat} {digits : List Char} (small : base ≤ 16) :
    IsNumeral base digits number ↔ digits ≠ [] ∧ digits? base 0 digits = some number := by
  rw [digits?_eq_some_iff small]
  constructor
  · rintro ⟨begun, below, value⟩
    exact ⟨begun, below, value⟩
  · rintro ⟨begun, below, value⟩
    exact ⟨begun, below, value⟩

theorem number?_eq_some_iff {base number : Nat} {text : List Char} (small : base ≤ 16) :
    number? base text = some number ↔
      ∃ sign ∈ [[], ['+']], ∃ digits, text = sign ++ digits ∧ IsNumeral base digits number := by
  constructor
  · intro read
    by_cases signed : text.head? = some '+'
    · obtain ⟨digits, rfl⟩ := List.head?_eq_some_iff.mp signed
      have numeral : IsNumeral base digits number := (isNumeral_iff small).mpr (by simpa [number?] using read)
      exact ⟨['+'], by simp, digits, rfl, numeral⟩
    · have numeral : IsNumeral base text number := (isNumeral_iff small).mpr (by simpa [number?, signed] using read)
      exact ⟨[], by simp, text, rfl, numeral⟩
  · rintro ⟨sign, listed, digits, rfl, numeral⟩
    obtain ⟨begun, read⟩ := (isNumeral_iff small).mp numeral
    rcases List.mem_pair.mp listed with rfl | rfl
    · exact number?_of_digits? begun read
    · simp [number?, begun, read]

theorem character?_eq_some_iff {point : Nat} {c : Char} : character? point = some c ↔ point = c.toNat := by
  constructor
  · intro read
    rw [character?] at read
    split at read
    next valid =>
      rw [← Option.some.inj read, Char.ofNat, dif_pos valid]
      rfl
    next => cases read
  · rintro rfl
    exact character?_toNat c

/-- A number's ways to stand between an ampersand and a semicolon, with a sign before its
digits. It is that of a character, so neither a surrogate nor beyond the last code point. -/
inductive Numbers (sign : List Char) : List Char → Char → Prop
  | decimal {digits : List Char} {c : Char} (numeral : IsNumeral 10 digits c.toNat) :
      Numbers sign ('#' :: (sign ++ digits)) c
  | hexadecimal {mark : Char} {digits : List Char} {c : Char} (marked : mark = 'x' ∨ mark = 'X')
      (numeral : IsNumeral 16 digits c.toNat) : Numbers sign ('#' :: mark :: (sign ++ digits)) c

def characterNames : List (List Char × Char) :=
  [("amp".toList, '&'), ("lt".toList, '<'), ("gt".toList, '>'), ("quot".toList, '"'), ("apos".toList, '\''),
    ("nbsp".toList, '\xa0')]

/-- The grammar: one of six names, or a number without a sign. -/
inductive Denotes : List Char → Char → Prop
  | named {name : List Char} {c : Char} (listed : (name, c) ∈ characterNames) : Denotes name c
  | number {name : List Char} {c : Char} (numbers : Numbers [] name c) : Denotes name c

/-- The grammar and its numbers with a plus sign. -/
def Accepted (name : List Char) (c : Char) : Prop := Denotes name c ∨ Numbers ['+'] name c

theorem Numbers.letters {sign name : List Char} {c : Char} (numbers : Numbers sign name c) :
    ∀ letter ∈ name, letter = '#' ∨ letter ∈ sign ∨ letter.isAlphanum := by
  have digit {base number : Nat} {digits : List Char} (small : base ≤ 16) (numeral : IsNumeral base digits number) :
      ∀ letter ∈ digits, letter.isAlphanum := fun letter member =>
    isAlphanum_of_digitValue letter (Nat.lt_of_lt_of_le (numeral.below letter member) small)
  intro letter member
  cases numbers with
  | decimal numeral =>
    rcases List.mem_cons.mp member with rfl | member
    · exact Or.inl rfl
    · exact Or.inr ((List.mem_append.mp member).imp_right (digit (by decide) numeral letter))
  | hexadecimal marked numeral =>
    rcases List.mem_cons.mp member with rfl | member
    · exact Or.inl rfl
    rcases List.mem_cons.mp member with rfl | member
    · rcases marked with rfl | rfl <;> exact Or.inr (Or.inr (by decide))
    · exact Or.inr ((List.mem_append.mp member).imp_right (digit (by decide) numeral letter))

theorem Numbers.sign_mem {sign name : List Char} {c : Char} (numbers : Numbers sign name c) :
    ∀ letter ∈ sign, letter ∈ name := by
  intro letter member
  cases numbers <;> simp [member]

theorem Denotes.letters {name : List Char} {c : Char} (denotes : Denotes name c) :
    ∀ letter ∈ name, letter = '#' ∨ letter.isAlphanum := by
  cases denotes with
  | named listed =>
    have checked : ∀ entry ∈ characterNames, entry.1.all Char.isAlphanum := by decide
    exact fun letter member => Or.inr (List.all_eq_true.mp (checked _ listed) letter member)
  | number numbers => simpa using numbers.letters

theorem Denotes.unsigned {name : List Char} {c other : Char} (denotes : Denotes name c) : ¬ Numbers ['+'] name other := by
  intro numbers
  have shown := denotes.letters '+' (numbers.sign_mem '+' List.mem_cons_self)
  simp at shown

theorem lookup_namedCharacters_eq_some_iff {name : List Char} {c : Char} :
    namedCharacters.lookup name = some c ↔ (name, c) ∈ characterNames := by
  constructor
  · intro found
    obtain ⟨before, after, split, -⟩ := List.lookup_eq_some_iff.mp found
    have member : (name, c) ∈ namedCharacters := split ▸ List.mem_append_right before List.mem_cons_self
    exact member
  · intro listed
    have checked : ∀ entry ∈ characterNames, namedCharacters.lookup entry.1 = some entry.2 := by decide +kernel
    exact checked (name, c) listed

theorem numbered_eq_some_iff {base : Nat} {text : List Char} {c : Char} (small : base ≤ 16) :
    (number? base text).bind character? = some c ↔
      ∃ sign ∈ [[], ['+']], ∃ digits, text = sign ++ digits ∧ IsNumeral base digits c.toNat := by
  simp only [Option.bind_eq_some_iff, character?_eq_some_iff, exists_eq_right, number?_eq_some_iff small]

theorem reference?_number {text : List Char} (unmarked : ∀ mark ∈ text.head?, mark ≠ 'x' ∧ mark ≠ 'X') :
    reference? ('#' :: text) = (number? 10 text).bind character? := by
  have unnamed : namedCharacters.lookup ('#' :: text) = none := rfl
  cases text with
  | nil => simp [reference?, unnamed]
  | cons first rest => simp [reference?, unnamed, unmarked first rfl]

theorem reference?_marked {mark : Char} {text : List Char} (marked : mark = 'x' ∨ mark = 'X') :
    reference? ('#' :: mark :: text) = (number? 16 text).bind character? := by
  have unnamed : namedCharacters.lookup ('#' :: mark :: text) = none := rfl
  rcases marked with rfl | rfl <;> simp [reference?, unnamed]

theorem Numbers.read {sign name : List Char} {c : Char} (listed : sign ∈ [[], ['+']]) (numbers : Numbers sign name c) :
    reference? name = some c := by
  cases numbers with
  | @decimal digits _ numeral =>
    have unmarked : ∀ mark ∈ (sign ++ digits).head?, mark ≠ 'x' ∧ mark ≠ 'X' := by
      obtain ⟨first, rest, rfl⟩ := List.exists_cons_of_ne_nil numeral.begun
      have below := numeral.below first List.mem_cons_self
      have digit : first ≠ 'x' ∧ first ≠ 'X' := by
        constructor
        all_goals
          rintro rfl
          exact absurd below (by decide)
      rcases List.mem_pair.mp listed with rfl | rfl
      · simpa using digit
      · simp
    rw [reference?_number unmarked]
    exact (numbered_eq_some_iff (by decide)).mpr ⟨sign, listed, digits, rfl, numeral⟩
  | @hexadecimal mark digits _ marked numeral =>
    rw [reference?_marked marked]
    exact (numbered_eq_some_iff (by decide)).mpr ⟨sign, listed, digits, rfl, numeral⟩

theorem reference?_eq_some_iff {name : List Char} {c : Char} : reference? name = some c ↔ Accepted name c := by
  have accept {sign : List Char} (listed : sign ∈ [[], ['+']]) (numbers : Numbers sign name c) : Accepted name c := by
    rcases List.mem_pair.mp listed with rfl | rfl
    · exact Or.inl (.number numbers)
    · exact Or.inr numbers
  constructor
  · fun_cases reference? name with
    | case1 _ _ found =>
      rintro ⟨⟩
      exact Or.inl (.named (lookup_namedCharacters_eq_some_iff.mp found))
    | case2 _ _ | case3 _ _ =>
      intro read
      obtain ⟨sign, listed, digits, rfl, numeral⟩ := (numbered_eq_some_iff (by decide)).mp read
      exact accept listed (.hexadecimal (by decide) numeral)
    | case4 _ _ _ _ =>
      intro read
      obtain ⟨sign, listed, digits, rfl, numeral⟩ := (numbered_eq_some_iff (by decide)).mp read
      exact accept listed (.decimal numeral)
    | case5 _ _ _ _ _ => simp
  · rintro ((listed | numbers) | numbers)
    · simp [reference?, lookup_namedCharacters_eq_some_iff.mpr listed]
    · exact numbers.read (by decide)
    · exact numbers.read (by decide)

/-- A name and its semicolon stand behind an ampersand, the semicolon at most ten bytes
from it, and then the rest. -/
def Begins (denotes : List Char → Char → Prop) (text : List Char) (c : Char) (after : List Char) : Prop :=
  ∃ name, text = name ++ ';' :: after ∧ byteSize ('&' :: name) ≤ 10 ∧ denotes name c

/-- A fragment and its text, with tags dropped and references replaced. An ampersand at
which no reference begins is kept, and the fragment is read on right behind it. -/
inductive Reads (denotes : List Char → Char → Prop) : List Char → List Char → Prop
  | done : Reads denotes [] []
  | tag {inside rest shown : List Char} (closed : '>' ∉ inside) (later : Reads denotes rest shown) :
      Reads denotes ('<' :: (inside ++ '>' :: rest)) shown
  | unfinished {rest : List Char} (opened : '>' ∉ rest) : Reads denotes ('<' :: rest) []
  | reference {text after shown : List Char} {c : Char} (begins : Begins denotes text c after)
      (later : Reads denotes after shown) : Reads denotes ('&' :: text) (c :: shown)
  | ampersand {text shown : List Char} (stray : ∀ c after, ¬ Begins denotes text c after)
      (later : Reads denotes text shown) : Reads denotes ('&' :: text) ('&' :: shown)
  | plain {c : Char} {rest shown : List Char} (plain : c ≠ '<' ∧ c ≠ '&') (later : Reads denotes rest shown) :
      Reads denotes (c :: rest) (c :: shown)

/-- The rests of a fragment that the scan comes to. -/
inductive Meets : List Char → List Char → Prop
  | here {text : List Char} : Meets text text
  | later {text rest : List Char} (more : text ≠ []) (meets : Meets (step text).2 rest) : Meets text rest

/-- At an ampersand the scan takes the reference that begins there. Where none does, it keeps
the ampersand and goes on right behind it. -/
structure Follows (denotes : List Char → Char → Prop) (text : List Char) : Prop where
  replaced : ∀ c after, Begins denotes text c after → step ('&' :: text) = ([c], after)
  kept : (∀ c after, ¬ Begins denotes text c after) → step ('&' :: text) = (['&'], text)

theorem Accepted.closed {name : List Char} {c : Char} (accepted : Accepted name c) : ';' ∉ name := by
  intro member
  rcases accepted with denotes | numbers
  · have shown := denotes.letters ';' member
    simp at shown
  · have shown := numbers.letters ';' member
    simp at shown

theorem begins_accepted_iff {text after : List Char} {c : Char} :
    Begins Accepted text c after ↔ readReference? text = some (c, after) := by
  rw [readReference?_eq_some_iff]
  simp only [reference?_eq_some_iff, Begins, referenceReach]
  refine exists_congr fun name => and_congr_right fun _ => ?_
  constructor
  · rintro ⟨near, accepted⟩
    exact ⟨accepted.closed, near, accepted⟩
  · rintro ⟨-, near, accepted⟩
    exact ⟨near, accepted⟩

theorem follows_accepted (text : List Char) : Follows Accepted text where
  replaced c after begins := by simp [step, begins_accepted_iff.mp begins]
  kept stray := by
    have unread : readReference? text = none := by
      simpa only [begins_accepted_iff, Option.eq_none_iff_forall_ne_some, Prod.forall] using stray
    simp [step, unread]

theorem Begins.mono {denotes allowed : List Char → Char → Prop} {text after : List Char} {c : Char}
    (more : ∀ name, denotes name c → allowed name c) (begins : Begins denotes text c after) :
    Begins allowed text c after := by
  obtain ⟨name, split, near, denoted⟩ := begins
  exact ⟨name, split, near, more name denoted⟩

theorem Begins.length_lt {denotes : List Char → Char → Prop} {text after : List Char} {c : Char}
    (begins : Begins denotes text c after) : after.length < text.length := by
  obtain ⟨name, rfl, -⟩ := begins
  simp only [List.length_append, List.length_cons]
  omega

theorem Begins.stray {text after : List Char} {c : Char} (signed : Begins (Numbers ['+']) text c after) :
    ∀ other rest, ¬ Begins Denotes text other rest := by
  rintro other rest ⟨name, same, near, denotes⟩
  obtain ⟨first, sameToo, nearToo, numbers⟩ := signed
  have reach : byteSize name ≤ 10 ∧ byteSize first ≤ 10 := by
    rw [byteSize_cons] at near nearToo
    omega
  have split := splitAtSemicolon?_eq_some_iff.mpr ⟨same, Accepted.closed (Or.inl denotes), reach.1⟩
  have splitToo := splitAtSemicolon?_eq_some_iff.mpr ⟨sameToo, Accepted.closed (Or.inr numbers), reach.2⟩
  obtain ⟨rfl, -⟩ := Prod.mk.inj (Option.some.inj (split.symm.trans splitToo))
  exact denotes.unsigned numbers

/-- The scan follows the grammar at an ampersand exactly if no number with a sign begins there. -/
theorem follows_denotes_iff {text : List Char} :
    Follows Denotes text ↔ ∀ c after, ¬ Begins (Numbers ['+']) text c after := by
  constructor
  · intro follows c after signed
    have taken := (follows_accepted text).replaced c after (signed.mono fun _ => Or.inr)
    have same := (Prod.mk.inj (taken.symm.trans (follows.kept signed.stray))).2
    exact absurd signed.length_lt (same ▸ Nat.lt_irrefl _)
  · intro unsigned
    refine ⟨fun c after begins => (follows_accepted text).replaced c after (begins.mono fun _ => Or.inl), ?_⟩
    intro stray
    refine (follows_accepted text).kept ?_
    rintro c after ⟨name, split, near, denotes | numbers⟩
    · exact stray c after ⟨name, split, near, denotes⟩
    · exact unsigned c after ⟨name, split, near, numbers⟩

theorem afterTag?_eq_none_iff {text : List Char} : afterTag? text = none ↔ '>' ∉ text := by
  induction text with
  | nil => simp [afterTag?]
  | cons c text ih =>
    rw [afterTag?]
    split
    next ends => simp [ends]
    next goes => simp [ih, Ne.symm goes]

section Reading

variable {denotes : List Char → Char → Prop} {text rest shown : List Char} {c : Char}

theorem reads_nil_iff : Reads denotes [] shown ↔ shown = [] := by
  constructor
  · rintro ⟨⟩
    rfl
  · rintro rfl
    exact .done

theorem reads_tag_iff : Reads denotes ('<' :: rest) shown ↔ Reads denotes ((afterTag? rest).getD []) shown := by
  constructor
  · intro reads
    cases reads with
    | tag closed later => rwa [afterTag?_eq_some_iff.mpr ⟨_, closed, rfl⟩]
    | unfinished opened =>
      rw [afterTag?_eq_none_iff.mpr opened]
      exact .done
    | plain other _ => exact absurd rfl other.1
  · intro reads
    cases ended : afterTag? rest with
    | none =>
      rw [ended] at reads
      obtain rfl := reads_nil_iff.mp reads
      exact .unfinished (afterTag?_eq_none_iff.mp ended)
    | some after =>
      rw [ended] at reads
      obtain ⟨inside, closed, rfl⟩ := afterTag?_eq_some_iff.mp ended
      exact .tag closed reads

theorem reads_plain_iff (plain : c ≠ '<' ∧ c ≠ '&') :
    Reads denotes (c :: rest) shown ↔ ∃ later, shown = c :: later ∧ Reads denotes rest later := by
  constructor
  · intro reads
    cases reads with
    | tag | unfinished => exact absurd rfl plain.1
    | reference | ampersand => exact absurd rfl plain.2
    | plain _ later => exact ⟨_, rfl, later⟩
  · rintro ⟨later, rfl, reads⟩
    exact .plain plain reads

theorem reads_stray_iff (stray : ∀ c after, ¬ Begins denotes text c after) :
    Reads denotes ('&' :: text) shown ↔ ∃ later, shown = '&' :: later ∧ Reads denotes text later := by
  constructor
  · intro reads
    cases reads with
    | reference begins _ => exact absurd begins (stray _ _)
    | ampersand _ later => exact ⟨_, rfl, later⟩
    | plain other _ => exact absurd rfl other.2
  · rintro ⟨later, rfl, reads⟩
    exact .ampersand stray reads

theorem reads_reference_iff (follows : Follows denotes text) : Reads denotes ('&' :: text) shown ↔
    ∃ later, shown = (step ('&' :: text)).1 ++ later ∧ Reads denotes (step ('&' :: text)).2 later := by
  by_cases stray : ∀ c after, ¬ Begins denotes text c after
  · rw [follows.kept stray]
    exact reads_stray_iff stray
  · simp only [not_forall, not_not] at stray
    obtain ⟨c, after, begins⟩ := stray
    rw [follows.replaced c after begins]
    constructor
    · intro reads
      cases reads with
      | reference other later =>
        have same := (follows.replaced c after begins).symm.trans (follows.replaced _ _ other)
        obtain ⟨first, rfl⟩ := Prod.mk.inj same
        exact ⟨_, congrArg (· ++ _) first.symm, later⟩
      | ampersand stray _ => exact absurd begins (stray c after)
      | plain other _ => exact absurd rfl other.2
    · rintro ⟨later, rfl, reads⟩
      exact .reference begins reads

theorem reads_step_iff (more : text ≠ []) (follows : ∀ rest, text = '&' :: rest → Follows denotes rest) :
    Reads denotes text shown ↔ ∃ later, shown = (step text).1 ++ later ∧ Reads denotes (step text).2 later := by
  obtain ⟨first, rest, rfl⟩ := List.exists_cons_of_ne_nil more
  by_cases tag : first = '<'
  · subst tag
    simp [step, reads_tag_iff]
  by_cases ampersand : first = '&'
  · subst ampersand
    exact reads_reference_iff (follows rest rfl)
  · simpa [step, tag, ampersand] using reads_plain_iff ⟨tag, ampersand⟩

/-- Rules that the scan follows at every ampersand it comes to give its text and no other. -/
theorem reads_iff_textOf (follows : ∀ rest, Meets text ('&' :: rest) → Follows denotes rest) :
    Reads denotes text shown ↔ textOf text = shown := by
  induction size : text.length using Nat.strongRecOn generalizing text shown with
  | ind bound ih =>
    by_cases more : text = []
    · subst more
      rw [reads_nil_iff, textOf_nil, eq_comm]
    · have shorter : (step text).2.length < bound := size ▸ length_step_lt more
      have agrees (later : List Char) : Reads denotes (step text).2 later ↔ textOf (step text).2 = later :=
        ih _ shorter (fun rest meets => follows rest (.later more meets)) rfl
      rw [reads_step_iff more fun rest same => follows rest (same ▸ .here), textOf_eq_step more]
      constructor
      · rintro ⟨later, split, reads⟩
        rw [split, (agrees later).mp reads]
      · intro same
        exact ⟨textOf (step text).2, same.symm, (agrees _).mpr rfl⟩

theorem reads_literal_iff (plain : '<' ∉ text ∧ '&' ∉ text) :
    Reads denotes (text ++ rest) shown ↔ ∃ later, shown = text ++ later ∧ Reads denotes rest later := by
  induction text generalizing shown with
  | nil => simp
  | cons c text ih =>
    simp only [List.mem_cons, not_or] at plain
    obtain ⟨⟨noTag, tags⟩, noReference, references⟩ := plain
    rw [List.cons_append, reads_plain_iff ⟨Ne.symm noTag, Ne.symm noReference⟩]
    simp only [ih ⟨tags, references⟩]
    constructor
    · rintro ⟨_, rfl, later, rfl, reads⟩
      exact ⟨later, rfl, reads⟩
    · rintro ⟨later, rfl, reads⟩
      exact ⟨_, rfl, later, rfl, reads⟩

end Reading

/-- The grammar takes a number with a sign as it stands, the scan as one character. -/
theorem Begins.longer {text after shown : List Char} {c : Char} (signed : Begins (Numbers ['+']) text c after)
    (reads : Reads Denotes ('&' :: text) shown) :
    textOf ('&' :: text) = c :: textOf after ∧
      ∃ later, Reads Denotes after later ∧ later.length + 1 < shown.length := by
  obtain ⟨shown, rfl, literal⟩ := (reads_stray_iff signed.stray).mp reads
  obtain ⟨name, rfl, near, numbers⟩ := signed
  have closed : ';' ∉ name := Accepted.closed (Or.inr numbers)
  have plain : '<' ∉ name ++ [';'] ∧ '&' ∉ name ++ [';'] := by
    constructor
    all_goals
      intro member
      have letter := numbers.letters _ (by simpa using member)
      simp at letter
  have split : name ++ ';' :: after = name ++ [';'] ++ after := by simp
  obtain ⟨later, rfl, last⟩ := (reads_literal_iff plain).mp (split ▸ literal)
  refine ⟨textOf_reference closed near (reference?_eq_some_iff.mpr (Or.inr numbers)) after, later, last, ?_⟩
  simp only [List.length_cons, List.length_append]
  omega

/-- The text that is read is no longer than that of the grammar, and shorter once the scan
comes to a number with a sign. -/
theorem Reads.length_textOf {text shown : List Char} (reads : Reads Denotes text shown) :
    (textOf text).length ≤ shown.length ∧ ∀ rest c after, Meets text ('&' :: rest) →
      Begins (Numbers ['+']) rest c after → (textOf text).length < shown.length := by
  induction size : text.length using Nat.strongRecOn generalizing text shown with
  | ind bound ih =>
    by_cases signed : ∃ rest c after, text = '&' :: rest ∧ Begins (Numbers ['+']) rest c after
    · obtain ⟨rest, c, after, rfl, begins⟩ := signed
      obtain ⟨split, later, reads, longer⟩ := begins.longer reads
      have shorter : after.length < bound := size ▸ Nat.lt_succ_of_lt begins.length_lt
      have within := (ih _ shorter reads rfl).1
      have less : (textOf ('&' :: rest)).length < shown.length := by
        rw [split, List.length_cons]
        omega
      exact ⟨Nat.le_of_lt less, fun _ _ _ _ _ => less⟩
    · by_cases more : text = []
      · subst more
        refine ⟨Nat.zero_le _, fun rest c after meets => ?_⟩
        cases meets with
        | later more => exact absurd rfl more
      · have follows : ∀ rest, text = '&' :: rest → Follows Denotes rest := fun rest same =>
          follows_denotes_iff.mpr fun c after begins => signed ⟨rest, c, after, same, begins⟩
        obtain ⟨later, rfl, next⟩ := (reads_step_iff more follows).mp reads
        have shorter : (step text).2.length < bound := size ▸ length_step_lt more
        obtain ⟨within, less⟩ := ih _ shorter next rfl
        rw [textOf_eq_step more, List.length_append, List.length_append]
        refine ⟨Nat.add_le_add_left within _, fun rest c after meets begins => ?_⟩
        cases meets with
        | here => exact absurd ⟨rest, c, after, rfl, begins⟩ signed
        | later _ meets => exact Nat.add_lt_add_left (less rest c after meets begins) _

/-- At each ampersand the scan does what the grammar says, but for a number with a plus sign.
So the text of a fragment is that of the grammar with these numbers, and it is that of the
grammar itself exactly if the scan comes to none of them. -/
theorem textContent_reads_references (fragment : String) :
    (∀ rest, Follows Denotes rest ↔ ∀ c after, ¬ Begins (Numbers ['+']) rest c after) ∧
      (∀ text : String, Reads Accepted fragment.toList text.toList ↔ textContent fragment = text) ∧
      (Reads Denotes fragment.toList (textContent fragment).toList ↔
        ∀ rest, Meets fragment.toList ('&' :: rest) → ∀ c after, ¬ Begins (Numbers ['+']) rest c after) := by
  refine ⟨fun _ => follows_denotes_iff, fun text => ?_, ?_⟩
  · rw [reads_iff_textOf fun rest _ => follows_accepted rest, textContent, ← String.toList_inj, String.toList_ofList]
  · rw [textContent, String.toList_ofList]
    constructor
    · intro reads rest meets c after begins
      exact absurd (reads.length_textOf.2 rest c after meets begins) (Nat.lt_irrefl _)
    · intro unsigned
      exact (reads_iff_textOf fun rest meets => follows_denotes_iff.mpr (unsigned rest meets)).mpr rfl

/-- A plus sign is no part of a reference, so the grammar takes this fragment as it stands. -/
theorem plus_sign_decoded :
    textContent "&#+65;" = "A" ∧ Reads Denotes "&#+65;".toList "&#+65;".toList ∧
      ¬ Reads Denotes "&#+65;".toList "A".toList := by
  have digits : "65".toList.all (digitValue · < 10) := by decide
  have numeral : IsNumeral 10 "65".toList 'A'.toNat :=
    ⟨by decide, fun c member => of_decide_eq_true (List.all_eq_true.mp digits c member), by decide⟩
  have signed : Begins (Numbers ['+']) "#+65;".toList 'A' [] := ⟨"#+65".toList, rfl, by decide +kernel, .decimal numeral⟩
  have plain : '<' ∉ "#+65;".toList ∧ '&' ∉ "#+65;".toList := by decide
  refine ⟨by decide +kernel, .ampersand signed.stray ?_, ?_⟩
  · exact (reads_literal_iff plain).mpr ⟨[], rfl, .done⟩
  · intro reads
    obtain ⟨-, later, -, longer⟩ := signed.longer reads
    simp at longer

end StreamTable.Markup
