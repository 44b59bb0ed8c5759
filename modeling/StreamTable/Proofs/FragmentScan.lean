import StreamTable.Markup.TextContent

/-! The scan of a markup fragment. Every step leaves a shorter rest, so the bound on their
number is never felt and a fragment is read by one equation: what the first step yields,
then the text of the rest. A tag ends at the first angle bracket behind it and a reference
at the first semicolon, whatever stands behind these. -/

namespace StreamTable.Markup

theorem afterTag?_eq_some_iff {text rest : List Char} :
    afterTag? text = some rest ↔ ∃ inside, '>' ∉ inside ∧ text = inside ++ '>' :: rest := by
  induction text with
  | nil => simp [afterTag?]
  | cons c text ih =>
    rw [afterTag?]
    split
    next ends =>
      subst ends
      constructor
      · intro same
        exact ⟨[], by simp, by rw [Option.some.inj same, List.nil_append]⟩
      · rintro ⟨inside, absent, split⟩
        cases inside with
        | nil => rw [(List.cons.inj split).2]
        | cons first inside => exact absurd ((List.cons.inj split).1 ▸ List.mem_cons_self) absent
    next goes =>
      rw [ih]
      constructor
      · rintro ⟨inside, absent, rfl⟩
        exact ⟨c :: inside, by simp [absent, Ne.symm goes], rfl⟩
      · rintro ⟨inside, absent, split⟩
        cases inside with
        | nil => exact absurd (List.cons.inj split).1 goes
        | cons first inside =>
          exact ⟨inside, fun member => absent (List.mem_cons_of_mem first member), (List.cons.inj split).2⟩

def byteSize (text : List Char) : Nat := (String.ofList text).utf8ByteSize

@[simp] theorem byteSize_nil : byteSize [] = 0 := by simp [byteSize]

@[simp] theorem byteSize_cons (c : Char) (rest : List Char) : byteSize (c :: rest) = c.utf8Size + byteSize rest := by
  rw [byteSize, String.ofList_cons, String.utf8ByteSize_append, String.utf8ByteSize_singleton, byteSize]

theorem splitAtSemicolon?_eq_some_iff {reach : Nat} {text name after : List Char} :
    splitAtSemicolon? reach text = some (name, after) ↔
      text = name ++ ';' :: after ∧ ';' ∉ name ∧ byteSize name ≤ reach := by
  induction text generalizing reach name with
  | nil => simp [splitAtSemicolon?]
  | cons c text ih =>
    rw [splitAtSemicolon?]
    split
    next ends =>
      subst ends
      constructor
      · intro same
        obtain ⟨rfl, rfl⟩ := Prod.mk.inj (Option.some.inj same)
        simp
      · rintro ⟨split, absent, -⟩
        cases name with
        | nil => rw [(List.cons.inj split).2]
        | cons first name => exact absurd ((List.cons.inj split).1 ▸ List.mem_cons_self) absent
    next goes =>
      split
      next beyond =>
        simp only [reduceCtorEq, false_iff, not_and]
        intro split absent within
        cases name with
        | nil => exact goes (List.cons.inj split).1
        | cons first name =>
          rw [byteSize_cons, ← (List.cons.inj split).1] at within
          omega
      next inside =>
        simp only [Option.map_eq_some_iff, Prod.exists, Prod.mk.injEq]
        constructor
        · rintro ⟨shorter, rest, found, rfl, rfl⟩
          obtain ⟨rfl, absent, within⟩ := ih.mp found
          refine ⟨rfl, by simp [absent, Ne.symm goes], ?_⟩
          rw [byteSize_cons]
          omega
        · rintro ⟨split, absent, within⟩
          cases name with
          | nil => exact absurd (List.cons.inj split).1 goes
          | cons first name =>
            obtain ⟨rfl, rfl⟩ := List.cons.inj split
            rw [byteSize_cons] at within
            have room : byteSize name ≤ reach - c.utf8Size := by omega
            have found := ih.mpr ⟨rfl, fun member => absent (List.mem_cons_of_mem c member), room⟩
            exact ⟨name, after, found, rfl, rfl⟩

/-- A reference is read if its name is one, however the text goes on behind its semicolon. -/
theorem readReference?_eq_some_iff {text after : List Char} {c : Char} :
    readReference? text = some (c, after) ↔
      ∃ name, text = name ++ ';' :: after ∧ ';' ∉ name ∧ byteSize ('&' :: name) ≤ referenceReach ∧
        reference? name = some c := by
  have reach (name : List Char) : byteSize ('&' :: name) ≤ referenceReach ↔ byteSize name ≤ referenceReach - 1 := by
    have ampersand : '&'.utf8Size = 1 := by decide
    rw [byteSize_cons, ampersand, referenceReach]
    omega
  simp only [readReference?, Option.bind_eq_some_iff, Option.map_eq_some_iff, Prod.exists, Prod.mk.injEq,
    splitAtSemicolon?_eq_some_iff, reach]
  constructor
  · rintro ⟨name, rest, ⟨split, absent, within⟩, other, found, rfl, rfl⟩
    exact ⟨name, split, absent, within, found⟩
  · rintro ⟨name, split, absent, within, found⟩
    exact ⟨name, after, ⟨split, absent, within⟩, c, found, rfl, rfl⟩

theorem length_step_lt {text : List Char} (more : text ≠ []) : (step text).2.length < text.length := by
  fun_cases step text with
  | case1 => exact absurd rfl more
  | case2 rest =>
    cases ended : afterTag? rest with
    | none => simp
    | some after =>
      obtain ⟨inside, -, rfl⟩ := afterTag?_eq_some_iff.mp ended
      simp only [Option.getD_some, List.length_cons, List.length_append]
      omega
  | case3 rest c after read =>
    obtain ⟨name, rfl, -⟩ := readReference?_eq_some_iff.mp read
    simp only [List.length_cons, List.length_append]
    omega
  | case4 rest | case5 c rest => exact Nat.lt_succ_self _

/-- Any two bounds that are long enough agree, for each step leaves less than it found. -/
private theorem readText_agree {first second : Nat} {text : List Char} (enough : text.length ≤ first)
    (enoughToo : text.length ≤ second) : readText first text = readText second text := by
  induction first generalizing second text with
  | zero =>
    have nothing : text = [] := List.length_eq_zero_iff.mp (Nat.le_zero.mp enough)
    cases second <;> simp [nothing, readText]
  | succ first ih =>
    cases text with
    | nil => cases second <;> simp [readText]
    | cons c rest =>
      cases second with
      | zero => cases enoughToo
      | succ second =>
        have shorter := length_step_lt (List.cons_ne_nil c rest)
        have left : (step (c :: rest)).2.length ≤ first := by omega
        have leftToo : (step (c :: rest)).2.length ≤ second := by omega
        simp only [readText]
        rw [ih left leftToo]

theorem readText_eq_textOf {bound : Nat} {text : List Char} (enough : text.length ≤ bound) :
    readText bound text = textOf text := readText_agree enough (Nat.le_refl _)

theorem textOf_nil : textOf [] = [] := rfl

theorem textOf_eq_step {text : List Char} (more : text ≠ []) : textOf text = (step text).1 ++ textOf (step text).2 := by
  have shorter := length_step_lt more
  cases text with
  | nil => exact absurd rfl more
  | cons c rest =>
    have enough : (step (c :: rest)).2.length ≤ rest.length := Nat.le_of_lt_succ shorter
    change (step (c :: rest)).1 ++ readText rest.length (step (c :: rest)).2 = _
    rw [readText_eq_textOf enough]

theorem textOf_tag {inside : List Char} (closed : '>' ∉ inside) (rest : List Char) :
    textOf ('<' :: (inside ++ '>' :: rest)) = textOf rest := by
  have ended : afterTag? (inside ++ '>' :: rest) = some rest := afterTag?_eq_some_iff.mpr ⟨inside, closed, rfl⟩
  rw [textOf_eq_step (List.cons_ne_nil _ _)]
  simp [step, ended]

theorem textOf_reference {name : List Char} {c : Char} (closed : ';' ∉ name)
    (within : byteSize ('&' :: name) ≤ referenceReach) (names : reference? name = some c) (rest : List Char) :
    textOf ('&' :: (name ++ ';' :: rest)) = c :: textOf rest := by
  have read : readReference? (name ++ ';' :: rest) = some (c, rest) :=
    readReference?_eq_some_iff.mpr ⟨name, rfl, closed, within, names⟩
  rw [textOf_eq_step (List.cons_ne_nil _ _)]
  simp [step, read]

theorem textOf_plain {c : Char} (plain : c ≠ '<' ∧ c ≠ '&') (rest : List Char) : textOf (c :: rest) = c :: textOf rest := by
  rw [textOf_eq_step (List.cons_ne_nil _ _)]
  simp [step, plain]

theorem textOf_literal {text : List Char} (plain : '<' ∉ text ∧ '&' ∉ text) (rest : List Char) :
    textOf (text ++ rest) = text ++ textOf rest := by
  obtain ⟨noTag, noReference⟩ := plain
  induction text with
  | nil => rfl
  | cons c text ih =>
    simp only [List.mem_cons, not_or] at noTag noReference
    rw [List.cons_append, textOf_plain ⟨Ne.symm noTag.1, Ne.symm noReference.1⟩, ih noTag.2 noReference.2,
      List.cons_append]

end StreamTable.Markup
