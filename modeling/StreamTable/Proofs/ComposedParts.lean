import StreamTable.Proofs.Recomposition

/-! Composition part by part. A starter that is never the second of two characters that
compose cuts a text: what stands before it is composed by itself. One that is never the
first either is left alone, and so are the marks on it. As composition loses nothing, the
sizes of two parts say where a composed text was cut. -/

namespace StreamTable.Unicode

theorem compose_starter {c : Char} (starts : combiningClass c = 0) (rest : List Char) :
    compose (c :: rest) = composeAfter c [] rest := by
  rw [compose, if_pos starts]

/-- A starter that never joins the character before it. -/
structure Opens (c : Char) : Prop where
  starts : combiningClass c = 0
  unjoined : ∀ first, compose? first c = none

theorem Opens.missed {c : Char} (opens : Opens c) (starter : Char) (held : List Char) : joined? starter held c = none := by
  cases held <;> simp [joined?, opens.unjoined]

private theorem composeAfter_append {c : Char} (opens : Opens c) (starter : Char) (held front rest : List Char) :
    composeAfter starter held (front ++ c :: rest) = composeAfter starter held front ++ compose (c :: rest) := by
  induction front generalizing starter held with
  | nil =>
    rw [List.nil_append, composeAfter_start rest (opens.missed starter held) opens.starts, compose_starter opens.starts]
    rfl
  | cons next front ih =>
    rw [List.cons_append]
    cases found : joined? starter held next with
    | some whole => rw [composeAfter_join _ found, composeAfter_join _ found, ih]
    | none =>
      by_cases starts : combiningClass next = 0
      · rw [composeAfter_start _ found starts, composeAfter_start _ found starts, ih, List.append_assoc]
      · rw [composeAfter_hold _ found starts, composeAfter_hold _ found starts, ih]

/-- What stands before such a starter is composed by itself. -/
theorem compose_append {c : Char} (opens : Opens c) (front rest : List Char) :
    compose (front ++ c :: rest) = compose front ++ compose (c :: rest) := by
  induction front with
  | nil => rfl
  | cons first front ih =>
    rw [List.cons_append, compose, compose]
    split
    · exact composeAfter_append opens first [] front rest
    · rw [ih, List.cons_append]

private theorem composeAfter_alone {c : Char} (alone : ∀ second, compose? c second = none) (held rest : List Char) :
    composeAfter c held rest = c :: held.reverse ++ compose rest := by
  induction rest generalizing held with
  | nil => simp [composeAfter, compose]
  | cons next rest ih =>
    have missed : joined? c held next = none := by cases held <;> simp [joined?, alone]
    by_cases starts : combiningClass next = 0
    · rw [composeAfter_start _ missed starts, compose_starter starts]
    · rw [composeAfter_hold _ missed starts, ih, compose, if_neg starts]
      simp

theorem compose_cons_alone {c : Char} (starts : combiningClass c = 0) (alone : ∀ second, compose? c second = none)
    (rest : List Char) : compose (c :: rest) = c :: compose rest := by
  rw [compose_starter starts, composeAfter_alone alone]
  rfl

theorem composeAfter_ne_nil (starter : Char) (held rest : List Char) : composeAfter starter held rest ≠ [] := by
  fun_induction composeAfter starter held rest <;> simp_all

theorem compose_eq_nil_iff (text : List Char) : compose text = [] ↔ text = [] := by
  cases text with
  | nil => simp [compose]
  | cons first rest =>
    simp only [compose, reduceCtorEq, iff_false]
    split
    · exact composeAfter_ne_nil _ _ _
    · exact List.cons_ne_nil _ _

section Map

variable {change : Char → Char} (kept : ∀ c, combiningClass (change c) = combiningClass c)
  (joins : ∀ first second, compose? (change first) (change second) = (compose? first second).map change)
include kept joins

private theorem composeAfter_map (starter : Char) (held text : List Char) :
    composeAfter (change starter) (held.map change) (text.map change) = (composeAfter starter held text).map change := by
  induction text generalizing starter held with
  | nil => simp [composeAfter]
  | cons c rest ih =>
    have same : joined? (change starter) (held.map change) (change c) = (joined? starter held c).map change := by
      cases held with
      | nil => exact joins starter c
      | cons last held =>
        simp only [List.map_cons, joined?, kept, joins]
        split <;> rfl
    rw [List.map_cons]
    cases found : joined? starter held c with
    | some whole =>
      rw [found] at same
      rw [composeAfter_join _ found, composeAfter_join _ same, ih]
    | none =>
      rw [found] at same
      by_cases starts : combiningClass c = 0
      · have later := ih c []
        rw [List.map_nil] at later
        rw [composeAfter_start _ found starts, composeAfter_start _ same ((kept c).trans starts), later]
        simp
      · have later := ih starter (c :: held)
        rw [List.map_cons] at later
        rw [composeAfter_hold _ found starts, composeAfter_hold _ same (by rwa [kept]), later]

/-- A change of characters that classes and compositions go along with may be made before or
after a text is composed. -/
theorem compose_map (text : List Char) : compose (text.map change) = (compose text).map change := by
  induction text with
  | nil => rfl
  | cons c rest ih =>
    simp only [List.map_cons, compose, kept]
    split
    · exact composeAfter_map kept joins c [] rest
    · rw [ih, List.map_cons]

end Map

def size (text : List Char) : Nat := (text.flatMap decompose).length

theorem size_append (first second : List Char) : size (first ++ second) = size first + size second := by
  simp [size]

theorem size_cons (c : Char) (text : List Char) : size (c :: text) = (decompose c).length + size text := by
  simp [size]

theorem size_of_fixed {text : List Char} (fixed : ∀ c ∈ text, decompose c = [c]) : size text = text.length := by
  rw [size, flatMap_eq_self fixed]

private theorem size_composeAfter (starter : Char) (held text : List Char) :
    size (composeAfter starter held text) = size (starter :: held) + size text := by
  have size_reverse : ∀ text : List Char, size text.reverse = size text := by
    intro text
    simp [size, List.length_flatMap, List.sum_reverse]
  induction text generalizing starter held with
  | nil =>
    rw [composeAfter, size_cons, size_reverse, size_cons]
    rfl
  | cons c rest ih =>
    cases found : joined? starter held c with
    | some whole =>
      have parts := congrArg List.length (decompose_of_compose? (joined?_eq_some_iff.mp found).1)
      rw [List.length_append] at parts
      rw [composeAfter_join _ found, ih, size_cons, size_cons, size_cons, parts]
      omega
    | none =>
      by_cases starts : combiningClass c = 0
      · rw [composeAfter_start _ found starts, size_append, ih, size_cons, size_cons, size_cons, size_cons, size_reverse]
        simp [size]
      · rw [composeAfter_hold _ found starts, ih, size_cons, size_cons, size_cons, size_cons]
        omega

theorem size_compose (text : List Char) : size (compose text) = size text := by
  induction text with
  | nil => rfl
  | cons c rest ih =>
    simp only [compose]
    split
    · rw [size_composeAfter, size_cons, size_cons]
      rfl
    · rw [size_cons, size_cons, ih]

/-- Where a text is cut in two is known from the sizes of the parts. -/
theorem append_inj_of_size {first second before after : List Char} (same : first ++ second = before ++ after)
    (sizes : size first = size before) : first = before ∧ second = after := by
  have empty_of_size : ∀ text : List Char, size text = 0 → text = [] := by
    intro text none
    cases text with
    | nil => rfl
    | cons c rest =>
      have some := List.length_pos_iff.mpr (decompose_ne_nil c)
      rw [size_cons] at none
      omega
  rcases List.append_eq_append_iff.mp same with ⟨more, rfl, rfl⟩ | ⟨more, rfl, rfl⟩
  · rw [size_append] at sizes
    have none := empty_of_size more (by omega)
    simp [none]
  · rw [size_append] at sizes
    have none := empty_of_size more (by omega)
    simp [none]

end StreamTable.Unicode
