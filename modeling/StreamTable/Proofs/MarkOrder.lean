import StreamTable.Unicode.Decomposition
import Mathlib.Data.List.Chain

/-! The order of marks. Marks of different classes may pass each other and come out the
same, marks of one class and starters stay where they are. So a text that is in order is
left alone, a mark may be taken from behind lower ones before the text is ordered, and a
starter divides a text into parts that are ordered each by itself. -/

namespace StreamTable.Unicode

/-- A character may follow another in an ordered text: it is a starter, or no mark of a
lower class. -/
def InOrder (first second : Char) : Prop := combiningClass second = 0 ∨ combiningClass first ≤ combiningClass second

theorem insertByClass_comm {a b : Char} (lower : combiningClass a < combiningClass b) (mark : combiningClass a ≠ 0)
    (text : List Char) : insertByClass a (insertByClass b text) = insertByClass b (insertByClass a text) := by
  induction text with
  | nil =>
    have stays : ¬ combiningClass b < combiningClass a := by omega
    simp [insertByClass, lower, mark, stays]
  | cons next rest ih =>
    have stays : ¬ combiningClass b < combiningClass a := by omega
    by_cases starts : combiningClass next = 0
    · simp [insertByClass, starts, lower, mark, stays]
    · by_cases first : combiningClass next < combiningClass a
      · have second : combiningClass next < combiningClass b := by omega
        simp [insertByClass, starts, first, second, ih]
      · by_cases second : combiningClass next < combiningClass b <;>
          simp [insertByClass, starts, first, second, lower, mark, stays]

theorem orderMarks_append (front rest : List Char) :
    orderMarks (front ++ rest) = front.foldr insertByClass (orderMarks rest) := List.foldr_append

theorem orderMarks_cons (c : Char) (rest : List Char) : orderMarks (c :: rest) = insertByClass c (orderMarks rest) := rfl

/-- A mark may stand before marks of lower classes or behind them. -/
theorem orderMarks_passing {c : Char} {marks : List Char}
    (passes : ∀ mark ∈ marks, combiningClass mark ≠ 0 ∧ combiningClass mark < combiningClass c) (rest : List Char) :
    orderMarks (c :: (marks ++ rest)) = orderMarks (marks ++ c :: rest) := by
  induction marks with
  | nil => rfl
  | cons mark marks ih =>
    obtain ⟨moves, lower⟩ := passes mark List.mem_cons_self
    have others := ih fun other member => passes other (List.mem_cons_of_mem mark member)
    simp only [List.cons_append, orderMarks_cons] at others ⊢
    rw [← insertByClass_comm lower moves, others]

private theorem insertByClass_of_inOrder {c : Char} {text : List Char} (follows : ∀ next ∈ text.head?, InOrder c next) :
    insertByClass c text = c :: text := by
  cases text with
  | nil => rfl
  | cons next rest =>
    have stays : ¬ (combiningClass next < combiningClass c ∧ combiningClass next ≠ 0) := by
      rintro ⟨lower, mark⟩
      cases follows next rfl with
      | inl starts => exact mark starts
      | inr below => omega
    simp only [insertByClass, Bool.and_eq_true, decide_eq_true_eq, bne_iff_ne, stays, ite_false]

theorem orderMarks_eq_self {text : List Char} (ordered : text.IsChain InOrder) : orderMarks text = text := by
  induction text with
  | nil => rfl
  | cons c rest ih =>
    obtain ⟨follows, later⟩ := List.isChain_cons.mp ordered
    rw [orderMarks_cons, ih later, insertByClass_of_inOrder follows]

private theorem head?_insertByClass (c : Char) (text : List Char) :
    (insertByClass c text).head? = some c ∨ (insertByClass c text).head? = text.head? := by
  cases text with
  | nil => exact Or.inl rfl
  | cons next rest =>
    simp only [insertByClass]
    split
    · exact Or.inr rfl
    · exact Or.inl rfl

private theorem isChain_insertByClass (c : Char) {text : List Char} (ordered : text.IsChain InOrder) :
    (insertByClass c text).IsChain InOrder := by
  induction text with
  | nil => exact List.isChain_singleton c
  | cons next rest ih =>
    obtain ⟨follows, later⟩ := List.isChain_cons.mp ordered
    simp only [insertByClass, Bool.and_eq_true, decide_eq_true_eq, bne_iff_ne]
    split
    next passes =>
      refine List.isChain_cons.mpr ⟨fun other heads => ?_, ih later⟩
      rcases head?_insertByClass c rest with itself | same
      · cases itself.symm.trans heads
        exact Or.inr (Nat.le_of_lt passes.1)
      · exact follows other (same ▸ heads)
    next stays =>
      have inOrder : InOrder c next := by
        unfold InOrder
        omega
      exact List.isChain_cons_cons.mpr ⟨inOrder, ordered⟩

theorem isChain_orderMarks (text : List Char) : (orderMarks text).IsChain InOrder := by
  induction text with
  | nil => exact List.isChain_nil
  | cons c rest ih => exact isChain_insertByClass c ih

private theorem insertByClass_perm (c : Char) (text : List Char) : (insertByClass c text).Perm (c :: text) := by
  induction text with
  | nil => exact .refl _
  | cons next rest ih =>
    simp only [insertByClass]
    split
    · exact (ih.cons next).trans (.swap c next rest)
    · exact .refl _

theorem orderMarks_perm (text : List Char) : (orderMarks text).Perm text := by
  induction text with
  | nil => exact .refl _
  | cons c rest ih => exact (insertByClass_perm c (orderMarks rest)).trans (ih.cons c)

private theorem insertByClass_append_starter {starter : Char} (starts : combiningClass starter = 0) (c : Char)
    (front rest : List Char) :
    insertByClass c (front ++ starter :: rest) = insertByClass c front ++ starter :: rest := by
  induction front with
  | nil => simp [insertByClass, starts]
  | cons next front ih =>
    simp only [List.cons_append, insertByClass]
    split
    · rw [ih, List.cons_append]
    · rfl

/-- No mark passes a starter. -/
theorem orderMarks_append_starter {starter : Char} (starts : combiningClass starter = 0) (front rest : List Char) :
    orderMarks (front ++ starter :: rest) = orderMarks front ++ starter :: orderMarks rest := by
  induction front with
  | nil =>
    have behind : insertByClass starter (orderMarks rest) = starter :: orderMarks rest := by
      refine insertByClass_of_inOrder fun next _ => ?_
      unfold InOrder
      omega
    exact behind
  | cons c front ih => rw [List.cons_append, orderMarks_cons, ih, insertByClass_append_starter starts, orderMarks_cons]

section Related

variable {related : Char → Char → Prop} (alike : ∀ a b, related a b → combiningClass a = combiningClass b)
include alike

private theorem forall₂_insertByClass {a b : Char} {first second : List Char} (head : related a b)
    (texts : List.Forall₂ related first second) :
    List.Forall₂ related (insertByClass a first) (insertByClass b second) := by
  induction texts with
  | nil => exact .cons head .nil
  | cons next rest ih =>
    simp only [insertByClass, alike _ _ head, alike _ _ next]
    split
    · exact .cons next ih
    · exact .cons head (.cons next rest)

theorem forall₂_orderMarks {first second : List Char} (texts : List.Forall₂ related first second) :
    List.Forall₂ related (orderMarks first) (orderMarks second) := by
  induction texts with
  | nil => exact .nil
  | cons head _ ih => exact forall₂_insertByClass alike head ih

end Related

theorem orderMarks_map {change : Char → Char} (kept : ∀ c, combiningClass (change c) = combiningClass c)
    (text : List Char) : orderMarks (text.map change) = (orderMarks text).map change := by
  have texts : List.Forall₂ (fun a b => change a = b) text (text.map change) :=
    List.forall₂_map_right_iff.mpr (List.forall₂_same.mpr fun _ _ => rfl)
  have alike : ∀ a b, change a = b → combiningClass a = combiningClass b := by
    rintro a b rfl
    exact (kept a).symm
  have ordered : List.Forall₂ (· = ·) ((orderMarks text).map change) (orderMarks (text.map change)) :=
    List.forall₂_map_left_iff.mpr (forall₂_orderMarks alike texts)
  rw [List.forall₂_eq_eq_eq] at ordered
  exact ordered.symm

end StreamTable.Unicode
