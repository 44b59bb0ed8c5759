import StreamTable.Key.Collator

/-! Every collator orders keys by a total preorder. The laws are carried from the
elements to their lists, from one level to the cascade of levels, and from normal
forms to keys. No level needs to know what another one compares. The total order
goes on where the preorder ties, so it tells all normal forms apart. -/

namespace StreamTable

namespace Element

instance : Std.TransCmp orderDigits :=
  inferInstanceAs (Std.TransCmp (compareLex (compareOn List.length) compare))

instance : Std.OrientedOrd Element where
  eq_swap {a b} := by
    cases a <;> cases b
    next a b =>
      change orderDigits a b = (orderDigits b a).swap
      exact Std.OrientedCmp.eq_swap
    next => rfl
    next => rfl
    next a b =>
      change compare a b = (compare b a).swap
      exact Std.OrientedCmp.eq_swap

instance : Std.TransOrd Element where
  isLE_trans {a b c} first second := by
    cases a with
    | number a =>
      cases c with
      | character c => rfl
      | number c =>
        cases b with
        | number b =>
          change (orderDigits a b).isLE at first
          change (orderDigits b c).isLE at second
          change (orderDigits a c).isLE
          exact Std.TransCmp.isLE_trans first second
        | character b => cases second
    | character a =>
      cases b with
      | number b => cases first
      | character b =>
        cases c with
        | number c => cases second
        | character c =>
          change (compare a b).isLE at first
          change (compare b c).isLE at second
          change (compare a c).isLE
          exact Std.TransCmp.isLE_trans first second

/-- Elements that compare equal are the same element, for a number is given by its
digits. -/
instance : Std.LawfulEqOrd Element where
  compare_self {a} := Std.ReflCmp.compare_self
  eq_of_compare {a b} same := by
    cases a <;> cases b
    next a b =>
      have digits : compare a b = .eq := (Ordering.then_eq_eq.mp same).2
      rw [Std.LawfulEqOrd.eq_of_compare digits]
    next => cases same
    next => cases same
    next a b =>
      change compare a b = .eq at same
      rw [Std.LawfulEqOrd.eq_of_compare same]

end Element

namespace Collator

variable (collator : Collator)

private theorem cascade_trans (levels : List Level) :
    Std.TransCmp fun a b : List Char => levels.foldr
      (fun level rest => (compare (collator.elements level a) (collator.elements level b)).then rest) .eq := by
  induction levels with
  | nil => exact { eq_swap := rfl, isLE_trans := fun _ _ => rfl }
  | cons level levels ih =>
    exact inferInstanceAs (Std.TransCmp (compareLex (compareOn (collator.elements level)) _))

instance : Std.TransCmp collator.collate := collator.cascade_trans collator.sensitivity.levels

theorem collate_eq_iff (a b : List Char) :
    collator.collate a b = .eq ↔
      ∀ level ∈ collator.sensitivity.levels, collator.elements level a = collator.elements level b := by
  unfold collate
  induction collator.sensitivity.levels with
  | nil => simp
  | cons level levels ih =>
    simp only [List.foldr_cons, Ordering.then_eq_eq, Std.LawfulEqOrd.compare_eq_iff_eq, ih, List.forall_mem_cons]

theorem collate_of_forall {a b : List Char} {answer : Ordering}
    (each : ∀ level ∈ collator.sensitivity.levels,
      compare (collator.elements level a) (collator.elements level b) = answer) :
    collator.collate a b = answer := by
  have twice : answer.then answer = answer := by cases answer <;> rfl
  have last : answer.then .eq = answer := by cases answer <;> rfl
  unfold collate
  cases sensitivity : collator.sensitivity <;> simp_all [Sensitivity.levels]

theorem order_eq_collate (a b : String) :
    collator.order a b = collator.collate (Key.normalizeText a.toList) (Key.normalizeText b.toList) := by
  simp only [order]
  split
  next same =>
    rw [same]
    exact Std.ReflCmp.compare_self.symm
  next => rfl

instance : Std.TransCmp collator.order where
  eq_swap {a b} := by
    simp only [order_eq_collate]
    exact Std.OrientedCmp.eq_swap
  isLE_trans {a b c} first second := by
    rw [order_eq_collate] at *
    exact Std.TransCmp.isLE_trans first second

private theorem same_answer_trans {α : Type} {cmp : α → α → Ordering} [Std.TransCmp cmp] {a b c : α}
    (same : cmp a b = cmp b c) : cmp a c = cmp a b := by
  cases answer : cmp a b with
  | lt => exact Std.TransCmp.lt_trans answer (same.symm.trans answer)
  | eq => exact Std.TransCmp.eq_trans answer (same.symm.trans answer)
  | gt => exact Std.TransCmp.gt_trans answer (same.symm.trans answer)

/-- The order of keys is a total preorder for every collator. It is also the collation
of their normal forms where these are the same, so the shortcut taken there cannot
disagree with it. -/
theorem order_total_preorder (a b c : String) :
    collator.order a a = .eq ∧
      collator.order a b = (collator.order b a).swap ∧
      (collator.order a b = collator.order b c → collator.order a c = collator.order a b) ∧
      (collator.order a b = .eq → collator.order a c = collator.order b c) ∧
      collator.order a b = collator.collate (Key.normalizeText a.toList) (Key.normalizeText b.toList) :=
  ⟨Std.ReflCmp.compare_self, Std.OrientedCmp.eq_swap, same_answer_trans, Std.TransCmp.congr_left,
    collator.order_eq_collate a b⟩

/-- Numbers go by their values at every level, however many zeros they begin with. -/
theorem order_total_preorder_numbers :
    let collator : Collator := ⟨.variant, false, true⟩
    collator.order "item 9" "item 10" = collator.order "item 10" "item 100" ∧
      collator.order "item 9" "item 100" = collator.order "item 9" "item 10" ∧
      collator.order "item 9" "item 09" = .eq ∧
      collator.order "item 9" "item 10" = collator.order "item 09" "item 10" := by
  intro collator
  have ascending : collator.order "item 9" "item 10" = collator.order "item 10" "item 100" := by decide +kernel
  have tied : collator.order "item 9" "item 09" = .eq := by decide +kernel
  obtain ⟨-, -, transitive, -⟩ := collator.order_total_preorder "item 9" "item 10" "item 100"
  obtain ⟨-, -, -, congruent, -⟩ := collator.order_total_preorder "item 9" "item 09" "item 10"
  exact ⟨ascending, transitive ascending, tied, congruent tied⟩

theorem orderTotal_eq_then (a b : String) :
    collator.orderTotal a b = (collator.order a b).then
      (compare (Key.normalizeText a.toList) (Key.normalizeText b.toList)) := by
  simp only [orderTotal, order]
  split
  next same =>
    rw [same]
    exact Std.ReflCmp.compare_self.symm
  next => rfl

theorem orderTotal_eq_of_order_ne {a b : String} (apart : collator.order a b ≠ .eq) :
    collator.orderTotal a b = collator.order a b := by
  rw [orderTotal_eq_then]
  cases answer : collator.order a b with
  | lt | gt => rfl
  | eq => exact False.elim (apart answer)

instance : Std.TransCmp collator.orderTotal := by
  have lexicographic : collator.orderTotal =
      compareLex collator.order (compareOn fun key : String => Key.normalizeText key.toList) := by
    funext a b
    exact collator.orderTotal_eq_then a b
  rw [lexicographic]
  infer_instance

/-- Keys of one normal form tie at every level. -/
theorem orderTotal_eq_iff (a b : String) : collator.orderTotal a b = .eq ↔ Key.normalize a = Key.normalize b := by
  rw [orderTotal_eq_then, Ordering.then_eq_eq, Std.LawfulEqOrd.compare_eq_iff_eq, Key.normalize, Key.normalize,
    String.ofList_inj]
  constructor
  · exact And.right
  · intro same
    refine ⟨?_, same⟩
    simp only [order_eq_collate, same]
    exact Std.ReflCmp.compare_self

/-- The total order is a strict total order of normal forms for every collator. It
refines the preorder, so it only decides among keys that tie. -/
theorem orderTotal_strict_total (a b c : String) :
    (collator.orderTotal a b = .eq ↔ Key.normalize a = Key.normalize b) ∧
      collator.orderTotal a b = (collator.orderTotal b a).swap ∧
      (collator.orderTotal a b = collator.orderTotal b c → collator.orderTotal a c = collator.orderTotal a b) ∧
      (collator.orderTotal a b = .eq → collator.orderTotal a c = collator.orderTotal b c) ∧
      (collator.order a b ≠ .eq → collator.orderTotal a b = collator.order a b) :=
  ⟨collator.orderTotal_eq_iff a b, Std.OrientedCmp.eq_swap, same_answer_trans, Std.TransCmp.congr_left,
    collator.orderTotal_eq_of_order_ne⟩

/-- Three keys that tie but for punctuation, letter case and zeros, and a greater one. -/
theorem orderTotal_strict_total_ties :
    let collator : Collator := ⟨.accent, true, true⟩
    collator.order "Node-07" "node 007" = .eq ∧ collator.order "node 007" "node7" = .eq ∧
      collator.orderTotal "Node-07" "node 007" = collator.orderTotal "node 007" "node7" ∧
      collator.orderTotal "Node-07" "node7" = collator.orderTotal "Node-07" "node 007" ∧
      collator.orderTotal " node  007" "node 007" = .eq ∧
      collator.orderTotal " node  007" "node7" = collator.orderTotal "node 007" "node7" ∧
      collator.order "node7" "Node-10" ≠ .eq ∧
      collator.orderTotal "node7" "Node-10" = collator.order "node7" "Node-10" := by
  intro collator
  have first : collator.order "Node-07" "node 007" = .eq := by decide +kernel
  have second : collator.order "node 007" "node7" = .eq := by decide +kernel
  have ascending : collator.orderTotal "Node-07" "node 007" = collator.orderTotal "node 007" "node7" := by
    decide +kernel
  have blanks : Key.normalize " node  007" = Key.normalize "node 007" := by decide +kernel
  have apart : collator.order "node7" "Node-10" ≠ .eq := by decide +kernel
  obtain ⟨-, -, transitive, -⟩ := collator.orderTotal_strict_total "Node-07" "node 007" "node7"
  obtain ⟨sameForm, -, -, congruent, -⟩ := collator.orderTotal_strict_total " node  007" "node 007" "node7"
  obtain ⟨-, -, -, -, refines⟩ := collator.orderTotal_strict_total "node7" "Node-10" ""
  have tied := sameForm.mpr blanks
  exact ⟨first, second, ascending, transitive ascending, tied, congruent tied, apart, refines apart⟩

end Collator

instance : Std.TransCmp Key.order := inferInstanceAs (Std.TransCmp ({} : Collator).order)

instance : Std.TransCmp Key.orderTotal := inferInstanceAs (Std.TransCmp ({} : Collator).orderTotal)

theorem Key.orderTotal_eq_then (a b : String) :
    orderTotal a b = (order a b).then (compare (normalizeText a.toList) (normalizeText b.toList)) :=
  Collator.orderTotal_eq_then {} a b

theorem Key.orderTotal_eq_iff (a b : String) : orderTotal a b = .eq ↔ normalize a = normalize b :=
  Collator.orderTotal_eq_iff {} a b

end StreamTable
