import StreamTable.Unicode.Composition
import StreamTable.Proofs.DecompositionTables
import StreamTable.Proofs.MarkOrder
import Mathlib.Data.List.Basic

/-! Composition loses nothing. A character that was composed decomposes to what its two parts
do. So the decomposition of a composed text is the one that it was composed of: the marks
that were joined to a starter are put back behind those that they had passed. -/

namespace StreamTable.Unicode

private theorem Hangul.decompose_numbered {lead vowel trail : Nat} (vowelBelow : vowel < vowelCount)
    (trailBelow : trail < trailCount) :
    decompose (syllableBase + ((lead * vowelCount + vowel) * trailCount + trail)) =
      (leadBase + lead) :: (vowelBase + vowel) :: if trail = 0 then [] else [trailBase + trail] := by
  simp only [vowelCount, trailCount] at vowelBelow trailBelow
  have leads : ((lead * 21 + vowel) * 28 + trail) / (21 * 28) = lead := by omega
  have vowels : ((lead * 21 + vowel) * 28 + trail) / 28 % 21 = vowel := by omega
  have trails : ((lead * 21 + vowel) * 28 + trail) % 28 = trail := by omega
  simp only [decompose, vowelCount, trailCount, Nat.add_sub_cancel_left, leads, vowels, trails]
  by_cases lone : trail = 0 <;> simp only [lone, ite_true, ite_false]

private theorem Hangul.isSyllable_numbered {lead vowel trail : Nat} (leadBelow : lead < leadCount)
    (vowelBelow : vowel < vowelCount) (trailBelow : trail < trailCount) :
    isSyllable (syllableBase + ((lead * vowelCount + vowel) * trailCount + trail)) := by
  simp only [isSyllable, Bool.and_eq_true, decide_eq_true_eq]
  simp only [leadCount, vowelCount, trailCount, syllableCount] at *
  omega

private theorem Hangul.exists_numbered {syllable : Nat} (held : isSyllable syllable)
    (lone : (syllable - syllableBase) % trailCount = 0) :
    ∃ lead < leadCount, ∃ vowel < vowelCount,
      syllable = syllableBase + ((lead * vowelCount + vowel) * trailCount + 0) := by
  simp only [isSyllable, Bool.and_eq_true, decide_eq_true_eq] at held
  obtain ⟨number, rfl⟩ := Nat.exists_eq_add_of_le held.1
  simp only [syllableCount, leadCount, vowelCount, trailCount, Nat.add_sub_cancel_left] at *
  exact ⟨number / 588, by omega, number / 28 % 21, by omega, by omega⟩

/-- A syllable that was composed of a leading consonant or of a syllable without a
trailing consonant decomposes to what the first part does and the second part. -/
private theorem Hangul.decompose_of_compose? {first second whole : Nat} (made : compose? first second = some whole) :
    isSyllable whole ∧ isFixed second ∧
      ((isFixed first ∧ decompose whole = [first, second]) ∨
        isSyllable first ∧ decompose whole = decompose first ++ [second]) := by
  unfold compose? at made
  split at made
  next inside =>
    simp only [Bool.and_eq_true, decide_eq_true_eq] at inside
    obtain ⟨⟨⟨leadAbove, leadBelow⟩, vowelAbove⟩, vowelBelow⟩ := inside
    have firstFixed : isFixed first := isFixed_jamo leadAbove (Nat.lt_trans leadBelow (by decide))
    have secondFixed : isFixed second :=
      isFixed_jamo (Nat.le_trans (by decide) vowelAbove) (Nat.lt_trans vowelBelow (by decide))
    obtain ⟨lead, rfl⟩ := Nat.exists_eq_add_of_le leadAbove
    obtain ⟨vowel, rfl⟩ := Nat.exists_eq_add_of_le vowelAbove
    have vowelInside := Nat.lt_of_add_lt_add_left vowelBelow
    rw [Nat.add_sub_cancel_left, Nat.add_sub_cancel_left, ← Nat.add_zero (_ * trailCount)] at made
    rw [← Option.some.inj made]
    exact ⟨isSyllable_numbered (Nat.lt_of_add_lt_add_left leadBelow) vowelInside (by decide), secondFixed,
      Or.inl ⟨firstFixed, decompose_numbered vowelInside (by decide)⟩⟩
  next =>
    split at made
    next inside =>
      simp only [Bool.and_eq_true, decide_eq_true_eq, beq_iff_eq] at inside
      obtain ⟨⟨⟨held, lone⟩, trailAbove⟩, trailBelow⟩ := inside
      have secondFixed : isFixed second := isFixed_jamo (Nat.le_trans (by decide) (Nat.le_of_lt trailAbove)) trailBelow
      obtain ⟨trail, rfl⟩ := Nat.exists_eq_add_of_le (Nat.le_of_lt trailAbove)
      obtain ⟨lead, leadBelow, vowel, vowelBelow, rfl⟩ := exists_numbered held lone
      have trailInside := Nat.lt_of_add_lt_add_left trailBelow
      have trails : trail ≠ 0 := by
        rintro rfl
        exact Nat.lt_irrefl _ trailAbove
      rw [Nat.add_sub_cancel_left, Nat.add_zero, Nat.add_assoc] at made
      rw [← Option.some.inj made]
      refine ⟨isSyllable_numbered leadBelow vowelBelow trailInside, secondFixed, Or.inr ⟨held, ?_⟩⟩
      rw [decompose_numbered vowelBelow trailInside, decompose_numbered vowelBelow (by decide), if_neg trails]
      rfl
    next => cases made

private theorem decompose_syllable {c : Char} (held : Hangul.isSyllable c.toNat) :
    decompose c = (Hangul.decompose c.toNat).map Char.ofNat := if_pos held

/-- Whether a check holds of all compositions of the table: the two parts and the whole. -/
def allCompositions (check : Char → Char → Char → Bool) : Bool :=
  compositions.entries.all fun (first, last, results) =>
    (List.range' first (last + 1 - first)).all fun point =>
      results.all fun result => check (Char.ofNat point) (Char.ofNat result.1) (Char.ofNat result.2)

/-- A character is composed as a syllable, or as the table says and so as it was checked for. -/
theorem compose?_cases {first second whole : Char} (made : compose? first second = some whole) :
    Hangul.compose? first.toNat second.toNat = some whole.toNat ∨
      ∀ check, allCompositions check → check first second whole := by
  unfold compose? at made
  cases syllable : Hangul.compose? first.toNat second.toNat with
  | some point =>
    simp only [syllable, Option.some.injEq] at made
    rw [← made, Hangul.toNat_ofNat (Hangul.isHangul_of_compose? syllable).2.2]
    exact Or.inl rfl
  | none =>
    cases found : compositions.find? first.toNat with
    | none => simp [syllable, found] at made
    | some entry =>
      simp only [syllable, found, Option.map_eq_some_iff] at made
      obtain ⟨point, looked, rfl⟩ := made
      obtain ⟨last, held, above, below⟩ := RangeMap.mem_entries_of_find? found
      obtain ⟨before, after, split, -⟩ := List.lookup_eq_some_iff.mp looked
      have member : (second.toNat, point) ∈ entry.2 := split ▸ by simp
      have inside : first.toNat ∈ List.range' entry.1 (last + 1 - entry.1) := List.mem_range'_1.mpr (by omega)
      refine Or.inr fun check passed => ?_
      have entries := List.all_eq_true.mp passed _ held
      have results := List.all_eq_true.mp (List.all_eq_true.mp entries _ inside) _ member
      rwa [Char.ofNat_toNat, Char.ofNat_toNat] at results

/-- A composed character decomposes to what its two parts do. -/
theorem decompose_of_compose? {first second whole : Char} (made : compose? first second = some whole) :
    decompose whole = decompose first ++ decompose second := by
  rcases compose?_cases made with syllable | listed
  · obtain ⟨held, secondFixed, ⟨firstFixed, parts⟩ | ⟨firstHeld, parts⟩⟩ := Hangul.decompose_of_compose? syllable
    all_goals rw [decompose_syllable held, parts, decompose_of_isFixed secondFixed]
    · simp [decompose_of_isFixed firstFixed]
    · simp [decompose_syllable firstHeld]
  · have passed := listed (fun first second whole => decompose whole == decompose first ++ decompose second) (by decide +kernel)
    exact beq_iff_eq.mp passed

theorem length_decompose_of_compose? {first second whole : Char} (made : compose? first second = some whole) :
    2 ≤ (decompose whole).length := by
  have firstSome := List.length_pos_iff.mpr (decompose_ne_nil first)
  have secondSome := List.length_pos_iff.mpr (decompose_ne_nil second)
  rw [decompose_of_compose? made, List.length_append]
  omega

structure Decomposed (text : List Char) : Prop where
  ordered : text.IsChain InOrder
  fixed : ∀ c ∈ text, decompose c = [c]

theorem flatMap_eq_self {image : Char → List Char} {text : List Char} (fixed : ∀ c ∈ text, image c = [c]) :
    text.flatMap image = text := (List.flatMap_congr fixed).trans (List.flatMap_singleton' text)

theorem exists_of_mem_nfkd {text : List Char} {part : Char} (member : part ∈ nfkd text) :
    ∃ c ∈ text, part ∈ decompose c := by
  have moved : part ∈ text.flatMap decompose := (orderMarks_perm _).mem_iff.mp member
  exact List.mem_flatMap.mp moved

theorem mem_nfkd {text : List Char} {c part : Char} (held : c ∈ text) (inside : part ∈ decompose c) : part ∈ nfkd text :=
  (orderMarks_perm _).mem_iff.mpr (List.mem_flatMap.mpr ⟨c, held, inside⟩)

theorem decomposed_nfkd (text : List Char) : Decomposed (nfkd text) where
  ordered := isChain_orderMarks _
  fixed part member := by
    obtain ⟨c, -, inside⟩ := exists_of_mem_nfkd member
    exact decompose_part inside

/-- Marks held back after a starter, the last one first, and the text behind them. No mark
is of a higher class than the last one. -/
structure HeldBack (held text : List Char) : Prop where
  marks : ∀ mark ∈ held, combiningClass mark ≠ 0
  highest : ∀ last ∈ held.head?, ∀ mark ∈ held, combiningClass mark ≤ combiningClass last
  follows : ∀ last ∈ held.head?, ∀ next ∈ text.head?, InOrder last next
  ordered : text.IsChain InOrder

namespace HeldBack

variable {held text : List Char} {c : Char}

theorem nothing (ordered : text.IsChain InOrder) : HeldBack [] text where
  marks := by simp
  highest := by simp
  follows := by simp
  ordered := ordered

theorem hold (heldBack : HeldBack held (c :: text)) (mark : combiningClass c ≠ 0) : HeldBack (c :: held) text where
  marks other member := by
    cases List.mem_cons.mp member with
    | inl same => exact same ▸ mark
    | inr inside => exact heldBack.marks other inside
  highest last heads other member := by
    cases heads
    cases List.mem_cons.mp member with
    | inl same => rw [same]
    | inr inside =>
      cases held with
      | nil => cases inside
      | cons before held =>
        have higher := heldBack.follows before rfl c rfl
        have below := heldBack.highest before rfl other inside
        unfold InOrder at higher
        omega
  follows last heads next follows := by
    cases heads
    exact (List.isChain_cons.mp heldBack.ordered).1 next follows
  ordered := (List.isChain_cons.mp heldBack.ordered).2

theorem join (heldBack : HeldBack held (c :: text))
    (higher : ∀ last ∈ held.head?, combiningClass last < combiningClass c) : HeldBack held text where
  marks := heldBack.marks
  highest := heldBack.highest
  follows last heads next follows := by
    have above := higher last heads
    have inOrder := (List.isChain_cons.mp heldBack.ordered).1 next follows
    unfold InOrder at inOrder ⊢
    omega
  ordered := (List.isChain_cons.mp heldBack.ordered).2

theorem passes (heldBack : HeldBack held (c :: text))
    (higher : ∀ last ∈ held.head?, combiningClass last < combiningClass c) :
    ∀ mark ∈ held.reverse, combiningClass mark ≠ 0 ∧ combiningClass mark < combiningClass c := by
  intro mark member
  have inside := List.mem_reverse.mp member
  cases held with
  | nil => cases inside
  | cons last held =>
    have below := heldBack.highest last rfl mark inside
    have above := higher last rfl
    exact ⟨heldBack.marks mark inside, by omega⟩

end HeldBack

/-- What a character becomes with the starter before it, if no mark held back is in between. -/
def joined? (starter : Char) : List Char → Char → Option Char
  | [], c => compose? starter c
  | last :: _, c => if combiningClass last < combiningClass c then compose? starter c else none

/-- A character is joined to the starter if they compose and it is of a higher class than all
marks held back. -/
theorem joined?_eq_some_iff {starter c whole : Char} {held : List Char} :
    joined? starter held c = some whole ↔
      compose? starter c = some whole ∧ ∀ last ∈ held.head?, combiningClass last < combiningClass c := by
  cases held with
  | nil => simp [joined?]
  | cons last held =>
    rw [joined?]
    split
    next higher => simp [higher]
    next stays => simp [stays]

section Steps

variable {starter c whole : Char} {held : List Char} (rest : List Char)

theorem composeAfter_join (found : joined? starter held c = some whole) :
    composeAfter starter held (c :: rest) = composeAfter whole held rest := by
  cases held <;> simp_all [composeAfter, joined?]

theorem composeAfter_start (missed : joined? starter held c = none) (starts : combiningClass c = 0) :
    composeAfter starter held (c :: rest) = starter :: held.reverse ++ composeAfter c [] rest := by
  cases held <;> simp_all [composeAfter, joined?]

theorem composeAfter_hold (missed : joined? starter held c = none) (mark : combiningClass c ≠ 0) :
    composeAfter starter held (c :: rest) = composeAfter starter (c :: held) rest := by
  cases held <;> simp_all [composeAfter, joined?]

end Steps

/-- Composing after a starter does not change what the text decomposes to. -/
private theorem orderMarks_composeAfter {starter : Char} {held text : List Char} (heldBack : HeldBack held text)
    (fixed : ∀ c ∈ held.reverse ++ text, decompose c = [c]) :
    orderMarks ((composeAfter starter held text).flatMap decompose) =
      orderMarks (decompose starter ++ (held.reverse ++ text)) := by
  induction text generalizing starter held with
  | nil =>
    rw [List.append_nil] at fixed ⊢
    rw [composeAfter, List.flatMap_cons, flatMap_eq_self fixed]
  | cons c text ih =>
    obtain ⟨marks, behind⟩ := List.forall_mem_append.mp fixed
    obtain ⟨own, rest⟩ := List.forall_mem_cons.mp behind
    cases found : joined? starter held c with
    | some whole =>
      obtain ⟨made, higher⟩ := joined?_eq_some_iff.mp found
      have others := List.forall_mem_append.mpr ⟨marks, rest⟩
      rw [composeAfter_join _ found, ih (heldBack.join higher) others, decompose_of_compose? made, own, List.append_assoc,
        orderMarks_append, orderMarks_append (decompose starter), List.singleton_append,
        orderMarks_passing (heldBack.passes higher)]
    | none =>
      by_cases starts : combiningClass c = 0
      · have later := @ih c [] (.nothing (List.isChain_cons.mp heldBack.ordered).2) rest
        rw [own] at later
        rw [composeAfter_start _ found starts, List.flatMap_append, List.flatMap_cons, flatMap_eq_self marks,
          List.append_assoc, orderMarks_append, orderMarks_append, later, ← orderMarks_append, ← orderMarks_append]
        rfl
      · have same : (c :: held).reverse ++ text = held.reverse ++ c :: text := by simp
        rw [composeAfter_hold _ found starts, ih (heldBack.hold starts) (same ▸ fixed), same]

private theorem orderMarks_compose {text : List Char} (decomposed : Decomposed text) :
    orderMarks ((compose text).flatMap decompose) = orderMarks text := by
  induction text with
  | nil => rfl
  | cons c rest ih =>
    have later : Decomposed rest :=
      ⟨(List.isChain_cons.mp decomposed.ordered).2, fun part member => decomposed.fixed part (List.mem_cons_of_mem c member)⟩
    have own : decompose c = [c] := decomposed.fixed c List.mem_cons_self
    simp only [compose]
    split
    · rw [orderMarks_composeAfter (.nothing later.ordered) later.fixed, own]
      rfl
    · rw [List.flatMap_cons, own, List.singleton_append, orderMarks_cons, ih later, orderMarks_cons]

/-- A text decomposes to the same before and after it is composed. -/
theorem nfkd_nfkc (text : List Char) : nfkd (nfkc text) = nfkd text := by
  have decomposed := decomposed_nfkd text
  calc nfkd (nfkc text)
      = orderMarks ((compose (nfkd text)).flatMap decompose) := rfl
    _ = orderMarks (nfkd text) := orderMarks_compose decomposed
    _ = nfkd text := orderMarks_eq_self decomposed.ordered

/-- Texts compose to the same exactly if they decompose to the same, so no two normal forms
have one decomposition. -/
theorem nfkc_eq_iff (first second : List Char) : nfkc first = nfkc second ↔ nfkd first = nfkd second := by
  constructor
  · intro same
    rw [← nfkd_nfkc first, same, nfkd_nfkc]
  · intro same
    rw [nfkc, same, nfkc]

section Characters

variable {property : Char → Prop}
  (composed : ∀ first second whole, compose? first second = some whole → property first → property second → property whole)
include composed

private theorem composeAfter_forall {starter : Char} {held text : List Char} (first : property starter)
    (marks : ∀ c ∈ held, property c) (rest : ∀ c ∈ text, property c) :
    ∀ c ∈ composeAfter starter held text, property c := by
  induction text generalizing starter held with
  | nil => exact List.forall_mem_cons.mpr ⟨first, fun c member => marks c (List.mem_reverse.mp member)⟩
  | cons next text ih =>
    obtain ⟨own, others⟩ := List.forall_mem_cons.mp rest
    cases found : joined? starter held next with
    | some whole =>
      rw [composeAfter_join _ found]
      exact ih (composed _ _ _ (joined?_eq_some_iff.mp found).1 first own) marks others
    | none =>
      by_cases starts : combiningClass next = 0
      · rw [composeAfter_start _ found starts]
        refine List.forall_mem_append.mpr ⟨?_, ih own (by simp) others⟩
        exact List.forall_mem_cons.mpr ⟨first, fun c member => marks c (List.mem_reverse.mp member)⟩
      · rw [composeAfter_hold _ found starts]
        exact ih first (List.forall_mem_cons.mpr ⟨own, marks⟩) others

theorem compose_forall {text : List Char} (all : ∀ c ∈ text, property c) : ∀ c ∈ compose text, property c := by
  induction text with
  | nil => simp [compose]
  | cons first rest ih =>
    have later : ∀ c ∈ rest, property c := fun c member => all c (List.mem_cons_of_mem first member)
    simp only [compose]
    split
    · exact composeAfter_forall composed (all first List.mem_cons_self) (by simp) later
    · intro c member
      cases List.mem_cons.mp member with
      | inl same => exact same ▸ all first List.mem_cons_self
      | inr inside => exact ih later c inside

theorem nfkc_forall {text : List Char} (decomposed : ∀ c ∈ text, ∀ part ∈ decompose c, property part) :
    ∀ c ∈ nfkc text, property c := by
  apply compose_forall composed
  intro part member
  obtain ⟨c, held, inside⟩ := exists_of_mem_nfkd member
  exact decomposed c held part inside

end Characters

end StreamTable.Unicode
