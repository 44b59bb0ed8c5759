import StreamTable.Proofs.PhaseRuns
import StreamTable.Proofs.PlacementSearch

/-! Removals of one target, one after the other. Each takes the first of the rows that the
target still names and leaves the rest in place, so the indices told shift but the rows
that are not named never do. Once none is named any more, nothing happens. -/

namespace StreamTable

section Lists

variable {α : Type} {found : α → Bool}

private theorem countP_eraseP (items : List α) : (items.eraseP found).countP found = items.countP found - 1 := by
  induction items with
  | nil => rfl
  | cons item rest ih =>
    by_cases first : found item
    · rw [List.eraseP_cons_of_pos first, List.countP_cons_of_pos first, Nat.add_sub_cancel]
    · rw [List.eraseP_cons_of_neg first, List.countP_cons_of_neg first, List.countP_cons_of_neg first, ih]

private theorem filter_eraseP (items : List α) :
    ((items.eraseP found).filter fun item => !found item) = items.filter fun item => !found item := by
  induction items with
  | nil => rfl
  | cons item rest ih =>
    by_cases first : found item
    · rw [List.eraseP_cons_of_pos first, List.filter_cons_of_neg (by simp [first])]
    · rw [List.eraseP_cons_of_neg first, List.filter_cons, List.filter_cons, ih]

private theorem eq_filter_of_countP_eq_zero {items : List α} (absent : items.countP found = 0) :
    items = items.filter fun item => !found item := by
  refine (List.filter_eq_self.mpr fun item member => ?_).symm
  simpa using List.countP_eq_zero.mp absent item member

end Lists

namespace Entry

/-- The text by which a removal knows a row. A sort key stands for the text that the row
shows, unless it is empty. -/
def removalText (entry : Entry) : String :=
  match entry.sortKey with
  | none => entry.row.displayKey
  | some sortKey => if sortKey = "" then entry.row.displayKey else sortKey

def isNamed (target : String) (entry : Entry) : Bool :=
  Key.lowerCase entry.removalText = Key.lowerCase target

theorem effective_label (entry : Entry) : entry.label.effective = entry.removalText := by
  unfold Label.effective label removalText
  cases entry.sortKey with
  | none => rfl
  | some sortKey =>
    by_cases empty : sortKey = "" <;> simp [empty, Option.filter]

theorem answersTo_eq_isNamed (target : String) : answersTo target = isNamed target := by
  funext entry
  simp only [answersTo, isNamed, effective_label]

end Entry

namespace Operation

variable (sanitizer : Option (String → String)) {synchronizer : Synchronizer} (entries : List Entry) (target : String)

theorem perform_removeNamed (active : synchronizer.phase ≠ .closed) :
    let step := (removeNamed target).perform (memoryHost sanitizer) synchronizer entries
    step.synchronizer.phase ≠ .closed ∧ step.store = entries.eraseP (Entry.isNamed target) ∧
      step.outcome = some (match entries.findIdx? (Entry.isNamed target) with
        | some index => .removed index
        | none => .notFound) := by
  obtain ⟨records, done⟩ := (Edit.remove target).perform_memory sanitizer entries active
  have performed : (removeNamed target).perform (memoryHost sanitizer) synchronizer entries = _ := done
  rw [performed]
  refine ⟨Synchronizer.active_enter_live synchronizer, ?_, ?_⟩
  · simp only [Edit.result, Entry.answersTo_eq_isNamed, List.eraseP_eq_eraseIdx]
    cases entries.findIdx? (Entry.isNamed target) <;> rfl
  · rewrite [← Entry.answersTo_eq_isNamed]
    rfl

/-- After any number of removals of a target the rows that it does not name are those of
before, and of the others there are as many fewer. -/
theorem after_removals (active : synchronizer.phase ≠ .closed) (calls : Nat) :
    let removals := List.replicate calls (removeNamed target)
    let rows := entriesAfter sanitizer synchronizer entries removals
    (reached sanitizer synchronizer entries removals).phase ≠ .closed ∧
      rows.countP (Entry.isNamed target) = entries.countP (Entry.isNamed target) - calls ∧
      (rows.filter fun entry => !entry.isNamed target) = entries.filter fun entry => !entry.isNamed target := by
  induction calls generalizing synchronizer entries with
  | zero => exact ⟨active, rfl, rfl⟩
  | succ calls ih =>
    obtain ⟨stays, erased, -⟩ := perform_removeNamed sanitizer entries target active
    obtain ⟨later, fewer, kept⟩ := ih (entries.eraseP (Entry.isNamed target)) stays
    simp only [List.replicate_succ, reached, entriesAfter, synchronizerAfter_cons, rowsAfter_cons, erased]
    refine ⟨later, ?_, ?_⟩
    · rw [countP_eraseP] at fewer
      exact fewer.trans (by omega)
    · exact kept.trans (filter_eraseP entries)

end Operation

/-- A target that names so many rows is removed that many times, each time from the first
row that it names by then, and found no more after that. What is left are the rows that it
does not name, with their sort keys and in their order. -/
theorem removals_take_named (sanitizer : Option (String → String)) {synchronizer : Synchronizer}
    (active : synchronizer.phase ≠ .closed) (entries : List Entry) (target : String) :
    let removals (calls : Nat) := List.replicate calls (Operation.removeNamed target)
    let rows (calls : Nat) := Operation.entriesAfter sanitizer synchronizer entries (removals calls)
    let answer (calls : Nat) :=
      (Operation.stepAfter sanitizer synchronizer entries (removals calls) (.removeNamed target)).outcome
    let count := entries.countP (Entry.isNamed target)
    (∀ calls < count, ∃ index, answer calls = some (.removed index) ∧
        IsLeast {index | ∃ entry, (rows calls)[index]? = some entry ∧ entry.isNamed target} index) ∧
      (∀ calls ≥ count, answer calls = some .notFound) ∧
      (∀ calls, rows (calls + 1) = (rows calls).eraseP (Entry.isNamed target)) ∧
      (∀ calls ≥ count, rows calls = entries.filter fun entry => !entry.isNamed target) := by
  intro removals rows answer count
  have after (calls : Nat) := Operation.after_removals sanitizer entries target active calls
  have next (calls : Nat) := Operation.perform_removeNamed sanitizer (rows calls) target (after calls).1
  have fewer (calls : Nat) : (rows calls).countP (Entry.isNamed target) = count - calls := (after calls).2.1
  have gone {calls : Nat} (spent : calls ≥ count) : (rows calls).countP (Entry.isNamed target) = 0 :=
    (fewer calls).trans (Nat.sub_eq_zero_of_le spent)
  refine ⟨fun calls named => ?_, fun calls spent => ?_, fun calls => ?_, fun calls spent => ?_⟩
  · obtain ⟨-, -, told⟩ := next calls
    have remain : 0 < (rows calls).countP (Entry.isNamed target) := by
      rw [fewer]
      exact Nat.sub_pos_of_lt named
    obtain ⟨entry, member, names⟩ := List.countP_pos_iff.mp remain
    cases found : (rows calls).findIdx? (Entry.isNamed target) with
    | none => simp [List.findIdx?_eq_none_iff.mp found entry member] at names
    | some index =>
      rw [found] at told
      exact ⟨index, told, findIdx?_eq_some_iff_isLeast.mp found⟩
  · obtain ⟨-, -, told⟩ := next calls
    have unfound : (rows calls).findIdx? (Entry.isNamed target) = none := by
      refine List.findIdx?_eq_none_iff.mpr fun entry member => ?_
      simpa using List.countP_eq_zero.mp (gone spent) entry member
    rw [unfound] at told
    exact told
  · obtain ⟨-, erased, -⟩ := next calls
    have last : removals (calls + 1) = removals calls ++ [.removeNamed target] := List.replicate_succ'
    simp only [rows, last, Operation.entriesAfter_append]
    exact erased
  · obtain ⟨-, -, kept⟩ := after calls
    exact (eq_filter_of_countP_eq_zero (gone spent)).trans kept

/-- Rows named by what they show, by a sort key and by neither, the sort key of one being
empty. -/
def aliasedEntries : List Entry :=
  [⟨⟨"ada", [.text "ada"]⟩, some "zed"⟩, ⟨⟨"zoe", [.html "<b>Zoe</b>"]⟩, some "Ada"⟩,
    ⟨⟨"bob", [.text "bob"]⟩, none⟩, ⟨⟨"ada", [.html "<i>A</i>da"]⟩, some ""⟩, ⟨⟨"ADA", [.text "ADA"]⟩, none⟩]

theorem removals_take_named_aliased :
    let synchronizer : Synchronizer := ⟨1, {}, .connecting⟩
    let removals (calls : Nat) := List.replicate calls (Operation.removeNamed "aDA")
    let rows (calls : Nat) := Operation.entriesAfter none synchronizer aliasedEntries (removals calls)
    let answer (calls : Nat) :=
      (Operation.stepAfter none synchronizer aliasedEntries (removals calls) (.removeNamed "aDA")).outcome
    synchronizer.phase ≠ .closed ∧ aliasedEntries.countP (Entry.isNamed "aDA") = 3 ∧
      answer 0 = some (.removed 1) ∧ answer 1 = some (.removed 2) ∧
      (∃ index, answer 2 = some (.removed index) ∧
        IsLeast {index | ∃ entry, (rows 2)[index]? = some entry ∧ entry.isNamed "aDA"} index) ∧
      answer 3 = some .notFound ∧ answer 100 = some .notFound ∧
      rows 100 = [⟨⟨"ada", [.text "ada"]⟩, some "zed"⟩, ⟨⟨"bob", [.text "bob"]⟩, none⟩] := by
  intro synchronizer removals rows answer
  have active : synchronizer.phase ≠ .closed := by decide
  have count : aliasedEntries.countP (Entry.isNamed "aDA") = 3 := by decide +kernel
  obtain ⟨removed, unfound, -, left⟩ := removals_take_named none active aliasedEntries "aDA"
  refine ⟨active, count, by decide +kernel, by decide +kernel, ?_, ?_, ?_, ?_⟩
  · exact removed 2 (by rw [count]; decide)
  · exact unfound 3 (by rw [count])
  · exact unfound 100 (by rw [count]; decide)
  · exact (left 100 (by rw [count]; decide)).trans (by decide +kernel)

end StreamTable
