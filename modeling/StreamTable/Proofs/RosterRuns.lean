import StreamTable.Proofs.Edits
import StreamTable.Proofs.Roster

/-! Runs of edits agree with a roster. The rows stay in order, so a placement misses
no row of its identity, and they carry no sort keys, so a removal goes by the same
identity. Both answers then tell what the roster held. -/

namespace StreamTable

namespace Edit

def key? : Edit → Option String
  | place row => some row.displayKey
  | remove target => some target
  | reset => none

theorem displayKey_mem_key? {edit : Edit} {row : Row} (given : row ∈ edit.row?) : row.displayKey ∈ edit.key? := by
  cases edit with
  | place other =>
    cases given
    rfl
  | remove _ | reset => cases given

def amend (roster : Roster) : Edit → Roster
  | place row => roster.insert (Key.identity row.displayKey) row
  | remove target => roster.erase (Key.identity target)
  | reset => ∅

def rosterOf (edits : List Edit) : Roster := edits.foldl amend ∅

/-- What an edit must answer, given the roster before it. -/
def Answers (roster : Roster) : Edit → Outcome → Prop
  | place row, outcome =>
    if Key.identity row.displayKey ∈ roster then ∃ index, outcome = .replaced index
    else ∃ index, outcome = .inserted index ∨ outcome = .appended index
  | remove target, outcome =>
    if Key.identity target ∈ roster then ∃ index, outcome = .removed index else outcome = .notFound
  | reset, outcome => outcome = .cleared roster.keys.card

end Edit

/-- Keys in normal form of which those with one identity tie. The second is not a law
of the order: a final sigma may break it. -/
structure Key.Consistent (keys : List String) : Prop where
  normal : ∀ key ∈ keys, Key.normalize key = key
  tied : ∀ first ∈ keys, ∀ second ∈ keys, Key.identity first = Key.identity second → Key.order first second = .eq

theorem Key.identity_eq_lowerCase {key : String} (normal : Key.normalize key = key) :
    Key.identity key = Key.lowerCase key := by
  have same : Key.normalizeText key.toList = key.toList := by
    have shown := congrArg String.toList normal
    rwa [Key.normalize, String.toList_ofList] at shown
  rw [Key.identity, Key.identityText, same, Key.lowerCase]

namespace Roster

/-- What holds of a table between the edits of a run that brings up the given keys.
The order makes a placement look at every row of its identity, and without sort keys
a removal goes by the text that a row shows. -/
structure Kept (keys : List String) (entries : List Entry) (roster : Roster) : Prop where
  lists : Lists entries roster
  sorted : Key.Sorted (shownKeys entries)
  plain : ∀ entry ∈ entries, entry.sortKey = none
  known : ∀ entry ∈ entries, entry.row.displayKey ∈ keys

namespace Kept

variable {keys : List String} {entries : List Entry} {roster : Roster}

theorem initial (keys : List String) : Kept keys [] ∅ := ⟨Lists.empty, .nil, by simp, by simp⟩

theorem absent_of_not_replaces (kept : Kept keys entries roster) (consistent : Key.Consistent keys) {row : Row}
    (occurs : row.displayKey ∈ keys) (different : ∀ index, Entry.placement row entries ≠ .replace index) :
    Key.identity row.displayKey ∉ roster := by
  intro present
  obtain ⟨entry, member, same⟩ := kept.lists.mem_iff.mp present
  have tied := consistent.tied _ occurs _ (kept.known entry member) same.symm
  have shown : entry.row.displayKey ∈ shownKeys entries := List.mem_map.mpr ⟨entry, member, rfl⟩
  have own : Placement.isOf row.displayKey entry.row.displayKey := by simp [Placement.isOf, tied, same]
  obtain ⟨index, replaced⟩ := Placement.among_replace_of_reach (kept.sorted.mem_reach shown tied) own
  exact different index replaced

theorem answersTo_iff (kept : Kept keys entries roster) (consistent : Key.Consistent keys) {target : String}
    (occurs : target ∈ keys) {entry : Entry} (member : entry ∈ entries) :
    entry.answersTo target ↔ Key.identity entry.row.displayKey = Key.identity target := by
  rw [Key.identity_eq_lowerCase (consistent.normal _ (kept.known entry member)),
    Key.identity_eq_lowerCase (consistent.normal _ occurs)]
  exact Entry.answersTo_iff (kept.plain entry member)

private theorem place_lists (kept : Kept keys entries roster) (consistent : Key.Consistent keys) {row : Row}
    (occurs : row.displayKey ∈ keys) :
    Lists (Entry.place row entries) (roster.insert (Key.identity row.displayKey) row) ∧
      (Edit.place row).Answers roster ((Entry.placement row entries).outcome entries.length) := by
  have absent := kept.absent_of_not_replaces consistent occurs
  have added (different : ∀ index, Entry.placement row entries ≠ .replace index) :
      Lists (Entry.place row entries) (roster.insert (Key.identity row.displayKey) row) :=
    (kept.lists.cons ⟨row, none⟩ (absent different)).perm (place_perm_cons different)
  cases place : Entry.placement row entries with
  | replace index =>
    obtain ⟨inside, own⟩ := Placement.of_among_replace place
    rw [shownKeys_length] at inside
    have same : Key.identity entries[index].row.displayKey = Key.identity row.displayKey := by
      simpa only [shownKeys, List.getElem_map] using (Placement.isOf_iff.mp own).2
    have front := kept.lists.perm (List.getElem_cons_eraseIdx_perm inside)
    have present : Key.identity row.displayKey ∈ roster :=
      kept.lists.mem_iff.mpr ⟨_, List.getElem_mem inside, same⟩
    simp only [Entry.place, place, Edit.Answers, present, ite_true]
    exact ⟨(front.replace ⟨row, none⟩ same).perm (List.set_perm_cons_eraseIdx inside _), index, rfl⟩
  | insert index =>
    have different : ∀ index, Entry.placement row entries ≠ .replace index := by simp [place]
    refine ⟨added different, ?_⟩
    simp only [Edit.Answers, absent different, ite_false]
    exact ⟨index, Or.inl rfl⟩
  | append =>
    have different : ∀ index, Entry.placement row entries ≠ .replace index := by simp [place]
    refine ⟨added different, ?_⟩
    simp only [Edit.Answers, absent different, ite_false]
    exact ⟨entries.length, Or.inr rfl⟩

private theorem remove_lists (kept : Kept keys entries roster) (consistent : Key.Consistent keys) {target : String}
    (occurs : target ∈ keys) :
    Lists ((Edit.remove target).result entries) (roster.erase (Key.identity target)) ∧
      (Edit.remove target).Answers roster ((Edit.remove target).outcome entries) := by
  simp only [Edit.result, Edit.outcome]
  cases found : entries.findIdx? (Entry.answersTo target) with
  | some index =>
    obtain ⟨inside, answers, _⟩ := List.findIdx?_eq_some_iff_getElem.mp found
    have same := (kept.answersTo_iff consistent occurs (List.getElem_mem inside)).mp answers
    have lists := (kept.lists.perm (List.getElem_cons_eraseIdx_perm inside)).of_cons
    rw [same] at lists
    have present : Key.identity target ∈ roster := kept.lists.mem_iff.mpr ⟨_, List.getElem_mem inside, same⟩
    simp only [Edit.Answers, present, ite_true]
    exact ⟨lists, index, rfl⟩
  | none =>
    have absent : Key.identity target ∉ roster := by
      intro present
      obtain ⟨entry, member, same⟩ := kept.lists.mem_iff.mp present
      have silent := List.findIdx?_eq_none_iff.mp found entry member
      rw [(kept.answersTo_iff consistent occurs member).mpr same] at silent
      cases silent
    simp only [Edit.Answers, absent, ite_false, erase_absent absent]
    exact ⟨kept.lists, trivial⟩

private theorem edit_lists (kept : Kept keys entries roster) (consistent : Key.Consistent keys) {edit : Edit}
    (occurs : ∀ key ∈ edit.key?, key ∈ keys) :
    Lists (edit.result entries) (edit.amend roster) ∧ edit.Answers roster (edit.outcome entries) := by
  cases edit with
  | place row => exact kept.place_lists consistent (occurs _ rfl)
  | remove target => exact kept.remove_lists consistent (occurs _ rfl)
  | reset => exact ⟨Lists.empty, congrArg Outcome.cleared kept.lists.length_eq⟩

theorem edit (kept : Kept keys entries roster) (consistent : Key.Consistent keys) {edit : Edit}
    (occurs : ∀ key ∈ edit.key?, key ∈ keys) : Kept keys (edit.result entries) (edit.amend roster) where
  lists := (kept.edit_lists consistent occurs).1
  sorted := kept.sorted.change (Change.edit entries edit)
  plain := Edit.plain_result kept.plain edit
  known entry member := by
    obtain old | ⟨row, given, rfl⟩ := Edit.mem_result member
    · exact kept.known entry old
    · exact occurs _ (Edit.displayKey_mem_key? given)

/-- One edit of an active table does to the rows what it does to the roster. -/
theorem step (kept : Kept keys entries roster) (consistent : Key.Consistent keys)
    (sanitizer : Option (String → String)) {synchronizer : Synchronizer}
    (active : synchronizer.phase ≠ .closed) {edit : Edit} (occurs : ∀ key ∈ edit.key?, key ∈ keys) :
    let step := edit.operation.perform (memoryHost sanitizer) synchronizer entries
    step.synchronizer.phase ≠ .closed ∧ Kept keys step.store (edit.amend roster) ∧
      ∃ outcome, step.outcome = some outcome ∧ edit.Answers roster outcome := by
  obtain ⟨records, done⟩ := edit.perform_memory sanitizer entries active
  have nextActive : edit.phase ≠ .closed := by cases edit <;> simp [Edit.phase]
  rw [done]
  exact ⟨nextActive, kept.edit consistent occurs, _, rfl, (kept.edit_lists consistent occurs).2⟩

theorem run (consistent : Key.Consistent keys) (sanitizer : Option (String → String)) (edits : List Edit)
    (occur : ∀ key ∈ edits.filterMap Edit.key?, key ∈ keys) {synchronizer : Synchronizer}
    (active : synchronizer.phase ≠ .closed) (kept : Kept keys entries roster)
    (index : Nat) (inside : index < edits.length) :
    ∃ step outcome,
      (Operation.run (memoryHost sanitizer) synchronizer entries (edits.map Edit.operation))[index]? = some step ∧
      step.outcome = some outcome ∧
      edits[index].Answers ((edits.take index).foldl Edit.amend roster) outcome ∧
      Kept keys step.store ((edits.take (index + 1)).foldl Edit.amend roster) := by
  induction edits generalizing synchronizer entries roster index with
  | nil => simp at inside
  | cons edit rest ih =>
    have mentioned : ∀ key ∈ edit.key?, key ∈ keys := by
      intro key brought
      exact occur key (List.mem_filterMap.mpr ⟨edit, List.mem_cons_self, brought⟩)
    obtain ⟨nextActive, next, outcome, told, answers⟩ := kept.step consistent sanitizer active mentioned
    cases index with
    | zero => exact ⟨_, outcome, rfl, told, answers, next⟩
    | succ index =>
      have later : ∀ key ∈ rest.filterMap Edit.key?, key ∈ keys := by
        intro key member
        obtain ⟨other, otherMember, brought⟩ := List.mem_filterMap.mp member
        exact occur key (List.mem_filterMap.mpr ⟨other, List.mem_cons_of_mem edit otherMember, brought⟩)
      exact ih later nextActive next index (Nat.lt_of_succ_lt_succ inside)

end Kept

/-- Over consistent keys a table is the roster of its edits: after every one of them
the rows are the roster's, each once, and each answer is the one that the roster gives. -/
theorem run_agrees (sanitizer : Option (String → String)) (synchronizer : Synchronizer)
    (active : synchronizer.phase ≠ .closed) (edits : List Edit)
    (consistent : Key.Consistent (edits.filterMap Edit.key?)) (index : Nat) (inside : index < edits.length) :
    ∃ step outcome,
      (Operation.run (memoryHost sanitizer) synchronizer [] (edits.map Edit.operation))[index]? = some step ∧
      step.outcome = some outcome ∧
      edits[index].Answers (Edit.rosterOf (edits.take index)) outcome ∧
      Lists step.store (Edit.rosterOf (edits.take (index + 1))) ∧
      step.store.length = (Edit.rosterOf (edits.take (index + 1))).keys.card ∧
      (step.store.map fun entry => Key.identity entry.row.displayKey).Nodup := by
  obtain ⟨step, outcome, reached, told, answers, kept⟩ :=
    Kept.run consistent sanitizer edits (fun _ member => member) active (Kept.initial _) index inside
  exact ⟨step, outcome, reached, told, answers, kept.lists, kept.lists.length_eq, kept.lists.distinct⟩

def respelled : List Edit :=
  [.place ⟨"bob", [.text "bob"]⟩, .place ⟨"item 10", [.text "item 10"]⟩, .place ⟨"Bob", [.html "<b>Bob</b>"]⟩,
    .remove "BOB"]

theorem run_agrees_respelled :
    Key.Consistent (respelled.filterMap Edit.key?) ∧ ∃ step outcome,
      (Operation.run (memoryHost none) ⟨1, {}, .live⟩ [] (respelled.map Edit.operation))[2]? = some step ∧
      step.outcome = some outcome ∧
      respelled[2].Answers (Edit.rosterOf (respelled.take 2)) outcome ∧
      Lists step.store (Edit.rosterOf (respelled.take 3)) ∧
      step.store.length = (Edit.rosterOf (respelled.take 3)).keys.card ∧
      (step.store.map fun entry => Key.identity entry.row.displayKey).Nodup := by
  have consistent : Key.Consistent (respelled.filterMap Edit.key?) := ⟨by decide +kernel, by decide +kernel⟩
  exact ⟨consistent, run_agrees none ⟨1, {}, .live⟩ (by decide) respelled consistent 2 (by decide)⟩

end Roster

end StreamTable
