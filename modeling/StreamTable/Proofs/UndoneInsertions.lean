import StreamTable.Proofs.EventKeys
import StreamTable.Proofs.RepeatedPlacement

/-! A removal undoes an insertion. An inserted row shows its key, so if no row answered to
the key before, it is the only one that does, wherever it was put among the others. They
may be in any order and have sort keys of their own. -/

namespace StreamTable

private theorem findIdx?_insertIdx {α : Type} {found : α → Bool} {item : α} {items : List α} {index : Nat}
    (inside : index ≤ items.length) (own : found item) (others : ∀ other ∈ items, found other = false) :
    (items.insertIdx index item).findIdx? found = some index := by
  have before : (items.take index).findIdx? found = none :=
    List.findIdx?_eq_none_iff.mpr fun other member => others other (List.mem_of_mem_take member)
  have length : (items.take index).length = index := by
    rw [List.length_take]
    omega
  rw [insertIdx_eq_append item inside, List.findIdx?_append, before, List.findIdx?_cons, own, length]
  simp

namespace Entry

variable {row : Row} {entries : List Entry} {index : Nat}

/-- No row answers to a key. -/
def Fresh (key : String) (entries : List Entry) : Prop :=
  ∀ entry ∈ entries, Key.lowerCase entry.label.effective ≠ Key.lowerCase key

theorem place_of_added
    (added : (placement row entries).outcome entries.length = .inserted index ∨
      (placement row entries).outcome entries.length = .appended index) :
    index ≤ entries.length ∧ place row entries = entries.insertIdx index ⟨row, none⟩ := by
  have fits := placement_fits row entries
  rcases added with inserted | appended
  · have placed := Placement.outcome_eq_inserted_iff.mp inserted
    rw [placed] at fits
    exact ⟨fits, by rw [place, placed]; rfl⟩
  · obtain ⟨placed, rfl⟩ := Placement.outcome_eq_appended_iff.mp appended
    exact ⟨Nat.le_refl _, by rw [place, placed]; rfl⟩

theorem findIdx?_place_of_fresh (fresh : Fresh row.displayKey entries)
    (added : (placement row entries).outcome entries.length = .inserted index ∨
      (placement row entries).outcome entries.length = .appended index) :
    (place row entries).findIdx? (answersTo row.displayKey) = some index ∧ (place row entries).eraseIdx index = entries := by
  obtain ⟨inside, placed⟩ := place_of_added added
  have own : answersTo row.displayKey ⟨row, none⟩ := by simp [answersTo, label, Label.effective]
  have others : ∀ other ∈ entries, answersTo row.displayKey other = false := by
    intro other member
    simpa only [answersTo, decide_eq_false_iff_not] using fresh other member
  rw [placed]
  exact ⟨findIdx?_insertIdx inside own others, List.eraseIdx_insertIdx_self _⟩

end Entry

/-- A row that was added under a new key is taken out again by a removal that names the
key, in whatever way, and the rows are those of before. Every key but the empty one can
be brought and named so, whatever characters it is made of. -/
theorem removal_undoes_insertion (sanitizer : Option (String → String)) {synchronizer : Synchronizer}
    (shows : synchronizer.ShowsKeys) (standard : synchronizer.settings.targetChain = {}) {key : String}
    (visible : key ≠ "") {entries : List Entry} (fresh : Entry.Fresh key entries) :
    (∀ brought named, Brings key brought → Names key named → ∀ index,
      let first := synchronizer.applyUpsert (memoryHost sanitizer) brought entries
      let second := first.synchronizer.applyRemove (memoryHost sanitizer) named first.store
      first.outcome = .inserted index ∨ first.outcome = .appended index →
        second.outcome = .removed index ∧ second.store = entries ∧ second.synchronizer = first.synchronizer) ∧
      Brings key (Json.Value.array [.string key]).text ∧ Names key (Json.Value.string key).text ∧
      Names key (Json.Value.object [("key", .string key)]).text ∧
      Names key (Json.Value.object [("s", .string key)]).text := by
  refine ⟨fun brought named brings names index => ?_, brings_text key, names_text key, names_text_key key,
    names_text_short key⟩
  intro first second added
  obtain ⟨row, records, own, done⟩ := shows.applyUpsert_memory sanitizer brings entries
  subst own
  have resolved : (synchronizer.enter .live).settings.targetChain.resolve named = some row.displayKey := by
    have target := TargetChain.resolve_eq_some_iff.mpr ⟨names, visible⟩
    rwa [← standard] at target
  obtain ⟨later, removed⟩ :=
    Synchronizer.applyRemove_memory sanitizer synchronizer.active_enter_live resolved (Entry.place row entries)
  simp only [first, done] at added
  obtain ⟨found, restored⟩ := Entry.findIdx?_place_of_fresh fresh added
  simp only [second, first, done, removed, found, restored]
  exact ⟨trivial, trivial, rfl⟩

def rankedEntries : List Entry :=
  [⟨⟨"zoe", [.html "<b>Zoe</b>"]⟩, some "first"⟩, ⟨⟨"[1]", [.text "[1]"]⟩, some ""⟩, ⟨⟨"ada", [.text "ada"]⟩, none⟩]

theorem removal_undoes_insertion_escaped :
    let synchronizer : Synchronizer := ⟨2, { htmlColumns := .ofList [1] }, .empty⟩
    let key := "[\"\\É\n\"]"
    let brought := (Json.Value.array [.string key]).text
    let named := (Json.Value.object [("s", .string key)]).text
    let first := synchronizer.applyUpsert (memoryHost none) brought rankedEntries
    let second := first.synchronizer.applyRemove (memoryHost none) named first.store
    synchronizer.ShowsKeys ∧ synchronizer.settings.targetChain = {} ∧ key ≠ "" ∧ Entry.Fresh key rankedEntries ∧
      first.outcome = .inserted 0 ∧ second.outcome = .removed 0 ∧ second.store = rankedEntries := by
  intro synchronizer key brought named first second
  have shows : synchronizer.ShowsKeys := ⟨by decide, by decide, by decide⟩
  have fresh : Entry.Fresh key rankedEntries := by
    unfold Entry.Fresh
    decide +kernel
  obtain ⟨undone, brings, -, -, names⟩ := removal_undoes_insertion none shows rfl (by decide) fresh
  have inserted : first.outcome = .inserted 0 := by decide +kernel
  obtain ⟨removed, restored, -⟩ := undone brought named brings names 0 (Or.inl inserted)
  exact ⟨shows, rfl, by decide, fresh, inserted, removed, restored⟩

end StreamTable
