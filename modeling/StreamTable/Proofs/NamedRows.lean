import StreamTable.Proofs.EventKeys
import StreamTable.Proofs.IdentityOrder
import StreamTable.Proofs.PhaseRuns
import StreamTable.Proofs.PlacementSearch
import StreamTable.Proofs.RosterRuns

/-! The row that a key names. A removal goes by the text that a row shows, in any letter
case but blank for blank and variant for variant; an upsert goes by the identity, among
the rows that tie with the key. So a row may be found by one and not by the other. They
find the same row under keys in normal form without a capital sigma. -/

namespace StreamTable

open Unicode (capitalSigma)
open Placement (OwnAt)

/-- At an index is a row that shows a key in some letter case. -/
def ShownAt (key : String) (shown : List String) (index : Nat) : Prop :=
  ∃ other, shown[index]? = some other ∧ Key.lowerCase other = Key.lowerCase key

/-- At an index is a row of the identity of a key. -/
def IdentifiedAt (key : String) (shown : List String) (index : Nat) : Prop :=
  ∃ other, shown[index]? = some other ∧ Key.identity other = Key.identity key

theorem exists_isLeast_iff {property : Nat → Prop} :
    (∃ index, IsLeast {index | property index} index) ↔ ∃ index, property index := by
  classical
  constructor
  · exact fun ⟨index, least⟩ => ⟨index, least.1⟩
  · exact fun some => ⟨Nat.find some, Nat.find_spec some, fun _ other => Nat.find_min' some other⟩

section Keys

variable {key : String} {shown : List String}

theorem exists_identifiedAt_iff :
    (∃ index, IdentifiedAt key shown index) ↔ ∃ other ∈ shown, Key.identity other = Key.identity key := by
  constructor
  · rintro ⟨index, other, here, same⟩
    exact ⟨other, List.mem_of_getElem? here, same⟩
  · rintro ⟨other, member, same⟩
    obtain ⟨index, here⟩ := List.mem_iff_getElem?.mp member
    exact ⟨index, other, here, same⟩

/-- Keys in normal form differ in letter case only if they have one identity. -/
theorem shownAt_iff_of_normal (normal : ∀ other ∈ key :: shown, Key.normalize other = other) (index : Nat) :
    ShownAt key shown index ↔ IdentifiedAt key shown index := by
  have own := Key.identity_eq_lowerCase (normal key List.mem_cons_self)
  have others {other : String} (here : shown[index]? = some other) : Key.identity other = Key.lowerCase other :=
    Key.identity_eq_lowerCase (normal other (List.mem_cons_of_mem _ (List.mem_of_getElem? here)))
  constructor
  · rintro ⟨other, here, same⟩
    exact ⟨other, here, by rw [own, others here, same]⟩
  · rintro ⟨other, here, same⟩
    rw [own, others here] at same
    exact ⟨other, here, same⟩

theorem ownAt_iff_of_sigmaless
    (sigmaless : ∀ other ∈ key :: shown, capitalSigma ∉ Key.normalizeText other.toList) (index : Nat) :
    OwnAt key shown index ↔ IdentifiedAt key shown index := by
  constructor
  · exact fun ⟨other, here, _, same⟩ => ⟨other, here, same⟩
  · rintro ⟨other, here, same⟩
    have own := sigmaless key List.mem_cons_self
    have others := sigmaless other (List.mem_cons_of_mem _ (List.mem_of_getElem? here))
    have letters := Key.lowerLetters_eq_of_identity_eq same.symm own others
    exact ⟨other, here, (Key.order_eq_iff_gather key other).mpr (by rw [letters]), same⟩

end Keys

/-- What holds of the rows that a run put into an empty table. -/
structure Streamed (entries : List Entry) : Prop where
  sorted : Key.Sorted (shownKeys entries)
  plain : ∀ entry ∈ entries, entry.sortKey = none

theorem Streamed.edit {entries : List Entry} (streamed : Streamed entries) (edit : Edit) : Streamed (edit.result entries) :=
  ⟨streamed.sorted.change (Change.edit entries edit), Edit.plain_result streamed.plain edit⟩

theorem streamed_entriesAfter (sanitizer : Option (String → String)) (fresh : Synchronizer) (operations : List Operation) :
    Streamed (Operation.entriesAfter sanitizer fresh [] operations) :=
  Operation.rowsAfter_keeps sanitizer fresh [] operations (fun edit _ _ streamed => streamed.edit edit) ⟨.nil, by simp⟩

namespace Streamed

variable {entries : List Entry} (streamed : Streamed entries) (sanitizer : Option (String → String))
  {synchronizer : Synchronizer}
include streamed

theorem removed_iff (active : synchronizer.phase ≠ .closed) (key : String) (index : Nat) :
    (synchronizer.removeNamed (memoryHost sanitizer) key entries).outcome = .removed index ↔
      IsLeast {index | ShownAt key (shownKeys entries) index} index := by
  have answers : {index | ∃ entry, entries[index]? = some entry ∧ entry.answersTo key} =
      {index | ShownAt key (shownKeys entries) index} := by
    ext position
    simp only [Set.mem_ofPred_eq, ShownAt, shownKeys, List.getElem?_map, Option.map_eq_some_iff]
    constructor
    · rintro ⟨entry, here, answering⟩
      exact ⟨_, ⟨entry, here, rfl⟩, (Entry.answersTo_iff (streamed.plain entry (List.mem_of_getElem? here))).mp answering⟩
    · rintro ⟨_, ⟨entry, here, rfl⟩, same⟩
      exact ⟨entry, here, (Entry.answersTo_iff (streamed.plain entry (List.mem_of_getElem? here))).mpr same⟩
  obtain ⟨records, done⟩ := synchronizer.removeNamed_memory sanitizer entries key active
  rw [done, ← answers, ← findIdx?_eq_some_iff_isLeast]
  cases entries.findIdx? (Entry.answersTo key) with
  | none => simp
  | some first => simp

theorem replaced_iff (shows : synchronizer.ShowsKeys) {key payload : String} (brings : Brings key payload) (index : Nat) :
    (synchronizer.applyUpsert (memoryHost sanitizer) payload entries).outcome = .replaced index ↔
      IsLeast {index | OwnAt key (shownKeys entries) index} index := by
  obtain ⟨row, records, rfl, done⟩ := shows.applyUpsert_memory sanitizer brings entries
  rw [done, Placement.outcome_eq_replaced_iff, Entry.placement, Placement.among_eq_replace_iff]
  exact ⟨fun replaces => replaces.own, Placement.replaces_of_sorted streamed.sorted⟩

end Streamed

/-- Which row a key names: for a removal, for an upsert that brings it, and for both. -/
structure NamesRow (sanitizer : Option (String → String)) (synchronizer : Synchronizer) (entries : List Entry)
    (key : String) : Prop where
  removed : ∀ index, (synchronizer.removeNamed (memoryHost sanitizer) key entries).outcome = .removed index ↔
    IsLeast {index | ShownAt key (shownKeys entries) index} index
  replaced : ∀ payload, Brings key payload → ∀ index,
    (synchronizer.applyUpsert (memoryHost sanitizer) payload entries).outcome = .replaced index ↔
      IsLeast {index | OwnAt key (shownKeys entries) index} index
  removes : (∀ other ∈ key :: shownKeys entries, Key.normalize other = other) →
    ((∃ index, (synchronizer.removeNamed (memoryHost sanitizer) key entries).outcome = .removed index) ↔
      ∃ other ∈ shownKeys entries, Key.identity other = Key.identity key)
  replaces : (∀ other ∈ key :: shownKeys entries, capitalSigma ∉ Key.normalizeText other.toList) →
    ∀ payload, Brings key payload →
      ((∃ index, (synchronizer.applyUpsert (memoryHost sanitizer) payload entries).outcome = .replaced index) ↔
        ∃ other ∈ shownKeys entries, Key.identity other = Key.identity key)
  agree : (∀ other ∈ key :: shownKeys entries, Key.normalize other = other) →
    (∀ other ∈ key :: shownKeys entries, capitalSigma ∉ Key.normalizeText other.toList) →
    ∀ payload, Brings key payload → ∀ index,
      (synchronizer.removeNamed (memoryHost sanitizer) key entries).outcome = .removed index ↔
        (synchronizer.applyUpsert (memoryHost sanitizer) payload entries).outcome = .replaced index

/-- Whatever run filled a table, a removal takes the first row that shows the key in some
letter case, and an upsert replaces the first that ties with it and has its identity.
Under keys in normal form and without a capital sigma these are the same row, and there
is one exactly if some row has the identity of the key. -/
theorem key_names_row (sanitizer : Option (String → String)) (fresh : Synchronizer) (operations : List Operation)
    (shows : (Operation.reached sanitizer fresh [] operations).ShowsKeys) (key : String) :
    NamesRow sanitizer (Operation.reached sanitizer fresh [] operations)
      (Operation.entriesAfter sanitizer fresh [] operations) key := by
  have streamed := streamed_entriesAfter sanitizer fresh operations
  have removed := streamed.removed_iff sanitizer shows.active key
  have replaced (payload : String) (brings : Brings key payload) := streamed.replaced_iff sanitizer shows brings
  refine ⟨removed, replaced, fun normal => ?_, fun sigmaless payload brings => ?_,
    fun normal sigmaless payload brings index => ?_⟩
  · simp only [removed, exists_isLeast_iff, shownAt_iff_of_normal normal, exists_identifiedAt_iff]
  · simp only [replaced payload brings, exists_isLeast_iff, ownAt_iff_of_sigmaless sigmaless, exists_identifiedAt_iff]
  · simp only [removed, replaced payload brings, shownAt_iff_of_normal normal, ownAt_iff_of_sigmaless sigmaless]

def greetedOperations : List Operation :=
  [.upsert "[\"Zed\", 1]", .apply .upsert "[\"gr\\u00fcße 7\"]", .upsert "[\"ada\"]", .remove "ADA", .opened,
    .named "connect" "[\"Ada\", null]"]

theorem key_names_row_greeted :
    let fresh : Synchronizer := ⟨2, { htmlColumns := .ofList [1] }, .disconnected⟩
    let synchronizer := Operation.reached none fresh [] greetedOperations
    let entries := Operation.entriesAfter none fresh [] greetedOperations
    let key := "GRÜßE 7"
    let payload := (Json.Value.array [.string key]).text
    synchronizer.ShowsKeys ∧ (∀ other ∈ key :: shownKeys entries, Key.normalize other = other) ∧
      (∀ other ∈ key :: shownKeys entries, capitalSigma ∉ Key.normalizeText other.toList) ∧ Brings key payload ∧
      NamesRow none synchronizer entries key ∧
      (synchronizer.removeNamed (memoryHost none) key entries).outcome = .removed 1 ∧
      (synchronizer.applyUpsert (memoryHost none) payload entries).outcome = .replaced 1 ∧
      ∃ other ∈ shownKeys entries, Key.identity other = Key.identity key := by
  intro fresh synchronizer entries key payload
  have shows : synchronizer.ShowsKeys := ⟨by decide +kernel, by decide +kernel, by decide +kernel⟩
  have normal : ∀ other ∈ key :: shownKeys entries, Key.normalize other = other := by decide +kernel
  have sigmaless : ∀ other ∈ key :: shownKeys entries, capitalSigma ∉ Key.normalizeText other.toList := by
    decide +kernel
  have names := key_names_row none fresh greetedOperations shows key
  have removed : (synchronizer.removeNamed (memoryHost none) key entries).outcome = .removed 1 := by decide +kernel
  have brings : Brings key payload := brings_text key
  have replaced := (names.agree normal sigmaless payload brings 1).mp removed
  have found := (names.removes normal).mp ⟨1, removed⟩
  exact ⟨shows, normal, sigmaless, brings, names, removed, replaced, found⟩

def applying (events : List (EventKind × String)) : List Operation :=
  events.map fun (kind, payload) => .apply kind payload

def spacedEvents : List (EventKind × String) := [(.upsert, "[\"two  words\"]")]

/-- A removal does not find the row of a key that differs from it in blanks, though it has
the identity of the key and would be replaced under it. -/
theorem respelled_key_unremoved :
    ¬ ∀ (sanitizer : Option (String → String)) (fresh : Synchronizer) (events : List (EventKind × String))
        (key payload : String),
      let synchronizer := Operation.reached sanitizer fresh [] (applying events)
      let entries := Operation.entriesAfter sanitizer fresh [] (applying events)
      let removal := synchronizer.removeNamed (memoryHost sanitizer) key entries
      synchronizer.ShowsKeys → key ≠ "" → Brings key payload →
        ((∃ index, removal.outcome = .removed index) ↔ ∃ other ∈ shownKeys entries, Key.identity other = Key.identity key) ∧
        ((∃ index, removal.outcome = .removed index) ↔
          ∃ index, (synchronizer.applyUpsert (memoryHost sanitizer) payload entries).outcome = .replaced index) := by
  intro law
  let fresh : Synchronizer := ⟨1, { htmlColumns := .empty }, .disconnected⟩
  have shows : (Operation.reached none fresh [] (applying spacedEvents)).ShowsKeys :=
    ⟨by decide +kernel, by decide +kernel, by decide +kernel⟩
  have held : "two  words" ∈ shownKeys (Operation.entriesAfter none fresh [] (applying spacedEvents)) := by decide +kernel
  have missed : ((Operation.reached none fresh [] (applying spacedEvents)).removeNamed (memoryHost none) "two words"
      (Operation.entriesAfter none fresh [] (applying spacedEvents))).outcome = .notFound := by decide +kernel
  obtain ⟨named, -⟩ := law none fresh spacedEvents "two words" _ shows (by decide) (brings_text "two words")
  obtain ⟨index, removed⟩ := named.mpr ⟨"two  words", held, by decide +kernel⟩
  rw [missed] at removed
  cases removed

end StreamTable
