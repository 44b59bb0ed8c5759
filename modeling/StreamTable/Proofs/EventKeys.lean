import StreamTable.Proofs.RowChanges
import StreamTable.Proofs.WrittenStrings

/-! The keys in events. An upsert brings a row that shows the first value of its list, if
the first column shows text. A removal names a key in one of four ways, and in no other.
Every key, however it is spelled, can be written into either. -/

namespace StreamTable

/-- A payload of an upsert whose first value is a key. -/
def Brings (key payload : String) : Prop := ∃ values, upsertValues payload = .ok (.string key :: values)

def Bare (name : String) (value : Json.Value) : Prop := value.field? name = none ∨ value.field? name = some .null

/-- The ways in which a payload of a removal names a key by the standard steps. -/
inductive Names (key payload : String) : Prop where
  | text (read : Json.read payload = .ok (.string key))
  | keyField {value : Json.Value} (read : Json.read payload = .ok value)
      (held : value.field? "key" = some (.string key))
  | shortField {value : Json.Value} (read : Json.read payload = .ok value) (bare : Bare "key" value)
      (held : value.field? "s" = some (.string key))
  | verbatim {error : Json.Error} (unread : Json.read payload = .error error) (same : payload = key)

section Targets

variable {name key payload : String} {value : Json.Value}

theorem TargetStep.extract?_field_eq_none_iff : (field name).extract? value = none ↔ Bare name value := by
  simp only [extract?, Bare, Option.filter_eq_none_iff]
  constructor
  · intro null
    cases held : value.field? name with
    | none => exact Or.inl rfl
    | some inner =>
      cases inner with
      | null => exact Or.inr rfl
      | boolean _ | number _ | string _ | array _ | object _ => exact absurd rfl (null _ held)
  · rintro (missing | null) inner held
    · cases missing.symm.trans held
    · cases null.symm.trans held
      decide

theorem TargetStep.extract?_field_eq_string_iff :
    (field name).extract? value = some (.string key) ↔ value.field? name = some (.string key) := by
  simp only [extract?, Option.filter_eq_some_iff, and_iff_left_iff_imp]
  exact fun _ => rfl

theorem nonempty?_eq_some_iff : nonempty? name = some key ↔ name = key ∧ key ≠ "" := by
  by_cases blank : name = ""
  · have missing : nonempty? name = none := if_pos (String.isEmpty_iff.mpr blank)
    rw [missing]
    constructor
    · intro found
      cases found
    · rintro ⟨rfl, visible⟩
      exact absurd blank visible
  · have found : nonempty? name = some name := if_neg fun empty => blank (String.isEmpty_iff.mp empty)
    rw [found]
    constructor
    · intro same
      cases same
      exact ⟨rfl, blank⟩
    · rintro ⟨rfl, -⟩
      rfl

namespace TargetChain

theorem extract?_eq_string_iff : ({} : TargetChain).extract? value = some (.string key) ↔
    value.field? "key" = some (.string key) ∨
      Bare "key" value ∧ (value.field? "s" = some (.string key) ∨ Bare "s" value ∧ value = .string key) := by
  have steps : ({} : TargetChain).extract? value = ((TargetStep.field "key").extract? value).or
      (((TargetStep.field "s").extract? value).or (some value)) := by
    simp only [extract?, List.findSome?_cons]
    cases (TargetStep.field "key").extract? value <;> cases (TargetStep.field "s").extract? value <;> rfl
  rw [steps, Option.or_eq_some_iff, Option.or_eq_some_iff, TargetStep.extract?_field_eq_none_iff,
    TargetStep.extract?_field_eq_none_iff, TargetStep.extract?_field_eq_string_iff,
    TargetStep.extract?_field_eq_string_iff, Option.some.injEq]

theorem resolveValue_eq_some_iff (chain : TargetChain) :
    chain.resolveValue value = some key ↔ chain.extract? value = some (.string key) ∧ key ≠ "" := by
  unfold resolveValue
  split
  next name found => simp only [found, nonempty?_eq_some_iff, Option.some.injEq, Json.Value.string.injEq]
  next missed =>
    simp only [reduceCtorEq, false_iff, not_and]
    exact fun found => absurd found (missed key)

/-- The standard steps find a key in exactly these ways. -/
theorem resolve_eq_some_iff : ({} : TargetChain).resolve payload = some key ↔ Names key payload ∧ key ≠ "" := by
  cases read : Json.read payload with
  | error error =>
    have unread : ({} : TargetChain).resolve payload = nonempty? payload := by simp only [resolve, read]
    rw [unread, nonempty?_eq_some_iff, and_congr_left_iff]
    intro _
    constructor
    · exact fun same => .verbatim read same
    · intro names
      cases names with
      | text other => cases read.symm.trans other
      | keyField other => cases read.symm.trans other
      | shortField other => cases read.symm.trans other
      | verbatim _ same => exact same
  | ok value =>
    have known : ({} : TargetChain).resolve payload = ({} : TargetChain).resolveValue value := by simp only [resolve, read]
    rw [known, resolveValue_eq_some_iff, extract?_eq_string_iff, and_congr_left_iff]
    intro _
    constructor
    · rintro (held | ⟨bare, held | ⟨-, rfl⟩⟩)
      · exact .keyField read held
      · exact .shortField read bare held
      · exact .text read
    · intro names
      cases names with
      | text other =>
        cases read.symm.trans other
        exact Or.inr ⟨Or.inl rfl, Or.inr ⟨Or.inl rfl, rfl⟩⟩
      | keyField other held =>
        cases read.symm.trans other
        exact Or.inl held
      | shortField other bare held =>
        cases read.symm.trans other
        exact Or.inr ⟨bare, Or.inl held⟩
      | verbatim unread => cases read.symm.trans unread

end TargetChain

end Targets

theorem brings_text (key : String) : Brings key (Json.Value.array [.string key]).text :=
  ⟨[], by simp only [upsertValues, Json.read_text_list]⟩

theorem names_text (key : String) : Names key (Json.Value.string key).text := .text (Json.read_text_string key)

theorem names_text_key (key : String) : Names key (Json.Value.object [("key", .string key)]).text :=
  .keyField (Json.read_text_object "key" key) rfl

theorem names_text_short (key : String) : Names key (Json.Value.object [("s", .string key)]).text :=
  .shortField (Json.read_text_object "s" key) (Or.inl rfl) rfl

namespace Synchronizer

/-- A synchronizer at work on a table whose first column shows text. -/
structure ShowsKeys (synchronizer : Synchronizer) : Prop where
  active : synchronizer.phase ≠ .closed
  wide : 0 < synchronizer.columns
  plain : synchronizer.settings.htmlColumns.contains 0 = false

variable (sanitizer : Option (String → String)) {synchronizer : Synchronizer} {key payload : String}

theorem ShowsKeys.displayKey_build (shows : synchronizer.ShowsKeys) (values : List Json.Value) :
    (Row.build (.string key :: values) synchronizer.columns synchronizer.settings.htmlColumns sanitizer).displayKey = key := by
  obtain ⟨more, columns⟩ := Nat.exists_eq_add_of_lt shows.wide
  have first : Row.cellOf (.string key :: values) synchronizer.settings.htmlColumns 0 = .text key := by
    simp [Row.cellOf, shows.plain, Json.Value.cellText]
  cases sanitizer <;>
    simp [Row.build, Row.verbatim, Row.clean, Row.mapHtml, columns, List.range_succ_eq_map, first, Row.displayKey,
      Cell.textContent]

theorem ShowsKeys.applyUpsert_memory (shows : synchronizer.ShowsKeys) (brings : Brings key payload) (entries : List Entry) :
    ∃ row records, row.displayKey = key ∧ synchronizer.applyUpsert (memoryHost sanitizer) payload entries =
      ⟨(Entry.placement row entries).outcome entries.length, synchronizer.enter .live, Entry.place row entries, records⟩ := by
  obtain ⟨values, decoded⟩ := brings
  let row := Row.build (.string key :: values) synchronizer.columns synchronizer.settings.htmlColumns sanitizer
  have cleaned : (memoryHost sanitizer).clean
      (Row.verbatim (.string key :: values) synchronizer.columns synchronizer.settings.htmlColumns) entries =
        (row, entries, []) := rfl
  obtain ⟨records, placed⟩ := synchronizer.placeRow_memory sanitizer entries row shows.active
  refine ⟨row, .upsertBegun :: records, shows.displayKey_build sanitizer values, ?_⟩
  simp only [applyUpsert, shows.active, ite_false, decoded, cleaned, placed]
  rfl

theorem applyRemove_memory (active : synchronizer.phase ≠ .closed)
    (resolved : synchronizer.settings.targetChain.resolve payload = some key) (entries : List Entry) :
    ∃ records, synchronizer.applyRemove (memoryHost sanitizer) payload entries =
      match entries.findIdx? (Entry.answersTo key) with
      | some index => ⟨.removed index, synchronizer.enter .live, entries.eraseIdx index, records⟩
      | none => ⟨.notFound, synchronizer.enter .live, entries, records⟩ := by
  obtain ⟨records, removed⟩ := synchronizer.removeNamed_memory sanitizer entries key active
  refine ⟨.removeBegun :: records, ?_⟩
  simp only [applyRemove, active, ite_false, resolved, removed]
  cases entries.findIdx? (Entry.answersTo key) <;> rfl

end Synchronizer

end StreamTable
