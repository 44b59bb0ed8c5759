import StreamTable.Proofs.RowChanges
import StreamTable.Row.Sanitizer
import Mathlib.Data.List.Forall2

/-! What rows that came as payloads hold. Beside a run goes the list of the payloads that
last placed the rows, edited as the outcomes tell. After each step every row is filled
from its payload: its HTML cells by what the sanitizer makes of the values, its text
cells by the values themselves. -/

namespace StreamTable

section Forall₂

variable {α β : Type} {related : α → β → Prop} {ones : List α} {others : List β} {one : α} {other : β}

theorem forall₂_insertIdx (index : Nat) (all : List.Forall₂ related ones others) (new : related one other) :
    List.Forall₂ related (ones.insertIdx index one) (others.insertIdx index other) := by
  induction all generalizing index with
  | nil => cases index <;> simp [new]
  | cons first rest ih =>
    cases index with
    | zero => exact .cons new (.cons first rest)
    | succ index => exact .cons first (ih index)

theorem forall₂_set (index : Nat) (all : List.Forall₂ related ones others) (new : related one other) :
    List.Forall₂ related (ones.set index one) (others.set index other) := by
  induction all generalizing index with
  | nil => exact .nil
  | cons first rest ih =>
    cases index with
    | zero => exact .cons new rest
    | succ index => exact .cons first (ih index)

theorem forall₂_eraseIdx (index : Nat) (all : List.Forall₂ related ones others) :
    List.Forall₂ related (ones.eraseIdx index) (others.eraseIdx index) := by
  induction all generalizing index with
  | nil => exact .nil
  | cons first rest ih =>
    cases index with
    | zero => exact rest
    | succ index => exact .cons first (ih index)

end Forall₂

/-- The text of a value of a payload: nothing if it is missing or null, a string itself,
and the JSON text of all else. -/
def textAt (values : List Json.Value) (column : Nat) : String :=
  match values[column]? with
  | none | some .null => ""
  | some (.string text) => text
  | some value => value.text

theorem textAt_eq_cellText (values : List Json.Value) (column : Nat) :
    textAt values column = (values.getD column .null).cellText := by
  rw [textAt, List.getD_eq_getElem?_getD]
  cases values[column]? with
  | none => rfl
  | some value => cases value <;> rfl

/-- A row of so many cells that values fill, with a sanitizer for those of the HTML
columns. The key of the row is the first text, which no sanitizer sees. -/
structure Row.FilledBy (sanitize : String → String) (columns : Nat) (htmlColumns : HtmlColumns)
    (values : List Json.Value) (row : Row) : Prop where
  key : row.key = textAt values 0
  width : row.cells.length = columns
  isHtml : ∀ column, (inside : column < row.cells.length) →
    ((∃ fragment, row.cells[column] = .html fragment) ↔ column ∈ htmlColumns.indices)
  html : ∀ column, (inside : column < row.cells.length) →
    ∀ fragment, row.cells[column] = .html fragment → fragment = sanitize (textAt values column)
  text : ∀ column, (inside : column < row.cells.length) →
    ∀ shown, row.cells[column] = .text shown → shown = textAt values column

theorem Row.getElem_cells_build (sanitize : String → String) {columns : Nat} {htmlColumns : HtmlColumns}
    {values : List Json.Value} {column : Nat}
    (inside : column < (build values columns htmlColumns (some sanitize)).cells.length) :
    (build values columns htmlColumns (some sanitize)).cells[column] =
      if column ∈ htmlColumns.indices then .html (sanitize (textAt values column))
      else .text (textAt values column) := by
  simp only [build, clean, mapHtml, verbatim, List.getElem_map, List.getElem_range, cellOf, HtmlColumns.contains,
    textAt_eq_cellText]
  by_cases listed : column ∈ htmlColumns.indices <;> simp [listed]

theorem Row.build_filledBy (sanitize : String → String) (columns : Nat) (htmlColumns : HtmlColumns)
    (values : List Json.Value) :
    (build values columns htmlColumns (some sanitize)).FilledBy sanitize columns htmlColumns values where
  key := (textAt_eq_cellText values 0).symm
  width := by simp [build, clean, mapHtml, verbatim]
  isHtml column inside := by
    rw [getElem_cells_build sanitize inside]
    split <;> simp_all
  html column inside fragment same := by
    rw [getElem_cells_build sanitize inside] at same
    split at same <;> cases same
    rfl
  text column inside shown same := by
    rw [getElem_cells_build sanitize inside] at same
    split at same <;> cases same
    rfl

def Operation.payload : Operation → String
  | upsert payload | remove payload | apply _ payload | named _ payload => payload
  | connecting | opened | close | reset | removeNamed _ | placeRow _ => ""

/-- The payloads that last placed the rows, after an outcome, given the payload of the
operation that it is of. -/
def Outcome.follow (payload : String) (origins : List String) : Outcome → List String
  | inserted index | appended index => origins.insertIdx index payload
  | replaced index => origins.set index payload
  | removed index => origins.eraseIdx index
  | cleared _ => []
  | notFound | dropped => origins

/-- The payloads that last placed the rows, after each of some operations. -/
def originsAlong : List (String × Option Outcome) → List String → List (List String)
  | [], _ => []
  | (payload, outcome?) :: rest, origins =>
    let next := (outcome?.map (·.follow payload origins)).getD origins
    next :: originsAlong rest next

namespace Operation

variable {sanitize : String → String} {synchronizer : Synchronizer}

/-- A row that a payload brought, as the synchronizer fills it. -/
def Filled (sanitize : String → String) (synchronizer : Synchronizer) (entry : Entry) (payload : String) : Prop :=
  ∃ values, upsertValues payload = .ok values ∧
    entry.row.FilledBy sanitize synchronizer.columns synchronizer.settings.htmlColumns values

theorem payload_of_event {operation : Operation} {settings : Settings} {kind : EventKind} {payload : String}
    (event : operation.event? settings = some (kind, payload)) : operation.payload = payload := by
  cases operation with
  | connecting | opened | close | removeNamed _ | placeRow _ => cases event
  | upsert _ | remove _ | reset | apply _ _ => cases event; rfl
  | named _ _ =>
    obtain ⟨_, _, same⟩ := Option.map_eq_some_iff.mp event
    cases same
    rfl

/-- A row that is asked for, and not by a call, is built from the payload. -/
theorem filled_of_edit? {operation : Operation} {row : Row} (byPayload : operation ≠ .placeRow row)
    (asked : operation.edit? (some sanitize) synchronizer = some (.place row)) :
    Filled sanitize synchronizer ⟨row, none⟩ operation.payload := by
  rcases operation.cases_event synchronizer with quiet | ⟨kind, payload, event⟩ | ⟨target, rfl⟩ | ⟨other, rfl⟩
  · rw [edit?_of_isQuiet quiet] at asked
    cases asked
  · rw [edit?_of_event event] at asked
    rw [payload_of_event event]
    cases kind with
    | upsert =>
      obtain ⟨built, described, same⟩ := Option.map_eq_some_iff.mp asked
      cases same
      simp only [Synchronizer.row?] at described
      split at described
      · cases described
      next values decoded =>
        cases described
        exact ⟨values, decoded, Row.build_filledBy sanitize _ _ values⟩
    | remove =>
      obtain ⟨_, _, same⟩ := Option.map_eq_some_iff.mp asked
      cases same
    | reset => cases asked
  · cases asked
  · cases asked
    exact False.elim (byPayload rfl)

theorem filled_result {entries : List Entry} {origins : List String} {operation : Operation} {edit : Edit}
    (byPayload : ∀ row, operation ≠ .placeRow row)
    (asked : operation.edit? (some sanitize) synchronizer = some edit)
    (filled : List.Forall₂ (Filled sanitize synchronizer) entries origins) :
    List.Forall₂ (Filled sanitize synchronizer) (edit.result entries)
      ((edit.outcome entries).follow operation.payload origins) := by
  cases edit with
  | place row =>
    have new := filled_of_edit? (byPayload row) asked
    simp only [Edit.result, Edit.outcome, Entry.place]
    cases Entry.placement row entries with
    | replace index => exact forall₂_set index filled new
    | insert index => exact forall₂_insertIdx index filled new
    | append => exact forall₂_insertIdx entries.length filled new
  | remove target =>
    simp only [Edit.result, Edit.outcome]
    cases entries.findIdx? (Entry.answersTo target) with
    | none => exact filled
    | some index => exact forall₂_eraseIdx index filled
  | reset => exact .nil

theorem filled_run (synchronizer : Synchronizer) (operations : List Operation)
    (byPayload : ∀ row, .placeRow row ∉ operations) {entries : List Entry} {origins : List String}
    (filled : List.Forall₂ (Filled sanitize synchronizer) entries origins) :
    let steps := run (memoryHost (some sanitize)) synchronizer entries operations
    List.Forall₂ (fun step origins => List.Forall₂ (Filled sanitize synchronizer) step.store origins) steps
      (originsAlong ((operations.map payload).zip (steps.map (·.outcome))) origins) := by
  induction operations generalizing synchronizer entries origins with
  | nil => exact .nil
  | cons operation rest ih =>
    have direct : ∀ row, operation ≠ .placeRow row := fun row same => byPayload row (same ▸ List.mem_cons_self)
    have later : ∀ row, .placeRow row ∉ rest := fun row member => byPayload row (List.mem_cons_of_mem _ member)
    simp only [run, List.map_cons, List.zip_cons_cons, originsAlong]
    obtain ⟨phase, entered, -⟩ := operation.perform_enters synchronizer (memoryHost (some sanitize)) entries
    have left := operation.leaves (some sanitize) synchronizer entries
    generalize operation.perform (memoryHost (some sanitize)) synchronizer entries = step at left entered ⊢
    have next : List.Forall₂ (Filled sanitize synchronizer) step.store
        ((step.outcome.map (·.follow operation.payload origins)).getD origins) := by
      cases left with
      | quiet | dropped => exact filled
      | edited _ _ edit asked => exact filled_result direct asked filled
    refine .cons next ?_
    rw [entered]
    exact ih (synchronizer.enter phase) later next

/-- However events place, replace and remove rows, every row is filled from the payload
that last placed it: an HTML cell holds what the sanitizer made of the value, a text cell
the value itself, and the key is the first value as it was sent. -/
theorem run_sanitized (sanitize : String → String) (synchronizer : Synchronizer) (operations : List Operation)
    (byPayload : ∀ row, .placeRow row ∉ operations) :
    let steps := run (memoryHost (some sanitize)) synchronizer [] operations
    List.Forall₂
      (fun step origins => List.Forall₂
        (fun entry payload => ∃ values, upsertValues payload = .ok values ∧
          entry.row.FilledBy sanitize synchronizer.columns synchronizer.settings.htmlColumns values)
        step.store origins)
      steps (originsAlong ((operations.map payload).zip (steps.map (·.outcome))) []) :=
  filled_run synchronizer operations byPayload .nil

/-- The second payload is another spelling of the first key, and of its values one is
missing; the HTML columns go beyond the row. -/
def visitorsRun : List Operation :=
  [.upsert "[\"<b>Ann</b><script>\", \"<script>\", 7]", .named "connect" "[\"ANN\", null]",
    .apply .upsert "[\"Bob<script>\"]", .upsert "\"Bob\"", .removeNamed "ann"]

theorem run_sanitized_visitors :
    let sanitize := Sanitizer.replacing "<script>" ""
    let synchronizer : Synchronizer := ⟨3, { htmlColumns := .ofList [9, 2, 0, 2] }, .connecting⟩
    let steps := run (memoryHost (some sanitize)) synchronizer [] visitorsRun
    let origins := originsAlong ((visitorsRun.map payload).zip (steps.map (·.outcome))) []
    (∀ row, .placeRow row ∉ visitorsRun) ∧
      origins = [["[\"<b>Ann</b><script>\", \"<script>\", 7]"], ["[\"ANN\", null]"],
        ["[\"ANN\", null]", "[\"Bob<script>\"]"], ["[\"ANN\", null]", "[\"Bob<script>\"]"], ["[\"Bob<script>\"]"]] ∧
      List.Forall₂
        (fun step origins => List.Forall₂
          (fun entry payload => ∃ values, upsertValues payload = .ok values ∧
            entry.row.FilledBy sanitize 3 (.ofList [9, 2, 0, 2]) values)
          step.store origins)
        steps origins := by
  intro sanitize synchronizer steps origins
  have byPayload : ∀ row, .placeRow row ∉ visitorsRun := by simp [visitorsRun]
  exact ⟨byPayload, by decide +kernel, run_sanitized sanitize synchronizer visitorsRun byPayload⟩

end Operation

end StreamTable
