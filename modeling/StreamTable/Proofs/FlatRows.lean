import StreamTable.Proofs.RenderedKeys

/-! The rows of a table as one list, whichever bodies they are in. Each edit of a row is
made in the body of that row and is the same edit of the list; a row after all others
goes into the last body. No body comes or goes, and no other row leaves its body. -/

namespace StreamTable.Page

namespace Bodies

variable {α : Type} {bodies front back : List (List α)} {body : List α} {index place : Nat}

/-- Where the row of an index is: in a body, at a place, with bodies before and after. -/
structure Located (bodies : List (List α)) (index : Nat) (front : List (List α)) (body : List α)
    (back : List (List α)) (place : Nat) : Prop where
  split : bodies = front ++ body :: back
  inside : place < body.length
  index : index = front.flatten.length + place

theorem exists_located (inside : index < bodies.flatten.length) :
    ∃ front body back place, Located bodies index front body back place := by
  induction bodies generalizing index with
  | nil => simp at inside
  | cons first rest ih =>
    rw [List.flatten_cons, List.length_append] at inside
    cases Nat.lt_or_ge index first.length with
    | inl here => exact ⟨[], first, rest, index, rfl, here, by simp⟩
    | inr later =>
      obtain ⟨left, rfl⟩ := Nat.exists_eq_add_of_le later
      obtain ⟨front, body, back, place, split, inBody, same⟩ := ih (Nat.lt_of_add_lt_add_left inside)
      refine ⟨first :: front, body, back, place, by rw [split, List.cons_append], inBody, ?_⟩
      rw [List.flatten_cons, List.length_append, Nat.add_assoc, same]

theorem Located.edit? (located : Located bodies index front body back place) (change : List α → Nat → List α) :
    Bodies.edit? change bodies index = some (front ++ change body place :: back) := by
  obtain ⟨rfl, inside, rfl⟩ := located
  induction front with
  | nil => simp [Bodies.edit?, inside]
  | cons first front ih =>
    have later : ¬ (first :: front).flatten.length + place < first.length := by
      rw [List.flatten_cons, List.length_append]
      omega
    have rest : (first :: front).flatten.length + place - first.length = front.flatten.length + place := by
      rw [List.flatten_cons, List.length_append]
      omega
    simp only [List.cons_append, Bodies.edit?, later, ite_false, rest, ih, Option.map_some]

theorem append_concat (row : α) (front : List (List α)) (last : List α) :
    append row (front ++ [last]) = front ++ [last ++ [row]] := by
  induction front with
  | nil => rfl
  | cons first front ih =>
    cases front with
    | nil => rfl
    | cons next front => exact congrArg (first :: ·) ih

end Bodies

namespace TableRows

variable {rows : TableRows} {page : Page}

/-- What became of a page whose table has these rows, in these bodies, now: it differs in
nothing else, and there is nothing to record. -/
structure Becomes (rows : TableRows) (page : Page) (flat : List PageRow) (bodies : List (List PageRow))
    (result : Page × List Record) : Prop where
  flat : result.1.rowsOf rows.id = flat
  table : result.1.table? rows.id = (page.table? rows.id).map fun table => { table with bodies }
  others : ∀ id, id ≠ rows.id → result.1.table? id = page.table? id
  rest : { result.1 with elements := page.elements } = page
  silent : result.2 = []

theorem becomes_setBodies (present : (page.table? rows.id).isSome) {flat : List PageRow}
    {bodies : List (List PageRow)} (same : bodies.flatten = flat) :
    rows.Becomes page flat bodies (rows.setBodies bodies page, []) where
  flat := (rowsOf_setBodies present bodies).trans same
  table := table?_modifyTable page rows.id _
  others _ different := table?_modifyTable_of_ne page different _
  rest := rfl
  silent := rfl

/-- The operations of a list of rows, as a table has them. The list is that of the rows
of all bodies in order. -/
structure ListsRows (rows : TableRows) (page : Page) : Prop where
  length : rows.length page = (page.rowsOf rows.id).length
  renders : ∀ row, rows.render row = .ok (rows.rendered row)
  shown : ∀ index (inside : index < (page.rowsOf rows.id).length),
    (rows.labelAt index page).shown = (page.rowsOf rows.id)[index].text page.reads true
  sortKey : ∀ index (inside : index < (page.rowsOf rows.id).length),
    (rows.labelAt index page).sortKey =
      (page.rowsOf rows.id)[index].firstCell?.bind fun cell => cell.data.lookup rows.sortKeyAttribute
  insert : ∀ index row, index < (page.rowsOf rows.id).length →
    ∃ front body back place, Bodies.Located (rows.bodies page) index front body back place ∧
      rows.Becomes page ((page.rowsOf rows.id).insertIdx index (rows.rendered row))
        (front ++ body.insertIdx place (rows.rendered row) :: back) (rows.insert index row page)
  append : ∀ row, ∃ front last, rows.bodies page = front ++ [last] ∧
    rows.Becomes page (page.rowsOf rows.id ++ [rows.rendered row]) (front ++ [last ++ [rows.rendered row]])
      (rows.insert (page.rowsOf rows.id).length row page)
  replace : ∀ index row, index < (page.rowsOf rows.id).length →
    ∃ front body back place, Bodies.Located (rows.bodies page) index front body back place ∧
      rows.Becomes page ((page.rowsOf rows.id).set index (rows.rendered row))
        (front ++ body.set place (rows.rendered row) :: back) (rows.replace index row page)
  remove : ∀ index, index < (page.rowsOf rows.id).length →
    ∃ front body back place, Bodies.Located (rows.bodies page) index front body back place ∧
      rows.Becomes page ((page.rowsOf rows.id).eraseIdx index) (front ++ body.eraseIdx place :: back)
        (rows.remove index page)
  clear : rows.Becomes page [] ((rows.bodies page).map fun _ => []) (rows.clear page, [])

theorem sortKey_label (pageRow : PageRow) :
    (rows.label page pageRow).sortKey =
      pageRow.firstCell?.bind fun cell => cell.data.lookup rows.sortKeyAttribute := by
  simp only [label]
  cases pageRow.firstCell? <;> rfl

theorem labelAt_eq {index : Nat} (inside : index < (page.rowsOf rows.id).length) :
    rows.labelAt index page = rows.label page (page.rowsOf rows.id)[index] :=
  labelAt_of_rowsOf (List.getElem?_eq_getElem inside)

theorem present_of_bodied (bodied : rows.bodies page ≠ []) : (page.table? rows.id).isSome := by
  cases found : page.table? rows.id with
  | none => exact absurd (by simp [bodies, found]) bodied
  | some table => rfl

/-- An edit of the body of a row is the same edit of the list. -/
theorem exists_edited {change : List PageRow → Nat → List PageRow} (isLocal : Bodies.IsLocal change) {index : Nat}
    (inside : index < (page.rowsOf rows.id).length) :
    ∃ front body back place, Bodies.Located (rows.bodies page) index front body back place ∧
      Bodies.edit? change (rows.bodies page) index = some (front ++ change body place :: back) ∧
      (front ++ change body place :: back).flatten = change (page.rowsOf rows.id) index := by
  obtain ⟨front, body, back, place, located⟩ : ∃ front body back place,
      Bodies.Located (rows.bodies page) index front body back place := Bodies.exists_located inside
  have done := located.edit? change
  exact ⟨front, body, back, place, located, done, Bodies.edited_flatten isLocal done⟩

/-- A table with a body lists its rows, if the page accepts the name of the identity entry. -/
theorem lists_rows (rows : TableRows) (page : Page) (bodied : rows.bodies page ≠ [])
    (accepted : Dataset.nameError? rows.identityAttribute = none) : rows.ListsRows page := by
  have present := present_of_bodied bodied
  have room := bodyError?_of_ne_nil page bodied
  refine ⟨length_eq page, render_eq accepted, fun index inside => ?_, fun index inside => ?_,
    fun index row inside => ?_, fun row => ?_, fun index row inside => ?_, fun index inside => ?_,
    becomes_setBodies present (Bodies.flatten_clear _)⟩
  · rw [labelAt_eq inside]
    exact shown_label _
  · rw [labelAt_eq inside]
    exact sortKey_label _
  · obtain ⟨front, body, back, place, located, done, flat⟩ :=
      exists_edited (Bodies.isLocal_insertIdx (rows.rendered row)) inside
    refine ⟨front, body, back, place, located, ?_⟩
    rw [insert_eq room accepted, Bodies.insert, done]
    exact becomes_setBodies present flat
  · obtain ⟨front, last, split⟩ := (List.eq_nil_or_concat (rows.bodies page)).resolve_left bodied
    rw [List.concat_eq_append] at split
    refine ⟨front, last, split, ?_⟩
    have after : Bodies.edit? (fun body place => body.insertIdx place (rows.rendered row)) (rows.bodies page)
        (page.rowsOf rows.id).length = none := Bodies.edit?_eq_none _ (Nat.le_refl _)
    rw [insert_eq room accepted, Bodies.insert, after, Option.getD_none, split, Bodies.append_concat]
    refine becomes_setBodies present ?_
    rw [← Bodies.append_concat, ← split]
    exact Bodies.flatten_append _ _
  · obtain ⟨front, body, back, place, located, done, flat⟩ :=
      exists_edited (Bodies.isLocal_set (rows.rendered row)) inside
    obtain ⟨edited, found, replaced⟩ := replace_eq accepted row (length_eq page ▸ inside)
    cases found.symm.trans done
    refine ⟨front, body, back, place, located, ?_⟩
    rw [replaced]
    exact becomes_setBodies present flat
  · obtain ⟨front, body, back, place, located, done, flat⟩ := exists_edited Bodies.isLocal_eraseIdx inside
    refine ⟨front, body, back, place, located, ?_⟩
    simp only [remove, Bodies.remove?, done]
    exact becomes_setBodies present flat

/-- A table with rows in two bodies and empty ones before, between and after them. -/
def spreadPage : Page where
  elements := [("clients", .table { bodies := [
    [], [⟨[{ content := .text "Ann", data := [("sortKey", "a-1")] }], []⟩], [],
    [⟨[{ content := .html "<i>Zoe</i>" }], [("key", "zoe")]⟩], []] })]

/-- A row before the first of a body goes into that body, and a row after all others into
the last one, which is empty. -/
theorem lists_rows_spread :
    let rows : TableRows := .ofSettings "clients" {}
    let bob : Row := ⟨"bob", [.text "Bob"]⟩
    rows.bodies spreadPage ≠ [] ∧ Dataset.nameError? rows.identityAttribute = none ∧
      (rows.bodies (rows.insert 1 bob spreadPage).1).map (·.length) = [0, 1, 0, 2, 0] ∧
      (rows.bodies (rows.insert 2 bob spreadPage).1).map (·.length) = [0, 1, 0, 1, 1] ∧
      (rows.bodies (rows.remove 1 spreadPage).1).map (·.length) = [0, 1, 0, 0, 0] ∧ rows.ListsRows spreadPage := by
  intro rows bob
  have bodied : rows.bodies spreadPage ≠ [] := by decide +kernel
  have accepted : Dataset.nameError? rows.identityAttribute = none := by decide +kernel
  exact ⟨bodied, accepted, by decide +kernel, by decide +kernel, by decide +kernel,
    lists_rows rows spreadPage bodied accepted⟩

end TableRows

end StreamTable.Page
