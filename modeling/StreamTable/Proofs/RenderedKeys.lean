import StreamTable.Proofs.HostEdits
import StreamTable.Proofs.TableEdits

/-! The key of a row is read off its rendering before that is put into the table. A cell
may read in another way there than on the page, which need not show all the text of
markup and may show an assigned text with other blanks, so the key is what the row will
show only if its first cell shows all its text or none. Then a row that is brought again
finds itself. -/

namespace StreamTable.Page

def PageRow.text (reads : Content → Reading) (inTable : Bool) (row : PageRow) : String :=
  (row.firstCell?.map (PageCell.text reads inTable)).getD ""

/-- Content that shows all the text in it or none. -/
def Content.ShowsItsText (reads : Content → Reading) (content : Content) : Prop :=
  (reads content).shown = (reads content).content ∨ (reads content).shown = ""

/-- A row whose first cell shows all the text in it or none. -/
def ShowsItsText (reads : Content → Reading) (row : Row) : Prop :=
  ∀ cell ∈ row.cells.head?, (PageCell.ofCell cell).content.ShowsItsText reads

/-- Off the table a cell reads as the text in it, which in the table stands in for a
shown text that is empty. -/
theorem PageCell.text_eq_iff (reads : Content → Reading) (cell : PageCell) :
    cell.text reads true = cell.text reads false ↔ cell.content.ShowsItsText reads := by
  by_cases hidden : (reads cell.content).shown = "" <;> simp [PageCell.text, Content.ShowsItsText, hidden]

namespace TableRows

variable {rows : TableRows} {page : Page} {row : Row}

theorem text_rendered_eq_iff (reads : Content → Reading) (row : Row) :
    (rows.rendered row).text reads true = (rows.rendered row).text reads false ↔ ShowsItsText reads row := by
  cases cells : row.cells with
  | nil => simp [PageRow.text, PageRow.firstCell?, rendered, ShowsItsText, cells]
  | cons cell rest =>
    have first := PageCell.text_eq_iff reads (PageCell.ofCell cell)
    simpa [PageRow.text, PageRow.firstCell?, rendered, ShowsItsText, cells] using first

theorem keyOf_rendered (accepted : Dataset.nameError? rows.identityAttribute = none) :
    rows.keyOf row page = ((rows.rendered row).text page.reads false, []) := by
  simp only [keyOf, render_eq accepted, PageRow.text]
  cases (rows.rendered row).firstCell? <;> rfl

theorem shown_label (pageRow : PageRow) :
    (rows.label page pageRow).shown = pageRow.text page.reads true := by
  simp only [label, PageRow.text]
  cases pageRow.firstCell? <;> rfl

theorem length_eq (page : Page) : rows.length page = (page.rowsOf rows.id).length :=
  Bodies.length_eq _

theorem shown_labels (page : Page) :
    (rows.labels page).map (·.shown) = (page.rowsOf rows.id).map (PageRow.text page.reads true) := by
  rw [labels_eq, List.map_map]
  exact List.map_congr_left fun pageRow _ => shown_label pageRow

theorem labelAt_of_rowsOf {index : Nat} {pageRow : PageRow} (found : (page.rowsOf rows.id)[index]? = some pageRow) :
    rows.labelAt index page = rows.label page pageRow := by
  have here : Bodies.row? (rows.bodies page) index = some pageRow := by rw [Bodies.row?_eq]; exact found
  rw [labelAt, here, Option.map_some, Option.getD_some]

theorem labels_length (page : Page) : (rows.labels page).length = (page.rowsOf rows.id).length := by
  rw [← length_eq, labels, List.length_map, List.length_range]

/-- The place of a row is found by its text off the table among the texts in it. -/
theorem placement_eq (accepted : Dataset.nameError? rows.identityAttribute = none) (page : Page)
    (sanitizer : Option (String → String)) :
    (rows.host sanitizer).placement row page =
      Placement.among ((rows.rendered row).text page.reads false)
        ((page.rowsOf rows.id).map (PageRow.text page.reads true)) := by
  rw [← shown_labels]
  exact congrArg (fun key => Placement.among key.1 _) (keyOf_rendered accepted)

theorem put_eq (room : page.bodyError? (rows.bodies page) = none)
    (accepted : Dataset.nameError? rows.identityAttribute = none) (row : Row) (sanitizer : Option (String → String))
    {placement : Placement} (fits : placement.Fits (rows.length page)) :
    ∃ bodies, ((rows.host sanitizer).put row (rows.length page) page placement).1 = rows.setBodies bodies page ∧
      bodies.flatten = placement.put (rows.rendered row) (page.rowsOf rows.id) := by
  cases placement with
  | replace index =>
    obtain ⟨edited, found, done⟩ := replace_eq accepted row fits
    exact ⟨edited, congrArg Prod.fst done, Bodies.edited_flatten (Bodies.isLocal_set _) found⟩
  | insert index =>
    exact ⟨_, congrArg Prod.fst (insert_eq room accepted index), Bodies.flatten_insert _ (rows.length_eq page ▸ fits)⟩
  | append =>
    refine ⟨_, congrArg Prod.fst (insert_eq room accepted (rows.length page)), ?_⟩
    rw [length_eq]
    exact Bodies.flatten_insert _ (Nat.le_refl _)

/-- A row shows its key once it is at its place if and only if it shows its text. -/
theorem shown_put_iff (present : (page.table? rows.id).isSome) (room : page.bodyError? (rows.bodies page) = none)
    (accepted : Dataset.nameError? rows.identityAttribute = none) (sanitizer : Option (String → String))
    (placement : Placement) (fits : placement.Fits (rows.length page)) :
    (rows.labelAt (placement.index (rows.length page))
        ((rows.host sanitizer).put row (rows.length page) page placement).1).shown = (rows.keyOf row page).1 ↔
      ShowsItsText page.reads row := by
  obtain ⟨bodies, done, flat⟩ := put_eq room accepted row sanitizer fits
  have here : bodies.flatten[placement.index (rows.length page)]? = some (rows.rendered row) := by
    rw [length_eq] at fits ⊢
    rw [flat]
    exact Placement.getElem?_put _ fits
  rw [done, labelAt_of_rowsOf (by rw [rowsOf_setBodies present]; exact here), shown_label, keyOf_rendered accepted]
  exact text_rendered_eq_iff page.reads row

theorem replace_self (present : (page.table? rows.id).isSome)
    (accepted : Dataset.nameError? rows.identityAttribute = none) {bodies : List (List PageRow)} {index : Nat}
    (found : bodies.flatten[index]? = some (rows.rendered row)) :
    (rows.replace index row (rows.setBodies bodies page)).1 = rows.setBodies bodies page := by
  have inside : index < rows.length (rows.setBodies bodies page) := by
    rw [length_eq, rowsOf_setBodies present]
    exact (List.getElem?_eq_some_iff.mp found).1
  obtain ⟨edited, replaced, done⟩ := replace_eq accepted row inside
  rw [bodies_setBodies present, Bodies.replace?_of_row? (by rw [Bodies.row?_eq]; exact found)] at replaced
  cases replaced
  rw [done, setBodies_setBodies]

/-- What became of a row that was put at its place, and of the same row brought again. -/
structure FoundAgain (first again : Effect Page) : Prop where
  placed : ∃ index, (first.outcome = .inserted index ∨ first.outcome = .appended index ∨
    first.outcome = .replaced index) ∧ again.outcome = .replaced index
  kept : again.store = first.store

/-- Once a row that shows its text is at its place, that is the place of its key. -/
theorem placement_put (present : (page.table? rows.id).isSome)
    (accepted : Dataset.nameError? rows.identityAttribute = none) (reads : ShowsItsText page.reads row)
    (sanitizer : Option (String → String)) {bodies : List (List PageRow)}
    (flat : bodies.flatten =
      ((rows.host sanitizer).placement row page).put (rows.rendered row) (page.rowsOf rows.id)) :
    (rows.host sanitizer).placement row (rows.setBodies bodies page) =
      .replace (((rows.host sanitizer).placement row page).index (page.rowsOf rows.id).length) := by
  let key := (rows.rendered row).text page.reads false
  let shown := (page.rowsOf rows.id).map (PageRow.text page.reads true)
  have length : shown.length = (page.rowsOf rows.id).length := List.length_map _
  have place : (rows.host sanitizer).placement row page = Placement.among key shown :=
    placement_eq accepted page sanitizer
  have again : ((rows.setBodies bodies page).rowsOf rows.id).map (PageRow.text page.reads true) =
      (Placement.among key shown).put key shown := by
    rw [rowsOf_setBodies present, flat, place, Placement.map_put,
      (text_rendered_eq_iff page.reads row).mpr reads]
  rw [place, ← length, ← Placement.among_put key shown, ← again]
  exact placement_eq accepted (rows.setBodies bodies page) sanitizer

theorem foundAgain (present : (page.table? rows.id).isSome) (room : page.bodyError? (rows.bodies page) = none)
    (accepted : Dataset.nameError? rows.identityAttribute = none) (reads : ShowsItsText page.reads row)
    (sanitizer : Option (String → String)) {synchronizer : Synchronizer} (active : synchronizer.phase ≠ .closed) :
    let first := synchronizer.placeRow (rows.host sanitizer) row page
    FoundAgain first (first.synchronizer.placeRow (rows.host sanitizer) row first.store) := by
  intro first
  let place := (rows.host sanitizer).placement row page
  have count : ((rows.host sanitizer).labels page).length = (page.rowsOf rows.id).length := labels_length page
  have fits : place.Fits (page.rowsOf rows.id).length := count ▸ (rows.host sanitizer).placement_fits row page
  obtain ⟨bodies, put, flat⟩ := put_eq room accepted row sanitizer (length_eq page ▸ fits)
  obtain ⟨records, placed⟩ := Synchronizer.placeRow_active (rows.host sanitizer) page active row
  rw [count, ← length_eq, put] at placed
  obtain ⟨later, replaced⟩ :=
    Synchronizer.placeRow_active (rows.host sanitizer) (rows.setBodies bodies page) synchronizer.active_enter_live row
  rw [placement_put present accepted reads sanitizer flat] at replaced
  have itself : bodies.flatten[place.index (page.rowsOf rows.id).length]? = some (rows.rendered row) := by
    rw [flat]
    exact Placement.getElem?_put _ fits
  simp only [first, placed]
  refine ⟨⟨place.index (page.rowsOf rows.id).length, ?_, by rw [replaced]; rfl⟩, ?_⟩
  · rw [← length_eq]
    exact place.outcome_eq (rows.length page)
  · rw [replaced]
    exact replace_self present accepted itself

/-- The key that is read off a row before it is placed is what it shows afterwards,
wherever it is put, if and only if its first cell shows its text; and then the same row
brought again replaces itself and changes nothing. -/
theorem shown_eq_keyOf_iff (rows : TableRows) (page : Page) (row : Row) (pageRow : PageRow)
    (present : (page.table? rows.id).isSome) (room : page.bodyError? (rows.bodies page) = none)
    (renders : rows.render row = .ok pageRow) :
    (∀ index ≤ rows.length page,
        (rows.labelAt index (rows.insert index row page).1).shown = (rows.keyOf row page).1 ↔
          ShowsItsText page.reads row) ∧
      (∀ index < rows.length page,
        (rows.labelAt index (rows.replace index row page).1).shown = (rows.keyOf row page).1 ↔
          ShowsItsText page.reads row) ∧
      (ShowsItsText page.reads row →
        ∀ (sanitizer : Option (String → String)) (synchronizer : Synchronizer), synchronizer.phase ≠ .closed →
          let first := synchronizer.placeRow (rows.host sanitizer) row page
          FoundAgain first (first.synchronizer.placeRow (rows.host sanitizer) row first.store)) := by
  have accepted := nameError?_of_render renders
  refine ⟨fun index inside => ?_, fun index inside => ?_, fun reads sanitizer synchronizer active => ?_⟩
  · exact shown_put_iff present room accepted none (.insert index) inside
  · exact shown_put_iff present room accepted none (.replace index) inside
  · exact foundAgain present room accepted reads sanitizer active

/-- Markup of which the page shows nothing reads as its text on the page too. -/
theorem shown_eq_keyOf_iff_unshown :
    let rows : TableRows := .ofSettings "clients" {}
    let row : Row := ⟨"bob", [.html "<b>Bob</b>", .text "7"]⟩
    (clientsPage.table? rows.id).isSome ∧ clientsPage.bodyError? (rows.bodies clientsPage) = none ∧
      rows.render row = .ok (rows.rendered row) ∧
      ShowsItsText clientsPage.reads row ∧
      (rows.labelAt 1 (rows.insert 1 row clientsPage).1).shown = (rows.keyOf row clientsPage).1 ∧
      (rows.labelAt 2 (rows.replace 2 row clientsPage).1).shown = (rows.keyOf row clientsPage).1 ∧
      let first := Synchronizer.placeRow (rows.host none) row ⟨2, {}, .live⟩ clientsPage
      FoundAgain first (first.synchronizer.placeRow (rows.host none) row first.store) := by
  intro rows row
  have present : (clientsPage.table? rows.id).isSome := by decide +kernel
  have room : clientsPage.bodyError? (rows.bodies clientsPage) = none := by decide +kernel
  have renders : rows.render row = .ok (rows.rendered row) := render_eq (by decide +kernel) row
  have reads : ShowsItsText clientsPage.reads row := by
    intro cell first
    cases first
    exact Or.inr (by decide +kernel)
  have ⟨inserted, replaced, found⟩ := shown_eq_keyOf_iff rows clientsPage row _ present room renders
  exact ⟨present, room, renders, reads, (inserted 1 (by decide +kernel)).mpr reads, (replaced 2 (by decide +kernel)).mpr reads,
    found reads none ⟨2, {}, .live⟩ (by decide)⟩

/-- A table whose page does not show all the text in a cell. -/
def hidingPage : Page where
  elements := [("clients", .table { bodies := [[]] })]
  rendering fragment := if fragment = "<b>bob</b><i hidden>1</i>" then ⟨"bob", "bob1"⟩ else ⟨fragment, fragment⟩
  shownText text := if text = "two  words" then "two words" else text

/-- A row whose first cell hides some of its text does not show its key, so it is not
found when it is brought again. Nor is a text its key that is shown with fewer blanks. -/
theorem hidden_text_unfound :
    let rows : TableRows := .ofSettings "clients" {}
    let row : Row := ⟨"bob", [.html "<b>bob</b><i hidden>1</i>"]⟩
    let spaced : Row := ⟨"two  words", [.text "two  words"]⟩
    let first := Synchronizer.placeRow (rows.host none) row ⟨1, {}, .live⟩ hidingPage
    let again := first.synchronizer.placeRow (rows.host none) row first.store
    rows.render row = .ok (rows.rendered row) ∧ rows.length hidingPage = 0 ∧
      (rows.keyOf row hidingPage).1 = "bob1" ∧ (rows.labelAt 0 (rows.insert 0 row hidingPage).1).shown = "bob" ∧
      first.outcome = .appended 0 ∧ again.outcome = .appended 1 ∧ (rows.keyOf spaced hidingPage).1 = "two  words" ∧
      (rows.labelAt 0 (rows.insert 0 spaced hidingPage).1).shown = "two words" := by
  refine ⟨render_eq (by decide +kernel) _, ?_, ?_, ?_, ?_, ?_, ?_, ?_⟩ <;> decide +kernel

end TableRows

end StreamTable.Page
