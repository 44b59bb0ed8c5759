import StreamTable.Page.TableRows
import StreamTable.Proofs.FlatBodies
import StreamTable.Proofs.HostAgreement
import StreamTable.Proofs.MarkedText
import StreamTable.Proofs.RowChanges

/-! A table on a page mirrors rows in memory. What counts of a row is its label, and a
page reads the label of a rendered row as the row was given, provided that it accepts
the name of the identity entry and that markup reads as its text. A text that was
assigned is then shown as it is, like the markup that spells it. -/

namespace StreamTable.Page

theorem table?_modifyTable (page : Page) (id : String) (change : PageTable → PageTable) :
    (page.modifyTable id change).table? id = (page.table? id).map change := by
  simp only [table?, modifyTable]
  induction page.elements with
  | nil => rfl
  | cons first rest ih =>
    obtain ⟨other, element⟩ := first
    by_cases same : id = other
    · subst other
      cases element <;> simp
    · have different : (id == other) = false := by simp [same]
      cases element <;> simpa only [List.map_cons, List.lookup_cons, different] using ih

/-- Content that a cell shows as this text, on the page or off it. -/
def Content.ReadsAs (reads : Content → Reading) (content : Content) (text : String) : Prop :=
  ∀ inTable, PageCell.text reads inTable { content } = text

/-- A page on which every fragment of markup reads as its text. -/
def ReadsMarkup (page : Page) : Prop :=
  ∀ fragment, Content.ReadsAs page.reads (.html fragment) (Markup.textContent fragment)

/-- A page that reads a text that was assigned like the markup that spells it. -/
def SpellsText (page : Page) (text : String) : Prop :=
  page.reads (.text text) = page.reads (.html (Markup.escaped text))

instance (page : Page) (text : String) : Decidable (page.SpellsText text) := inferInstanceAs (Decidable (_ = _))

def PageCell.ofCell : Cell → PageCell
  | .text text => { content := .text text }
  | .html fragment => { content := .html fragment }

/-- A row of which every cell reads as its text. -/
def Readable (reads : Content → Reading) (row : Row) : Prop :=
  ∀ cell ∈ row.cells, (PageCell.ofCell cell).content.ReadsAs reads cell.textContent

theorem ReadsMarkup.readable {page : Page} (readsMarkup : page.ReadsMarkup) {row : Row}
    (spells : ∀ text, .text text ∈ row.cells → page.SpellsText text) : Readable page.reads row := by
  intro cell member
  cases cell with
  | html fragment => exact readsMarkup fragment
  | text text =>
    intro inTable
    have spelled := readsMarkup (Markup.escaped text) inTable
    rw [Markup.textContent_escaped] at spelled
    have same : page.reads (.text text) = page.reads (.html (Markup.escaped text)) := spells text member
    simp only [PageCell.text, PageCell.ofCell, same]
    exact spelled

theorem Readable.text_ofCell {reads : Content → Reading} {row : Row} (readable : Readable reads row)
    {cell : Cell} (member : cell ∈ row.cells) (inTable : Bool) :
    (PageCell.ofCell cell).text reads inTable = cell.textContent := by
  have shown := readable cell member inTable
  cases cell <;> exact shown

namespace TableRows

variable (rows : TableRows)

def rendered (row : Row) : PageRow := ⟨row.cells.map PageCell.ofCell, [(rows.identityAttribute, row.key)]⟩

theorem labels_eq (page : Page) : rows.labels page = (rows.bodies page).flatten.map (rows.label page) := by
  apply List.ext_getElem
  · simp only [labels, length, Bodies.length_eq, List.length_map, List.length_range]
  · intro index _ inside
    rw [List.length_map] at inside
    simp only [labels, labelAt, Bodies.row?_eq, List.getElem_map, List.getElem_range, List.getElem?_eq_getElem inside,
      Option.map_some, Option.getD_some]

variable {rows} {reads : Content → Reading} {page : Page} {row : Row}

theorem bodies_setBodies (present : (page.table? rows.id).isSome) (bodies : List (List PageRow)) :
    rows.bodies (rows.setBodies bodies page) = bodies := by
  obtain ⟨table, found⟩ := Option.isSome_iff_exists.mp present
  simp [TableRows.bodies, setBodies, table?_modifyTable, found]

theorem render_eq (accepted : Dataset.nameError? rows.identityAttribute = none) (row : Row) :
    rows.render row = .ok (rows.rendered row) := by
  simp only [render, accepted, rendered]
  rfl

theorem label_rendered (readable : Readable page.reads row) :
    rows.label page (rows.rendered row) = Entry.label ⟨row, none⟩ := by
  simp only [label, PageRow.firstCell?, rendered, Entry.label, Row.displayKey]
  cases cells : row.cells with
  | nil => rfl
  | cons cell rest =>
    have reads := readable.text_ofCell (cells ▸ List.mem_cons_self) true
    have bare : (PageCell.ofCell cell).data = [] := by cases cell <;> rfl
    simp [reads, bare]

theorem bodyError?_of_ne_nil (page : Page) {bodies : List (List PageRow)} (bodied : bodies ≠ []) :
    page.bodyError? bodies = none := by
  simp [bodyError?, bodied]

/-- The rows of a table and rows in memory with the same labels, in the same order. -/
structure Mirrors (rows : TableRows) (reads : Content → Reading) (page : Page) (entries : List Entry) : Prop where
  present : (page.table? rows.id).isSome
  room : page.bodyError? (rows.bodies page) = none
  reading : page.reads = reads
  labels : rows.labels page = entries.map Entry.label

namespace Mirrors

variable {entries : List Entry}

theorem flat (mirrors : Mirrors rows reads page entries) :
    (rows.bodies page).flatten.map (rows.label page) = entries.map Entry.label :=
  (rows.labels_eq page).symm.trans mirrors.labels

theorem length_eq (mirrors : Mirrors rows reads page entries) :
    (rows.bodies page).flatten.length = entries.length := by
  have same := congrArg List.length mirrors.flat
  rwa [List.length_map, List.length_map] at same

theorem setBodies (mirrors : Mirrors rows reads page entries) {bodies : List (List PageRow)} {others : List Entry}
    (room : page.bodyError? bodies = none) (same : bodies.flatten.map (rows.label page) = others.map Entry.label) :
    Mirrors rows reads (rows.setBodies bodies page) others where
  present := by simpa [TableRows.setBodies, table?_modifyTable] using mirrors.present
  room := by
    rw [bodies_setBodies mirrors.present]
    exact room
  reading := mirrors.reading
  labels := by
    rw [labels_eq, bodies_setBodies mirrors.present]
    exact same

theorem insert (mirrors : Mirrors rows reads page entries)
    (accepted : Dataset.nameError? rows.identityAttribute = none) (readable : Readable reads row) {index : Nat}
    (inside : index ≤ entries.length) :
    Host.Alike (Mirrors rows reads) (rows.insert index row page) (entries.insertIdx index ⟨row, none⟩, []) := by
  have shown : rows.label page (rows.rendered row) = Entry.label ⟨row, none⟩ :=
    label_rendered (mirrors.reading ▸ readable)
  simp only [TableRows.insert, render_eq accepted, mirrors.room]
  refine ⟨mirrors.setBodies (bodyError?_of_ne_nil page (Bodies.insert_ne_nil _ _ _)) ?_, rfl⟩
  rw [Bodies.flatten_insert _ (mirrors.length_eq ▸ inside), List.map_insertIdx, List.map_insertIdx, mirrors.flat, shown]

theorem replace (mirrors : Mirrors rows reads page entries)
    (accepted : Dataset.nameError? rows.identityAttribute = none) (readable : Readable reads row) {index : Nat}
    (inside : index < entries.length) :
    Host.Alike (Mirrors rows reads) (rows.replace index row page) (entries.set index ⟨row, none⟩, []) := by
  have shown : rows.label page (rows.rendered row) = Entry.label ⟨row, none⟩ :=
    label_rendered (mirrors.reading ▸ readable)
  rw [← mirrors.length_eq] at inside
  have bound : ¬ rows.length page ≤ index := by rw [TableRows.length, Bodies.length_eq]; omega
  obtain ⟨edited, found, flat⟩ := Bodies.edit?_eq_some (Bodies.isLocal_set (rows.rendered row)) inside
  simp only [TableRows.replace, bound, ite_false, render_eq accepted, Bodies.replace?, found]
  refine ⟨mirrors.setBodies (bodyError?_of_ne_nil page (Bodies.edit?_ne_nil found)) ?_, rfl⟩
  rw [flat, List.map_set, List.map_set, mirrors.flat, shown]

theorem remove (mirrors : Mirrors rows reads page entries) {index : Nat} (inside : index < entries.length) :
    Host.Alike (Mirrors rows reads) (rows.remove index page) (entries.eraseIdx index, []) := by
  rw [← mirrors.length_eq] at inside
  obtain ⟨edited, found, flat⟩ := Bodies.edit?_eq_some Bodies.isLocal_eraseIdx inside
  simp only [TableRows.remove, Bodies.remove?, found]
  refine ⟨mirrors.setBodies (bodyError?_of_ne_nil page (Bodies.edit?_ne_nil found)) ?_, rfl⟩
  rw [flat, ← List.eraseIdx_map, ← List.eraseIdx_map, mirrors.flat]

theorem clear (mirrors : Mirrors rows reads page entries) : Mirrors rows reads (rows.clear page) [] :=
  mirrors.setBodies (by simpa [bodyError?, Bodies.clear] using mirrors.room) (by rw [Bodies.flatten_clear]; rfl)

end Mirrors

/-- A table with an empty body first, a row found by its sort key, a row without cells
and markup that is not shown. -/
def clientsPage : Page where
  elements := [("clients", .table { bodies := [
    [],
    [⟨[{ content := .text "Ann", data := [("sortKey", "a-1")] }], []⟩],
    [⟨[], []⟩, ⟨[{ content := .plain ⟨"Zoe", "zoe"⟩ }], [("key", "zoe")]⟩]] })]
  rendering fragment :=
    if fragment = "<b>Bob</b>" then ⟨"", "Bob"⟩ else ⟨Markup.textContent fragment, Markup.textContent fragment⟩

end TableRows

end StreamTable.Page
