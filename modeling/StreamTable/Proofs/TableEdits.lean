import StreamTable.Proofs.PageMirror

/-! What the edits of one table do to a page. Each is a change of the bodies of that
table; the other tables, and all else on the page, stay as they are. -/

namespace StreamTable.Page

theorem table?_modifyTable_of_ne (page : Page) {id other : String} (different : other ≠ id)
    (change : PageTable → PageTable) : (page.modifyTable id change).table? other = page.table? other := by
  simp only [table?, modifyTable]
  induction page.elements with
  | nil => rfl
  | cons first rest ih =>
    obtain ⟨name, element⟩ := first
    by_cases same : other = name
    · subst name
      cases element <;> simp [different]
    · have apart : (other == name) = false := by simp [same]
      cases element <;> simpa only [List.map_cons, List.lookup_cons, apart] using ih

theorem modifyTable_modifyTable (page : Page) (id : String) (first second : PageTable → PageTable) :
    (page.modifyTable id first).modifyTable id second = page.modifyTable id (second ∘ first) := by
  simp only [modifyTable, List.map_map]
  congr 2
  funext entry
  obtain ⟨other, element⟩ := entry
  cases element with
  | other => rfl
  | table table => by_cases same : other = id <;> simp [same]

theorem isSome_table?_modifyTable (page : Page) (id other : String) (change : PageTable → PageTable) :
    ((page.modifyTable id change).table? other).isSome = (page.table? other).isSome := by
  by_cases same : other = id
  · subst other
    rw [table?_modifyTable, Option.isSome_map]
  · rw [table?_modifyTable_of_ne page same]

def rowsOf (page : Page) (id : String) : List PageRow := (((page.table? id).map (·.bodies)).getD []).flatten

namespace TableRows

variable {rows : TableRows} {page : Page} {row : Row} {pageRow : PageRow} {id : String}

theorem setBodies_setBodies (first second : List (List PageRow)) :
    rows.setBodies second (rows.setBodies first page) = rows.setBodies second page :=
  page.modifyTable_modifyTable rows.id _ _

theorem rowsOf_setBodies (present : (page.table? rows.id).isSome) (bodies : List (List PageRow)) :
    (rows.setBodies bodies page).rowsOf rows.id = bodies.flatten :=
  congrArg List.flatten (bodies_setBodies present bodies)

theorem mem_rowsOf_setBodies {bodies : List (List PageRow)}
    (member : pageRow ∈ (rows.setBodies bodies page).rowsOf id) :
    pageRow ∈ page.rowsOf id ∨ id = rows.id ∧ pageRow ∈ bodies.flatten := by
  by_cases same : id = rows.id
  · subst id
    simp only [rowsOf, setBodies, table?_modifyTable, Option.map_map] at member
    cases found : page.table? rows.id with
    | none => simp [found] at member
    | some table => exact Or.inr ⟨rfl, by simpa [found] using member⟩
  · rw [rowsOf, setBodies, table?_modifyTable_of_ne page same] at member
    exact Or.inl member

/-- What an edit of rows makes of a page: it changes at most the bodies of their table. -/
inductive Edited (rows : TableRows) (page : Page) : Page → Prop where
  | same : Edited rows page page
  | bodies (bodies : List (List PageRow)) : Edited rows page (rows.setBodies bodies page)

namespace Edited

theorem insert (index : Nat) : Edited rows page (rows.insert index row page).1 := by
  simp only [TableRows.insert]
  split
  · exact .same
  · split
    · exact .same
    · exact .bodies _

theorem replace (index : Nat) : Edited rows page (rows.replace index row page).1 := by
  simp only [TableRows.replace]
  split
  · exact .same
  · split
    · exact .same
    · split
      · exact .same
      · exact .bodies _

theorem remove (index : Nat) : Edited rows page (rows.remove index page).1 := by
  simp only [TableRows.remove]
  split
  · exact .same
  · exact .bodies _

theorem clear : Edited rows page (rows.clear page) := .bodies _

theorem purifier {after : Page} (edited : Edited rows page after) : after.purifier = page.purifier := by
  cases edited <;> rfl

theorem isSome_table? {after : Page} (edited : Edited rows page after) (id : String) :
    (after.table? id).isSome = (page.table? id).isSome := by
  cases edited with
  | same => rfl
  | bodies bodies => exact isSome_table?_modifyTable page rows.id id _

end Edited

theorem nameError?_of_render (rendered : rows.render row = .ok pageRow) :
    Dataset.nameError? rows.identityAttribute = none := by
  simp only [render] at rendered
  split at rendered
  · cases rendered
  · assumption

theorem insert_eq (room : page.bodyError? (rows.bodies page) = none)
    (accepted : Dataset.nameError? rows.identityAttribute = none) (index : Nat) :
    rows.insert index row page = (rows.setBodies (Bodies.insert index (rows.rendered row) (rows.bodies page)) page, []) := by
  simp only [insert, render_eq accepted, room]

theorem replace_eq (accepted : Dataset.nameError? rows.identityAttribute = none) (row : Row) {index : Nat}
    (inside : index < rows.length page) :
    ∃ edited, Bodies.replace? index (rows.rendered row) (rows.bodies page) = some edited ∧
      rows.replace index row page = (rows.setBodies edited page, []) := by
  have bound : ¬ rows.length page ≤ index := Nat.not_le_of_lt inside
  rw [length, Bodies.length_eq] at inside
  obtain ⟨edited, found, -⟩ := Bodies.edit?_eq_some (Bodies.isLocal_set (rows.rendered row)) inside
  exact ⟨edited, found, by simp only [replace, bound, ite_false, render_eq accepted, Bodies.replace?, found]⟩

theorem mem_rowsOf_insert {index : Nat} (member : pageRow ∈ (rows.insert index row page).1.rowsOf id) :
    pageRow ∈ page.rowsOf id ∨ id = rows.id ∧ pageRow = rows.rendered row := by
  cases accepted : Dataset.nameError? rows.identityAttribute with
  | some thrown =>
    simp only [insert, render, accepted] at member
    exact Or.inl member
  | none =>
    cases room : page.bodyError? (rows.bodies page) with
    | some error =>
      simp only [insert, render_eq accepted, room] at member
      exact Or.inl member
    | none =>
      rw [insert_eq room accepted] at member
      rcases mem_rowsOf_setBodies member with old | ⟨rfl, inside⟩
      · exact Or.inl old
      · cases Bodies.mem_flatten_insert inside with
        | inl new => exact Or.inr ⟨rfl, new⟩
        | inr old => exact Or.inl old

theorem mem_rowsOf_replace {index : Nat} (member : pageRow ∈ (rows.replace index row page).1.rowsOf id) :
    pageRow ∈ page.rowsOf id ∨ id = rows.id ∧ pageRow = rows.rendered row := by
  cases accepted : Dataset.nameError? rows.identityAttribute with
  | some thrown =>
    simp only [replace, render, accepted] at member
    split at member <;> exact Or.inl member
  | none =>
    cases Nat.lt_or_ge index (rows.length page) with
    | inr outside =>
      simp only [replace, outside, ite_true] at member
      exact Or.inl member
    | inl inside =>
      obtain ⟨edited, found, done⟩ := replace_eq accepted row inside
      rw [done] at member
      rcases mem_rowsOf_setBodies member with old | ⟨rfl, inEdited⟩
      · exact Or.inl old
      · rw [Bodies.edited_flatten (Bodies.isLocal_set _) found] at inEdited
        cases List.mem_or_eq_of_mem_set inEdited with
        | inl old => exact Or.inl old
        | inr new => exact Or.inr ⟨rfl, new⟩

theorem mem_rowsOf_remove {index : Nat} (member : pageRow ∈ (rows.remove index page).1.rowsOf id) :
    pageRow ∈ page.rowsOf id := by
  cases found : Bodies.remove? index (rows.bodies page) with
  | none =>
    simp only [remove, found] at member
    exact member
  | some edited =>
    simp only [remove, found] at member
    rcases mem_rowsOf_setBodies member with old | ⟨rfl, inEdited⟩
    · exact old
    · rw [Bodies.edited_flatten Bodies.isLocal_eraseIdx found] at inEdited
      exact List.mem_of_mem_eraseIdx inEdited

theorem mem_rowsOf_clear (member : pageRow ∈ (rows.clear page).rowsOf id) : pageRow ∈ page.rowsOf id := by
  rcases mem_rowsOf_setBodies member with old | ⟨rfl, inside⟩
  · exact old
  · rw [Bodies.flatten_clear] at inside
    cases inside

end TableRows

end StreamTable.Page
