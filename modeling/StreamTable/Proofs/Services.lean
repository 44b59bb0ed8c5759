import StreamTable.Proofs.KeptAttachments
import StreamTable.Proofs.Lookups
import StreamTable.Proofs.RenderedKeys
import StreamTable.Proofs.SanitizedRows

/-! What the course of an event does to the rows of tables. Each upsert that an attachment
takes is a service: the sanitizer is looked up for each HTML column, in order, and the row
that comes out is put into the table. Meanwhile the calls of the sanitizer may cause
services of other attachments. No other row comes into any table, and nothing else is
looked up. -/

namespace StreamTable.Page

/-- A row that was put into the table of an attachment for a payload, and the lookups that
were made for it. -/
structure Service where
  index : Nat
  payload : String
  row : Row
  lookups : List Lookup

/-- Cells that values fill, column by column: a text column holds its text and is not
looked up; an HTML column is looked up once, by its text, and holds what that gives. -/
inductive Filled (htmlColumns : HtmlColumns) (values : List Json.Value) :
    List Nat → List Lookup → List Cell → Prop where
  | nil : Filled htmlColumns values [] [] []
  | text {column : Nat} {columns : List Nat} {lookups : List Lookup} {cells : List Cell}
      (plain : htmlColumns.contains column = false) (rest : Filled htmlColumns values columns lookups cells) :
      Filled htmlColumns values (column :: columns) lookups (.text (textAt values column) :: cells)
  | html {column : Nat} {columns : List Nat} {lookup : Lookup} {lookups : List Lookup} {safe : String}
      {cells : List Cell} (marked : htmlColumns.contains column) (asked : lookup.fragment = textAt values column)
      (gives : lookup.Gives safe) (rest : Filled htmlColumns values columns lookups cells) :
      Filled htmlColumns values (column :: columns) (lookup :: lookups) (.html safe :: cells)

theorem Cleaned.filled {htmlColumns : HtmlColumns} {values : List Json.Value} {columns : List Nat}
    {lookups : List Lookup} {cells : List Cell}
    (cleaned : Cleaned (columns.map (Row.cellOf values htmlColumns)) lookups cells) :
    Filled htmlColumns values columns lookups cells := by
  induction columns generalizing lookups cells with
  | nil => cases cleaned; exact .nil
  | cons column columns ih =>
    cases listed : htmlColumns.contains column with
    | false =>
      simp only [List.map_cons, Row.cellOf, listed, ← textAt_eq_cellText] at cleaned
      cases cleaned with
      | text rest => exact .text listed (ih rest)
    | true =>
      simp only [List.map_cons, Row.cellOf, listed, if_true, ← textAt_eq_cellText] at cleaned
      generalize asked : textAt values column = fragment at cleaned
      cases cleaned with
      | html gives rest => exact .html listed asked.symm gives (ih rest)

/-- A service as an attachment gives it, which must not be borrowed or closed for that. -/
structure Service.Answers (attachment : Attachment) (service : Service) : Prop where
  free : attachment.borrowed = false
  active : attachment.synchronizer.phase ≠ .closed
  filled : ∃ values, upsertValues service.payload = .ok values ∧ service.row.key = textAt values 0 ∧
    Filled attachment.synchronizer.settings.htmlColumns values (List.range attachment.synchronizer.columns)
      service.lookups service.row.cells

def Service.AnswersIn (world : World) (service : Service) : Prop :=
  ∃ attachment, world.attachments[service.index]? = some attachment ∧ service.Answers attachment

/-- A row that a service puts into the table of an id. -/
def Service.Shows (world : World) (id : String) (pageRow : PageRow) (service : Service) : Prop :=
  ∃ attachment, world.attachments[service.index]? = some attachment ∧ id = attachment.rows.id ∧
    pageRow = attachment.rows.rendered service.row

/-- A service whose row is in its table, if that is there and takes rows at all. -/
def Service.Stays (before after : World) (service : Service) : Prop :=
  ∀ attachment, before.attachments[service.index]? = some attachment →
    (before.page.table? attachment.rows.id).isSome → before.page.strayBody = none →
    Dataset.nameError? attachment.rows.identityAttribute = none →
    attachment.rows.rendered service.row ∈ after.page.rowsOf attachment.rows.id

namespace Service

variable {service : Service} {before after : World}

theorem Answers.of_moves {attachment next : Attachment} (moved : attachment.Moves next)
    (answers : service.Answers next) : service.Answers attachment := by
  obtain ⟨phase, rfl, closed⟩ := moved
  exact ⟨answers.free, fun once => answers.active (closed once), answers.filled⟩

theorem AnswersIn.of_moves (moves : before.Moves after) (answers : service.AnswersIn after) :
    service.AnswersIn before := by
  obtain ⟨next, found, answered⟩ := answers
  obtain ⟨attachment, held, moved⟩ := moves.held_before found
  exact ⟨attachment, held, answered.of_moves moved⟩

theorem Shows.of_moves (moves : before.Moves after) {id : String} {pageRow : PageRow}
    (shows : service.Shows after id pageRow) : service.Shows before id pageRow := by
  obtain ⟨next, found, same, shown⟩ := shows
  obtain ⟨attachment, held, phase, rfl, -⟩ := moves.held_before found
  exact ⟨attachment, held, same, shown⟩

theorem Stays.of_moves {middle : World} (moves : before.Moves middle)
    (present : ∀ id, (middle.page.table? id).isSome = (before.page.table? id).isSome)
    (stays : service.Stays middle after) : service.Stays before after := by
  intro attachment held there stray accepted
  obtain ⟨next, found, phase, rfl, -⟩ := moves.attachments _ attachment held
  obtain ⟨elements, purifier, page⟩ := moves.page
  have kept := stays _ found
  exact kept ((present _).trans there) (by rw [page]; exact stray) accepted

end Service

/-- Lookups that were made for services, and for a row that is not placed yet. -/
structure Accounts (made pending : List Lookup) (services : List Service) : Prop where
  perm : made.Perm (pending ++ services.flatMap (·.lookups))
  pending : pending.Sublist made
  services : ∀ service ∈ services, service.lookups.Sublist made

theorem Accounts.append {made pending more others : List Lookup} {services later : List Service}
    (first : Accounts made pending services) (second : Accounts more others later) :
    Accounts (made ++ more) (pending ++ others) (services ++ later) where
  perm := by
    refine (first.perm.append second.perm).trans ?_
    simp only [List.flatMap_append, List.append_assoc]
    refine List.Perm.append_left _ ?_
    simp only [← List.append_assoc]
    exact List.perm_append_comm.append_right _
  pending := first.pending.append second.pending
  services service member := by
    rcases List.mem_append.mp member with inside | inside
    · exact (first.services service inside).trans (List.sublist_append_left _ _)
    · exact (second.services service inside).trans (List.sublist_append_right _ _)

theorem Accounts.placed {made pending : List Lookup} {services : List Service} (accounts : Accounts made pending services)
    {service : Service} (own : service.lookups = pending) : Accounts made [] (services ++ [service]) where
  perm := by
    simp only [List.flatMap_append, List.flatMap_singleton, own, List.nil_append]
    exact accounts.perm.trans List.perm_append_comm
  pending := List.nil_sublist made
  services other member := by
    rcases List.mem_append.mp member with inside | last
    · exact accounts.services other inside
    · rw [List.mem_singleton.mp last, own]
      exact accounts.pending

namespace World

/-- How services take a world to another, with the lookups that were made outside of all
calls and those for a row that is not placed yet. -/
structure Served (outer pending : List Lookup) (services : List Service) (before after : World) : Prop where
  moves : Moves before after
  answers : ∀ service ∈ services, service.AnswersIn before
  looked : ∃ made, after.lookups = before.lookups ++ made ∧
    Follows before.page.purifier outer made after.page.purifier ∧ Accounts made pending services
  brought : ∀ id, ∀ pageRow ∈ after.page.rowsOf id, pageRow ∈ before.page.rowsOf id ∨
    ∃ service ∈ services, service.Shows before id pageRow
  present : ∀ id, (after.page.table? id).isSome = (before.page.table? id).isSome

/-- A delivery whose events are services, if anything. -/
def Delivery.Serves (delivery : Delivery) : Prop :=
  ∀ dispatch world, ∃ outer services, World.Served outer [] services world (delivery dispatch world).1

namespace Served

variable {outer pending : List Lookup} {services : List Service} {before after : World}

theorem unmade (moves : Moves before after) (lookups : after.lookups = before.lookups)
    (purifier : after.page.purifier = before.page.purifier)
    (kept : ∀ id, ∀ pageRow ∈ after.page.rowsOf id, pageRow ∈ before.page.rowsOf id)
    (present : ∀ id, (after.page.table? id).isSome = (before.page.table? id).isSome) :
    Served [] [] [] before after where
  moves := moves
  answers := by simp
  looked := ⟨[], by simp [lookups], purifier ▸ .nil, .refl _, .slnil, by simp⟩
  brought id pageRow member := Or.inl (kept id pageRow member)
  present := present

theorem refl (world : World) : Served [] [] [] world world :=
  unmade (.refl world) rfl rfl (fun _ _ member => member) fun _ => rfl

theorem edited {rows : TableRows} {world : World} {page : Page} (edited : rows.Edited world.page page)
    (kept : ∀ id, ∀ pageRow ∈ page.rowsOf id, pageRow ∈ world.page.rowsOf id) :
    Served [] [] [] world { world with page } :=
  unmade (.edited edited) rfl edited.purifier kept edited.isSome_table?

theorem trans {first second third : World} {next others : List Lookup} {later : List Service}
    (before : Served outer pending services first second) (after : Served next others later second third) :
    Served (outer ++ next) (pending ++ others) (services ++ later) first third where
  moves := before.moves.trans after.moves
  answers service member := by
    rcases List.mem_append.mp member with inside | inside
    · exact before.answers service inside
    · exact (after.answers service inside).of_moves before.moves
  looked := by
    obtain ⟨made, lookups, follows, accounts⟩ := before.looked
    obtain ⟨more, lookupsAfter, followsAfter, accountsAfter⟩ := after.looked
    exact ⟨made ++ more, by rw [lookupsAfter, lookups, List.append_assoc], follows.append followsAfter,
      accounts.append accountsAfter⟩
  brought id pageRow member := by
    rcases after.brought id pageRow member with old | ⟨service, inside, shown⟩
    · rcases before.brought id pageRow old with older | ⟨service, inside, shown⟩
      · exact Or.inl older
      · exact Or.inr ⟨service, List.mem_append_left later inside, shown⟩
    · exact Or.inr ⟨service, List.mem_append_right services inside, shown.of_moves before.moves⟩
  present id := (after.present id).trans (before.present id)

variable {delivery : Delivery}

theorem deliverAll (serves : delivery.Serves) (events : List Dispatch) (world : World) :
    ∃ outer services, Served outer [] services world (World.deliverAll delivery events world).1 := by
  induction events generalizing world with
  | nil => exact ⟨[], [], .refl world⟩
  | cons dispatch rest ih =>
    obtain ⟨outer, services, first⟩ := serves dispatch world
    obtain ⟨next, later, second⟩ := ih (delivery dispatch world).1
    exact ⟨_, _, first.trans second⟩

theorem cleanFragment (serves : delivery.Serves) (fragment : String) (world : World) :
    let lookup : Lookup := ⟨fragment, world.page.purifier⟩
    ∃ services, lookup.Gives (World.cleanFragment delivery fragment world).1 ∧
      Served [lookup] [lookup] services world (World.cleanFragment delivery fragment world).2.1 := by
  intro lookup
  obtain ⟨inner, services, served⟩ :=
    deliverAll serves (world.page.purifier.caused fragment) (world.noteLookup fragment)
  obtain ⟨made, lookups, follows, accounts⟩ := served.looked
  have once : Follows world.page.purifier [lookup] (lookup :: made ++ [])
      ((world.page.purifier.replacement? fragment).getD _) := .cons follows .nil
  rw [List.append_nil] at once
  rw [cleanFragment_eq]
  refine ⟨services, Lookup.gives_answer world.page.purifier fragment, ?_⟩
  refine ⟨((Moves.noteLookup fragment world).trans served.moves).trans (.leave _ _ _), served.answers,
    ⟨lookup :: made, ?_, once, ?_, ?_, ?_⟩, served.brought, served.present⟩
  · exact lookups.trans (List.append_assoc _ _ _)
  · exact accounts.perm.cons lookup
  · exact List.singleton_sublist.mpr List.mem_cons_self
  · exact fun service member => (accounts.services service member).cons lookup

/-- Cleaning the cells of a row is lookups, one for each HTML cell, and what these cause. -/
theorem cleanCells (serves : delivery.Serves) (received : List Cell) (world : World) :
    ∃ own services, Cleaned received own (World.cleanCells delivery received world).1 ∧
      Served own own services world (World.cleanCells delivery received world).2.1 := by
  induction received generalizing world with
  | nil => exact ⟨[], [], .nil, .refl world⟩
  | cons cell rest ih =>
    cases cell with
    | text shown =>
      obtain ⟨own, services, cleaned, served⟩ := ih world
      exact ⟨own, services, .text cleaned, served⟩
    | html fragment =>
      obtain ⟨services, gives, first⟩ := cleanFragment serves fragment world
      obtain ⟨own, later, cleaned, second⟩ := ih (World.cleanFragment delivery fragment world).2.1
      exact ⟨_, _, .html gives cleaned, first.trans second⟩

theorem giveBack {world during : World} {index : Nat} {attachment next : Attachment}
    (held : world.attachments[index]? = some attachment) (moved : attachment.Moves next)
    (served : Served outer pending services (world.setBorrowed true index) during) :
    Served outer pending services world (during.giveBack index next) ∧ ∀ service ∈ services, service.index ≠ index := by
  have other (service : Service) (member : service ∈ services) : service.index ≠ index := by
    rintro rfl
    obtain ⟨borrowed, found, answers⟩ := served.answers service member
    simp only [getElem?_setBorrowed, held, Option.map_some, ite_true, Option.some.injEq] at found
    subst found
    cases answers.free
  have same (service : Service) (member : service ∈ services) :
      (world.setBorrowed true index).attachments[service.index]? = world.attachments[service.index]? := by
    simp [getElem?_setBorrowed, (other service member).symm]
  refine ⟨⟨.giveBack held moved served.moves, fun service member => ?_, served.looked, fun id pageRow member => ?_,
    served.present⟩, other⟩
  · obtain ⟨answering, found, answers⟩ := served.answers service member
    exact ⟨answering, same service member ▸ found, answers⟩
  · refine (served.brought id pageRow member).imp_right ?_
    rintro ⟨service, inside, showing, found, shown⟩
    exact ⟨service, inside, showing, same service inside ▸ found, shown⟩

end Served

theorem put_page (rows : TableRows) (delivery : Delivery) (row : Row) (world : World) (placement : Placement) :
    ∃ page, ((host rows delivery).put row (rows.length world.page) world placement).1 = { world with page } ∧
      rows.Edited world.page page ∧
      (∀ id, ∀ pageRow ∈ page.rowsOf id, pageRow ∈ world.page.rowsOf id ∨ id = rows.id ∧ pageRow = rows.rendered row) ∧
      ((world.page.table? rows.id).isSome → world.page.strayBody = none →
        Dataset.nameError? rows.identityAttribute = none → placement.Fits (rows.length world.page) →
        rows.rendered row ∈ page.rowsOf rows.id) := by
  have shown : (world.page.table? rows.id).isSome → world.page.strayBody = none →
      Dataset.nameError? rows.identityAttribute = none → placement.Fits (rows.length world.page) →
      rows.rendered row ∈ (((rows.host none).put row (rows.length world.page) world.page placement).1).rowsOf rows.id := by
    intro present stray accepted fits
    have room : world.page.bodyError? (rows.bodies world.page) = none := by simp [bodyError?, stray]
    obtain ⟨bodies, put, flat⟩ := TableRows.put_eq room accepted row none fits
    rw [put, TableRows.rowsOf_setBodies present, flat]
    rw [TableRows.length_eq] at fits
    exact List.mem_of_getElem? (Placement.getElem?_put _ fits)
  cases placement with
  | replace index =>
    exact ⟨_, rfl, .replace index, fun id pageRow member => TableRows.mem_rowsOf_replace member, shown⟩
  | insert index =>
    exact ⟨_, rfl, .insert index, fun id pageRow member => TableRows.mem_rowsOf_insert member, shown⟩
  | append =>
    exact ⟨_, rfl, .insert _, fun id pageRow member => TableRows.mem_rowsOf_insert member, shown⟩

end World

end StreamTable.Page
