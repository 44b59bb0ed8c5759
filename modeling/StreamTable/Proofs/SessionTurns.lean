import StreamTable.Page.Session
import StreamTable.Proofs.Attaching
import StreamTable.Proofs.KeptAttachments

/-! The turns of a session: what was before a command and what is after it. Apart from
events and from what is asked of a synchronizer, no turn looks the sanitizer up, and but
for what a script does to rows by itself, none of these changes the rows of any table. -/

namespace StreamTable.Page

structure Turn where
  before : Session
  command : Command
  after : Session

namespace Session

def turns (session : Session) : List Command → List Turn
  | [] => []
  | command :: rest =>
    let after := (session.perform command).2.1
    ⟨session, command, after⟩ :: turns after rest

def after (session : Session) : List Command → Session
  | [] => session
  | command :: rest => after (session.perform command).2.1 rest

end Session

/-- A command that may look the sanitizer up: an event, or what a script asks of a
synchronizer, unless it puts in a row that it has built. -/
def Command.isServed : Command → Bool
  | .event _ => true
  | .synchronize (.placeRow _) => false
  | .synchronize _ => true
  | _ => false

/-- A command by which a script changes the rows of a table itself. -/
def Command.isDirect : Command → Bool
  | .setBodies _ _ | .rows _ | .synchronize (.placeRow _) => true
  | _ => false

/-- A world that differs in nothing that cells are filled from. -/
structure World.Quiet (before after : World) : Prop where
  lookups : after.lookups = before.lookups
  rowsOf (id : String) : after.page.rowsOf id = before.page.rowsOf id

namespace World.Quiet

variable {before after : World}

theorem of_page (page : after.page = before.page) (lookups : after.lookups = before.lookups) : Quiet before after :=
  ⟨lookups, fun id => by rw [page]⟩

theorem attach (id url : String) (settings : Settings) (world : World) :
    Quiet world (world.attach id url settings).2.1 :=
  have ends := attach_ends id url settings world
  ⟨ends.lookups, ends.page.rowsOf⟩

theorem detach (index : Nat) (world : World) : Quiet world (world.detach index).1 := by
  simp only [World.detach]
  split <;> exact of_page rfl rfl

theorem trans {first second third : World} (before : Quiet first second) (after : Quiet second third) :
    Quiet first third :=
  ⟨after.lookups.trans before.lookups, fun id => (after.rowsOf id).trans (before.rowsOf id)⟩

theorem release (session : Session) : Quiet session.world session.release.1.world := by
  simp only [Session.release]
  split
  · exact of_page rfl rfl
  next index _ => exact detach index session.world

theorem perform (session : Session) {command : Command} (unserved : command.isServed = false)
    (indirect : command.isDirect = false) : Quiet session.world (session.perform command).2.1.world := by
  cases command with
  | setBodies _ _ | rows _ => cases indirect
  | event _ => cases unserved
  | synchronize operation =>
    cases operation with
    | placeRow _ => cases indirect
    | _ => cases unserved
  | attach id url =>
    have attached := attach id url session.settings session.world
    simp only [Session.perform, Session.attach]
    split
    · exact attached
    · exact attached.trans (release { session with world := _ })
  | attachForGood id url htmlColumns => exact attach id url _ session.world
  | detach => exact release session
  | keepAlive | load _ | borrow _ | giveBack _ => exact of_page rfl rfl
  | setPurifier _ => exact ⟨rfl, fun _ => rfl⟩
  | closeSource =>
    simp only [Session.perform]
    split <;> exact of_page rfl rfl
  | bindRows id =>
    simp only [Session.perform, Session.bindRows]
    split
    · exact of_page rfl rfl
    · split
      · exact of_page rfl rfl
      next bound => exact ⟨rfl, (bodyAdded_of_bindRows bound).rowsOf⟩

end World.Quiet

theorem World.lookups_placeRow (row : Row) (index : Nat) (world : World) :
    (world.drive (.placeRow row) index).2.1.lookups = world.lookups := by
  simp only [drive]
  split
  · rfl
  · cases held : world.attachments[index]? with
    | none => rw [operate_missing _ _ held]
    | some attachment =>
      rw [operate_held _ _ held]
      let during := world.setBorrowed true index
      let placing := host attachment.rows (deliverWithin world.attachments.length)
      show (attachment.synchronizer.placeRow placing row during).store.lookups = world.lookups
      by_cases closed : attachment.synchronizer.phase = .closed
      · simp only [Synchronizer.placeRow, closed, ite_true]
        rfl
      · obtain ⟨records, placed⟩ := Synchronizer.placeRow_active placing during closed row
        rw [placed]
        cases placing.placement row during <;> rfl

theorem Session.lookups_perform (session : Session) {command : Command} (unserved : command.isServed = false) :
    (session.perform command).2.1.world.lookups = session.world.lookups := by
  cases indirect : command.isDirect with
  | false => exact (World.Quiet.perform session unserved indirect).lookups
  | true =>
    cases command with
    | setBodies _ _ => rfl
    | rows command =>
      simp only [perform]
      split <;> rfl
    | synchronize operation =>
      cases operation with
      | placeRow row =>
        simp only [perform]
        split
        · rfl
        next index _ => exact World.lookups_placeRow row index session.world
      | _ => cases unserved
    | _ => cases indirect

end StreamTable.Page
