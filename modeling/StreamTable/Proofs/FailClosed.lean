import StreamTable.Proofs.ServedEvents
import StreamTable.Proofs.SessionTurns

/-! A page's sanitizer fails closed over whole sessions, whatever is put in its place
between events or by its own calls. Every turn of a session is served by the rows that
its event brought, or the upsert that a script asked for; from these, and from what a
script put on the page itself, come all rows that the page has in the end. -/

namespace StreamTable.Page

/-- What becomes of a turn: an event is served, and so is what is asked of a synchronizer;
any other turn looks nothing up. -/
inductive Turn.Serves : Turn → List Service → Prop where
  | event {before after : Session} {dispatch : Dispatch} {services : List Service}
      (served : before.world.ServesEvent dispatch services after.world) :
      Serves ⟨before, .event dispatch, after⟩ services
  | asked {before after : Session} {operation : Operation} {index : Nat} {services : List Service}
      (latest : before.latest = some index) (indirect : ∀ row, operation ≠ .placeRow row)
      (served : before.world.ServesAsked operation index services after.world) :
      Serves ⟨before, .synchronize operation, after⟩ services
  | unheld {before : Session} {operation : Operation} (latest : before.latest = none) :
      Serves ⟨before, .synchronize operation, before⟩ []
  | none {before after : Session} {command : Command} (unserved : command.isServed = false)
      (looked : after.world.lookups = before.world.lookups)
      (quiet : command.isDirect = false → before.world.Quiet after.world) : Serves ⟨before, command, after⟩ []

theorem Turn.serves (session : Session) (command : Command) :
    ∃ services, Turn.Serves ⟨session, command, (session.perform command).2.1⟩ services := by
  cases served : command.isServed with
  | false => exact ⟨[], .none served (session.lookups_perform served) (.perform session served)⟩
  | true =>
    cases command with
    | event dispatch =>
      obtain ⟨services, served⟩ := session.world.deliver_serves dispatch
      exact ⟨services, .event served⟩
    | synchronize operation =>
      have indirect (row : Row) : operation ≠ .placeRow row := by
        rintro rfl
        cases served
      simp only [Session.perform]
      cases latest : session.latest with
      | none => exact ⟨[], .unheld latest⟩
      | some index =>
        obtain ⟨services, served⟩ := session.world.drive_serves indirect index
        exact ⟨services, .asked latest indirect served⟩
    | _ => cases served

namespace Turn.Serves

variable {turn : Turn} {services : List Service}

/-- A row on the page after a turn was there before, or a script put it there, or it came
by a service. -/
theorem brought (serves : turn.Serves services) {id : String} {pageRow : PageRow}
    (member : pageRow ∈ turn.after.world.page.rowsOf id) :
    pageRow ∈ turn.before.world.page.rowsOf id ∨ turn.command.isDirect ∨
      ∃ service ∈ services, service.Shows turn.before.world id pageRow := by
  cases serves with
  | none unserved looked quiet =>
    cases direct : (Turn.command _).isDirect with
    | true => exact Or.inr (Or.inl rfl)
    | false => exact Or.inl ((quiet direct).rowsOf id ▸ member)
  | unheld => exact Or.inl member
  | event served =>
    obtain ⟨outer, served⟩ := served.served
    exact (served.brought id pageRow member).imp_right Or.inr
  | asked latest indirect served =>
    obtain ⟨outer, served⟩ := served.served
    exact (served.brought id pageRow member).imp_right Or.inr

theorem answers (serves : turn.Serves services) {service : Service} (member : service ∈ services) :
    service.AnswersIn turn.before.world := by
  cases serves with
  | none | unheld => cases member
  | event served =>
    obtain ⟨outer, served⟩ := served.served
    exact served.answers service member
  | asked latest indirect served =>
    obtain ⟨outer, served⟩ := served.served
    exact served.answers service member

end Turn.Serves

theorem Filled.safe {htmlColumns : HtmlColumns} {values : List Json.Value} {columns : List Nat}
    {lookups : List Lookup} {cells : List Cell} (filled : Filled htmlColumns values columns lookups cells)
    (loaded : ∀ lookup ∈ lookups, lookup.found.isLoaded) {fragment : String} (member : .html fragment ∈ cells) :
    fragment = "" ∨ ∃ lookup ∈ lookups, lookup.Returned fragment := by
  induction filled with
  | nil => cases member
  | text plain rest ih =>
    cases member with
    | tail _ later => exact ih loaded later
  | @html column columns lookup lookups safe cells marked asked gives rest ih =>
    have ⟨first, others⟩ := List.forall_mem_cons.mp loaded
    cases member with
    | head =>
      exact (gives.of_loaded first).imp id fun returned => ⟨lookup, List.mem_cons_self, returned⟩
    | tail _ later =>
      exact (ih others later).imp id fun ⟨other, inside, returned⟩ => ⟨other, List.mem_cons_of_mem _ inside, returned⟩

namespace Session

/-- How rows come onto the page in a session, given what each turn of it served. A fragment
is set as HTML by a lookup of its own, and if that found the sanitizer it is safe. -/
structure FailsClosed (session : Session) (commands : List Command) (served : List (List Service)) : Prop where
  turns : List.Forall₂ Turn.Serves (session.turns commands) served
  rows : ∀ id, ∀ pageRow ∈ (session.after commands).world.page.rowsOf id,
    pageRow ∈ session.world.page.rowsOf id ∨
    (∃ turn ∈ session.turns commands, turn.command.isDirect ∧ pageRow ∈ turn.after.world.page.rowsOf id) ∨
    ∃ turn services, (turn, services) ∈ (session.turns commands).zip served ∧
      ∃ service ∈ services, service.Shows turn.before.world id pageRow
  safe : ∀ services ∈ served, ∀ service ∈ services, (∀ lookup ∈ service.lookups, lookup.found.isLoaded) →
    ∀ fragment, .html fragment ∈ service.row.cells →
      fragment = "" ∨ ∃ lookup ∈ service.lookups, lookup.Returned fragment

/-- Whatever the sanitizer of a page is at any moment, every session on it fails closed. -/
theorem run_fails_closed (session : Session) (commands : List Command) :
    ∃ served, session.FailsClosed commands served := by
  induction commands generalizing session with
  | nil => exact ⟨[], .nil, fun id pageRow member => Or.inl member, by simp⟩
  | cons command rest ih =>
    obtain ⟨services, serves⟩ := Turn.serves session command
    obtain ⟨served, later⟩ := ih (session.perform command).2.1
    refine ⟨services :: served, .cons serves later.turns, fun id pageRow member => ?_,
      List.forall_mem_cons.mpr ⟨?_, later.safe⟩⟩
    · rcases later.rows id pageRow member with first | ⟨turn, inside, direct, shown⟩ | ⟨turn, others, inside, shown⟩
      · rcases serves.brought first with old | direct | brought
        · exact Or.inl old
        · exact Or.inr (Or.inl ⟨_, List.mem_cons_self, direct, first⟩)
        · exact Or.inr (Or.inr ⟨_, services, List.mem_cons_self, brought⟩)
      · exact Or.inr (Or.inl ⟨turn, List.mem_cons_of_mem _ inside, direct, shown⟩)
      · exact Or.inr (Or.inr ⟨turn, others, List.mem_cons_of_mem _ inside, shown⟩)
    · intro service inside loaded fragment set
      obtain ⟨attachment, held, answers⟩ := serves.answers inside
      obtain ⟨values, decoded, key, filled⟩ := answers.filled
      exact filled.safe loaded set

def connect (payload : String) (source : Option Nat) : Dispatch := ⟨⟨"connect", .message (.string payload)⟩, source⟩

/-- A sanitizer that causes an event for its own table and one for another, and then leaves
a sanitizer that throws. -/
def fickleSanitizer : Purifier :=
  .object (.replacing
    (fun fragment => {
      events := [connect "[\"<s>Zoe\"]" (some 0), connect "[\"<v>home\"]" (some 1)]
      reply := .returned (.string ("<p>" ++ fragment)) })
    fun _ => .object (.function fun _ => ⟨[], .thrown .undefined⟩))

def unreadySession : Session where
  world := { page := {
    elements := [("clients", .table { header := some [3] }), ("visits", .table { header := some [1] })] } }
  settings := { htmlColumns := .ofList [0, 2] }

def sanitizerCommands : List Command :=
  [.attach "clients" "/events",
    .event (connect "[\"<b>Ann\", \"<i>\", \"<u>\"]" none),
    .attachForGood "visits" "/visits" none,
    .setPurifier fickleSanitizer,
    .event (connect "[\"<c>Bob\", \"<i>\", \"<u>\"]" (some 0)),
    .synchronize (.upsert "[\"<d>Cyd\"]")]

/-- Without a sanitizer a row comes as it was sent. Then one is replaced within a row, whose
table is not the last that was attached and takes no other row meanwhile. -/
theorem run_fails_closed_fickle :
    let world := (unreadySession.after sanitizerCommands).world
    (world.page.rowsOf "clients").map (fun row => row.cells.map (·.content)) =
        [[.html "", .text "", .html ""], [.html "<b>Ann", .text "<i>", .html "<u>"],
          [.html "<p><c>Bob", .text "<i>", .html ""]] ∧
      (world.page.rowsOf "visits").map (fun row => row.cells.map (·.content)) = [[.html "<p><v>home"]] ∧
      world.lookups.map (fun lookup => (lookup.fragment, lookup.found.isLoaded)) =
        [("<b>Ann", false), ("<u>", false), ("<c>Bob", true), ("<v>home", true), ("<u>", true), ("<d>Cyd", true),
          ("", true)] ∧
      ∃ served, unreadySession.FailsClosed sanitizerCommands served :=
  ⟨by decide +kernel, by decide +kernel, by decide +kernel, run_fails_closed unreadySession sanitizerCommands⟩

end Session

end StreamTable.Page
