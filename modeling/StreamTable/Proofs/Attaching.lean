import StreamTable.Page.Attach
import StreamTable.Proofs.TableEdits

/-! Attaching a table either succeeds as a whole or leaves nothing behind. Whatever goes
wrong, no source stays open and each listener that was added is removed, and of the tables
the named one has at most got a body, which is empty. -/

namespace StreamTable.Page

/-- A page on which at most the named table changed, by getting its first body. -/
structure BodyAdded (id : String) (before after : Page) : Prop where
  others : ∀ other, other ≠ id → after.table? other = before.table? other
  named : after.table? id = before.table? id ∨
    ∃ table, before.table? id = some table ∧ table.bodies = [] ∧
      after.table? id = some { table with bodies := [[]] }
  rest : { after with elements := before.elements } = before

theorem BodyAdded.refl (id : String) (page : Page) : BodyAdded id page page := ⟨fun _ _ => rfl, Or.inl rfl, rfl⟩

theorem bodyAdded_withBody (id : String) (page : Page) :
    BodyAdded id page (page.modifyTable id PageTable.withBody) where
  others other different := table?_modifyTable_of_ne page different _
  named := by
    rw [table?_modifyTable]
    cases found : page.table? id with
    | none => exact Or.inl rfl
    | some table =>
      cases bodies : table.bodies with
      | nil => exact Or.inr ⟨table, rfl, bodies, by simp [PageTable.withBody, bodies]⟩
      | cons body rest => exact Or.inl (by simp [PageTable.withBody, bodies])
  rest := rfl

theorem bodyAdded_of_bindRows {id : String} {settings : Settings} {table : PageTable} {rows : TableRows}
    {before after : Page} (bound : before.bindRows id settings table = .ok (rows, after)) :
    BodyAdded id before after := by
  simp only [bindRows] at bound
  split at bound
  · cases bound
  · split at bound
    · cases bound
    · cases bound
      exact bodyAdded_withBody id before

theorem BodyAdded.rowsOf {id : String} {before after : Page} (added : BodyAdded id before after) (other : String) :
    after.rowsOf other = before.rowsOf other := by
  by_cases same : other = id
  · subst other
    rcases added.named with unchanged | ⟨table, found, empty, bodied⟩
    · rw [Page.rowsOf, Page.rowsOf, unchanged]
    · simp [Page.rowsOf, found, bodied, empty]
  · rw [Page.rowsOf, Page.rowsOf, added.others other same]

theorem BodyAdded.stuckNames {id : String} {before after : Page} (added : BodyAdded id before after) :
    after.stuckNames = before.stuckNames := congrArg (·.stuckNames) added.rest

theorem Attachment.closed_ended {attachment : Attachment} (free : attachment.borrowed = false)
    (stuckNames : List String) : (attachment.ended stuckNames).synchronizer.phase = .closed := by
  simp [Attachment.ended, free, Synchronizer.close, Synchronizer.enter]

theorem Attachment.ended_closed {attachment : Attachment} (closed : attachment.synchronizer.phase = .closed)
    (stuckNames : List String) : (attachment.ended stuckNames).synchronizer.phase = .closed := by
  simp only [Attachment.ended]
  split
  · exact closed
  · rfl

namespace Call

def additions (listeners : List Listener) : List Call := listeners.map fun listener => .addListener listener.name

def removals (listeners : List Listener) : List Call := listeners.map fun listener => .removeListener listener.name

end Call

namespace World

/-- An attachment that was completed: its source has all the listeners, and the page refused none. -/
structure Completed (url : String) (rows : TableRows) (synchronizer : Synchronizer) (before : World) (index : Nat)
    (after : World) : Prop where
  index : index = before.attachments.length
  attachments : after.attachments = before.attachments ++
    [{ rows, synchronizer := synchronizer.connecting, listeners := listenersFor synchronizer.settings.eventNames }]
  accepted : ∀ listener ∈ listenersFor synchronizer.settings.eventNames, listener.name ∉ before.page.refusedNames
  calls : after.calls = before.calls ++
    .newSource url :: Call.additions (listenersFor synchronizer.settings.eventNames)

/-- What is left of an attachment that was not completed. Either no source was made, or it
was closed and the listeners that were added are removed, up to the one that was refused. -/
inductive Undone (url : String) (names : EventNames) (before after : World) : Prop where
  | unopened (attachments : after.attachments = before.attachments)
      (calls : after.calls = before.calls ∨
        before.page.sourceError.isSome ∧ after.calls = before.calls ++ [.newSource url])
  | closed (attachment : Attachment) (refused : Listener)
      (attachments : after.attachments = before.attachments ++ [attachment.ended before.page.stuckNames])
      (fresh : attachment.stuck = []) (free : attachment.borrowed = false)
      (tried : attachment.listeners ++ [refused] <+: listenersFor names)
      (accepted : ∀ listener ∈ attachment.listeners, listener.name ∉ before.page.refusedNames)
      (failed : refused.name ∈ before.page.refusedNames)
      (calls : after.calls = before.calls ++ .newSource url :: Call.additions attachment.listeners ++
        [.addListener refused.name, .closeSource] ++ Call.removals attachment.listeners)

theorem listen_eq (page : Page) (listeners : List Listener) :
    ((∀ listener ∈ listeners, listener.name ∉ page.refusedNames) ∧
      ∃ records, listen page listeners = (listeners, Call.additions listeners, records, none)) ∨
    ∃ added refused rest, listeners = added ++ refused :: rest ∧
      (∀ listener ∈ added, listener.name ∉ page.refusedNames) ∧ refused.name ∈ page.refusedNames ∧
      ∃ records thrown, listen page listeners =
        (added, Call.additions added ++ [.addListener refused.name], records, some thrown) := by
  induction listeners with
  | nil => exact Or.inl ⟨by simp, [], rfl⟩
  | cons listener rest ih =>
    by_cases refused : listener.name ∈ page.refusedNames
    · refine Or.inr ⟨[], listener, rest, rfl, by simp, refused, [], .error "TypeError" listener.name, ?_⟩
      simp [listen, refused, Call.additions]
    · rcases ih with ⟨accepted, records, done⟩ | ⟨added, last, rest, rfl, accepted, failed, records, thrown, done⟩
      · refine Or.inl ⟨List.forall_mem_cons.mpr ⟨refused, accepted⟩, .listening listener.name :: records, ?_⟩
        simp [listen, refused, done, Call.additions]
      · refine Or.inr ⟨listener :: added, last, rest, rfl, List.forall_mem_cons.mpr ⟨refused, accepted⟩, failed,
          .listening listener.name :: records, thrown, ?_⟩
        simp [listen, refused, done, Call.additions]

theorem detach_held {index : Nat} {world : World} {attachment : Attachment}
    (held : world.attachments[index]? = some attachment) :
    (world.detach index).1 =
      { world with
        attachments := world.attachments.set index (attachment.ended world.page.stuckNames)
        calls := world.calls ++ .closeSource :: Call.removals attachment.listeners } := by
  simp only [detach, held, Call.removals, List.map_map]
  rfl

theorem getElem?_detach {index : Nat} {world : World} {attachment : Attachment}
    (held : world.attachments[index]? = some attachment) :
    (world.detach index).1.attachments[index]? = some (attachment.ended world.page.stuckNames) := by
  rw [detach_held held]
  exact List.getElem?_set_self (List.getElem?_eq_some_iff.mp held).1

theorem openSource_ends (url : String) (rows : TableRows) (synchronizer : Synchronizer) (world : World) :
    let result := openSource url rows synchronizer world
    result.2.1.page = world.page ∧ result.2.1.lookups = world.lookups ∧
      match result.1 with
      | .ok index => Completed url rows synchronizer world index result.2.1
      | .error _ => Undone url synchronizer.settings.eventNames world result.2.1 := by
  intro result
  cases failing : world.page.sourceError with
  | some message =>
    have reached : result = (.error (.stream (ScriptValue.error "SyntaxError" message).description),
        world.noteCalls [.newSource url], []) := by
      simp only [result, openSource, noteCalls, failing]
    rw [reached]
    exact ⟨rfl, rfl, .unopened rfl (Or.inr ⟨by simp [failing], rfl⟩)⟩
  | none =>
    rcases listen_eq world.page (listenersFor synchronizer.settings.eventNames) with
      ⟨accepted, records, done⟩ | ⟨added, refused, rest, split, accepted, failed, records, thrown, done⟩
    · simp only [result, openSource, noteCalls, failing, done]
      exact ⟨trivial, trivial, rfl, rfl, accepted, by simp⟩
    · let attachment : Attachment := { rows, synchronizer := synchronizer.connecting, listeners := added }
      let opened : World :=
        { world with
          calls := world.calls ++ [.newSource url] ++ (Call.additions added ++ [.addListener refused.name])
          attachments := world.attachments ++ [attachment] }
      have held : opened.attachments[world.attachments.length]? = some attachment := by simp [opened]
      have detached := detach_held held
      simp only [result, openSource, noteCalls, failing, done, opened] at detached ⊢
      rw [detached]
      refine ⟨rfl, rfl, .closed attachment refused ?_ rfl rfl ?_ accepted failed ?_⟩
      · simp
      · rw [split]
        exact ⟨rest, by simp [attachment]⟩
      · simp [attachment]

/-- How attaching a table ends: beside the named table the page stays as it is, and the
attachment is complete or undone. -/
structure AttachEnds (id url : String) (settings : Settings) (before : World) (answer : Except AttachError Nat)
    (after : World) : Prop where
  page : BodyAdded id before.page after.page
  lookups : after.lookups = before.lookups
  outcome : match answer with
    | .ok index => ∃ table, before.page.findTable id = .ok table ∧
        Completed url (.ofSettings id settings) { columns := table.columnCount, settings } before index after
    | .error _ => Undone url settings.eventNames before after

theorem tryAttach_ends (id url : String) (settings : Settings) (world : World) :
    let result := world.tryAttach id url settings
    AttachEnds id url settings world result.1 result.2.1 := by
  intro result
  have nothing : Undone url settings.eventNames world world := .unopened rfl (Or.inl rfl)
  cases found : world.page.findTable id with
  | error error =>
    simp only [result, tryAttach, found]
    exact ⟨.refl id _, rfl, nothing⟩
  | ok table =>
    cases placed : table.inDocument with
    | false =>
      simp only [result, tryAttach, found, bindRows, placed, Bool.not_false, ite_true]
      exact ⟨.refl id _, rfl, nothing⟩
    | true =>
      cases room : world.page.bodyError? table.bodies with
      | some error =>
        simp only [result, tryAttach, found, bindRows, placed, Bool.not_true, Bool.false_eq_true, ite_false, room]
        exact ⟨.refl id _, rfl, nothing⟩
      | none =>
        let bodied : World := { world with page := world.page.modifyTable id PageTable.withBody }
        obtain ⟨page, lookups, ends⟩ :=
          openSource_ends url (.ofSettings id settings) { columns := table.columnCount, settings } bodied
        simp only [result, tryAttach, found, bindRows, placed, Bool.not_true, Bool.false_eq_true, ite_false, room]
        refine ⟨page ▸ bodyAdded_withBody id world.page, lookups, ?_⟩
        generalize openSource url (.ofSettings id settings) _ bodied = opened at ends
        obtain ⟨answer, after, records⟩ := opened
        cases answer with
        | ok index => exact ⟨table, found, ends.index, ends.attachments, ends.accepted, ends.calls⟩
        | error error =>
          cases ends with
          | unopened attachments calls => exact .unopened attachments calls
          | closed attachment refused attachments fresh free tried accepted failed calls =>
            exact .closed attachment refused attachments fresh free tried accepted failed calls

theorem attach_ends (id url : String) (settings : Settings) (world : World) :
    let result := world.attach id url settings
    AttachEnds id url settings world result.1 result.2.1 :=
  tryAttach_ends id url settings world

end World

end StreamTable.Page
