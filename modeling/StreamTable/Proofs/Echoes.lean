import StreamTable.Proofs.KeptAttachments

/-! Worlds that no reply of a sanitizer tells apart. They may differ in the events that the
calls of their sanitizers cause at the source of one attachment. While that is borrowed
these are refused, so whatever is asked of a synchronizer meanwhile is answered alike and
leaves the worlds alike; and it is borrowed whenever it is asked something itself. -/

namespace StreamTable.Page

/-- A change of sanitizers by which their calls cause no more events than those to keep. No
reply shows it, neither theirs nor that of any sanitizer that they leave on the page. -/
structure Purifier.Covert (keep : Dispatch → Bool) (change : Purifier → Purifier) : Prop where
  reply? (purifier : Purifier) (fragment : String) : (change purifier).reply? fragment = purifier.reply? fragment
  caused (purifier : Purifier) (fragment : String) :
    (change purifier).caused fragment = (purifier.caused fragment).filter keep
  replacement? (purifier : Purifier) (fragment : String) :
    (change purifier).replacement? fragment = (purifier.replacement? fragment).map change

namespace Purifier.Covert

theorem refl : Covert (fun _ => true) id := ⟨fun _ _ => rfl, by simp, by simp⟩

variable {keep : Dispatch → Bool} {change : Purifier → Purifier}

theorem answer (covert : Covert keep change) (purifier : Purifier) (fragment : String) :
    (change purifier).answer fragment = purifier.answer fragment := by
  simp only [Purifier.answer, covert.reply?]

theorem left (covert : Covert keep change) (purifier other : Purifier) (fragment : String) :
    ((change purifier).replacement? fragment).getD (change other) =
      change ((purifier.replacement? fragment).getD other) := by
  rw [covert.replacement?]
  cases purifier.replacement? fragment <;> rfl

end Purifier.Covert

def withPurifier (purifier : Purifier) (page : Page) : Page := { page with purifier }

namespace TableRows

variable (rows : TableRows) (row : Row) (index : Nat) (page : Page) (purifier : Purifier)

theorem insert_withPurifier : rows.insert index row (page.withPurifier purifier) =
    ((rows.insert index row page).1.withPurifier purifier, (rows.insert index row page).2) := by
  have room : (page.withPurifier purifier).bodyError? (rows.bodies (page.withPurifier purifier)) =
      page.bodyError? (rows.bodies page) := rfl
  simp only [insert, room]
  cases rows.render row with
  | error thrown => rfl
  | ok rendered => cases page.bodyError? (rows.bodies page) <;> rfl

theorem replace_withPurifier : rows.replace index row (page.withPurifier purifier) =
    ((rows.replace index row page).1.withPurifier purifier, (rows.replace index row page).2) := by
  have count : rows.length (page.withPurifier purifier) = rows.length page := rfl
  have bodies : rows.bodies (page.withPurifier purifier) = rows.bodies page := rfl
  simp only [replace, count, bodies]
  split
  · rfl
  · cases rows.render row with
    | error thrown => rfl
    | ok rendered =>
      dsimp only
      cases Bodies.replace? index rendered (rows.bodies page) <;> rfl

theorem remove_withPurifier : rows.remove index (page.withPurifier purifier) =
    ((rows.remove index page).1.withPurifier purifier, (rows.remove index page).2) := by
  have bodies : rows.bodies (page.withPurifier purifier) = rows.bodies page := rfl
  simp only [remove, bodies]
  cases Bodies.remove? index (rows.bodies page) <;> rfl

end TableRows

namespace World

/-- An attachment that is borrowed, and at whose source all events are that are not kept. -/
structure Holds (keep : Dispatch → Bool) (index : Nat) (world : World) : Prop where
  borrowed : ∀ attachment, world.attachments[index]? = some attachment → attachment.borrowed
  aimed : ∀ dispatch, keep dispatch = false → world.target dispatch = index

theorem Holds.of_moves {keep : Dispatch → Bool} {index : Nat} {before after : World} (holds : Holds keep index before)
    (moves : Moves before after) : Holds keep index after where
  borrowed next found := by
    obtain ⟨attachment, held, moved⟩ := moves.held_before found
    exact moved.borrowed.trans (holds.borrowed attachment held)
  aimed dispatch dropped := (moves.target dispatch).trans (holds.aimed dispatch dropped)

/-- Worlds in which an attachment is borrowed as soon as another is, or as it is itself. -/
def Shields (keep : Dispatch → Bool) (index asked : Nat) (world : World) : Prop :=
  Holds keep index (world.setBorrowed true asked)

namespace Shields

variable {keep : Dispatch → Bool} {index : Nat} {world : World}

theorem own (aimed : ∀ dispatch, keep dispatch = false → world.target dispatch = index) :
    Shields keep index index world where
  borrowed attachment found := by
    rw [getElem?_setBorrowed] at found
    obtain ⟨held, -, rfl⟩ := Option.map_eq_some_iff.mp found
    simp
  aimed dispatch dropped := by simpa [target, World.setBorrowed] using aimed dispatch dropped

theorem of_holds (holds : Holds keep index world) (asked : Nat) : Shields keep index asked world where
  borrowed attachment found := by
    rw [getElem?_setBorrowed] at found
    obtain ⟨held, known, rfl⟩ := Option.map_eq_some_iff.mp found
    split
    · rfl
    · exact holds.borrowed held known
  aimed dispatch dropped := by simpa [target, World.setBorrowed] using holds.aimed dispatch dropped

theorem of_moves {asked : Nat} {after : World} (shields : Shields keep index asked world) (moves : Moves world after) :
    Shields keep index asked after := Holds.of_moves shields (moves.setBorrowed asked)

end Shields

/-- A world that differs from another in its sanitizers, by a change, and in the calls that
it saw. -/
structure Echoes (change : Purifier → Purifier) (world other : World) : Prop where
  page : other.page = world.page.withPurifier (change world.page.purifier)
  attachments : other.attachments = world.attachments
  lookups : other.lookups = world.lookups.map fun lookup => { lookup with found := change lookup.found }

/-- Worlds and records that are alike, save that events were refused. -/
def Alike (change : Purifier → Purifier) (first second : World × List Record) : Prop :=
  Echoes change first.1 second.1 ∧ Record.unrefused second.2 = Record.unrefused first.2

theorem Alike.append {change : Purifier → Purifier} {first second : World × List Record}
    {earlier earlierOther : List Record} (alike : Alike change first second) (records : Record.unrefused earlierOther = Record.unrefused earlier) :
    Alike change (first.1, earlier ++ first.2) (second.1, earlierOther ++ second.2) :=
  ⟨alike.1, by rw [Record.unrefused_append, Record.unrefused_append, records, alike.2]⟩

/-- Deliveries that go alike while an attachment is borrowed. What need not be kept is
dropped by the other, and the first only refuses it. -/
structure Delivery.Echo (keep : Dispatch → Bool) (change : Purifier → Purifier) (index : Nat)
    (first second : Delivery) : Prop where
  moves : first.Moves
  kept (dispatch : Dispatch) {world other : World} : Holds keep index world → Echoes change world other →
    Alike change (first dispatch world) (second dispatch other)
  dropped (dispatch : Dispatch) {world other : World} : keep dispatch = false → Holds keep index world →
    Echoes change world other → Alike change (first dispatch world) (other, [])

namespace Echoes

variable {keep : Dispatch → Bool} {change : Purifier → Purifier} {index : Nat} {first second : Delivery}
  {world other : World}

theorem edited (echoes : Echoes change world other) {page : Page} (kept : page.purifier = world.page.purifier) :
    Echoes change { world with page } { other with page := page.withPurifier (change world.page.purifier) } :=
  ⟨by simp only [kept], echoes.attachments, echoes.lookups⟩

theorem setBorrowed (echoes : Echoes change world other) (borrowed : Bool) (asked : Nat) :
    Echoes change (world.setBorrowed borrowed asked) (other.setBorrowed borrowed asked) :=
  ⟨echoes.page, by simp only [World.setBorrowed, echoes.attachments], echoes.lookups⟩

theorem giveBack (echoes : Echoes change world other) (asked : Nat) (attachment : Attachment) :
    Echoes change (world.giveBack asked attachment) (other.giveBack asked attachment) :=
  ⟨echoes.page, by simp only [World.giveBack, echoes.attachments], echoes.lookups⟩

theorem target (echoes : Echoes change world other) (dispatch : Dispatch) :
    other.target dispatch = world.target dispatch := by simp only [World.target, echoes.attachments]

theorem deliverAll (echo : Delivery.Echo keep change index first second) (events : List Dispatch)
    (holds : Holds keep index world) (echoes : Echoes change world other) :
    Alike change (World.deliverAll first events world) (World.deliverAll second (events.filter keep) other) := by
  induction events generalizing world other with
  | nil => exact ⟨echoes, rfl⟩
  | cons dispatch rest ih =>
    have later := holds.of_moves (echo.moves dispatch world)
    cases kept : keep dispatch with
    | true =>
      have alike := echo.kept dispatch holds echoes
      simp only [List.filter_cons, kept, ite_true, World.deliverAll]
      exact (ih later alike.1).append alike.2
    | false =>
      have alike := echo.dropped dispatch kept holds echoes
      simp only [List.filter_cons, kept, Bool.false_eq_true, ite_false, World.deliverAll]
      exact (ih later alike.1).append alike.2

theorem cleanFragment (covert : Purifier.Covert keep change) (echo : Delivery.Echo keep change index first second)
    (fragment : String) (holds : Holds keep index world) (echoes : Echoes change world other) :
    (World.cleanFragment second fragment other).1 = (World.cleanFragment first fragment world).1 ∧
      Alike change (World.cleanFragment first fragment world).2 (World.cleanFragment second fragment other).2 := by
  have found : other.page.purifier = change world.page.purifier := congrArg Page.purifier echoes.page
  have noted : Echoes change (world.noteLookup fragment) (other.noteLookup fragment) :=
    ⟨echoes.page, echoes.attachments, by simp [noteLookup, echoes.lookups, found]⟩
  obtain ⟨alike, records⟩ :=
    deliverAll echo (world.page.purifier.caused fragment) (holds.of_moves (.noteLookup fragment world)) noted
  rw [cleanFragment_eq, cleanFragment_eq, found, covert.caused, covert.answer]
  refine ⟨rfl, ⟨?_, alike.attachments, alike.lookups⟩, ?_⟩
  · have purifier := congrArg Page.purifier alike.page
    simp only [leave, setPurifier, alike.page, withPurifier, covert.left]
  · simp only [Record.unrefused_append, records]

theorem cleanCells (covert : Purifier.Covert keep change) (echo : Delivery.Echo keep change index first second)
    (cells : List Cell) (holds : Holds keep index world) (echoes : Echoes change world other) :
    (World.cleanCells second cells other).1 = (World.cleanCells first cells world).1 ∧
      Alike change (World.cleanCells first cells world).2 (World.cleanCells second cells other).2 := by
  induction cells generalizing world other with
  | nil => exact ⟨rfl, echoes, rfl⟩
  | cons cell rest ih =>
    cases cell with
    | text shown =>
      obtain ⟨same, alike⟩ := ih holds echoes
      exact ⟨by simp only [World.cleanCells, same], alike⟩
    | html fragment =>
      obtain ⟨safe, alike⟩ := cleanFragment covert echo fragment holds echoes
      obtain ⟨same, alikeAfter⟩ := ih (holds.of_moves (.cleanFragment echo.moves fragment world)) alike.1
      exact ⟨by simp only [World.cleanCells, safe, same], alikeAfter.append alike.2⟩

theorem agree (change : Purifier → Purifier) (rows : TableRows) (first second : Delivery) :
    Host.Agree (fun _ => True) (Echoes change) (host rows first) (host rows second) where
  labels {world other} echoes := by
    simp only [host, echoes.page]
    rfl
  keyOf {world other row} echoes _ := by
    simp only [host, echoes.page]
    rfl
  insert {world other row index} echoes _ _ := by
    simp only [Host.Alike, host, echoes.page, rows.insert_withPurifier, and_true]
    exact echoes.edited (TableRows.Edited.insert index).purifier
  replace {world other row index} echoes _ _ := by
    simp only [Host.Alike, host, echoes.page, rows.replace_withPurifier, and_true]
    exact echoes.edited (TableRows.Edited.replace index).purifier
  remove {world other index} echoes _ := by
    simp only [Host.Alike, host, echoes.page, rows.remove_withPurifier, and_true]
    exact echoes.edited (TableRows.Edited.remove index).purifier
  clear {world other} echoes := by
    simp only [host, echoes.page]
    exact echoes.edited TableRows.Edited.clear.purifier

private theorem applyUpsert_ok {synchronizer : Synchronizer} (active : synchronizer.phase ≠ .closed) {payload : String}
    {values : List Json.Value} (decoded : upsertValues payload = .ok values) (rows : TableRows) (delivery : Delivery)
    (world : World) :
    let received := Row.verbatim values synchronizer.columns synchronizer.settings.htmlColumns
    let cleaned := World.cleanCells delivery received.cells world
    (synchronizer.applyUpsert (host rows delivery) payload world).toStep.unrefused =
      (synchronizer.placeRow (host rows delivery) { received with cells := cleaned.1 } cleaned.2.1).toStep.unrefused.after
        (Record.unrefused (.upsertBegun :: cleaned.2.2)) := by
  intro received cleaned
  simp only [Synchronizer.applyUpsert, active, ite_false, decoded]
  simp only [Effect.toStep, Step.unrefused, Step.after, ← Record.unrefused_append]
  rfl

theorem applyUpsert (covert : Purifier.Covert keep change) (echo : Delivery.Echo keep change index first second)
    (rows : TableRows) (synchronizer : Synchronizer) (payload : String) (holds : Holds keep index world)
    (echoes : Echoes change world other) :
    Step.Alike (Echoes change) (synchronizer.applyUpsert (host rows first) payload world).toStep.unrefused
      (synchronizer.applyUpsert (host rows second) payload other).toStep.unrefused := by
  by_cases closed : synchronizer.phase = .closed
  · simp only [Synchronizer.applyUpsert, closed, ite_true]
    exact ⟨rfl, rfl, echoes, rfl⟩
  · cases decoded : upsertValues payload with
    | error error =>
      simp only [Synchronizer.applyUpsert, closed, ite_false, decoded]
      exact ⟨rfl, rfl, echoes, rfl⟩
    | ok values =>
      let received := Row.verbatim values synchronizer.columns synchronizer.settings.htmlColumns
      obtain ⟨cells, alike, records⟩ := cleanCells covert echo received.cells holds echoes
      have begun : Record.unrefused (.upsertBegun :: (World.cleanCells second received.cells other).2.2) =
          Record.unrefused (.upsertBegun :: (World.cleanCells first received.cells world).2.2) :=
        congrArg (Record.upsertBegun :: ·) records
      rw [applyUpsert_ok closed decoded, applyUpsert_ok closed decoded, cells, begun]
      exact ((agree change rows first second).placeRow synchronizer (fun _ => trivial) alike).unrefused.after _

theorem perform (covert : Purifier.Covert keep change) (echo : Delivery.Echo keep change index first second)
    (rows : TableRows) (synchronizer : Synchronizer) (operation : Operation) (holds : Holds keep index world)
    (echoes : Echoes change world other) :
    Step.Alike (Echoes change) (operation.perform (host rows first) synchronizer world).unrefused
      (operation.perform (host rows second) synchronizer other).unrefused := by
  have agree := agree change rows first second
  rcases operation.cases_event synchronizer with quiet | ⟨kind, payload, event⟩ | ⟨target, rfl⟩ | ⟨row, rfl⟩
  · rw [Operation.perform_of_isQuiet _ _ quiet, Operation.perform_of_isQuiet _ _ quiet]
    exact ⟨rfl, rfl, echoes, rfl⟩
  · rw [Operation.perform_of_event _ _ event, Operation.perform_of_event _ _ event]
    cases kind with
    | upsert => exact applyUpsert covert echo rows synchronizer payload holds echoes
    | remove => exact (agree.applyRemove synchronizer payload echoes).unrefused
    | reset => exact (agree.applyReset synchronizer echoes).unrefused
  · exact (agree.removeNamed synchronizer target echoes).unrefused
  · exact (agree.placeRow synchronizer (fun _ => trivial) echoes).unrefused

theorem operate (covert : Purifier.Covert keep change) (echo : Delivery.Echo keep change index first second)
    (operation : Operation) {asked : Nat} (shields : Shields keep index asked world)
    (echoes : Echoes change world other) :
    (World.operate second operation asked other).1 = (World.operate first operation asked world).1 ∧
      Alike change (World.operate first operation asked world).2 (World.operate second operation asked other).2 := by
  cases held : world.attachments[asked]? with
  | none =>
    have missing : other.attachments[asked]? = none := echoes.attachments ▸ held
    rw [operate_missing _ _ held, operate_missing _ _ missing]
    exact ⟨rfl, echoes, rfl⟩
  | some attachment =>
    have also : other.attachments[asked]? = some attachment := echoes.attachments ▸ held
    have alike := perform covert echo attachment.rows attachment.synchronizer operation shields
      (echoes.setBorrowed true asked)
    rw [operate_held _ _ held, operate_held _ _ also]
    refine ⟨alike.outcome.symm, ?_, alike.records.symm⟩
    have synchronizer := alike.synchronizer
    simp only [Step.unrefused] at synchronizer
    simp only [← synchronizer]
    exact Echoes.giveBack alike.store asked _

theorem hear (covert : Purifier.Covert keep change) (echo : Delivery.Echo keep change index first second)
    (event : PageEvent) {asked : Nat} (place : Nat) (role : Role) (shields : Shields keep index asked world)
    (echoes : Echoes change world other) :
    Alike change (World.hear first event asked place role world) (World.hear second event asked place role other) := by
  have started (running others : List (Nat × Nat)) :
      Echoes change { world with running } { other with running := others } :=
    ⟨echoes.page, echoes.attachments, echoes.lookups⟩
  have shielded (running : List (Nat × Nat)) : Shields keep index asked { world with running } :=
    ⟨shields.borrowed, shields.aimed⟩
  cases role with
  | opens =>
    obtain ⟨-, alike, records⟩ := operate covert echo .opened (shielded _) (started _ _)
    exact ⟨⟨alike.page, alike.attachments, alike.lookups⟩, records⟩
  | applies kind =>
    obtain ⟨outcome, alike, records⟩ := operate covert echo (.apply kind event.payload) (shielded _) (started _ _)
    refine ⟨⟨alike.page, alike.attachments, alike.lookups⟩, ?_⟩
    simp only [World.hear, Record.unrefused_append, outcome, records]

theorem hearAll (covert : Purifier.Covert keep change) (echo : Delivery.Echo keep change index first second)
    (event : PageEvent) {asked : Nat} (place : Nat) (listeners : List Listener)
    (shields : Shields keep index asked world) (echoes : Echoes change world other) :
    Alike change (World.hearAll first event asked place listeners world)
      (World.hearAll second event asked place listeners other) := by
  induction listeners generalizing place world other with
  | nil => exact ⟨echoes, rfl⟩
  | cons listener rest ih =>
    simp only [World.hearAll]
    split
    · have alike := hear covert echo event place listener.role shields echoes
      have moves := Moves.hear echo.moves event asked place listener.role world
      exact (ih (place + 1) (shields.of_moves moves) alike.1).append alike.2
    · exact ih (place + 1) shields echoes

theorem deliverBy (covert : Purifier.Covert keep change) (echo : Delivery.Echo keep change index first second)
    (dispatch : Dispatch) (shields : Shields keep index (world.target dispatch) world)
    (echoes : Echoes change world other) :
    Alike change (World.deliverBy first dispatch world) (World.deliverBy second dispatch other) := by
  have target := echoes.target dispatch
  have closed : other.page.closedDelivers = world.page.closedDelivers := by
    rw [echoes.page]
    rfl
  cases held : world.attachments[world.target dispatch]? with
  | none =>
    have missing : other.attachments[other.target dispatch]? = none := by rw [echoes.attachments, target, held]
    rw [deliverBy_missing _ held, deliverBy_missing _ missing]
    exact ⟨echoes, rfl⟩
  | some attachment =>
    have also : other.attachments[other.target dispatch]? = some attachment := by rw [echoes.attachments, target, held]
    cases borrowed : attachment.borrowed with
    | true =>
      rw [deliverBy_borrowed _ held borrowed, deliverBy_borrowed _ also borrowed]
      refine ⟨⟨echoes.page, echoes.attachments, echoes.lookups⟩, ?_⟩
      rw [Record.unrefused_of_isRefusal (told_recorded _ _ _ _), Record.unrefused_of_isRefusal (told_recorded _ _ _ _)]
    | false =>
      rw [deliverBy_free _ held borrowed, deliverBy_free _ also borrowed, closed, target]
      split
      · exact hearAll covert echo dispatch.event 0 attachment.listeners shields echoes
      · exact ⟨echoes, rfl⟩

end Echoes

/-- An event for a borrowed attachment is only refused. -/
theorem Delivery.Echo.deliverBy {keep : Dispatch → Bool} {change : Purifier → Purifier} {index : Nat}
    {first second : Delivery} (covert : Purifier.Covert keep change) (echo : Delivery.Echo keep change index first second) :
    Delivery.Echo keep change index (World.deliverBy first) (World.deliverBy second) where
  moves := .deliverBy echo.moves
  kept dispatch _ _ holds echoes := echoes.deliverBy covert echo dispatch (.of_holds holds _)
  dropped dispatch world other dropped holds echoes := by
    have target := holds.aimed dispatch dropped
    cases held : world.attachments[world.target dispatch]? with
    | none =>
      rw [deliverBy_missing _ held]
      exact ⟨echoes, rfl⟩
    | some attachment =>
      rw [deliverBy_borrowed _ held (holds.borrowed attachment (target ▸ held))]
      refine ⟨⟨echoes.page, echoes.attachments, echoes.lookups⟩, ?_⟩
      rw [Record.unrefused_of_isRefusal (told_recorded _ _ _ _)]
      rfl

theorem echo_deliverWithin {keep : Dispatch → Bool} {change : Purifier → Purifier} (covert : Purifier.Covert keep change)
    (index levels : Nat) : Delivery.Echo keep change index (deliverWithin levels) (deliverWithin levels) := by
  induction levels with
  | zero => exact ⟨.deliverWithin 0, fun _ _ _ _ echoes => ⟨echoes, rfl⟩, fun _ _ _ _ _ echoes => ⟨echoes, rfl⟩⟩
  | succ levels ih => exact ih.deliverBy covert

theorem echo_deliver {keep : Dispatch → Bool} {change : Purifier → Purifier} (covert : Purifier.Covert keep change)
    (index : Nat) : Delivery.Echo keep change index deliver deliver where
  moves := .deliver
  kept dispatch world other holds echoes := by
    simp only [deliver, congrArg List.length echoes.attachments]
    exact (echo_deliverWithin covert index _).kept dispatch holds echoes
  dropped dispatch world other dropped holds echoes :=
    (echo_deliverWithin covert index _).dropped dispatch dropped holds echoes

end World

end StreamTable.Page
