import StreamTable.Page.Attach
import StreamTable.Proofs.HostEdits
import StreamTable.Proofs.Refusals
import StreamTable.Proofs.TableEdits

/-! What the course of an event leaves as it is. Of an attachment only the phase of its
synchronizer moves, and of the page only its elements and its sanitizer. Events may cause
events, at the same source or at another; so each part of the course keeps what the
delivery keeps that it is given, and the levels of deliveries are one induction. -/

namespace StreamTable.Page

/-- How an attachment goes on that nothing ends: its listeners stay, and what is closed of
it stays closed. -/
structure Attachment.Goes (before after : Attachment) : Prop where
  rows : after.rows = before.rows
  listeners : after.listeners = before.listeners
  stuck : after.stuck = before.stuck
  shut : before.isOpen = false → after.isOpen = false
  closed : before.synchronizer.phase = .closed → after.synchronizer.phase = .closed

theorem Attachment.Goes.refl (attachment : Attachment) : attachment.Goes attachment := ⟨rfl, rfl, rfl, id, id⟩

theorem Attachment.Goes.trans {first second third : Attachment} (before : first.Goes second)
    (after : second.Goes third) : first.Goes third where
  rows := after.rows.trans before.rows
  listeners := after.listeners.trans before.listeners
  stuck := after.stuck.trans before.stuck
  shut closed := after.shut (before.shut closed)
  closed closed := after.closed (before.closed closed)

/-- An attachment whose synchronizer may have gone to another phase, unless it was closed. -/
def Attachment.Moves (before after : Attachment) : Prop :=
  ∃ phase, after = { before with synchronizer := before.synchronizer.enter phase } ∧
    (before.synchronizer.phase = .closed → phase = .closed)

namespace Attachment.Moves

variable {before after : Attachment}

theorem refl (attachment : Attachment) : attachment.Moves attachment := ⟨attachment.synchronizer.phase, rfl, id⟩

theorem trans {first second third : Attachment} (before : first.Moves second) (after : second.Moves third) :
    first.Moves third := by
  obtain ⟨_, rfl, closed⟩ := before
  obtain ⟨phase, rfl, closedAfter⟩ := after
  exact ⟨phase, rfl, fun once => closedAfter (closed once)⟩

theorem goes (moves : before.Moves after) : before.Goes after := by
  obtain ⟨phase, rfl, closed⟩ := moves
  exact ⟨rfl, rfl, rfl, id, closed⟩

theorem borrowed (moves : before.Moves after) : after.borrowed = before.borrowed := by
  obtain ⟨phase, rfl, -⟩ := moves
  rfl

end Attachment.Moves

namespace World

structure Moves (before after : World) : Prop where
  count : after.attachments.length = before.attachments.length
  attachments (index : Nat) (attachment : Attachment) : before.attachments[index]? = some attachment →
    ∃ next, after.attachments[index]? = some next ∧ attachment.Moves next
  page : ∃ elements purifier, after.page = { before.page with elements, purifier }
  lookups : before.lookups <+: after.lookups
  running : after.running = before.running

def Delivery.Moves (delivery : Delivery) : Prop := ∀ dispatch world, World.Moves world (delivery dispatch world).1

namespace Moves

variable {before after : World} {index : Nat}

theorem of_same (attachments : after.attachments = before.attachments)
    (page : ∃ elements purifier, after.page = { before.page with elements, purifier })
    (lookups : before.lookups <+: after.lookups) (running : after.running = before.running) : Moves before after :=
  ⟨congrArg List.length attachments, fun _ attachment held => ⟨attachment, attachments ▸ held, .refl attachment⟩,
    page, lookups, running⟩

theorem refl (world : World) : Moves world world := of_same rfl ⟨_, _, rfl⟩ List.prefix_rfl rfl

theorem trans {first second third : World} (before : Moves first second) (after : Moves second third) :
    Moves first third where
  count := after.count.trans before.count
  attachments index attachment held := by
    obtain ⟨next, found, moves⟩ := before.attachments index attachment held
    obtain ⟨last, reached, later⟩ := after.attachments index next found
    exact ⟨last, reached, moves.trans later⟩
  page := by
    obtain ⟨_, _, middle⟩ := before.page
    obtain ⟨elements, purifier, last⟩ := after.page
    exact ⟨elements, purifier, by rw [last, middle]⟩
  lookups := before.lookups.trans after.lookups
  running := after.running.trans before.running

theorem edited {rows : TableRows} {world : World} {page : Page} (edited : rows.Edited world.page page) :
    Moves world { world with page } := by
  refine of_same rfl ?_ List.prefix_rfl rfl
  cases edited with
  | same => exact ⟨_, _, rfl⟩
  | bodies bodies => exact ⟨_, _, rfl⟩

theorem target (moves : Moves before after) (dispatch : Dispatch) : after.target dispatch = before.target dispatch := by
  simp only [World.target, moves.count]

theorem held_before (moves : Moves before after) {next : Attachment} (found : after.attachments[index]? = some next) :
    ∃ attachment, before.attachments[index]? = some attachment ∧ attachment.Moves next := by
  have inside : index < before.attachments.length := moves.count ▸ (List.getElem?_eq_some_iff.mp found).1
  have held : before.attachments[index]? = some before.attachments[index] := List.getElem?_eq_getElem inside
  obtain ⟨other, reached, went⟩ := moves.attachments index _ held
  cases found.symm.trans reached
  exact ⟨_, held, went⟩

variable {delivery : Delivery}

theorem deliverAll (moves : delivery.Moves) (events : List Dispatch) (world : World) :
    Moves world (World.deliverAll delivery events world).1 := by
  induction events generalizing world with
  | nil => exact refl world
  | cons dispatch rest ih => exact (moves dispatch world).trans (ih _)

theorem noteLookup (fragment : String) (world : World) : Moves world (world.noteLookup fragment) :=
  of_same rfl ⟨_, _, rfl⟩ (List.prefix_append _ _) rfl

theorem leave (found : Purifier) (fragment : String) (world : World) : Moves world (world.leave found fragment) :=
  of_same rfl ⟨_, _, rfl⟩ List.prefix_rfl rfl

theorem cleanFragment (moves : delivery.Moves) (fragment : String) (world : World) :
    Moves world (World.cleanFragment delivery fragment world).2.1 := by
  rw [cleanFragment_eq]
  exact ((noteLookup fragment world).trans (deliverAll moves _ _)).trans (leave _ _ _)

theorem cleanCells (moves : delivery.Moves) (cells : List Cell) (world : World) :
    Moves world (World.cleanCells delivery cells world).2.1 := by
  induction cells generalizing world with
  | nil => exact refl world
  | cons cell rest ih =>
    cases cell with
    | text shown => exact ih world
    | html fragment => exact (cleanFragment moves fragment world).trans (ih _)

theorem host (moves : delivery.Moves) (rows : TableRows) : (World.host rows delivery).Moves Moves where
  refl := refl
  trans before after := before.trans after
  clean row world := cleanCells moves row.cells world
  insert index _ _ := edited (.insert index)
  replace index _ _ := edited (.replace index)
  remove index _ := edited (.remove index)
  clear _ := edited .clear

theorem perform (moves : delivery.Moves) (rows : TableRows) (operation : Operation) (synchronizer : Synchronizer)
    (world : World) : Moves world (operation.perform (World.host rows delivery) synchronizer world).store :=
  (host moves rows).perform operation synchronizer world

end Moves

theorem getElem?_setBorrowed (borrowed : Bool) (index other : Nat) (world : World) :
    (world.setBorrowed borrowed index).attachments[other]? =
      world.attachments[other]?.map fun held => if index = other then { held with borrowed } else held := by
  simp only [setBorrowed, List.getElem?_modify]
  split <;> simp

def giveBack (index : Nat) (attachment : Attachment) (world : World) : World :=
  { world with attachments := world.attachments.set index attachment }

/-- Meanwhile the attachment is borrowed; what it is given back with is its synchronizer. -/
theorem operate_held (delivery : Delivery) (operation : Operation) {index : Nat} {world : World}
    {attachment : Attachment} (held : world.attachments[index]? = some attachment) :
    let step := operation.perform (host attachment.rows delivery) attachment.synchronizer (world.setBorrowed true index)
    world.operate delivery operation index =
      (step.outcome, step.store.giveBack index { attachment with synchronizer := step.synchronizer }, step.records) := by
  simp only [operate, held, giveBack]

theorem operate_missing (delivery : Delivery) (operation : Operation) {index : Nat} {world : World}
    (missing : world.attachments[index]? = none) : world.operate delivery operation index = (none, world, []) := by
  simp only [operate, missing]

theorem operate_back (delivery : Delivery) (moves : delivery.Moves) (operation : Operation) {index : Nat} {world : World}
    {attachment : Attachment} (held : world.attachments[index]? = some attachment) :
    ∃ phase, (world.operate delivery operation index).2.1.attachments[index]? =
        some { attachment with synchronizer := attachment.synchronizer.enter phase } ∧
      (phase = .closed ↔ attachment.synchronizer.phase = .closed ∨ operation = .close) := by
  obtain ⟨phase, entered, closed⟩ := operation.perform_enters attachment.synchronizer
    (host attachment.rows delivery) (world.setBorrowed true index)
  have count := (Moves.perform moves attachment.rows operation attachment.synchronizer (world.setBorrowed true index)).count
  have inside := (List.getElem?_eq_some_iff.mp held).1
  refine ⟨phase, ?_, closed⟩
  rw [operate_held delivery operation held]
  simp only [giveBack, entered]
  exact List.getElem?_set_self (by rw [count]; simpa [setBorrowed] using inside)

namespace Moves

variable {delivery : Delivery} {index : Nat}

theorem giveBack {world during : World} {attachment next : Attachment}
    (held : world.attachments[index]? = some attachment) (moved : attachment.Moves next)
    (moves : Moves (world.setBorrowed true index) during) : Moves world (during.giveBack index next) where
  count := by simpa [World.giveBack, setBorrowed] using moves.count
  attachments other present found := by
    by_cases same : index = other
    · subst same
      cases held.symm.trans found
      have inside : index < during.attachments.length := by
        simpa [moves.count, setBorrowed] using (List.getElem?_eq_some_iff.mp held).1
      exact ⟨next, List.getElem?_set_self inside, moved⟩
    · have before : (world.setBorrowed true index).attachments[other]? = some present := by
        simp [getElem?_setBorrowed, found, same]
      obtain ⟨last, reached, went⟩ := moves.attachments other present before
      exact ⟨last, by simpa [World.giveBack, List.getElem?_set_ne same] using reached, went⟩
  page := moves.page
  lookups := moves.lookups
  running := moves.running

theorem setBorrowed {before after : World} (moves : Moves before after) (index : Nat) :
    Moves (before.setBorrowed true index) (after.setBorrowed true index) where
  count := by simpa [World.setBorrowed] using moves.count
  attachments other attachment found := by
    rw [getElem?_setBorrowed] at found
    obtain ⟨held, known, rfl⟩ := Option.map_eq_some_iff.mp found
    obtain ⟨next, reached, phase, rfl, closed⟩ := moves.attachments other held known
    refine ⟨_, by rw [getElem?_setBorrowed, reached]; rfl, phase, ?_, ?_⟩ <;> split <;> first | rfl | exact closed
  page := moves.page
  lookups := moves.lookups
  running := moves.running

theorem operate (moves : delivery.Moves) (operation : Operation) (index : Nat) (world : World) :
    Moves world (World.operate delivery operation index world).2.1 := by
  cases held : world.attachments[index]? with
  | none =>
    rw [operate_missing delivery operation held]
    exact refl world
  | some attachment =>
    obtain ⟨phase, entered, closed⟩ := operation.perform_enters attachment.synchronizer
      (World.host attachment.rows delivery) (world.setBorrowed true index)
    rw [operate_held delivery operation held]
    refine giveBack held ⟨phase, ?_, fun once => closed.mpr (Or.inl once)⟩ (perform moves attachment.rows operation _ _)
    simp only [entered]

theorem hear (moves : delivery.Moves) (event : PageEvent) (index place : Nat) (role : Role) (world : World) :
    Moves world (World.hear delivery event index place role world).1 := by
  have restored {during : World} (moved : Moves { world with running := (index, place) :: world.running } during) :
      Moves world { during with running := world.running } :=
    ⟨moved.count, moved.attachments, moved.page, moved.lookups, rfl⟩
  cases role with
  | opens => exact restored (operate moves .opened index _)
  | applies kind => exact restored (operate moves (.apply kind event.payload) index _)

theorem hearAll (moves : delivery.Moves) (event : PageEvent) (index place : Nat) (listeners : List Listener)
    (world : World) : Moves world (World.hearAll delivery event index place listeners world).1 := by
  induction listeners generalizing place world with
  | nil => exact refl world
  | cons listener rest ih =>
    simp only [World.hearAll]
    split
    · exact (hear moves event index place listener.role world).trans (ih _ _)
    · exact ih _ _

theorem deliverBy (moves : delivery.Moves) : (World.deliverBy delivery).Moves := by
  intro dispatch world
  simp only [World.deliverBy]
  split
  · exact refl world
  next attachment held =>
    split
    · exact refl world
    · split
      · exact of_same rfl ⟨_, _, rfl⟩ List.prefix_rfl rfl
      · exact hearAll moves _ _ _ _ world

theorem deliverWithin (levels : Nat) : (World.deliverWithin levels).Moves := by
  induction levels with
  | zero => exact fun _ world => refl world
  | succ levels ih => exact deliverBy ih

theorem deliver : Delivery.Moves World.deliver := fun dispatch world => deliverWithin _ dispatch world

theorem drive (operation : Operation) (index : Nat) (world : World) :
    Moves world (World.drive operation index world).2.1 := by
  simp only [World.drive]
  split
  · exact refl world
  · exact operate (deliverWithin _) operation index world

end Moves

def Keeps (index : Nat) (before after : World) : Prop :=
  ∀ attachment, before.attachments[index]? = some attachment →
    ∃ next, after.attachments[index]? = some next ∧ attachment.Goes next

namespace Keeps

variable {index : Nat}

theorem of_same {before after : World} (same : after.attachments[index]? = before.attachments[index]?) :
    Keeps index before after :=
  fun attachment held => ⟨attachment, same.trans held, .refl attachment⟩

theorem of_moves {before after : World} (moves : Moves before after) : Keeps index before after := by
  intro attachment held
  obtain ⟨next, found, moved⟩ := moves.attachments index attachment held
  exact ⟨next, found, moved.goes⟩

theorem refl (world : World) : Keeps index world world := of_same rfl

theorem trans {first second third : World} (before : Keeps index first second) (after : Keeps index second third) :
    Keeps index first third := by
  intro attachment held
  obtain ⟨next, found, goes⟩ := before attachment held
  obtain ⟨last, later, goesOn⟩ := after next found
  exact ⟨last, later, goes.trans goesOn⟩

theorem setBorrowed (borrowed : Bool) (other : Nat) (world : World) :
    Keeps index world (world.setBorrowed borrowed other) := by
  intro attachment held
  refine ⟨if other = index then { attachment with borrowed } else attachment, ?_, ?_⟩
  · simp only [getElem?_setBorrowed, held, Option.map_some]
  · split
    · exact ⟨rfl, rfl, rfl, id, id⟩
    · exact .refl attachment

theorem closeSource (closed : Nat) (world : World) : Keeps index world (world.closeSource closed) := by
  intro attachment held
  simp only [World.closeSource, List.getElem?_modify, held]
  by_cases same : closed = index
  · exact ⟨{ attachment with isOpen := false }, by simp [same], rfl, rfl, rfl, fun _ => rfl, id⟩
  · exact ⟨attachment, by simp [same], .refl attachment⟩

theorem detach {ended : Nat} (different : ended ≠ index) (world : World) :
    Keeps index world (world.detach ended).1 := by
  simp only [World.detach]
  split
  · exact refl world
  · exact of_same (List.getElem?_set_ne different)

theorem of_append {before after : World} {more : List Attachment}
    (same : after.attachments = before.attachments ++ more) : Keeps index before after := by
  intro attachment held
  refine ⟨attachment, ?_, .refl attachment⟩
  rw [same, List.getElem?_append_left (List.getElem?_eq_some_iff.mp held).1, held]

end Keeps

end World

end StreamTable.Page
