import StreamTable.Proofs.KeptAttachments
import StreamTable.Proofs.SessionTurns

/-! The life of an attachment. The script that made it lets go of it at most once, by
detaching it or by attaching another table; that turn ends it, and it hears nothing more.
Its synchronizer is closed with it, unless that is borrowed just then. Before such a turn,
and for good without one, all of its listeners stay. -/

namespace StreamTable.Page

/-- Whether the script lets go of an attachment in a turn, other than by keeping it alive. -/
def Turn.drops (index : Nat) (turn : Turn) : Bool :=
  match turn.command with
  | .keepAlive => false
  | _ => turn.before.held = some index && turn.after.held ≠ some index

/-- How a turn ends an attachment: the last that the page sees of it is that its source is
closed and then each of its listeners is removed, once. What could not be done is recorded. -/
structure Turn.Ends (index : Nat) (attachment : Attachment) (turn : Turn) : Prop where
  before : turn.before.world.attachments[index]? = some attachment
  after : turn.after.world.attachments[index]? = some (attachment.ended turn.before.world.page.stuckNames)
  calls : ∃ earlier, .closeSource ∉ earlier ∧ (∀ name, .removeListener name ∉ earlier) ∧
    turn.after.world.calls = turn.before.world.calls ++ earlier ++ .closeSource :: Call.removals attachment.listeners
  unclosed : attachment.borrowed → .droppedBorrowed ∈ (turn.before.perform turn.command).2.2
  unremoved : ∀ listener ∈ attachment.listeners, listener.name ∈ turn.before.world.page.stuckNames →
    ∃ thrown, .removalFailed listener.name thrown ∈ (turn.before.perform turn.command).2.2

theorem World.mem_detach_borrowed {index : Nat} {world : World} {attachment : Attachment}
    (held : world.attachments[index]? = some attachment) (borrowed : attachment.borrowed) :
    .droppedBorrowed ∈ (world.detach index).2 := by simp [detach, held, borrowed]

theorem World.mem_detach_stuck {index : Nat} {world : World} {attachment : Attachment}
    (held : world.attachments[index]? = some attachment) {listener : Listener}
    (member : listener ∈ attachment.listeners) (stuck : listener.name ∈ world.page.stuckNames) :
    .removalFailed listener.name (.error "TypeError" listener.name) ∈ (world.detach index).2 := by
  have known : ∃ other ∈ attachment.listeners, other.name = listener.name := ⟨listener, member, rfl⟩
  simp [detach, held, stuck, known]

namespace Session

variable {session : Session} {index : Nat} {attachment : Attachment}

theorem release_held (session : Session) : session.release.1.held = none := by
  simp only [release]
  split
  next none => exact none
  next => rfl

theorem release_length (session : Session) :
    session.release.1.world.attachments.length = session.world.attachments.length := by
  simp only [release]
  split
  · rfl
  · simp only [World.detach]
    split
    · rfl
    · exact List.length_set

theorem release_keeps (other : session.held ≠ some index) :
    World.Keeps index session.world session.release.1.world := by
  simp only [release]
  split
  · exact .refl session.world
  next ended held => exact .detach (fun same => other (held.trans (congrArg some same))) session.world

theorem release_held_eq (held : session.held = some index) :
    session.release =
      ({ session with world := (session.world.detach index).1, held := none }, (session.world.detach index).2) := by
  simp only [release, held]

theorem release_ends (held : session.held = some index)
    (present : session.world.attachments[index]? = some attachment) :
    session.release.1.world.attachments[index]? = some (attachment.ended session.world.page.stuckNames) ∧
      session.release.1.world.calls = session.world.calls ++ .closeSource :: Call.removals attachment.listeners := by
  rw [release_held_eq held]
  exact ⟨World.getElem?_detach present, congrArg World.calls (World.detach_held present)⟩

theorem attach_keeps (id url : String) (settings : Settings) (world : World) :
    World.Keeps index world (world.attach id url settings).2.1 := by
  have ends := (World.attach_ends id url settings world).outcome
  split at ends
  · obtain ⟨table, -, completed⟩ := ends
    exact .of_append completed.attachments
  · cases ends with
    | unopened attachments => exact .of_same (congrArg (·[index]?) attachments)
    | closed ended refused attachments => exact .of_append attachments

/-- What attaching a table makes of a session. An earlier attachment is let go of only once
the new one is complete. -/
inductive Attaches (session : Session) (id url : String) : Session → Prop where
  | failed {world : World} {error : AttachError} {records : List Record}
      (made : session.world.attach id url session.settings = (.error error, world, records))
      (undone : World.Undone url session.settings.eventNames session.world world) :
      Attaches session id url { session with world }
  | done {world : World} {index : Nat} {records : List Record} {table : PageTable}
      (made : session.world.attach id url session.settings = (.ok index, world, records))
      (found : session.world.page.findTable id = .ok table)
      (completed : World.Completed url (.ofSettings id session.settings)
        { columns := table.columnCount, settings := session.settings } session.world index world) :
      Attaches session id url
        { ({ session with world } : Session).release.1 with latest := some index, held := some index }

theorem attaches (session : Session) (id url : String) : Attaches session id url (session.attach id url).2.1 := by
  have ends := (World.attach_ends id url session.settings session.world).outcome
  generalize made : session.world.attach id url session.settings = result at ends
  obtain ⟨answer, world, records⟩ := result
  simp only [attach, made]
  cases answer with
  | error error => exact .failed made ends
  | ok index =>
    obtain ⟨table, found, completed⟩ := ends
    exact .done made found completed

end Session

structure Turn.Takes (index : Nat) (attachment : Attachment) (turn : Turn) : Prop where
  keeps : turn.drops index = false →
    ∃ next, turn.after.world.attachments[index]? = some next ∧ attachment.Goes next
  ends : turn.drops index → turn.Ends index attachment
  held : turn.before.held ≠ some index → turn.after.held ≠ some index

namespace Session

variable {session : Session} {index : Nat} {attachment : Attachment}

theorem takes_of_held {after : Session} {command : Command}
    (present : session.world.attachments[index]? = some attachment) (same : after.held = session.held)
    (keeps : World.Keeps index session.world after.world) : Turn.Takes index attachment ⟨session, command, after⟩ where
  keeps _ := keeps attachment present
  ends dropped := by
    simp only [Turn.drops, same] at dropped
    split at dropped
    · cases dropped
    · simp at dropped
  held other := by rwa [same]

theorem takes_detach (present : session.world.attachments[index]? = some attachment) :
    Turn.Takes index attachment ⟨session, .detach, session.release.1⟩ where
  keeps kept := by
    have other : session.held ≠ some index := by simpa [Turn.drops, release_held] using kept
    exact release_keeps other attachment present
  ends dropped := by
    have held : session.held = some index := by simpa [Turn.drops, release_held] using dropped
    obtain ⟨found, calls⟩ := release_ends held present
    have recorded : (session.perform .detach).2.2 = (session.world.detach index).2 :=
      congrArg Prod.snd (release_held_eq held)
    refine ⟨present, found, ⟨[], by simp, by simp, by simpa using calls⟩, ?_, ?_⟩ <;> simp only [recorded]
    · exact World.mem_detach_borrowed present
    · exact fun listener member stuck => ⟨_, World.mem_detach_stuck present member stuck⟩
  held _ := by simp [release_held]

theorem takes_attach (id url : String) (present : session.world.attachments[index]? = some attachment) :
    Turn.Takes index attachment ⟨session, .attach id url, (session.attach id url).2.1⟩ := by
  have kept : World.Keeps index session.world _ := attach_keeps id url session.settings session.world
  have added := (World.attach_ends id url session.settings session.world).page
  have attaches := session.attaches id url
  generalize (session.attach id url).2.1 = after at attaches ⊢
  cases attaches with
  | failed made undone =>
    rw [made] at kept
    exact takes_of_held present rfl kept
  | @done world new records table made found completed =>
    rw [made] at kept added
    let attached : Session := { session with world }
    have inside := (List.getElem?_eq_some_iff.mp present).1
    have still : attached.world.attachments[index]? = some attachment := by
      rw [completed.attachments, List.getElem?_append_left inside, present]
    have different : new ≠ index := by
      rw [completed.index]
      exact Nat.ne_of_gt inside
    refine ⟨fun stays => ?_, fun dropped => ?_, fun _ => by simp [different]⟩
    · have other : attached.held ≠ some index := by simpa [Turn.drops, different] using stays
      exact kept.trans (release_keeps other) attachment present
    · have own : attached.held = some index := by simpa [Turn.drops, different] using dropped
      obtain ⟨found, calls⟩ := release_ends own still
      have settled : attached.world.page.stuckNames = session.world.page.stuckNames := added.stuckNames
      have recorded : ∀ record ∈ (attached.world.detach index).2, record ∈ (session.perform (.attach id url)).2.2 := by
        intro record member
        simp only [perform, Session.attach, made]
        exact List.mem_append_right _ (release_held_eq own ▸ member)
      let listeners := World.listenersFor session.settings.eventNames
      refine ⟨present, settled ▸ found, ⟨.newSource url :: Call.additions listeners,
        by simp [Call.additions], by simp [Call.additions], by rw [calls, completed.calls]⟩, ?_, ?_⟩
      · exact fun borrowed => recorded _ (World.mem_detach_borrowed still borrowed)
      · exact fun listener member stuck =>
          ⟨_, recorded _ (World.mem_detach_stuck still member (settled.symm ▸ stuck))⟩

theorem takes (session : Session) (command : Command) (present : session.world.attachments[index]? = some attachment) :
    Turn.Takes index attachment ⟨session, command, (session.perform command).2.1⟩ := by
  cases command with
  | attach id url => exact takes_attach id url present
  | attachForGood id url htmlColumns => exact takes_of_held present rfl (attach_keeps id url _ session.world)
  | detach => exact takes_detach present
  | keepAlive =>
    exact ⟨fun _ => ⟨attachment, present, .refl attachment⟩, by simp [Turn.drops], fun _ => by simp [perform]⟩
  | event dispatch => exact takes_of_held present rfl (.of_moves (.deliver dispatch session.world))
  | borrow other | giveBack other => exact takes_of_held present rfl (.setBorrowed _ other session.world)
  | setPurifier _ | setBodies _ _ | load _ => exact takes_of_held present rfl (.of_same rfl)
  | closeSource =>
    simp only [perform]
    split
    · exact takes_of_held present rfl (.refl session.world)
    next closed _ => exact takes_of_held present rfl (.closeSource closed session.world)
  | bindRows id =>
    simp only [perform, bindRows]
    split
    · exact takes_of_held present rfl (.refl session.world)
    · split
      · exact takes_of_held present rfl (.refl session.world)
      · exact takes_of_held present rfl (.of_same rfl)
  | rows command =>
    simp only [perform]
    split
    · exact takes_of_held present rfl (.refl session.world)
    · exact takes_of_held present rfl (.of_same rfl)
  | synchronize operation =>
    simp only [perform]
    split
    · exact takes_of_held present rfl (.refl session.world)
    next asked _ => exact takes_of_held present rfl (.of_moves (.drive operation asked session.world))

/-- The script holds no attachment that was not made. -/
def Valid (session : Session) : Prop :=
  ∀ index, session.held = some index → index < session.world.attachments.length

/-- A new attachment is not the one that the script holds already. -/
theorem Valid.unheld (valid : session.Valid) {url : String} {rows : TableRows} {synchronizer : Synchronizer}
    {after : World} (completed : World.Completed url rows synchronizer session.world index after) :
    session.held ≠ some index := by
  intro held
  have inside := valid index held
  rw [completed.index] at inside
  exact Nat.lt_irrefl _ inside

theorem perform_held (session : Session) (command : Command) :
    (session.perform command).2.1.held = session.held ∨ (session.perform command).2.1.held = none ∨
      ∃ index, (session.perform command).2.1.held = some index ∧
        index < (session.perform command).2.1.world.attachments.length := by
  cases command with
  | attach id url =>
    have attaches := session.attaches id url
    simp only [perform]
    generalize (session.attach id url).2.1 = after at attaches ⊢
    cases attaches with
    | failed => exact Or.inl rfl
    | @done world index records table made found completed =>
      refine Or.inr (Or.inr ⟨index, rfl, ?_⟩)
      rw [release_length, completed.attachments, completed.index]
      simp
  | detach => exact Or.inr (Or.inl session.release_held)
  | keepAlive => exact Or.inr (Or.inl rfl)
  | attachForGood _ _ _ | event _ | borrow _ | giveBack _ | setPurifier _ | setBodies _ _ | load _ => exact Or.inl rfl
  | closeSource | rows _ | synchronize _ =>
    simp only [perform]
    split <;> exact Or.inl rfl
  | bindRows id =>
    simp only [perform, bindRows]
    split
    · exact Or.inl rfl
    · split <;> exact Or.inl rfl

theorem valid_perform (valid : session.Valid) (command : Command) : (session.perform command).2.1.Valid := by
  intro index held
  rcases session.perform_held command with same | none | ⟨new, made, inside⟩
  · have inside := valid index (same.symm.trans held)
    have takes := session.takes command (List.getElem?_eq_getElem inside)
    cases dropped : Turn.drops index ⟨session, command, (session.perform command).2.1⟩ with
    | false =>
      obtain ⟨next, found, -⟩ := takes.keeps dropped
      exact (List.getElem?_eq_some_iff.mp found).1
    | true =>
      exact (List.getElem?_eq_some_iff.mp (takes.ends dropped).after).1
  · cases none.symm.trans held
  · cases made.symm.trans held
    exact inside

theorem valid_after (commands : List Command) (valid : session.Valid) : (session.after commands).Valid := by
  induction commands generalizing session with
  | nil => exact valid
  | cons command rest ih => exact ih (valid_perform valid command)

end Session

end StreamTable.Page
