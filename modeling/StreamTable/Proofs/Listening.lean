import StreamTable.Proofs.Attaching
import StreamTable.Proofs.DeliveryLevels

/-! An attachment that hears the events of its source. A completed one has a listener for
each of its names and is not borrowed; events leave it so, since they move nothing of it
but the phase of its synchronizer. -/

namespace StreamTable.Page.World

/-- An attachment with the listeners for these names, whose source still delivers, and whose
synchronizer is not borrowed. -/
def Listens (index : Nat) (names : EventNames) (world : World) : Prop :=
  ∃ attachment, world.attachments[index]? = some attachment ∧ attachment.isOpen ∧ attachment.borrowed = false ∧
    attachment.listeners = listenersFor names

theorem Completed.listens {url : String} {rows : TableRows} {synchronizer : Synchronizer} {before after : World}
    {index : Nat} (completed : Completed url rows synchronizer before index after) :
    Listens index synchronizer.settings.eventNames after := by
  rw [Listens, completed.attachments, completed.index]
  exact ⟨_, List.getElem?_concat_length, rfl, rfl, rfl⟩

theorem listens_of_attach {id url : String} {settings : Settings} {world : World} {index : Nat}
    (made : (world.attach id url settings).1 = .ok index) :
    Listens index settings.eventNames (world.attach id url settings).2.1 := by
  have ends := (attach_ends id url settings world).outcome
  rw [made] at ends
  obtain ⟨table, -, completed⟩ := ends
  exact completed.listens

namespace Listens

variable {index : Nat} {names : EventNames} {world : World}

theorem of_moves {after : World} (listens : Listens index names world) (moves : Moves world after) :
    Listens index names after := by
  obtain ⟨attachment, held, delivers, free, listeners⟩ := listens
  obtain ⟨next, found, phase, rfl, -⟩ := moves.attachments index attachment held
  exact ⟨_, found, delivers, free, listeners⟩

theorem deliver_eq (listens : Listens index names world) {dispatch : Dispatch} (aimed : world.target dispatch = index) :
    World.deliver dispatch world = hearAll World.deliver dispatch.event index 0 (listenersFor names) world := by
  obtain ⟨attachment, held, delivers, free, listeners⟩ := listens
  subst aimed
  have heard := deliverBy_free World.deliver held free
  rwa [delivers, Bool.true_or, if_pos rfl, listeners, ← World.deliver_eq] at heard

theorem drive_eq (listens : Listens index names world) (operation : Operation) :
    drive operation index world = operate World.deliver operation index world := by
  obtain ⟨attachment, held, -, free, -⟩ := listens
  exact World.drive_eq operation held free

end Listens

end StreamTable.Page.World
