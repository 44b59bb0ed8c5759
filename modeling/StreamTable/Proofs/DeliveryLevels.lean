import StreamTable.Proofs.KeptAttachments

/-! Events within events end by themselves. Every attachment that handles an event is
borrowed meanwhile, so the attachments that are left are the measure: levels beyond their
number change nothing, and a delivery is given by itself. -/

namespace StreamTable.Page.World

def free (world : World) : Nat := world.attachments.countP fun attachment => !attachment.borrowed

theorem free_le (world : World) : world.free ≤ world.attachments.length := List.countP_le_length

theorem Moves.free {before after : World} (moves : Moves before after) : after.free = before.free := by
  have flags : after.attachments.map (·.borrowed) = before.attachments.map (·.borrowed) := by
    refine List.ext_getElem? fun index => ?_
    simp only [List.getElem?_map]
    cases held : before.attachments[index]? with
    | none =>
      rw [List.getElem?_eq_none_iff, ← moves.count, ← List.getElem?_eq_none_iff] at held
      rw [held]
    | some attachment =>
      obtain ⟨next, found, moved⟩ := moves.attachments index attachment held
      rw [found, Option.map_some, Option.map_some, moved.borrowed]
  have count (world : World) : world.free = (world.attachments.map (·.borrowed)).countP (!·) := by
    rw [List.countP_map]
    rfl
  rw [count, count, flags]

theorem free_setBorrowed {world : World} {index : Nat} {attachment : Attachment}
    (held : world.attachments[index]? = some attachment) (free : attachment.borrowed = false) :
    (world.setBorrowed true index).free < world.free := by
  have inside := (List.getElem?_eq_some_iff.mp held).1
  obtain ⟨earlier, here, later, split, rfl, edited⟩ :=
    List.exists_of_modify (fun other : Attachment => { other with borrowed := true }) inside
  have found : here = attachment := by simpa [split] using held
  subst here
  have less : world.free = (world.setBorrowed true earlier.length).free + 1 := by
    simp only [World.free, setBorrowed, edited]
    simp [split, free, Nat.add_assoc]
  exact less ▸ Nat.lt_succ_self _

/-- Deliveries that agree on worlds with fewer free attachments than a bound. -/
def Delivery.AgreeBelow (bound : Nat) (first second : Delivery) : Prop :=
  ∀ dispatch world, world.free < bound → first dispatch world = second dispatch world

namespace Delivery.AgreeBelow

variable {bound : Nat} {first second : Delivery}

theorem deliverAll (agree : AgreeBelow bound first second) (moves : first.Moves) (events : List Dispatch) {world : World}
    (few : world.free < bound) : World.deliverAll first events world = World.deliverAll second events world := by
  induction events generalizing world with
  | nil => rfl
  | cons dispatch rest ih =>
    have later : (first dispatch world).1.free < bound := (moves dispatch world).free ▸ few
    simp only [World.deliverAll, ih later]
    rw [agree dispatch world few]

theorem cleanCells (agree : AgreeBelow bound first second) (moves : first.Moves) (cells : List Cell) {world : World}
    (few : world.free < bound) : World.cleanCells first cells world = World.cleanCells second cells world := by
  induction cells generalizing world with
  | nil => rfl
  | cons cell rest ih =>
    cases cell with
    | text shown => simp only [World.cleanCells, ih few]
    | html fragment =>
      have same : World.cleanFragment first fragment world = World.cleanFragment second fragment world := by
        have noted : (world.noteLookup fragment).free < bound := few
        rw [cleanFragment_eq, cleanFragment_eq, agree.deliverAll moves _ noted]
      have later : (World.cleanFragment first fragment world).2.1.free < bound :=
        (Moves.cleanFragment moves fragment world).free ▸ few
      simp only [World.cleanCells, ih later]
      rw [same]

theorem perform (agree : AgreeBelow bound first second) (moves : first.Moves) (rows : TableRows) (operation : Operation)
    (synchronizer : Synchronizer) {world : World} (few : world.free < bound) :
    operation.perform (World.host rows first) synchronizer world =
      operation.perform (World.host rows second) synchronizer world := by
  have cleaned (row : Row) : (World.host rows first).clean row world = (World.host rows second).clean row world := by
    simp only [World.host, agree.cleanCells moves row.cells few]
  have placed (row : Row) (during : World) : synchronizer.placeRow (World.host rows first) row during =
      synchronizer.placeRow (World.host rows second) row during := by simp only [Synchronizer.placeRow, World.host]
  have removed (target : String) : synchronizer.removeNamed (World.host rows first) target world =
      synchronizer.removeNamed (World.host rows second) target world := by
    simp only [Synchronizer.removeNamed, World.host]
  rcases operation.cases_event synchronizer with quiet | ⟨kind, payload, event⟩ | ⟨target, rfl⟩ | ⟨row, rfl⟩
  · rw [Operation.perform_of_isQuiet _ _ quiet, Operation.perform_of_isQuiet _ _ quiet]
  · rw [Operation.perform_of_event _ _ event, Operation.perform_of_event _ _ event]
    cases kind with
    | upsert => simp only [Synchronizer.apply, Synchronizer.applyUpsert, cleaned, placed]
    | remove => simp only [Synchronizer.apply, Synchronizer.applyRemove, removed]
    | reset => simp only [Synchronizer.apply, Synchronizer.applyReset, World.host]
  · simp only [Operation.perform, removed]
  · simp only [Operation.perform, placed]

theorem operate (agree : AgreeBelow bound first second) (moves : first.Moves) (operation : Operation) {index : Nat}
    {world : World} (free : ∀ attachment, world.attachments[index]? = some attachment → attachment.borrowed = false)
    (few : world.free ≤ bound) :
    World.operate first operation index world = World.operate second operation index world := by
  cases held : world.attachments[index]? with
  | none => rw [operate_missing _ _ held, operate_missing _ _ held]
  | some attachment =>
    have fewer := Nat.lt_of_lt_of_le (free_setBorrowed held (free attachment held)) few
    rw [operate_held _ _ held, operate_held _ _ held, agree.perform moves attachment.rows operation _ fewer]

theorem hearAll (agree : AgreeBelow bound first second) (moves : first.Moves) (event : PageEvent) {index : Nat}
    (place : Nat) (listeners : List Listener) {world : World}
    (free : ∀ attachment, world.attachments[index]? = some attachment → attachment.borrowed = false)
    (few : world.free ≤ bound) :
    World.hearAll first event index place listeners world = World.hearAll second event index place listeners world := by
  have heard (place : Nat) (role : Role) {world : World}
      (free : ∀ attachment, world.attachments[index]? = some attachment → attachment.borrowed = false)
      (few : world.free ≤ bound) :
      World.hear first event index place role world = World.hear second event index place role world := by
    let started : World := { world with running := (index, place) :: world.running }
    have same (operation : Operation) :
        World.operate first operation index started = World.operate second operation index started :=
      agree.operate moves operation free few
    cases role <;> simp only [World.hear] <;> rw [same]
  induction listeners generalizing place world with
  | nil => rfl
  | cons listener rest ih =>
    have moved := Moves.hear moves event index place listener.role world
    have freeAfter (next : Attachment)
        (found : (World.hear first event index place listener.role world).1.attachments[index]? = some next) :
        next.borrowed = false := by
      obtain ⟨attachment, held, went⟩ := moved.held_before found
      exact went.borrowed.trans (free attachment held)
    simp only [World.hearAll, ih (place + 1) free few, ih (place + 1) freeAfter (moved.free ▸ few)]
    split
    · rw [heard place listener.role free few]
    · rfl

theorem deliverBy (agree : AgreeBelow bound first second) (moves : first.Moves) :
    AgreeBelow (bound + 1) (World.deliverBy first) (World.deliverBy second) := by
  intro dispatch world few
  cases held : world.attachments[world.target dispatch]? with
  | none => rw [deliverBy_missing _ held, deliverBy_missing _ held]
  | some attachment =>
    cases borrowed : attachment.borrowed with
    | true => rw [deliverBy_borrowed _ held borrowed, deliverBy_borrowed _ held borrowed]
    | false =>
      have free (other : Attachment) (found : world.attachments[world.target dispatch]? = some other) :
          other.borrowed = false := by
        cases held.symm.trans found
        exact borrowed
      rw [deliverBy_free _ held borrowed, deliverBy_free _ held borrowed,
        agree.hearAll moves dispatch.event 0 attachment.listeners free (Nat.lt_succ_iff.mp few)]

end Delivery.AgreeBelow

theorem deliverWithin_agree {bound levels more : Nat} (enough : bound ≤ levels) (also : bound ≤ more) :
    Delivery.AgreeBelow bound (deliverWithin levels) (deliverWithin more) := by
  induction bound generalizing levels more with
  | zero => exact fun _ _ few => absurd few (Nat.not_lt_zero _)
  | succ bound ih =>
    obtain ⟨levels, rfl⟩ := Nat.exists_eq_add_of_lt enough
    obtain ⟨more, rfl⟩ := Nat.exists_eq_add_of_lt also
    exact (ih (Nat.le_add_right bound levels) (Nat.le_add_right bound more)).deliverBy (Moves.deliverWithin _)

/-- However many levels there are beyond the free attachments, an event is delivered alike. -/
theorem deliverWithin_eq_deliver {levels : Nat} {world : World} (enough : world.free < levels) (dispatch : Dispatch) :
    deliverWithin levels dispatch world = deliver dispatch world :=
  deliverWithin_agree enough (Nat.succ_le_succ world.free_le) dispatch world (Nat.lt_succ_self _)

theorem deliverWithin_agree_deliver (world : World) :
    Delivery.AgreeBelow world.attachments.length (deliverWithin world.attachments.length) deliver :=
  fun dispatch _ few => deliverWithin_eq_deliver few dispatch

/-- What is caused while an event is handled is delivered as events are. -/
theorem deliver_eq : deliver = deliverBy deliver := by
  funext dispatch world
  exact (deliverWithin_agree_deliver world).deliverBy (.deliverWithin _) dispatch world (Nat.lt_succ_of_le world.free_le)

theorem drive_eq (operation : Operation) {index : Nat} {world : World} {attachment : Attachment}
    (held : world.attachments[index]? = some attachment) (free : attachment.borrowed = false) :
    drive operation index world = operate deliver operation index world := by
  have same := (deliverWithin_agree_deliver world).operate (.deliverWithin _) operation
    (fun other found => by cases held.symm.trans found; exact free) world.free_le
  simp [drive, held, free, same]

end StreamTable.Page.World
