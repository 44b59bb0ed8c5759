import StreamTable.Page.World
import StreamTable.Proofs.HostRecords

/-! How a fragment is cleaned, and how events are refused. What becomes of a fragment
depends on the reply of the sanitizer that was found for it, whatever the events do that
its call causes. Of an event for a borrowed synchronizer come calls and records of
refusals, and nothing else. -/

namespace StreamTable.Page

namespace Purifier

def reply? (purifier : Purifier) (fragment : String) : Option Reply :=
  purifier.function?.map fun call => (call fragment).reply

def caused (purifier : Purifier) (fragment : String) : List Dispatch :=
  (purifier.function?.map fun call => (call fragment).events).getD []

def answer (purifier : Purifier) (fragment : String) : String × List Record :=
  match purifier.reply? fragment with
  | none => (fragment, [.insertedUnsanitized])
  | some (.returned (.string safe)) => (safe, [])
  | some (.returned value) => ("", [.sanitizedToNonText value])
  | some (.thrown value) => ("", [.sanitizerThrew value])

theorem refusals_answer (purifier : Purifier) (fragment : String) :
    Record.refusals (purifier.answer fragment).2 = [] := by
  simp only [answer]
  split <;> rfl

theorem replacement?_of_not_loaded {purifier : Purifier} (missing : purifier.function? = none) (fragment : String) :
    purifier.replacement? fragment = none := by
  match purifier, missing with
  | .undefined, _ | .null, _ | .unreadable, _ | .primitive, _ => rfl
  | .object .unreadable, _ | .object .notFunction, _ => rfl

end Purifier

namespace World

def leave (found : Purifier) (fragment : String) (world : World) : World :=
  world.setPurifier ((found.replacement? fragment).getD world.page.purifier)

/-- A fragment becomes what the sanitizer answers that was found for it. In between, the
events are delivered that its call causes. -/
theorem cleanFragment_eq (delivery : Delivery) (fragment : String) (world : World) :
    let found := world.page.purifier
    let during := deliverAll delivery (found.caused fragment) (world.noteLookup fragment)
    cleanFragment delivery fragment world =
      ((found.answer fragment).1, during.1.leave found fragment, during.2 ++ (found.answer fragment).2) := by
  intro found during
  cases known : found.function? with
  | none =>
    have missing : world.page.purifier.function? = none := known
    simp only [cleanFragment, missing, during, Purifier.answer, Purifier.reply?, Purifier.caused, known,
      Option.map_none, Option.getD_none, deliverAll, leave, Purifier.replacement?_of_not_loaded known]
    rfl
  | some call =>
    have loaded : world.page.purifier.function? = some call := known
    have caused : found.caused fragment = (call fragment).events := by simp [Purifier.caused, known]
    simp only [cleanFragment, loaded, ← caused, Purifier.answer, Purifier.reply?, known, Option.map_some, leave]
    cases (call fragment).reply with
    | thrown value => cases found.replacement? fragment <;> rfl
    | returned value =>
      cases value with
      | string safe =>
        simp only [List.append_nil]
        cases found.replacement? fragment <;> rfl
      | undefined | null | number _ | error _ _ => cases found.replacement? fragment <;> rfl

theorem refusals_recorded (running : List (Nat × Nat)) (event : PageEvent) (index place : Nat)
    (listeners : List Listener) : ∀ record ∈ (refusals running event index place listeners).2, record.isRefusal := by
  induction listeners generalizing place with
  | nil => simp [refusals]
  | cons listener rest ih =>
    simp only [refusals]
    split
    · exact ih (place + 1)
    · split
      · exact ih (place + 1)
      · split <;> exact List.forall_mem_cons.mpr ⟨rfl, ih (place + 1)⟩

def told (attachment : Attachment) (index : Nat) (event : PageEvent) (world : World) : List Call × List Record :=
  if attachment.isOpen || world.page.closedDelivers then
    refusals world.running event index 0 attachment.listeners
  else ([], [])

theorem told_recorded (attachment : Attachment) (index : Nat) (event : PageEvent) (world : World) :
    ∀ record ∈ (world.told attachment index event).2, record.isRefusal := by
  simp only [told]
  split
  · exact refusals_recorded world.running event index 0 _
  · simp

theorem deliverBy_borrowed (delivery : Delivery) {dispatch : Dispatch} {world : World} {attachment : Attachment}
    (held : world.attachments[world.target dispatch]? = some attachment) (borrowed : attachment.borrowed) :
    let said := world.told attachment (world.target dispatch) dispatch.event
    deliverBy delivery dispatch world = (world.noteCalls said.1, said.2) := by
  cases hears : attachment.isOpen || world.page.closedDelivers <;>
    simp [deliverBy, held, told, hears, borrowed, noteCalls]

theorem deliverBy_free (delivery : Delivery) {dispatch : Dispatch} {world : World} {attachment : Attachment}
    (held : world.attachments[world.target dispatch]? = some attachment) (free : attachment.borrowed = false) :
    deliverBy delivery dispatch world =
      if attachment.isOpen || world.page.closedDelivers then
        hearAll delivery dispatch.event (world.target dispatch) 0 attachment.listeners world
      else (world, []) := by
  cases hears : attachment.isOpen || world.page.closedDelivers <;> simp [deliverBy, held, hears, free]

theorem deliverBy_missing (delivery : Delivery) {dispatch : Dispatch} {world : World}
    (missing : world.attachments[world.target dispatch]? = none) : deliverBy delivery dispatch world = (world, []) := by
  simp [deliverBy, missing]

end World

end StreamTable.Page
