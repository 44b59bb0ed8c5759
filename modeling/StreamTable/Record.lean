import StreamTable.Page.AttachError
import StreamTable.Page.ScriptValue
import StreamTable.Stream.Event
import StreamTable.Stream.Payload
import StreamTable.Sync.Outcome

/-! What is recorded while tables are kept up to date. What a stream sends may be
personal, so keys and payloads are redacted before they reach a record. -/

namespace StreamTable

open Page (ScriptValue AttachError)

/-- Stands for a text that must not be recorded. -/
def redact (_ : String) : String := "[redacted]"

inductive Record where
  | upsertBegun
  | removeBegun
  | resetBegun
  | placementBegun (key : String)
  | upsertDropped (error : PayloadError) (payload : String)
  | replacing (index : Nat)
  | insertingBefore (index : Nat)
  | appending (index : Nat)
  | removeIgnored (payload : String)
  | removing (index : Nat)
  | unmatched (target : String)
  | cleared (count : Nat)
  | renderFailed (thrown : ScriptValue)
  | insertFailed (index : Nat) (thrown : ScriptValue)
  | replaceFailed (index : Nat) (thrown : ScriptValue)
  | removeFailed (index : Nat)
  | insertedUnsanitized
  | sanitizedToNonText (value : ScriptValue)
  | sanitizerThrew (thrown : ScriptValue)
  | attachBegun (id url : String)
  | attachFailed (error : AttachError)
  | headerMissing (id : String)
  | purifierMissing
  | listening (name : String)
  | handled (kind : EventKind) (outcome : Outcome)
  | reentrantEvent (kind : EventKind)
  | reentrantOpen
  | droppedBorrowed
  | detached
  | removalFailed (name : String) (thrown : ScriptValue)
  | listenersDestroyed
  deriving DecidableEq, Repr

namespace Record

inductive Level where
  | trace
  | info
  | warn
  | error
  deriving DecidableEq, Repr

def Level.name : Level → String
  | trace => "TRACE"
  | info => "INFO"
  | warn => "WARN"
  | error => "ERROR"

/-- Whether a record opens a span, which lasts, or stands for a moment. -/
def isSpan : Record → Bool
  | upsertBegun | removeBegun | resetBegun | placementBegun _ | attachBegun _ _ => true
  | _ => false

def level : Record → Level
  | upsertBegun | removeBegun | resetBegun | attachBegun _ _ => .info
  | upsertDropped _ _ | headerMissing _ | purifierMissing => .warn
  | renderFailed _ | insertFailed _ _ | replaceFailed _ _ | removeFailed _ => .error
  | sanitizedToNonText _ | sanitizerThrew _ | attachFailed _ => .error
  | reentrantEvent _ | reentrantOpen | droppedBorrowed | removalFailed _ _ => .error
  | _ => .trace

def message : Record → String
  | upsertBegun => "on_upsert"
  | removeBegun => "on_remove"
  | resetBegun => "on_reset"
  | placementBegun key => "upsert_row key=" ++ Text.quoted key
  | upsertDropped error payload =>
    "Dropping upsert event: " ++ error.message ++ " (payload: " ++ Text.quoted payload ++ ")"
  | replacing index => "Replacing row " ++ toString index ++ "."
  | insertingBefore index => "Inserting before row " ++ toString index ++ "."
  | appending index => "Appending as row " ++ toString index ++ "."
  | removeIgnored payload =>
    "Ignoring remove event without a usable target (payload: " ++ Text.quoted payload ++ ")"
  | removing index => "Removing row " ++ toString index ++ "."
  | unmatched target => "No row matched " ++ Text.quoted target ++ "."
  | cleared count => "Cleared " ++ toString count ++ " row(s)."
  | renderFailed thrown => "Couldn't render row to read its key: " ++ thrown.description
  | insertFailed index thrown =>
    "Couldn't insert row " ++ toString index ++ ": " ++ thrown.description
  | replaceFailed index thrown =>
    "Couldn't replace row " ++ toString index ++ ": " ++ thrown.description
  | removeFailed index => "Couldn't remove row " ++ toString index ++ ": out of bounds"
  | insertedUnsanitized => "DOMPurify is not loaded. Inserting HTML unsanitized."
  | sanitizedToNonText value => "DOMPurify.sanitize returned a non-string: " ++ value.description
  | sanitizerThrew thrown => "DOMPurify.sanitize threw: " ++ thrown.description
  | attachBegun id url =>
    "attach table_id=" ++ Text.quoted id ++ " stream_url=" ++ Text.quoted url
  | attachFailed error => "Couldn't attach to table: " ++ error.message
  | headerMissing id =>
    "Table " ++ Text.quoted id ++ " has no header row. Rows will be rendered without cells."
  | purifierMissing =>
    "DOMPurify is not loaded yet. HTML cells will be inserted unsanitized until it is."
  | listening name => "Listening for " ++ Text.quoted name ++ " events."
  | handled kind outcome => kind.name ++ " event: " ++ outcome.text
  | reentrantEvent kind => "Dropped a re-entrant " ++ kind.name ++ " event."
  | reentrantOpen => "Stream opened while handling a stream event."
  | droppedBorrowed => "Attachment dropped while handling a stream event."
  | detached => "Detached."
  | removalFailed name thrown =>
    "Couldn't stop listening for " ++ Text.quoted name ++ " events: " ++ thrown.description
  | listenersDestroyed => "Destroyed listener closures."

/-- The line that shows a record. -/
def text (record : Record) : String :=
  (if record.isSpan then "SPAN " else "") ++ record.level.name ++ " " ++ record.message

end Record

end StreamTable
