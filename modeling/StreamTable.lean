import StreamTable.Page.Session
import StreamTable.Row.Sanitizer
import StreamTable.Sync.Inspection
import StreamTable.Proofs.ArrivalOrder
import StreamTable.Proofs.AttachmentLives
import StreamTable.Proofs.ByteScan
import StreamTable.Proofs.CollationOrder
import StreamTable.Proofs.EmbeddedNumbers
import StreamTable.Proofs.FailClosed
import StreamTable.Proofs.FailedRenders
import StreamTable.Proofs.FlatRows
import StreamTable.Proofs.IdentityOrder
import StreamTable.Proofs.InvisiblePunctuation
import StreamTable.Proofs.LowerCaseKeys
import StreamTable.Proofs.MarkedText
import StreamTable.Proofs.NamedRows
import StreamTable.Proofs.NestedEvents
import StreamTable.Proofs.NestedSensitivities
import StreamTable.Proofs.OutcomeReplay
import StreamTable.Proofs.PageMirror
import StreamTable.Proofs.PhaseRuns
import StreamTable.Proofs.PlacementScan
import StreamTable.Proofs.PlacementSearch
import StreamTable.Proofs.RedactedRecords
import StreamTable.Proofs.Redelivery
import StreamTable.Proofs.ReferenceGrammar
import StreamTable.Proofs.RenderedKeys
import StreamTable.Proofs.RepeatedRemovals
import StreamTable.Proofs.Roster
import StreamTable.Proofs.RosterRuns
import StreamTable.Proofs.SanitizedRows
import StreamTable.Proofs.StreamEvents
import StreamTable.Proofs.TargetSteps
import StreamTable.Proofs.TidyKeys
import StreamTable.Proofs.Ties
import StreamTable.Proofs.UndoneInsertions
