import StorageConsole.Config.File
import StorageConsole.Console
import StorageConsole.Main
import StorageConsole.State.Json
import StorageConsole.Timeline
import StorageConsole.Proofs.Discipline
import StorageConsole.Proofs.Step
import StorageConsole.Proofs.Conduct
import StorageConsole.Proofs.Ledger
import StorageConsole.Proofs.Fencing
import StorageConsole.Proofs.ClosedGate
import StorageConsole.Proofs.Logout
import StorageConsole.Proofs.ListData
import StorageConsole.Proofs.Happenings
import StorageConsole.Proofs.Settling
import StorageConsole.Proofs.NamedRepo
import StorageConsole.Proofs.SingleLoop
import StorageConsole.Proofs.Cadence
import StorageConsole.Proofs.PageAccess
import StorageConsole.Proofs.RecordRoundTrip
import StorageConsole.Proofs.SessionText
import StorageConsole.Proofs.Saving
import StorageConsole.Proofs.SessionRestore
import StorageConsole.Proofs.Outgoing
import StorageConsole.Proofs.RequestSession
import StorageConsole.Proofs.Envelope
import StorageConsole.Proofs.Attribution
import StorageConsole.Proofs.StoredFiles
import StorageConsole.Proofs.Busy
import StorageConsole.Proofs.Schema
import StorageConsole.Proofs.AnswerSchema
import StorageConsole.Proofs.AlikeStates
import StorageConsole.Proofs.AlikeWorkflows
import StorageConsole.Proofs.PasswordFlow
import StorageConsole.Proofs.ColdStart
import StorageConsole.Proofs.Submission
import StorageConsole.Proofs.Verdicts
import StorageConsole.Proofs.Footprint
import StorageConsole.Proofs.Creators
import StorageConsole.Proofs.Resolution
import StorageConsole.Proofs.Navigation
import StorageConsole.Proofs.LoginTraces
import StorageConsole.Proofs.FailedSaves
import StorageConsole.Proofs.Numerals
import StorageConsole.Proofs.Paging
import StorageConsole.Proofs.FormTexts
import StorageConsole.Proofs.Enrollment
import StorageConsole.Proofs.UsableFields
import StorageConsole.Proofs.RecordOrder
import StorageConsole.Proofs.Listings
import StorageConsole.Proofs.RepoListing
import StorageConsole.Proofs.BranchCommits
import StorageConsole.Proofs.Checkout
import StorageConsole.Proofs.Searches
import StorageConsole.Proofs.BasicScheme
import StorageConsole.Proofs.EnvelopeKinds
import StorageConsole.Proofs.LoopHooks
import StorageConsole.Proofs.Pages
import StorageConsole.Proofs.Disjoint
