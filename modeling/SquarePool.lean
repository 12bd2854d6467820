import SquarePool.Document.Report
import SquarePool.Document.Row
import SquarePool.Document.Script
import SquarePool.Document.Stage
import SquarePool.Main
import SquarePool.Proofs.Tables
import SquarePool.Proofs.Calendar
import SquarePool.Proofs.LineScores
import SquarePool.Proofs.Settings.Precedence
import SquarePool.Proofs.Instant.Forms
import SquarePool.Proofs.Instant.Spellings
import SquarePool.Proofs.Feed.Addresses
import SquarePool.Proofs.Feed.Agreement
import SquarePool.Proofs.Feed.Days
import SquarePool.Proofs.Feed.Layouts
import SquarePool.Proofs.Feed.Retries
import SquarePool.Proofs.Feed.Tolerance
import SquarePool.Proofs.Json.Members
import SquarePool.Proofs.Json.Edit
import SquarePool.Proofs.Json.Shape
import SquarePool.Proofs.Json.Layout
import SquarePool.Proofs.Store.Identities
import SquarePool.Proofs.Store.Invariant
import SquarePool.Proofs.Store.Merged
import SquarePool.Proofs.Store.TeamHistory
import SquarePool.Proofs.Store.GameHistory
import SquarePool.Proofs.Store.Pages
import SquarePool.Proofs.Store.Refresh
import SquarePool.Proofs.Store.Timeless
import SquarePool.Proofs.Store.LeagueRows
import SquarePool.Proofs.Store.Window
import SquarePool.Proofs.Sync.Keeps
import SquarePool.Proofs.Sync.Reconcile
import SquarePool.Proofs.Sync.Settled
import SquarePool.Proofs.Sync.Finality
import SquarePool.Proofs.Sync.Interruption
import SquarePool.Proofs.Sync.Notices
import SquarePool.Proofs.Sync.LostNotice
import SquarePool.Proofs.Sync.Polling
import SquarePool.Proofs.Sync.Scores
import SquarePool.Proofs.Sync.Outcomes
import SquarePool.Proofs.Sync.Parts
import SquarePool.Proofs.Sync.Turns
import SquarePool.Proofs.Sync.Ledger
import SquarePool.Proofs.Sync.Carried
import SquarePool.Proofs.Sync.Containment
import SquarePool.Proofs.Sync.Refusal
import SquarePool.Proofs.Sync.DryRun
import SquarePool.Proofs.Sync.Journal
import SquarePool.Proofs.Sync.Answers
import SquarePool.Proofs.Sync.Schedule
import SquarePool.Proofs.Sync.Sources
import SquarePool.Proofs.Sync.Cancellation
import SquarePool.Proofs.Sync.Ownership
import SquarePool.Proofs.Sync.Locality
import SquarePool.Proofs.Sync.Commutation
import SquarePool.Proofs.Sync.Separation
import SquarePool.Proofs.Payout.Display
import SquarePool.Proofs.Payout.Draws
import SquarePool.Proofs.Payout.Fairness
import SquarePool.Proofs.Payout.Payable
import SquarePool.Proofs.Payout.Progression
import SquarePool.Proofs.Payout.Rescheduling
import SquarePool.Proofs.Feed.Absence
import SquarePool.Proofs.Payout.Settlement
import SquarePool.Proofs.Sql.Like
import SquarePool.Proofs.Sql.Search
import SquarePool.Proofs.Sql.Rows
