import QueryTail.Main
import QueryTail.Proofs.Window.Invariant
import QueryTail.Proofs.Window.Remerge
import QueryTail.Proofs.Window.Delivery
import QueryTail.Proofs.Window.Batch
import QueryTail.Proofs.Filter
import QueryTail.Proofs.Marks
import QueryTail.Proofs.Marks.Independence
import QueryTail.Proofs.View.Invariant
import QueryTail.Proofs.View.Step
import QueryTail.Proofs.View.Shown
import QueryTail.Proofs.View.Recent
import QueryTail.Proofs.Text.Lossy
import QueryTail.Proofs.Entry.Page
import QueryTail.Proofs.Files.Tail
import QueryTail.Proofs.LogSource
import QueryTail.Proofs.LogSource.Following
import QueryTail.Proofs.Polling.History
import QueryTail.Proofs.Polling.Protocol
import QueryTail.Proofs.Polling.Messages
import QueryTail.Proofs.Polling.Crew
import QueryTail.Proofs.Polling.Exclusion
import QueryTail.Proofs.Console.Selection
import QueryTail.Proofs.View.Session
import QueryTail.Proofs.Console.Preferences
import QueryTail.Proofs.Window.Watermark
import QueryTail.Proofs.Entry.Codec
import QueryTail.Proofs.Export.Csv
import QueryTail.Proofs.Export.Json
import QueryTail.Proofs.Preferences
import QueryTail.Proofs.Window.Accounting
import QueryTail.Proofs.Entry.Lines
import QueryTail.Proofs.Files.Bound
import QueryTail.Proofs.Time.Display
import QueryTail.Proofs.Time.Spelling
import QueryTail.Proofs.Entry.Grammar
import QueryTail.Proofs.Filter.Search
import QueryTail.Proofs.Filter.Restored
import QueryTail.Proofs.View.Printed
import QueryTail.Proofs.Settings.Checks
import QueryTail.Proofs.Settings.Precedence
import QueryTail.Proofs.Export.Limited
import QueryTail.Proofs.Files.Making
import QueryTail.Proofs.Preferences.Atomic
import QueryTail.Proofs.Console.Known
import QueryTail.Proofs.Filter.Pattern
import QueryTail.Proofs.View.Warnings
import QueryTail.Proofs.Settings.Roster
import QueryTail.Proofs.Console.Printed
import QueryTail.Proofs.Console.Round
