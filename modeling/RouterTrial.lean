import RouterTrial.Attempt
import RouterTrial.Attempt.Json
import RouterTrial.Card
import RouterTrial.Clock
import RouterTrial.CommandLine
import RouterTrial.Deck
import RouterTrial.Directory
import RouterTrial.Directory.Json
import RouterTrial.Exchange.DecisionService
import RouterTrial.Exchange.Framing
import RouterTrial.Exchange.ListingService
import RouterTrial.Exchange.Message
import RouterTrial.Exchange.PaymentService
import RouterTrial.Exchange.SummaryService
import RouterTrial.Exchange.Url
import RouterTrial.Fault
import RouterTrial.Json.Basic
import RouterTrial.Json.Fields
import RouterTrial.Json.Numeral
import RouterTrial.Json.Printer
import RouterTrial.Json.Raw
import RouterTrial.Json.Reader
import RouterTrial.Log
import RouterTrial.Main
import RouterTrial.Number.Double
import RouterTrial.Number.Integer
import RouterTrial.Number.Percentage
import RouterTrial.Number.Shortest
import RouterTrial.Payment
import RouterTrial.Payment.Json
import RouterTrial.Random.Keystream
import RouterTrial.Random.Words
import RouterTrial.Report
import RouterTrial.Report.Json
import RouterTrial.Report.Ledger
import RouterTrial.Report.Markdown
import RouterTrial.Report.Render
import RouterTrial.Report.Text
import RouterTrial.Roster
import RouterTrial.Routing
import RouterTrial.Routing.Json
import RouterTrial.Schedule
import RouterTrial.Services
import RouterTrial.Services.Json
import RouterTrial.Session
import RouterTrial.Settings
import RouterTrial.Settings.Pairs
import RouterTrial.Settings.Setting
import RouterTrial.Status
import RouterTrial.Table
import RouterTrial.Text.Blank
import RouterTrial.Text.Case
import RouterTrial.Text.Column
import RouterTrial.Text.LowerCase
import RouterTrial.Text.Quoted
import RouterTrial.Text.Split
import RouterTrial.Text.Unprintable
import RouterTrial.Text.Utf8
import RouterTrial.Trial
import RouterTrial.Proofs.Attempt
import RouterTrial.Proofs.Attempt.Json
import RouterTrial.Proofs.Clock
import RouterTrial.Proofs.CommandLine
import RouterTrial.Proofs.Coupling
import RouterTrial.Proofs.Deck
import RouterTrial.Proofs.Deck.Uniform
import RouterTrial.Proofs.Directory
import RouterTrial.Proofs.Exchange.Coupling
import RouterTrial.Proofs.Exchange.Decision
import RouterTrial.Proofs.Exchange.Dialogue
import RouterTrial.Proofs.Exchange.Log
import RouterTrial.Proofs.Exchange.Payment
import RouterTrial.Proofs.Fallible
import RouterTrial.Proofs.Json.Fields
import RouterTrial.Proofs.Json.Numeral
import RouterTrial.Proofs.Json.Object
import RouterTrial.Proofs.Json.Place
import RouterTrial.Proofs.Json.Text
import RouterTrial.Proofs.Json.Value
import RouterTrial.Proofs.Number.Finite
import RouterTrial.Proofs.Number.Integer
import RouterTrial.Proofs.Number.Nearest
import RouterTrial.Proofs.Number.Percentage
import RouterTrial.Proofs.Onlooker
import RouterTrial.Proofs.Report
import RouterTrial.Proofs.Report.Json
import RouterTrial.Proofs.Report.Ledger
import RouterTrial.Proofs.Report.Lines
import RouterTrial.Proofs.Report.TopErrors
import RouterTrial.Proofs.Roster
import RouterTrial.Proofs.Roster.History
import RouterTrial.Proofs.Routing.Json
import RouterTrial.Proofs.Schedule
import RouterTrial.Proofs.Schedule.Partition
import RouterTrial.Proofs.Services.Json
import RouterTrial.Proofs.Session
import RouterTrial.Proofs.Settings
import RouterTrial.Proofs.Settings.Blank
import RouterTrial.Proofs.Settings.Pairs
import RouterTrial.Proofs.Settings.Rates
import RouterTrial.Proofs.Settings.Reading
import RouterTrial.Proofs.Status
import RouterTrial.Proofs.Table
import RouterTrial.Proofs.Table.Groups
import RouterTrial.Proofs.Text.Blank
import RouterTrial.Proofs.Text.Case
import RouterTrial.Proofs.Text.Lines
import RouterTrial.Proofs.Text.Split
import RouterTrial.Proofs.Transcript
import RouterTrial.Proofs.Trial.Accounts
import RouterTrial.Proofs.Trial.Cancellation
import RouterTrial.Proofs.Trial.Conversation
import RouterTrial.Proofs.Trial.Course
import RouterTrial.Proofs.Trial.Decks
import RouterTrial.Proofs.Trial.Draws
import RouterTrial.Proofs.Trial.Influence
import RouterTrial.Proofs.Trial.Offline
import RouterTrial.Proofs.Trial.Phases
import RouterTrial.Proofs.Trial.Setup
import RouterTrial.Proofs.Trial.Simulated
import RouterTrial.Proofs.Trial.Stream
