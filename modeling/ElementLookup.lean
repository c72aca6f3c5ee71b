import ElementLookup.Main
import ElementLookup.Text.Halved
import ElementLookup.Proofs.Selector.PatternBody
import ElementLookup.Proofs.Selector.Quoting
import ElementLookup.Proofs.Selector.WrittenForm
import ElementLookup.Proofs.Number.Decimal
import ElementLookup.Proofs.Selector.RoleReading
import ElementLookup.Proofs.Selector.RoleInjective
import ElementLookup.Proofs.Selector.SinglePart
import ElementLookup.Proofs.Session.Outcome
import ElementLookup.Proofs.Session.Contexts
import ElementLookup.Proofs.Session.History
import ElementLookup.Proofs.Session.TestIdAttribute
import ElementLookup.Proofs.Session.Registry
import ElementLookup.Proofs.Query.LoadOutcome
import ElementLookup.Proofs.Check.Success
import ElementLookup.Proofs.Query.Accepted
import ElementLookup.Proofs.Session.Answers
import ElementLookup.Proofs.Query.Compiled
import ElementLookup.Proofs.Command.Steps
import ElementLookup.Proofs.Command.Surroundings
import ElementLookup.Proofs.Command.Entries
import ElementLookup.Proofs.Command.BatchReport
import ElementLookup.Proofs.Command.Readings
import ElementLookup.Proofs.Command.Runs
import ElementLookup.Proofs.Command.BatchAgreement
import ElementLookup.Proofs.Selector.LineFeeds
import ElementLookup.Proofs.Command.BatchLines
import ElementLookup.Proofs.Query.OwnData
import ElementLookup.Proofs.Session.Routes
import ElementLookup.Proofs.Session.Indifference
import ElementLookup.Proofs.Number.Whole
import ElementLookup.Proofs.Command.SingleLookup
import ElementLookup.Proofs.Selector.BackslashRuns
import ElementLookup.Proofs.Query.AttributeCollisions
import ElementLookup.Proofs.Session.RoleOptions
import ElementLookup.Proofs.Session.WrittenLevels
import ElementLookup.Proofs.Session.BoundMembers
import ElementLookup.Proofs.Command.SourceRecords
import ElementLookup.Proofs.Environment.References
import ElementLookup.Proofs.Check.Reports
import ElementLookup.Proofs.Session.RoleEntries
import ElementLookup.Proofs.Yaml.Stream
import ElementLookup.Proofs.Query.Documents
import ElementLookup.Proofs.Command.PatternFlags
import ElementLookup.Proofs.Json.Reading
import ElementLookup.Proofs.Log.Lines
import ElementLookup.Proofs.Command.Collection
import ElementLookup.Proofs.Files.Directories
import ElementLookup.Proofs.Session.Delivery
import ElementLookup.Proofs.Session.Loading
