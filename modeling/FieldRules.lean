import FieldRules.FieldMap
import FieldRules.Unicode.Alphanumeric
import FieldRules.Unicode.Case
import FieldRules.Unicode.Tables.Canonical
import FieldRules.Unicode.Tables.Direction
import FieldRules.Unicode.Tables.HostLetter
import FieldRules.Unicode.Tables.HostMapping
import FieldRules.Unicode.Tables.Mark
import FieldRules.Unicode.Tables.Script
import FieldRules.Value.Coercion
import FieldRules.Value.Equality
import FieldRules.Date.Format
import FieldRules.Json
import FieldRules.Url
import FieldRules.Email
import FieldRules.ConfigurationError
import FieldRules.Event
import FieldRules.Logger
import FieldRules.Rule
import FieldRules.Checker
import FieldRules.Checker.Trial
import FieldRules.Plan
import FieldRules.Run
import FieldRules.Validator
import FieldRules.Regex.Flags
import FieldRules.Regex.Single
import FieldRules.Unicode.Identifier
import FieldRules.Proofs.FieldMap
import FieldRules.Proofs.Registry
import FieldRules.Proofs.Run.Contribution
import FieldRules.Proofs.Run.Planned
import FieldRules.Proofs.Run.Offence
import FieldRules.Proofs.Run.Independence
import FieldRules.Proofs.Run.Voice
import FieldRules.Proofs.Date.Directive
import FieldRules.Proofs.Decimal
import FieldRules.Proofs.Date.Letter
import FieldRules.Proofs.Date.Pattern
import FieldRules.Proofs.Date.Found
import FieldRules.Proofs.Date.RoundTrip
import FieldRules.Proofs.Validator
import FieldRules.Proofs.Rule
import FieldRules.Proofs.Url.Host
import FieldRules.Proofs.Url.Grammar
import FieldRules.Proofs.Json.Grammar
import FieldRules.Proofs.Json.Reader
import FieldRules.Proofs.Json.Strict
import FieldRules.Proofs.Number
import FieldRules.Proofs.Run.Representation
import FieldRules.Proofs.Run.Course
import FieldRules.Proofs.Trial
import FieldRules.Proofs.Run.Events
import FieldRules.Proofs.Run.Requests
import FieldRules.Proofs.Run.Registered
import FieldRules.Proofs.Date.Answer
import FieldRules.Proofs.Regex.Reading
import FieldRules.Proofs.Range
import FieldRules.Proofs.Regex.Delimited
import FieldRules.Proofs.Regex.Parts
import FieldRules.Proofs.Regex.Counts
import FieldRules.Proofs.Regex.Breaking
import FieldRules.Proofs.Numeral
import FieldRules.Proofs.Conversion
import FieldRules.Proofs.Url.Address
import FieldRules.Proofs.Url.Written
import FieldRules.Proofs.Email
import FieldRules.Proofs.Equality
import FieldRules.Proofs.Run.Alone
import FieldRules.Proofs.Comparison
import FieldRules.Proofs.Length
import FieldRules.Proofs.Date.Native
import FieldRules.Proofs.Membership
import FieldRules.Proofs.Run.Joined
import FieldRules.Proofs.Regex.Literal
import FieldRules.Proofs.Date.Escaped
import FieldRules.Proofs.Logger
import FieldRules.Proofs.Registration
import FieldRules.Proofs.Report
import FieldRules.Proofs.WholeNumber
import FieldRules.Proofs.Date.Composition
import FieldRules.Proofs.Date.Offset
