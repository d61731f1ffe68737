import NearestHost.Double.Exact
import NearestHost.Decimal.Basic
import NearestHost.Decimal.Shortest
import NearestHost.Decimal.Written
import NearestHost.Decimal.Fixed
import NearestHost.Decimal.Reading
import NearestHost.Globe.Point
import NearestHost.Globe.Distance
import NearestHost.Json.Value
import NearestHost.Address.Basic
import NearestHost.Address.Text
import NearestHost.Address.Parser
import NearestHost.Host.Basic
import NearestHost.Host.Nearest
import NearestHost.Calendar.Date
import NearestHost.Calendar.Instant
import NearestHost.Answer
import NearestHost.Text.Blank
import NearestHost.Text.Numeric
import NearestHost.Text.Fold
import NearestHost.Dns.Punycode
import NearestHost.Dns.Label
import NearestHost.Dns.Name
import NearestHost.Dns.CharacterString
import NearestHost.Dns.Record
import NearestHost.Json.Quoted
import NearestHost.Json.Number
import NearestHost.Json.Event
import NearestHost.Json.Reader
import NearestHost.Globe.Reading
import NearestHost.Host.Reading
import NearestHost.Calendar.Rfc3339
import NearestHost.Configuration.Basic
import NearestHost.Configuration.Reading
import NearestHost.Log
import NearestHost.Service
import NearestHost.Command
import NearestHost.Command.Execution
import NearestHost.Main
import NearestHost.Proofs.Double.Units
import NearestHost.Proofs.Double.Rounding
import NearestHost.Proofs.Double.Midpoint
import NearestHost.Proofs.Double.Format
import NearestHost.Proofs.Double.Order
import NearestHost.Proofs.Double.Arithmetic
import NearestHost.Proofs.Double.Exchange
import NearestHost.Proofs.Double.Exceptional
import NearestHost.Proofs.Double.Error
import NearestHost.Proofs.Decimal.Value
import NearestHost.Proofs.Decimal.Shortest
import NearestHost.Proofs.Decimal.Written
import NearestHost.Proofs.Decimal.Reading
import NearestHost.Proofs.Decimal.Digits
import NearestHost.Proofs.Decimal.Fixed
import NearestHost.Proofs.Globe.Point
import NearestHost.Proofs.Globe.Distance
import NearestHost.Proofs.Globe.Symmetry
import NearestHost.Proofs.Globe.Overflow
import NearestHost.Proofs.Host.Nearest
import NearestHost.Proofs.Calendar.Year
import NearestHost.Proofs.Calendar.Rfc3339
import NearestHost.Proofs.Calendar.Date
import NearestHost.Proofs.Calendar.Clock
import NearestHost.Proofs.Calendar.Shown
import NearestHost.Proofs.Calendar.Timestamp
import NearestHost.Proofs.Json.Reader
import NearestHost.Proofs.Json.Streaming
import NearestHost.Proofs.Json.Document
import NearestHost.Proofs.Json.Numeral
import NearestHost.Proofs.Json.Fault
import NearestHost.Proofs.Json.Token
import NearestHost.Proofs.Json.Lexeme
import NearestHost.Proofs.Json.Tree
import NearestHost.Proofs.Json.Scanning
import NearestHost.Proofs.Json.Grammar
import NearestHost.Proofs.Json.Members
import NearestHost.Proofs.Json.Datum
import NearestHost.Proofs.Host.Document
import NearestHost.Proofs.Host.Rearranged
import NearestHost.Proofs.Configuration.Loading
import NearestHost.Proofs.Configuration.Streaming
import NearestHost.Proofs.Configuration.Time
import NearestHost.Proofs.Configuration.Document
import NearestHost.Proofs.Configuration.Rearranged
import NearestHost.Proofs.Dns.CharacterString
import NearestHost.Proofs.Dns.Label
import NearestHost.Proofs.Dns.Name
import NearestHost.Proofs.Text.Utf8
import NearestHost.Proofs.Dns.Record
import NearestHost.Proofs.Json.Quoting
import NearestHost.Proofs.Json.Layout
import NearestHost.Proofs.Json.Bare
import NearestHost.Proofs.Address.Text
import NearestHost.Proofs.Json.Magnitude
import NearestHost.Proofs.Json.Gathering
import NearestHost.Proofs.Json.Spelling
import NearestHost.Proofs.Json.Reread
import NearestHost.Proofs.Json.Literal
import NearestHost.Proofs.Json.Rendered
import NearestHost.Proofs.Configuration.Place
import NearestHost.Proofs.Configuration.Timestamp
import NearestHost.Proofs.Answer.Printed
import NearestHost.Proofs.Host.Members
import NearestHost.Proofs.Host.Written
import NearestHost.Proofs.Text.Blank
import NearestHost.Proofs.Service.Selection
import NearestHost.Proofs.Service.Time
import NearestHost.Proofs.Command.Run
import NearestHost.Proofs.Command.Log
import NearestHost.Proofs.Command.Echo
import NearestHost.Proofs.Configuration.Hosts
import NearestHost.Proofs.Configuration.Name
import NearestHost.Proofs.Command.Coordinates
import NearestHost.Proofs.Command.Event
