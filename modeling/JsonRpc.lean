import JsonRpc.Text.Utf8.Lemmas
import JsonRpc.Envelope
import JsonRpc.Reply
import JsonRpc.Description
import JsonRpc.Conversion
import JsonRpc.Geometry
import JsonRpc.Interface.Expansion
import JsonRpc.Session.Builder
import JsonRpc.Session.Connection
import JsonRpc.Session.Conversation
import JsonRpc.Simulation.Clock
import JsonRpc.Transport.Memory
import JsonRpc.Transport.Url
import JsonRpc.Transport.WebSocket
import JsonRpc.Proofs.Json.Members
import JsonRpc.Proofs.Json.Lexeme
import JsonRpc.Proofs.Json.RoundTrip
import JsonRpc.Proofs.Reply
import JsonRpc.Proofs.Session.Course
import JsonRpc.Proofs.Session.Lifecycle
import JsonRpc.Proofs.Session.Connection
import JsonRpc.Proofs.Session.Attribution
import JsonRpc.Proofs.Session.Traffic
import JsonRpc.Proofs.Session.Transparency
import JsonRpc.Proofs.Simulation.Alone
import JsonRpc.Proofs.Json.Record
import JsonRpc.Proofs.Envelope
import JsonRpc.Proofs.Description.RoundTrip
import JsonRpc.Proofs.Coercion
import JsonRpc.Proofs.Description.Lookup
import JsonRpc.Proofs.Session.Handshake
import JsonRpc.Proofs.Session.Positional
import JsonRpc.Proofs.Session.Balance
import JsonRpc.Proofs.Transport.Outstanding
import JsonRpc.Proofs.Session.Isolation
import JsonRpc.Interface.Invocation
import JsonRpc.Proofs.Interface.WireNames
import JsonRpc.Proofs.Interface.Expansion
import JsonRpc.Proofs.Interface.Names
import JsonRpc.Proofs.Interface.Geometry
import JsonRpc.Proofs.Interface.Stubs
import JsonRpc.Proofs.Interface.Conversion
import JsonRpc.Proofs.Interface.Results
import JsonRpc.Proofs.Transport.Shutdown
import JsonRpc.Proofs.Json.Proper
import JsonRpc.Proofs.Json.Fields
import JsonRpc.Proofs.Description.Grammar
import JsonRpc.Proofs.Description.Variation
import JsonRpc.Proofs.Json.Numeral
import JsonRpc.Proofs.Decimal.Integer
import JsonRpc.Proofs.Decimal.Layout
import JsonRpc.Proofs.Description.Index
import JsonRpc.Proofs.Envelope.Grammar
import JsonRpc.Proofs.Coercion.Number
import JsonRpc.Proofs.Coercion.Spelling
