import TunnelRelay.App.Preparation
import TunnelRelay.App.Script
import TunnelRelay.App.Session
import TunnelRelay.CommandLine.Help
import TunnelRelay.CommandLine.Options
import TunnelRelay.CommandLine.Start
import TunnelRelay.Connection.Lifecycle
import TunnelRelay.Connection.Opening
import TunnelRelay.Connection.Transport
import TunnelRelay.Destination
import TunnelRelay.Ending
import TunnelRelay.Fault
import TunnelRelay.Fault.Named
import TunnelRelay.Forwarder.Handler
import TunnelRelay.Forwarder.Loop
import TunnelRelay.Forwarder.Script
import TunnelRelay.Gateway
import TunnelRelay.Http.RequestHead
import TunnelRelay.Leg
import TunnelRelay.Log.Color
import TunnelRelay.Log.Field
import TunnelRelay.Log.Record
import TunnelRelay.Log.Style
import TunnelRelay.Log.Template
import TunnelRelay.Machine
import TunnelRelay.Main
import TunnelRelay.Pipe.Connection
import TunnelRelay.Pipe.Dial
import TunnelRelay.Pipe.Stream
import TunnelRelay.Proofs.Closing
import TunnelRelay.Proofs.Conservation
import TunnelRelay.Proofs.Isolation
import TunnelRelay.Proofs.Lanes
import TunnelRelay.Proofs.Ledger
import TunnelRelay.Proofs.Passages
import TunnelRelay.Proofs.Responder
import TunnelRelay.Proofs.Runs
import TunnelRelay.Proofs.Streams
import TunnelRelay.Proofs.Transparency
import TunnelRelay.Relay
import TunnelRelay.Settings.Layers
import TunnelRelay.Settings.Reader
import TunnelRelay.Settings.Script
import TunnelRelay.Settings.Store
import TunnelRelay.SocketAddress
import TunnelRelay.Source
import TunnelRelay.Text.Alphanumeric
import TunnelRelay.Text.Blank
import TunnelRelay.Text.CharSet
import TunnelRelay.Text.CompatibleForms
import TunnelRelay.Text.Composition
import TunnelRelay.Text.Cut
import TunnelRelay.Text.Decimal
import TunnelRelay.Text.DecimalDigit
import TunnelRelay.Text.Identifier
import TunnelRelay.Text.LetterCase
import TunnelRelay.Text.Normal
import TunnelRelay.Text.Numeral
import TunnelRelay.Text.Printable
import TunnelRelay.Text.Quoted
import TunnelRelay.Trust.Cache
import TunnelRelay.Trust.Context
import TunnelRelay.Trust.Threads
import TunnelRelay.Url.IpAddress
import TunnelRelay.Url.Split
import TunnelRelay.Value
import TunnelRelay.Proofs.Loading
import TunnelRelay.Proofs.Ownership
import TunnelRelay.Proofs.Dialing
import TunnelRelay.Proofs.Endpoints
import TunnelRelay.Proofs.Shielding
import TunnelRelay.Proofs.Secrecy
import TunnelRelay.Proofs.Phases
import TunnelRelay.Proofs.Response
import TunnelRelay.Proofs.Sealing
import TunnelRelay.Proofs.Chronicle
import TunnelRelay.Proofs.Departures
import TunnelRelay.Proofs.Concluding
import TunnelRelay.Proofs.Heads
import TunnelRelay.Proofs.Listening
import TunnelRelay.Proofs.Endings
import TunnelRelay.Proofs.Handles
import TunnelRelay.Proofs.Leftovers
import TunnelRelay.Proofs.Outcomes
import TunnelRelay.Proofs.Retrying
import TunnelRelay.Proofs.Reopening
import TunnelRelay.Proofs.Breaking
import TunnelRelay.Proofs.Texts
import TunnelRelay.Proofs.Splitting
import TunnelRelay.Proofs.Destinations
import TunnelRelay.Proofs.SocketUrls
import TunnelRelay.Proofs.PathUrls
import TunnelRelay.Proofs.Addresses
import TunnelRelay.Proofs.Layering
import TunnelRelay.Proofs.Sessions
import TunnelRelay.Proofs.Serving
import TunnelRelay.Proofs.Validation
