import Iso8583.Codec.Json
import Iso8583.Main
import Iso8583.Settings
import Iso8583.Simulation.ChannelRun
import Iso8583.Simulation.Identifiers
import Iso8583.Simulation.ProbeRun
import Iso8583.Simulation.ServerRun
import Iso8583.Timeout
import Iso8583.Proofs.Codec.BinaryRoundTrip
import Iso8583.Proofs.Framing.Splits
import Iso8583.Proofs.Codec.JsonRoundTrip
import Iso8583.Proofs.Client.Bookkeeping
import Iso8583.Proofs.Client.Steps
import Iso8583.Proofs.Client.InFlight
import Iso8583.Proofs.Client.Awaiting
import Iso8583.Proofs.Client.Correlation
import Iso8583.Proofs.Client.Line
import Iso8583.Proofs.Client.Session
import Iso8583.Proofs.Codec.BinaryLayout
import Iso8583.Proofs.Framing.RoundTrip
import Iso8583.Codec.Digest
import Iso8583.Proofs.Channel.Written
import Iso8583.Proofs.Codec.Digest
import Iso8583.Proofs.Codec.Replies
import Iso8583.Proofs.Server.Echo
import Iso8583.Proofs.Store.Order
import Iso8583.Proofs.Channel.Run
import Iso8583.Proofs.Client.Greeting
import Iso8583.Proofs.Client.Waiters
import Iso8583.Proofs.Exchange
import Iso8583.Proofs.Channel.Lifecycle
import Iso8583.Proofs.Client.Counters
import Iso8583.Proofs.Client.Closing
import Iso8583.Proofs.Keys.Stamp
import Iso8583.Proofs.Client.Calls
import Iso8583.Proofs.Client.Deadlines
import Iso8583.Proofs.Keys.Composite
import Iso8583.Proofs.Client.Replies
import Iso8583.Proofs.Framing.Corruption
import Iso8583.Proofs.Store.Accounts
import Iso8583.Proofs.Codec.SelfDelimiting
import Iso8583.Proofs.Codec.Normalising
import Iso8583.Proofs.Polling
import Iso8583.Proofs.Client.Refusals
import Iso8583.Proofs.Framing.Counting
import Iso8583.Proofs.Store.Queue
import Iso8583.Proofs.Keys.Grammar
import Iso8583.Proofs.Server.Registry
import Iso8583.Proofs.Store.Completion
import Iso8583.Proofs.Framing.Progress
import Iso8583.Proofs.Client.Coherence
