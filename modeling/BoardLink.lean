import BoardLink.Frame.Encoding
import BoardLink.Host.Journal
import BoardLink.Link.Serial
import BoardLink.Link.Scripted
import BoardLink.Driver.Script
import BoardLink.CommandLine.FileTree
import BoardLink.Main
import BoardLink.Proofs.Decoder.RoundTrip
import BoardLink.Proofs.Host.Transmitter
import BoardLink.Proofs.Engine.Polling
import BoardLink.Proofs.Driver.Discipline
import BoardLink.Proofs.Driver.Script
import BoardLink.Proofs.Engine.Locks
import BoardLink.Proofs.Engine.Overloads
import BoardLink.Proofs.Registry.Bindings
import BoardLink.Proofs.Transmit.Stream
import BoardLink.Proofs.Engine.Balance
import BoardLink.Proofs.Engine.Dispatch
import BoardLink.Proofs.Timer.History
import BoardLink.Proofs.Engine.Refusal
import BoardLink.Proofs.Engine.Turns
import BoardLink.Proofs.Host.Alarms
import BoardLink.Proofs.Engine.Alarms
import BoardLink.Proofs.Host.Roster
import BoardLink.Proofs.Host.Tally
import BoardLink.Proofs.Engine.Initialisation
import BoardLink.Proofs.Registry.References
import BoardLink.Proofs.Decoder.Segments
import BoardLink.Proofs.Decoder.Damage
import BoardLink.Proofs.Host.Seats
import BoardLink.Proofs.Host.Crew
import BoardLink.Proofs.Engine.Seats
import BoardLink.Proofs.Bytes
import BoardLink.Proofs.Crc.Register
import BoardLink.Proofs.Crc.Distance
import BoardLink.Proofs.Frame.Validation
import BoardLink.Proofs.Engine.Batch
import BoardLink.Proofs.Driver.Loads
import BoardLink.Proofs.Engine.Enumeration
import BoardLink.Proofs.Timer.Expiry
import BoardLink.Proofs.Engine.Requests
import BoardLink.Proofs.Engine.Reply
import BoardLink.Proofs.Frame.Encoding
import BoardLink.Proofs.Frame.Buffer
import BoardLink.Proofs.Engine.Receipts
import BoardLink.Proofs.Crc.Remainder
import BoardLink.Proofs.Transmit.Accounting
import BoardLink.Proofs.Config.Overrides
