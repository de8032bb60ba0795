import SerialPort.Library.Occurrence
import SerialPort.Library.Excerpt
import SerialPort.Library.ShiftRegister
import SerialPort.Detection
import SerialPort.Frame.Recovery
import SerialPort.Frame.Length
import SerialPort.Frame.Soundness
import SerialPort.Frame.Coalesced
import SerialPort.Frame.Footed
import SerialPort.Frame.Described
import SerialPort.Frame.Skipping
import SerialPort.Frame.Bounded
import SerialPort.Frame.Verified
import SerialPort.Library.BlockCode
import SerialPort.Bits
import SerialPort.Hex
import SerialPort.Library.Transition
import SerialPort.Session.Moves
import SerialPort.Session.Attempt
import SerialPort.Library.Custody
import SerialPort.Session.Custody
import SerialPort.Library.Grouped
import SerialPort.Session.Orderly
import SerialPort.Session.History
import SerialPort.Session.Served
import SerialPort.Library.Retry
import SerialPort.Session.Retries
import SerialPort.Session.Answer
import SerialPort.Session.Pipeline
import SerialPort.Session.Calls
import SerialPort.Session.Outstanding
import SerialPort.Session.Attribution
import SerialPort.Session.Coroutines
import SerialPort.Session.Single
import SerialPort.Session.Changes
import SerialPort.Session.Dormant
import SerialPort.Session.Disconnected
import SerialPort.Session.Closed
import SerialPort.Library.Relay
import SerialPort.Session.Heeded
import SerialPort.Session.Current
import SerialPort.Session.Transitional
import SerialPort.Library.BoundedQueue
import SerialPort.Session.Fifo
import SerialPort.Library.Conveyor
import SerialPort.Session.Hauling
import SerialPort.Proxy
import SerialPort.Session.Events
import SerialPort.Session.Deliveries
import SerialPort.Library.SlidingQueue
import SerialPort.Session.DropOldest
import SerialPort.Session.Heard
import SerialPort.Library.Rounds
import SerialPort.Session.Reconnecting
import SerialPort.Library.Circular
import SerialPort.Library.BitField
import SerialPort.Library.Transducer
import SerialPort.Library.Telnet
import SerialPort.Library.Negotiation
import SerialPort.Library.Credit
import SerialPort.Sercd.Buffer
import SerialPort.Sercd.Queue
import SerialPort.Sercd.Port
import SerialPort.Sercd.Redirector
import SerialPort.Sercd.Server
import SerialPort.Sercd.Sending
import SerialPort.Sercd.Handling
import SerialPort.Sercd.Receiving
import SerialPort.Sercd.Moves
import SerialPort.Sercd.Turns
import SerialPort.Sercd.Runs
import SerialPort.Sercd.Outgoing
import SerialPort.Sercd.Incoming
import SerialPort.Sercd.Speaking
import SerialPort.Sercd.Clients
import SerialPort.Sercd.Notices
import SerialPort.Sercd.Draining
import SerialPort.Sercd.Hazards
import SerialPort.Sercd.Blocking
import SerialPort.Sercd.Control
import SerialPort.Sercd.Settings
import SerialPort.Sercd.Governing
import SerialPort.Sercd.Confirming
