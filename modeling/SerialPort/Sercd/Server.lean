import SerialPort.Sercd.Redirector

/-! The main loop of sercd, which waits for a client, the device and the clock. -/

namespace SerialPort.Sercd

/-- The room that one byte from the device needs to the network, `EscWriteChar_bytes`. -/
abbrev escWriteCharBytes : Nat := 2

/-- The room that a notification needs, `SendCPCByteCommand_bytes`. -/
abbrev sendCPCByteCommandBytes : Nat := 8

/-- The room that one byte from the network needs to the device. -/
abbrev escRedirectCharBytesDevB : Nat := 1

/-- The size of an `unsigned long`. -/
def LongSize.bytes : LongSize → Nat
  | .four => 4
  | .eight => 8

/-- The room that one byte from the network needs to the network, `HandleIACCommand_bytes`. -/
def escRedirectCharBytesSockB (platform : Platform) : Nat :=
  let sendSignatureBytes := 6 + 2 * 255
  let sendBaudRateBytes := 6 + 2 * platform.longSize.bytes
  let sendTelnetOptionBytes := 3
  max (max sendSignatureBytes (max sendBaudRateBytes sendCPCByteCommandBytes))
    sendTelnetOptionBytes

/-- The size of `readbuf`. -/
abbrev readbufSize : Nat := 512

/-- The bytes of `readbuf`, which both sides are read into. -/
structure Readbuf where
  bytes : Bytes
  full : bytes.length = readbufSize

/-- What is read is stored in front, and what the reads before have left behind it stays. -/
def Readbuf.store (readbuf : Readbuf) (data : Bytes) : Readbuf where
  bytes := (data ++ readbuf.bytes.drop data.length).take readbufSize
  full := by
    rw [List.length_take, List.length_append, List.length_drop, readbuf.full]
    omega

/-- A time of day, in seconds and microseconds. -/
structure Timeval where
  sec : Int
  usec : Int
  deriving DecidableEq

/-- `timercmp` with `<`. -/
def Timeval.before (first second : Timeval) : Bool :=
  first.sec < second.sec || (first.sec == second.sec && first.usec < second.usec)

/-- The interval in which the modem state is polled, in milliseconds. -/
abbrev pollInterval : Int := 100

/-- What the service is told about the proxy. -/
inductive ProxyState where
  | ready
  | connected
  | portOpened
  deriving DecidableEq, Repr

/-- How a system call ends. -/
inductive Answer (Gift : Type) where
  | gives (gift : Gift)
  | wouldBlock
  | fails
  deriving DecidableEq

/-- The result of a system call: its value, whether errno is EWOULDBLOCK, and the bytes moved. -/
structure IOResult where
  iobytes : Int
  wouldBlock : Bool
  data : Bytes

/-- A read of at most so many bytes. -/
def Answer.read (answer : Answer Bytes) (trybytes : Nat) : IOResult :=
  match answer with
  | .gives pending => ⟨(pending.take trybytes).length, false, pending.take trybytes⟩
  | .wouldBlock => ⟨-1, true, []⟩
  | .fails => ⟨-1, false, []⟩

/-- A write of some bytes, of which the first ones are taken. -/
def Answer.write (answer : Answer Nat) (string : Bytes) : IOResult :=
  match answer with
  | .gives count => ⟨(string.take count).length, false, string.take count⟩
  | .wouldBlock => ⟨-1, true, []⟩
  | .fails => ⟨-1, false, []⟩

/-- Check and act upon read/write result. Returns true on error. -/
def ioResultError (io : IOResult) : Bool :=
  -- A call that would block is no error, and counts as -1 bytes from here on.
  if io.iobytes = -1 then !io.wouldBlock else io.iobytes = 0

/-- The turns of a loop that counts an `unsigned int` up to an `ssize_t`. -/
def turns (size : LongSize) (iobytes : Int) : Nat :=
  match size with
  -- Both are converted to an unsigned integer of 32 bits.
  | .four => (UInt32.ofInt iobytes).toNat
  -- Both are converted to a signed integer of 64 bits.
  | .eight => iobytes.toNat

/-- The loop over the bytes that were read; it runs past the end of `readbuf` if it counts too
far. -/
def forBytes (platform : Platform) (io : IOResult) (readbuf : Readbuf)
    (body : Redirector → UInt8 → Except Abort Redirector) (r : Redirector) :
    Except Abort Redirector := do
  -- A count of -1 makes no turns at all or 2 ^ 32 - 1, the first of them with bytes read earlier.
  let count := turns platform.longSize io.iobytes
  let r ← (readbuf.bytes.take count).foldlM body r
  if count ≤ readbufSize then return r else .error .outOfBounds

/-- The descriptors that the loop asks about. -/
structure Requests where
  deviceIn : Bool
  deviceOut : Bool
  modemstate : Bool
  socketOut : Bool
  socketIn : Bool
  deriving DecidableEq

/-- What has happened, the bits of `selret`. -/
structure Events where
  deviceIn : Bool := false
  deviceOut : Bool := false
  socketOut : Bool := false
  socketIn : Bool := false
  socketConnect : Bool := false
  modemstate : Bool := false
  deriving DecidableEq

/-- What the world does in one turn of the loop. -/
structure Round where
  -- The modem control lines, if they have changed.
  lines : Option (BitVec 32) := none
  -- The descriptors that are ready, unless select fails.
  ready : Option Events := some {}
  -- The time after select, and a little later.
  newpoll : Timeval := ⟨0, 0⟩
  later : Timeval := ⟨0, 0⟩
  readDev : Answer Bytes := .fails
  writeDev : Answer Nat := .fails
  writeNet : Answer Nat := .fails
  readNet : Answer Bytes := .fails
  accepts : Bool := false
  -- The settings and lines of the device, if it can be opened.
  opens : Option (Termios × BitVec 32) := none

/-- Whether the process runs, and how it has ended if not. -/
inductive Status where
  | running
  | exited (code : Nat)
  | aborted (why : Abort)
  deriving DecidableEq

/-- A notice of the modem state that was sent, and the mask that it was made with. -/
structure Notice where
  mask : UInt8
  payload : UInt8
  deriving DecidableEq

/-- The variables of the program. -/
structure Server where
  redirector : Redirector
  readbuf : Readbuf
  -- Whether the pointers to the descriptors are set.
  deviceFd : Bool := false
  inSocketFd : Bool := false
  outSocketFd : Bool := false
  lSocketFd : Bool := true
  modemState : UInt8 := 0
  lastPoll : Timeval := ⟨0, 0⟩
  initialPortSettings : Option Termios := none
  status : Status := .running
  -- History: what the service was told, and the notices that clients were sent.
  states : List ProxyState := [.ready]
  notices : List Notice := []
  -- History of a connection: the receiver at first, and the bytes read and written since.
  entry : Receiver := {}
  fromNet : Bytes := []
  toDev : Bytes := []
  fromDev : Bytes := []
  toNet : Bytes := []

/-- How a turn of the loop can end before its end. -/
inductive Jump where
  | abort (why : Abort)
  | next (s : Server)
  | exit (code : Nat)

/-- A part of the turn that calls the engine. -/
def engine (part : Except Abort Redirector) : Except Jump Redirector :=
  part.mapError .abort

/-- Dereferences a pointer that may not be set. -/
def pointer (set : Bool) : Except Jump Unit :=
  if set then .ok () else .error (.abort .nullPointer)

/-- The descriptors that select waits for. -/
def sercdSelect (requests : Requests) (lSocketFd : Bool) (ready : Events) : Events where
  deviceIn := requests.deviceIn && ready.deviceIn
  deviceOut := requests.deviceOut && ready.deviceOut
  socketOut := requests.socketOut && ready.socketOut
  socketIn := requests.socketIn && ready.socketIn
  socketConnect := lSocketFd && ready.socketConnect

/-- Whether it is time to look at the modem state, and the time of the last look. -/
def pollModemState (lastPoll newpoll later : Timeval) : Bool × Timeval :=
  -- Time may have moved backwards.
  let lastPoll := if newpoll.before lastPoll then ⟨0, 0⟩ else lastPoll
  -- The milliseconds are taken from the microseconds.
  let newpoll : Timeval := ⟨newpoll.sec - pollInterval / 1000, newpoll.usec - pollInterval % 1000⟩
  if lastPoll.before newpoll then (true, later) else (false, lastPoll)

namespace Server

variable (platform : Platform) (s : Server)

def requests : Requests where
  deviceIn := s.deviceFd && s.redirector.toNetBuf.bufferHasRoomFor escWriteCharBytes &&
    s.redirector.inputFlow
  deviceOut := s.deviceFd && !s.redirector.toDevBuf.isBufferEmpty
  modemstate := s.deviceFd && s.redirector.portControlEnable && s.redirector.inputFlow &&
    s.redirector.toNetBuf.bufferHasRoomFor sendCPCByteCommandBytes
  socketOut := s.outSocketFd && !s.redirector.toNetBuf.isBufferEmpty
  socketIn := s.deviceFd && s.redirector.toDevBuf.bufferHasRoomFor escRedirectCharBytesDevB &&
    s.inSocketFd &&
    s.redirector.toNetBuf.bufferHasRoomFor (escRedirectCharBytesSockB platform)

/-- Close and uninit port: the settings that were found at first are restored. -/
def closePort : Server :=
  match s.initialPortSettings with
  | some settings =>
    { s with redirector.port := s.redirector.port.tcsetattr platform.driver settings }
  | none => s

/-- Drop client connection and close serial port. -/
def dropConnection : Server :=
  -- The service is told first, and then the port is closed if it was open.
  let s : Server := { s with states := s.states ++ [.ready] }
  let s := if s.deviceFd then s.closePort platform else s
  { s with deviceFd := false, inSocketFd := false, outSocketFd := false }

/-- Read from serial port. -/
def serialInput (events : Events) (round : Round) : Except Jump Server :=
  if events.deviceIn then do
    pointer s.deviceFd
    -- Each byte may come to two of network data.
    let trybytes := min readbufSize (s.redirector.toNetBuf.bufferRoomLeft / escWriteCharBytes)
    let io := round.readDev.read trybytes
    if ioResultError io then .error (.next (s.dropConnection platform))
    else do
      let s : Server := { s with readbuf := s.readbuf.store io.data }
      let redirector ← engine
        (forBytes platform io s.readbuf Redirector.escWriteChar s.redirector)
      return { s with redirector := redirector, fromDev := s.fromDev ++ io.data }
  else return s

/-- Write to serial port. -/
def serialOutput (events : Events) (round : Round) : Except Jump Server :=
  if events.deviceOut then do
    pointer s.deviceFd
    let io := round.writeDev.write s.redirector.toDevBuf.getBufferString
    if ioResultError io then .error (.next (s.dropConnection platform))
    else
      let buffer := s.redirector.toDevBuf.bufferPopBytes (UInt32.ofInt io.iobytes)
      return { s with redirector.toDevBuf := buffer, toDev := s.toDev ++ io.data }
  else return s

/-- Write to network. -/
def networkOutput (events : Events) (round : Round) : Except Jump Server :=
  if events.socketOut then do
    pointer s.outSocketFd
    let io := round.writeNet.write s.redirector.toNetBuf.getBufferString
    if ioResultError io then .error (.next (s.dropConnection platform))
    else
      let buffer := s.redirector.toNetBuf.bufferPopBytes (UInt32.ofInt io.iobytes)
      return { s with redirector.toNetBuf := buffer, toNet := s.toNet ++ io.data }
  else return s

/-- Read from network. -/
def networkInput (events : Events) (round : Round) : Except Jump Server :=
  if events.socketIn then do
    pointer s.inSocketFd
    -- Each byte may be one for the device, or end a command and make an answer.
    let trybytes := min (min readbufSize
      (s.redirector.toNetBuf.bufferRoomLeft / escRedirectCharBytesSockB platform))
      (s.redirector.toDevBuf.bufferRoomLeft / escRedirectCharBytesDevB)
    let io := round.readNet.read trybytes
    if ioResultError io then .error (.next (s.dropConnection platform))
    else do
      let s : Server := { s with readbuf := s.readbuf.store io.data }
      -- The descriptor of the device is only followed for a byte.
      pointer (s.deviceFd || turns platform.longSize io.iobytes == 0)
      let redirector ← engine
        (forBytes platform io s.readbuf (Redirector.escRedirectChar platform) s.redirector)
      return { s with redirector := redirector, fromNet := s.fromNet ++ io.data }
  else return s

/-- Accept new connections, one at a time. -/
def acceptConnection (events : Events) (round : Round) : Except Jump Server :=
  if events.socketConnect then
    if !round.accepts then return s
    -- Another client is there: the new connection is dropped.
    else if s.inSocketFd && s.outSocketFd then return s
    else do
      -- The receiver, the masks and the flow stay as the last client left them.
      let redirector := { s.redirector with
        toNetBuf := s.redirector.toNetBuf.initBuffer
        tnstate := fun _ => {}
        handled := [] }
      let redirector ← engine redirector.sendTelnetInitialOptions
      return { s with
        redirector := redirector
        inSocketFd := true
        outSocketFd := true
        states := s.states ++ [.connected]
        entry := s.redirector.receiver
        fromNet := []
        toDev := []
        fromDev := []
        toNet := [] }
  else return s

/-- Open serial port if not yet open. -/
def openDevice (round : Round) : Except Jump Server :=
  if s.inSocketFd && s.outSocketFd && !s.deviceFd then
    match round.opens with
    -- The connection is closed again, and the rest of the turn left out.
    | none => .error (.next (s.dropConnection platform))
    | some (settings, lines) =>
      -- The buffer to the device is only emptied here.
      let port : Port := { settings := settings, lines := lines }
      return { s with
        deviceFd := true
        initialPortSettings := some settings
        redirector.port := port.openPort platform.driver
        redirector.toDevBuf := s.redirector.toDevBuf.initBuffer
        states := s.states ++ [.portOpened] }
  else return s

/-- Check the port state and notify the client if it's changed. -/
def notifyModemState (events : Events) : Except Jump Server :=
  if events.modemstate then do
    pointer s.deviceFd
    let newstate := s.redirector.port.getModemState s.modemState
    let mask := s.redirector.modemStateMask
    -- Don't send update if only delta changes.
    if newstate &&& mask &&& tncomModmaskNodelta ≠ s.modemState &&& mask &&& tncomModmaskNodelta
    then do
      let redirector ← engine
        (s.redirector.sendCPCByteCommand tnascNotifyModemstate (newstate &&& mask))
      return { s with
        redirector := redirector
        modemState := newstate
        notices := s.notices ++ [⟨mask, newstate &&& mask⟩] }
    else return s
  else return s

/-- The reads and writes, in the order in which buffers are to be drained. -/
def transfer (events : Events) (round : Round) : Except Jump Server := do
  let s ← s.serialInput platform events round
  let s ← s.serialOutput platform events round
  let s ← s.networkOutput platform events round
  s.networkInput platform events round

/-- What is done before the modem state is looked at. -/
def exchange (events : Events) (round : Round) : Except Jump Server := do
  let s ← s.transfer platform events round
  let s ← s.acceptConnection events round
  s.openDevice platform round

/-- What is done about the events of one turn. -/
def serve (events : Events) (round : Round) : Except Jump Server := do
  let s ← s.exchange platform events round
  s.notifyModemState events

/-- The server with the modem control lines as they are now. -/
def observe (round : Round) : Server :=
  match round.lines with
  | some lines => if s.deviceFd then { s with redirector.port.lines := lines } else s
  | none => s

/-- What select reports, and the server that has looked at the clock. -/
def select (round : Round) (ready : Events) : Events × Server :=
  let requests := s.requests platform
  let (due, lastPoll) :=
    if requests.modemstate then pollModemState s.lastPoll round.newpoll round.later
    else (false, s.lastPoll)
  -- The clock is read after select has returned.
  ({ sercdSelect requests s.lSocketFd ready with modemstate := due },
    { s with lastPoll := lastPoll })

/-- One turn of the main loop. -/
def turn (round : Round) : Except Jump Server :=
  let requests := s.requests platform
  if !requests.deviceIn && !requests.deviceOut && !requests.socketOut && !requests.socketIn &&
      !s.lSocketFd then
    -- Nothing more to do.
    .error (.exit 0)
  else
    match round.ready with
    | none => .error (.exit 1)
    | some ready =>
      let (events, s) := s.select platform round ready
      -- With no event at all not even the device is opened.
      if events = {} then return s else s.serve platform events round

/-- The state behind a turn, however that ends. -/
def settle : Except Jump Server → Server
  | .ok next => next
  | .error (.next next) => next
  | .error (.exit code) => { s with status := .exited code }
  | .error (.abort why) => { s with status := .aborted why }

/-- One turn of the main loop, as long as the program runs. -/
def step (round : Round) : Option Server :=
  if s.status = .running then
    let s := s.observe round
    some (s.settle (s.turn platform round))
  else none

end Server

/-- The memory of `readbuf` before the first read. -/
def blankReadbuf : Readbuf where
  bytes := List.replicate readbufSize 0
  full := List.length_replicate ..

/-- The memory of a buffer before it is initialized. -/
def blankBuffer : BufferType where
  buffer := Vector.replicate bufferSize 0
  rdPos := 0
  wrPos := 0
  rdInside := bufferSize_pos
  wrInside := bufferSize_pos

/-- The program at the beginning of its main loop. -/
def startServer : Server where
  redirector :=
    { port := { settings := ⟨0, 0⟩, lines := 0 }, toNetBuf := blankBuffer, toDevBuf := blankBuffer }
  readbuf := blankReadbuf

end SerialPort.Sercd
