import SerialPort.Sercd.Buffer
import SerialPort.Sercd.Port

/-! The protocol engine of sercd: what it sends, and what it makes of each byte it receives. -/

namespace SerialPort.Sercd

abbrev tnSe : UInt8 := 240
abbrev tnSb : UInt8 := 250
abbrev tnWill : UInt8 := 251
abbrev tnWont : UInt8 := 252
abbrev tnDo : UInt8 := 253
abbrev tnDont : UInt8 := 254
abbrev tnIac : UInt8 := 255

abbrev tnTransmitBinary : UInt8 := 0
abbrev tnEcho : UInt8 := 1
abbrev tnSuppressGoAhead : UInt8 := 3
abbrev tncomPortOption : UInt8 := 44

abbrev tncasSignature : UInt8 := 0
abbrev tncasSetBaudrate : UInt8 := 1
abbrev tncasSetDatasize : UInt8 := 2
abbrev tncasSetParity : UInt8 := 3
abbrev tncasSetStopsize : UInt8 := 4
abbrev tncasSetControl : UInt8 := 5
abbrev tncasFlowcontrolSuspend : UInt8 := 8
abbrev tncasFlowcontrolResume : UInt8 := 9
abbrev tncasSetLinestateMask : UInt8 := 10
abbrev tncasSetModemstateMask : UInt8 := 11
abbrev tncasPurgeData : UInt8 := 12

abbrev tnascSignature : UInt8 := 100
abbrev tnascSetBaudrate : UInt8 := 101
abbrev tnascSetDatasize : UInt8 := 102
abbrev tnascSetParity : UInt8 := 103
abbrev tnascSetStopsize : UInt8 := 104
abbrev tnascSetControl : UInt8 := 105
abbrev tnascNotifyModemstate : UInt8 := 107
abbrev tnascSetLinestateMask : UInt8 := 110
abbrev tnascSetModemstateMask : UInt8 := 111
abbrev tnascPurgeData : UInt8 := 112

/-- The length of temporary strings, and with it that of `IACCommand`. -/
abbrev tmpStrLen : Nat := 255

/-- The size of an `unsigned long` and an `ssize_t`, in bytes. -/
inductive LongSize where
  | four
  | eight
  deriving DecidableEq, Repr

/-- Where the program runs: its data model, the device it serves and the driver of that. -/
structure Platform where
  longSize : LongSize
  deviceName : Bytes
  driver : Driver
  ciscoIOSCompatible : Bool := false

/-- Status for IAC escaping and interpretation. -/
inductive IACState where
  | normal
  | received
  | comReceiving
  deriving DecidableEq, Repr

/-- The state of one telnet option. -/
structure TnState where
  sentWill : Bool := false
  sentDo : Bool := false
  sentWont : Bool := false
  sentDont : Bool := false
  isWill : Bool := false
  isDo : Bool := false
  deriving DecidableEq

/-- The variables with which `EscRedirectChar` keeps its place in the stream from the network. -/
structure Receiver where
  iacEscape : IACState := .normal
  iacSigEscape : IACState := .normal
  -- IACCommand as far as it is filled; IACPos is its length.
  iacCommand : Bytes := []
  last : UInt8 := 0
  deriving DecidableEq

/-- What a byte from the network completes. -/
inductive Received where
  | nothing
  | data (c : UInt8)
  | command (command : Bytes)
  deriving DecidableEq

/-- The static variables of the protocol, the port and the buffers on both sides. -/
structure Redirector where
  tnstate : UInt8 → TnState := fun _ => {}
  -- The byte that EscWriteChar wrote last.
  escWriteLast : UInt8 := 0
  receiver : Receiver := {}
  modemStateMask : UInt8 := 255
  lineStateMask : UInt8 := 0
  breakSignaled : Bool := false
  inputFlow : Bool := true
  portControlEnable : Bool := true
  port : Port
  toNetBuf : BufferType
  toDevBuf : BufferType
  -- History: the commands that were handled.
  handled : List Bytes := []

/-- The byte of a command at a position. -/
def byteAt (command : Bytes) (position : Nat) : UInt8 :=
  command.getD position 0

/-- The four bytes of a number in network order. -/
def htonl (number : Nat) : Bytes :=
  [24, 16, 8, 0].map fun shift => UInt8.ofNat (number / 2 ^ shift)

/-- The number that four bytes of a command hold in network order. -/
def ntohl (command : Bytes) (position : Nat) : Nat :=
  ((List.range 4).map fun offset => byteAt command (position + offset)).foldl
    (fun number byte => number * 256 + byte.toNat) 0

/-- The bytes of the `unsigned long` that holds a number in network order. -/
def longBytes (size : LongSize) (number : Nat) : Bytes :=
  match size with
  | .four => htonl number
  -- The conversion is one of 32 bits, and what is left of the variable stays zero.
  | .eight => htonl number ++ [0, 0, 0, 0]

/-- The signature, cut to the size of the string that it is printed into. -/
def signature (platform : Platform) : Bytes :=
  ((['s', 'e', 'r', 'c', 'd', ' ', '3', '.', '0', '.', '0', ' '].map
    fun letter => UInt8.ofNat letter.toNat) ++ platform.deviceName).take 254

namespace Receiver

variable (v : Receiver)

/-- Stores one more byte of a command, wherever that is. -/
def storeCommand (c : UInt8) : Except Abort Receiver :=
  if v.iacCommand.length < tmpStrLen then .ok { v with iacCommand := v.iacCommand ++ [c] }
  else .error .outOfBounds

/-- Stores one more byte of a command as long as there is room. -/
def storeIfRoom (c : UInt8) : Receiver :=
  if v.iacCommand.length < tmpStrLen then { v with iacCommand := v.iacCommand ++ [c] } else v

/-- The command is handed over, and the next byte is a normal one. -/
def finishCommand : Receiver × Received :=
  ({ v with iacEscape := .normal }, .command v.iacCommand)

/-- Stores one more byte of a command, which is complete at a certain length. -/
def storeUntil (length : Nat) (c : UInt8) : Except Abort (Receiver × Received) := do
  let v ← v.storeCommand c
  return if v.iacCommand.length = length then v.finishCommand else (v, .nothing)

/-- One more byte of a signature, which needs further escaping. -/
def receiveSignature (c : UInt8) : Receiver × Received :=
  match v.iacSigEscape with
  | .normal =>
    if c = tnIac then ({ v with iacSigEscape := .received }, .nothing)
    else (v.storeIfRoom c, .nothing)
  -- No other case leads to this one.
  | .comReceiving => ({ v with iacSigEscape := .normal }, .nothing)
  | .received =>
    if c = tnIac then ({ v.storeIfRoom c with iacSigEscape := .normal }, .nothing)
    -- Whatever follows the escape ends the signature.
    else ((v.storeIfRoom tnIac).storeIfRoom c).finishCommand

/-- One more byte of a command. -/
def receiveCommand (c : UInt8) : Except Abort (Receiver × Received) :=
  if byteAt v.iacCommand 1 = tnSb then
    -- Telnet suboption, could be only CPC.
    -- The marker, the verb, the option and the request are stored as they come.
    if v.iacCommand.length < 4 then do
      let v ← v.storeCommand c
      return (v, .nothing)
    else
      let request := byteAt v.iacCommand 3
      if request = tncasSignature then .ok (v.receiveSignature c)
      else if request = tncasSetBaudrate then v.storeUntil 10 c
      else if request = tncasFlowcontrolSuspend ∨ request = tncasFlowcontrolResume then
        v.storeUntil 6 c
      else v.storeUntil 7 c
  else
    -- Normal 3 byte IAC option.
    v.storeUntil 3 c

/-- The switch of `EscRedirectChar`: what one more byte completes. -/
def scan (binary : Bool) (c : UInt8) : Except Abort (Receiver × Received) :=
  match v.iacEscape with
  | .normal =>
    if c = tnIac then .ok ({ v with iacEscape := .received }, .nothing)
    -- Swallow the NUL after a CR if not receiving BINARY.
    else if binary = false ∧ c = 0x00 ∧ v.last = 0x0D then .ok (v, .nothing)
    -- A byte of data.
    else .ok (v, .data c)
  | .received =>
    -- An escape that is escaped is data.
    if c = tnIac then .ok ({ v with iacEscape := .normal }, .data c)
    else
      .ok ({ v with iacCommand := [tnIac, c], iacEscape := .comReceiving,
                    iacSigEscape := .normal }, .nothing)
  | .comReceiving => v.receiveCommand c

/-- The byte is taken in, and remembered as the last one. -/
def receive (binary : Bool) (c : UInt8) : Except Abort (Receiver × Received) := do
  let (v, received) ← v.scan binary c
  return ({ v with last := c }, received)

end Receiver

namespace Redirector

variable (platform : Platform) (r : Redirector)

/-- Changes the state of one option. -/
def setOption (option : UInt8) (change : TnState → TnState) : Redirector :=
  { r with tnstate := fun other => if other = option then change (r.tnstate other)
                                   else r.tnstate other }

/-- Adds a byte to the buffer to the network. -/
def putNet (c : UInt8) : Except Abort Redirector := do
  let buffer ← r.toNetBuf.addToBuffer c
  return { r with toNetBuf := buffer }

/-- Adds a byte to the buffer to the device. -/
def putDev (c : UInt8) : Except Abort Redirector := do
  let buffer ← r.toDevBuf.addToBuffer c
  return { r with toDevBuf := buffer }

/-- Write a char to socket performing IAC escaping. -/
def escWriteChar (c : UInt8) : Except Abort Redirector := do
  let r ←
    if c = tnIac then r.putNet c
    -- A CR that is not followed by LF is followed by NUL.
    else if c ≠ 0x0A ∧ (r.tnstate tnTransmitBinary).isWill = false ∧ r.escWriteLast = 0x0D then
      r.putNet 0x00
    else pure r
  let r ← r.putNet c
  return { r with escWriteLast := c }

/-- Send the specific telnet option using a command. -/
def sendTelnetOption (command option : UInt8) : Except Abort Redirector := do
  let r ← r.putNet tnIac
  let r ← r.putNet command
  r.putNet option

/-- Send initial Telnet negotiations to the client. -/
def sendTelnetInitialOptions : Except Abort Redirector := do
  let r ← r.sendTelnetOption tnWill tnTransmitBinary
  let r := r.setOption tnTransmitBinary fun state => { state with sentWill := true }
  let r ← r.sendTelnetOption tnDo tnTransmitBinary
  let r := r.setOption tnTransmitBinary fun state => { state with sentDo := true }
  let r ← r.sendTelnetOption tnWill tnEcho
  let r := r.setOption tnEcho fun state => { state with sentWill := true }
  let r ← r.sendTelnetOption tnWill tnSuppressGoAhead
  let r := r.setOption tnSuppressGoAhead fun state => { state with sentWill := true }
  let r ← r.sendTelnetOption tnDo tnSuppressGoAhead
  let r := r.setOption tnSuppressGoAhead fun state => { state with sentDo := true }
  let r ← r.sendTelnetOption tnDo tncomPortOption
  return r.setOption tncomPortOption fun state => { state with sentDo := true }

/-- Send a string performing IAC escaping. -/
def sendStr (str : Bytes) : Except Abort Redirector :=
  str.foldlM escWriteChar r

/-- Send a CPC command with some bytes as its parameter. -/
def sendCPC (command : UInt8) (parameter : Bytes) : Except Abort Redirector := do
  let r ← r.putNet tnIac
  let r ← r.putNet tnSb
  let r ← r.putNet tncomPortOption
  let r ← r.putNet command
  let r ← r.sendStr parameter
  let r ← r.putNet tnIac
  r.putNet tnSe

/-- Send the signature to the client; it must not be longer than 255 characters. -/
def sendSignature (sig : Bytes) : Except Abort Redirector :=
  if sig.length ≤ 255 then r.sendCPC tnascSignature sig else .error .assertion

/-- Send the baud rate. -/
def sendBaudRate (br : Nat) : Except Abort Redirector :=
  r.sendCPC tnascSetBaudrate (longBytes platform.longSize br)

/-- Send a CPC command using one byte as parameter. -/
def sendCPCByteCommand (command parm : UInt8) : Except Abort Redirector :=
  r.sendCPC command [parm]

/-- Sets or only asks for a property of the port, and sends it back as the port has it. -/
def handleSetting (set : Port → UInt8 → Port) (get : Port → UInt8) (reply parm : UInt8) :
    Except Abort Redirector :=
  -- A value of zero only asks.
  let port := if parm = 0 then r.port else set r.port parm
  { r with port := port }.sendCPCByteCommand reply (get port)

/-- Flow control and DTR/RTS handling. -/
def handleControl (parm : UInt8) : Except Abort Redirector :=
  if parm = tncomCmdFlowReq ∨ parm = tncomCmdDtrReq ∨ parm = tncomCmdRtsReq ∨
      parm = tncomCmdInflowReq then
    r.sendCPCByteCommand tnascSetControl (r.port.getPortFlowControl parm)
  else if parm = tncomCmdBreakReq then
    r.sendCPCByteCommand tnascSetControl
      (if r.breakSignaled then tncomCmdBreakOn else tncomCmdBreakOff)
  else if parm = tncomCmdBreakOn then
    { r with port := r.port.setBreak true, breakSignaled := true }.sendCPCByteCommand
      tnascSetControl tncomCmdBreakOn
  else if parm = tncomCmdBreakOff then
    { r with port := r.port.setBreak false, breakSignaled := false }.sendCPCByteCommand
      tnascSetControl tncomCmdBreakOff
  else
    let port := r.port.setPortFlowControl platform.driver parm
    let flowControl :=
      if platform.ciscoIOSCompatible ∧ tncomCmdInflowReq ≤ parm ∧ parm ≤ tncomCmdInflowHardware
      then 0
      else port.getPortFlowControl tncomCmdFlowReq
    { r with port := port }.sendCPCByteCommand tnascSetControl flowControl

/-- Handling of COM Port Control specific commands. -/
def handleCPCCommand (command : Bytes) : Except Abort Redirector :=
  let request := byteAt command 3
  let parm := byteAt command 4
  if request = tncasSignature then
    -- A void signature asks for ours; any other one is only logged.
    if command.length = 6 then r.sendSignature (signature platform) else .ok r
  else if request = tncasSetBaudrate then
    let baudRate := ntohl command 4
    -- A rate of zero only asks.
    let port := if baudRate = 0 then r.port else r.port.setPortSpeed platform.driver baudRate
    { r with port := port }.sendBaudRate platform port.settings.termios2TncomSpeed
  else if request = tncasSetDatasize then
    r.handleSetting (Port.setPortDataSize platform.driver)
      (fun port => port.settings.termios2TncomDataSize) tnascSetDatasize parm
  else if request = tncasSetParity then
    r.handleSetting (Port.setPortParity platform.driver)
      (fun port => port.settings.termios2TncomParity) tnascSetParity parm
  else if request = tncasSetStopsize then
    r.handleSetting (Port.setPortStopSize platform.driver)
      (fun port => port.settings.termios2TncomStopSize) tnascSetStopsize parm
  else if request = tncasSetControl then r.handleControl platform parm
  else if request = tncasSetLinestateMask then
    -- Only break notification supported.
    { r with lineStateMask := parm &&& 16 }.sendCPCByteCommand tnascSetLinestateMask (parm &&& 16)
  else if request = tncasSetModemstateMask then
    { r with modemStateMask := parm }.sendCPCByteCommand tnascSetModemstateMask parm
  else if request = tncasPurgeData then
    { r with port := r.port.setFlush parm }.sendCPCByteCommand tnascPurgeData parm
  else if request = tncasFlowcontrolSuspend then .ok { r with inputFlow := false }
  else if request = tncasFlowcontrolResume then .ok { r with inputFlow := true }
  else .ok r

/-- The options that are accepted. -/
def supported (option : UInt8) : Bool :=
  option == tncomPortOption || option == tnTransmitBinary || option == tnEcho ||
    option == tnSuppressGoAhead

/-- Sends an announcement about an option, and changes the state of the option. -/
def announce (command option : UInt8) (change : TnState → TnState) :
    Except Abort Redirector := do
  let r ← r.sendTelnetOption command option
  return r.setOption option change

/-- The flag for the control of the port is set together with its option. -/
def enablePortControl (option : UInt8) : Redirector :=
  { r with portControlEnable := option == tncomPortOption || r.portControlEnable }

/-- Requests for options: the client will do something. -/
def handleWill (option : UInt8) : Except Abort Redirector :=
  if supported option then
    let r := r.enablePortControl option
    let change (state : TnState) : TnState :=
      { state with isDo := true, sentDo := false, sentDont := false }
    -- No answer is sent to an answer.
    if (r.tnstate option).sentDo then .ok (r.setOption option change)
    else r.announce tnDo option change
  else
    r.announce tnDont option fun state =>
      { state with isDo := false, sentDo := false, sentDont := false }

/-- Confirmations for options: the client asks the server to do something. -/
def handleDo (option : UInt8) : Except Abort Redirector :=
  if supported option then
    let r := r.enablePortControl option
    let change (state : TnState) : TnState :=
      { state with isWill := true, sentWill := false, sentWont := false }
    -- No answer is sent to an answer.
    if (r.tnstate option).sentWill then .ok (r.setOption option change)
    else r.announce tnWill option change
  else
    r.announce tnWont option fun state =>
      { state with isWill := false, sentWill := false, sentWont := false }

/-- Rejection of an option that the server would do. -/
def handleDont (option : UInt8) : Except Abort Redirector :=
  -- Only what was agreed to is taken back.
  if (r.tnstate option).isWill then
    r.announce tnWont option fun state =>
      { state with isWill := false, sentWill := false, sentWont := false }
  else .ok (r.setOption option fun state => { state with sentWill := false, sentWont := false })

/-- Rejection of an option that the client would do. -/
def handleWont (option : UInt8) : Except Abort Redirector :=
  -- Only what was agreed to is taken back.
  if (r.tnstate option).isDo then
    r.announce tnDont option fun state =>
      { state with isDo := false, sentDo := false, sentDont := false }
  else .ok (r.setOption option fun state => { state with sentDo := false, sentDont := false })

/-- Common telnet IAC commands handling. -/
def handleIACCommand (command : Bytes) : Except Abort Redirector :=
  let r := { r with handled := r.handled ++ [command] }
  let verb := byteAt command 1
  let option := byteAt command 2
  if verb = tnSb then
    -- Suboptions are heeded if either side does the option.
    if ((r.tnstate option).isWill || (r.tnstate option).isDo) && option == tncomPortOption then
      r.handleCPCCommand platform command
    else .ok r
  else if verb = tnWill then r.handleWill option
  else if verb = tnDo then r.handleDo option
  else if verb = tnDont then r.handleDont option
  else if verb = tnWont then r.handleWont option
  else .ok r

/-- Redirect char to device checking for IAC escape sequences. -/
def escRedirectChar (c : UInt8) : Except Abort Redirector := do
  let (receiver, received) ← r.receiver.receive (r.tnstate tnTransmitBinary).isDo c
  let r := { r with receiver := receiver }
  match received with
  | .nothing => pure r
  | .data c => r.putDev c
  | .command command => r.handleIACCommand platform command

end Redirector

end SerialPort.Sercd
