import SerialPort.Sercd.Clients
import SerialPort.Sercd.Settings

/-! The control of the port as a client may expect it, from what it has said alone. -/

namespace SerialPort.Sercd

open Telnet (Token)

/-- The number that some bytes stand for, the highest of them first. -/
def number (bytes : Bytes) : Nat :=
  bytes.foldl (fun number byte => number * 256 + byte.toNat) 0

/-- Some bytes of a number, the highest of them first. -/
def networkOrder : Nat → Nat → Bytes
  | 0, _ => []
  | count + 1, number => networkOrder count (number / 256) ++ [UInt8.ofNat number]

/-- The code and the parameter of a subnegotiation about the port. -/
def comPort : Token → Option (UInt8 × Bytes)
  | .sub (option :: code :: parameter) =>
    if option = tncomPortOption then some (code, parameter) else none
  | _ => none

/-- The reply that a token is, if it is one to a request for a setting or for a line. -/
def reply (token : Token) : Option (UInt8 × Bytes) :=
  (comPort token).filter fun sent => tnascSetBaudrate ≤ sent.1 && sent.1 ≤ tnascSetControl

/-- A reply that a client may expect: its code, and the parameters that it may have. -/
abbrev Expected := UInt8 × List Bytes

/-- A reply is one that is expected; a NUL goes in front of its parameter behind a CR. -/
def Confirms (sent : UInt8 × Bytes) (expected : Expected) : Prop :=
  sent.1 = expected.1 ∧
    ∃ parameter ∈ expected.2, sent.2 = parameter ∨ sent.2 = 0x00 :: parameter

/-- What decides on the next request: the sides that do the option, the settings of the port, and
whether the client was told last that there is a break. -/
structure Governor where
  active : Side → Bool
  line : Line
  broken : Bool

namespace Governor

variable (governor : Governor)

/-- The port is controlled while either side does the option. -/
def controls : Bool :=
  governor.active .server || governor.active .client

/-- A side does the option from when it is asked for it until it is refused. -/
def agree (token : Token) : Governor where
  active side :=
    match side.request tncomPortOption token with
    | some .ask => true
    | some .refuse => false
    | none => governor.active side
  line := governor.line
  broken := governor.broken

/-- What a request makes of the settings; a value of zero only asks for them. -/
def follow (request : UInt8) (parameter : Bytes) : Governor :=
  let parm := parameter.headD 0
  if request = tncasSetBaudrate then
    if number parameter = 0 then governor
    else { governor with line := governor.line.setSpeed (number parameter) }
  else if request = tncasSetDatasize then
    if parm = 0 then governor else { governor with line := governor.line.setDataSize parm }
  else if request = tncasSetParity then
    if parm = 0 then governor else { governor with line := governor.line.setParity parm }
  else if request = tncasSetStopsize then
    if parm = 0 then governor else { governor with line := governor.line.setStopSize parm }
  else if request = tncasSetControl then
    if parm = tncomCmdBreakOn then { governor with broken := true }
    else if parm = tncomCmdBreakOff then { governor with broken := false }
    else { governor with line := governor.line.setFlow parm }
  else governor

/-- The speed in network order; a longer number ends with zeros. -/
def speedParameter (size : LongSize) (speed : Nat) : Bytes :=
  networkOrder 4 speed ++
    match size with
    | .four => []
    | .eight => [0, 0, 0, 0]

/-- The parameters with which a request about flow control, lines and breaks may be answered. -/
def controlParameters (cisco : Bool) (parm : UInt8) : List Bytes :=
  -- What the lines are like is not up to the client.
  if parm = tncomCmdDtrReq then [[tncomCmdDtrOn], [tncomCmdDtrOff]]
  else if parm = tncomCmdRtsReq then [[tncomCmdRtsOn], [tncomCmdRtsOff]]
  else if parm = tncomCmdInflowReq then [[governor.line.inFlow]]
  else if parm ∈ [tncomCmdBreakReq, tncomCmdBreakOn, tncomCmdBreakOff] then
    [[if governor.broken then tncomCmdBreakOn else tncomCmdBreakOff]]
  else if parm ∈ [tncomCmdInflowNone, tncomCmdInflowXonxoff, tncomCmdInflowHardware] ∧ cisco then
    [[0]]
  -- Whatever else is asked for, the answer is the flow control of the output.
  else [[governor.line.outFlow]]

/-- What the client is to be told for a request: the setting that it is about, as it is then. -/
def confirm (platform : Platform) (request : UInt8) (parameter : Bytes) : List Expected :=
  if request = tncasSetBaudrate then
    [(tnascSetBaudrate, [speedParameter platform.longSize governor.line.speed])]
  else if request = tncasSetDatasize then [(tnascSetDatasize, [[governor.line.dataSize]])]
  else if request = tncasSetParity then [(tnascSetParity, [[governor.line.parity]])]
  else if request = tncasSetStopsize then [(tnascSetStopsize, [[governor.line.stopSize]])]
  else if request = tncasSetControl then
    [(tnascSetControl,
      governor.controlParameters platform.ciscoIOSCompatible (parameter.headD 0))]
  else []

end Governor

/-- What clients make of the port by what they say, and which replies they are to be sent. -/
def governing (platform : Platform) : Transducer Governor Token Expected where
  next governor token :=
    match comPort token with
    | some (request, parameter) =>
      if governor.controls then governor.follow request parameter else governor
    | none => governor.agree token
  answer governor token :=
    match comPort token with
    | some (request, parameter) =>
      if governor.controls then
        (governor.follow request parameter).confirm platform request parameter
      else []
    | none => []

/-- No request changes who controls the port. -/
theorem Governor.follow_active (governor : Governor) (request : UInt8) (parameter : Bytes) :
    (governor.follow request parameter).active = governor.active := by
  unfold Governor.follow
  dsimp only
  split_ifs <;> rfl

/-- A command makes of a side what its token makes of it. -/
theorem governing_active (platform : Platform) (governor : Governor) (side : Side)
    (command : Bytes) :
    ((governing platform).next governor (commandToken command)).active side =
      side.activeAfter tncomPortOption (governor.active side) command := by
  have request := side.request_commandToken tncomPortOption command
  unfold Side.activeAfter
  rw [← request]
  generalize commandToken command = token
  dsimp only [governing]
  cases about : comPort token with
  | none => rfl
  | some sent =>
    -- A subnegotiation makes no demand.
    have silent : side.request tncomPortOption token = none := by
      cases token with
      | sub => rfl
      | _ => cases about
    rw [silent]
    dsimp only
    split
    · rw [Governor.follow_active]
    · rfl

/-- The parameter of a subnegotiation, without the marks around it. -/
def commandParameter (command : Bytes) : Bytes :=
  (command.drop 4).take (command.length - 6)

/-- What is left of a command begins with the byte at the position. -/
theorem drop_eq_byteAt {command : Bytes} {position : Nat} (inside : position < command.length) :
    command.drop position = byteAt command position :: command.drop (position + 1) := by
  rw [byteAt, List.getD_eq_getElem?_getD, List.getElem?_eq_getElem inside, Option.getD_some]
  exact List.drop_eq_getElem_cons inside

/-- A subnegotiation has an option, a request and a parameter. -/
theorem commandToken_sub {command : Bytes} (complete : Complete command)
    (sub : byteAt command 1 = tnSb) :
    commandToken command =
      .sub (byteAt command 2 :: byteAt command 3 :: commandParameter command) := by
  have long : 6 ≤ command.length := by
    by_cases signature : isSignature command
    · exact complete.signature signature
    · rw [complete.whole signature]
      exact six_le_completeLength sub
  have head : command.drop 2 = byteAt command 2 :: byteAt command 3 :: command.drop 4 := by
    rw [drop_eq_byteAt (by omega), drop_eq_byteAt (by omega)]
  -- Two of the bytes before the end are the option and the request.
  obtain ⟨rest, split_⟩ := Nat.exists_eq_add_of_le long
  have less : command.length - 4 = rest + 2 := by omega
  have less' : command.length - 6 = rest := by omega
  rw [commandToken, if_pos sub, head, less, commandParameter, less']
  rfl

/-- A request with one byte as its parameter. -/
theorem commandParameter_byte {command : Bytes} (length : command.length = 7) :
    commandParameter command = [byteAt command 4] := by
  rw [commandParameter, length, drop_eq_byteAt (by omega)]
  rfl

/-- A request for a speed has a number as its parameter. -/
theorem commandParameter_number {command : Bytes} (length : command.length = 10) :
    number (commandParameter command) = ntohl command 4 := by
  rw [commandParameter, length, drop_eq_byteAt (by omega), drop_eq_byteAt (by omega),
    drop_eq_byteAt (by omega), drop_eq_byteAt (by omega)]
  rfl

/-- The speed is sent in network order, and the rest of the variable behind it. -/
theorem longBytes_eq (size : LongSize) (speed : Nat) :
    longBytes size speed = Governor.speedParameter size speed := by
  have order : htonl speed = networkOrder 4 speed := by
    simp [htonl, networkOrder, Nat.div_div_eq_div_mul]
  cases size with
  | four => exact order.trans (List.append_nil _).symm
  | eight => exact congrArg (· ++ _) order

end SerialPort.Sercd
