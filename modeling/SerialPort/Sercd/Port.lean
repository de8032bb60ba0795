import SerialPort.Library.BitField

/-! The serial port: its settings, how they are read and set, and what they are called in CPC. -/

namespace SerialPort.Sercd

/-! The bits of `c_iflag`, `c_cflag` and the modem control lines, as Linux defines them. -/

abbrev ignbrk : BitVec 32 := 0x1
abbrev brkint : BitVec 32 := 0x2
abbrev parmrk : BitVec 32 := 0x8
abbrev istrip : BitVec 32 := 0x20
abbrev inlcr : BitVec 32 := 0x40
abbrev igncr : BitVec 32 := 0x80
abbrev icrnl : BitVec 32 := 0x100
abbrev ixon : BitVec 32 := 0x400
abbrev ixoff : BitVec 32 := 0x1000

abbrev cbaud : BitVec 32 := 0x100F
abbrev csize : BitVec 32 := 0x30
abbrev cs5 : BitVec 32 := 0x0
abbrev cs6 : BitVec 32 := 0x10
abbrev cs7 : BitVec 32 := 0x20
abbrev cs8 : BitVec 32 := 0x30
abbrev cstopb : BitVec 32 := 0x40
abbrev parenb : BitVec 32 := 0x100
abbrev parodd : BitVec 32 := 0x200
abbrev hupcl : BitVec 32 := 0x400
abbrev clocal : BitVec 32 := 0x800
abbrev crtscts : BitVec 32 := 0x80000000

abbrev tiocmDtr : BitVec 32 := 0x2
abbrev tiocmRts : BitVec 32 := 0x4
abbrev tiocmCts : BitVec 32 := 0x20
abbrev tiocmCar : BitVec 32 := 0x40
abbrev tiocmRng : BitVec 32 := 0x80
abbrev tiocmDsr : BitVec 32 := 0x100

/-- The speeds that sercd knows, and their codes `B50` to `B460800`. -/
def speeds : List (Nat × BitVec 32) :=
  [(50, 0x1), (75, 0x2), (110, 0x3), (134, 0x4), (150, 0x5), (200, 0x6), (300, 0x7), (600, 0x8),
    (1200, 0x9), (1800, 0xA), (2400, 0xB), (4800, 0xC), (9600, 0xD), (19200, 0xE), (38400, 0xF),
    (57600, 0x1001), (115200, 0x1002), (230400, 0x1003), (460800, 0x1004)]

/-- The code `B9600`. -/
abbrev b9600 : BitVec 32 := 0xD

/-! What CPC calls the settings. -/

abbrev tncomNoparity : UInt8 := 1
abbrev tncomOddparity : UInt8 := 2
abbrev tncomEvenparity : UInt8 := 3

abbrev tncomOnestopbit : UInt8 := 1
abbrev tncomTwostopbits : UInt8 := 2

abbrev tncomCmdFlowReq : UInt8 := 0
abbrev tncomCmdFlowNone : UInt8 := 1
abbrev tncomCmdFlowXonxoff : UInt8 := 2
abbrev tncomCmdFlowHardware : UInt8 := 3
abbrev tncomCmdBreakReq : UInt8 := 4
abbrev tncomCmdBreakOn : UInt8 := 5
abbrev tncomCmdBreakOff : UInt8 := 6
abbrev tncomCmdDtrReq : UInt8 := 7
abbrev tncomCmdDtrOn : UInt8 := 8
abbrev tncomCmdDtrOff : UInt8 := 9
abbrev tncomCmdRtsReq : UInt8 := 10
abbrev tncomCmdRtsOn : UInt8 := 11
abbrev tncomCmdRtsOff : UInt8 := 12
abbrev tncomCmdInflowReq : UInt8 := 13
abbrev tncomCmdInflowNone : UInt8 := 14
abbrev tncomCmdInflowXonxoff : UInt8 := 15
abbrev tncomCmdInflowHardware : UInt8 := 16

abbrev tncomModmaskRlsd : UInt8 := 128
abbrev tncomModmaskRing : UInt8 := 64
abbrev tncomModmaskDsr : UInt8 := 32
abbrev tncomModmaskCts : UInt8 := 16
abbrev tncomModmaskNodelta : UInt8 :=
  tncomModmaskRlsd ||| tncomModmaskRing ||| tncomModmaskDsr ||| tncomModmaskCts
abbrev tncomModmaskRlsdDelta : UInt8 := 8
abbrev tncomModmaskRingTrail : UInt8 := 4
abbrev tncomModmaskDsrDelta : UInt8 := 2
abbrev tncomModmaskCtsDelta : UInt8 := 1

abbrev tncomPurgeRx : UInt8 := 1
abbrev tncomPurgeTx : UInt8 := 2
abbrev tncomPurgeBoth : UInt8 := 3

/-- The settings of a terminal, as far as sercd reads them. -/
structure Termios where
  cIflag : BitVec 32
  cCflag : BitVec 32
  deriving DecidableEq

namespace Termios

/-- The code of the speed; Linux keeps one for both directions. -/
def cfgetospeed (ti : Termios) : BitVec 32 :=
  ti.cCflag &&& cbaud

def cfsetspeed (ti : Termios) (speed : BitVec 32) : Termios :=
  { ti with cCflag := (ti.cCflag &&& ~~~cbaud) ||| (speed &&& cbaud) }

/-- What `cfmakeraw` does to the flags that are modelled. -/
def cfmakeraw (ti : Termios) : Termios where
  cIflag := ti.cIflag &&&
    ~~~(ignbrk ||| brkint ||| parmrk ||| istrip ||| inlcr ||| igncr ||| icrnl ||| ixon)
  cCflag := (ti.cCflag &&& ~~~(csize ||| parenb)) ||| cs8

/-- Convert termios speed to tncom speed. -/
def termios2TncomSpeed (ti : Termios) : Nat :=
  -- A code that is not known is reported as no speed.
  match speeds.find? fun speed => speed.2 = ti.cfgetospeed with
  | some speed => speed.1
  | none => 0

/-- Convert termios data size to tncom size. -/
def termios2TncomDataSize (ti : Termios) : UInt8 :=
  let dataSize := ti.cCflag &&& csize
  if dataSize = cs5 then 5
  else if dataSize = cs6 then 6
  else if dataSize = cs7 then 7
  else if dataSize = cs8 then 8
  else 0

/-- Convert termios parity to tncom parity. -/
def termios2TncomParity (ti : Termios) : UInt8 :=
  -- The last branch is for parity that is neither none nor odd.
  if ti.cCflag &&& parenb = 0 then tncomNoparity
  else if ti.cCflag &&& parenb ≠ 0 ∧ ti.cCflag &&& parodd ≠ 0 then tncomOddparity
  else tncomEvenparity

/-- Convert termios stop size to tncom size. -/
def termios2TncomStopSize (ti : Termios) : UInt8 :=
  if ti.cCflag &&& cstopb = 0 then tncomOnestopbit else tncomTwostopbits

/-- Convert termios output flow control to tncom flow. -/
def termios2TncomOutFlow (ti : Termios) : UInt8 :=
  if ti.cIflag &&& ixon ≠ 0 then tncomCmdFlowXonxoff
  else if ti.cCflag &&& crtscts ≠ 0 then tncomCmdFlowHardware
  else tncomCmdFlowNone

/-- Convert termios input flow control to tncom flow. -/
def termios2TncomInFlow (ti : Termios) : UInt8 :=
  -- Hardware flow control has one flag for both directions.
  if ti.cIflag &&& ixoff ≠ 0 then tncomCmdInflowXonxoff
  else if ti.cCflag &&& crtscts ≠ 0 then tncomCmdInflowHardware
  else tncomCmdInflowNone

end Termios

/-- What a driver makes of the settings and of the lines that it is asked for. -/
structure Driver where
  tcsetattr : Termios → Termios → Termios
  tiocmset : BitVec 32 → BitVec 32 → BitVec 32

/-- What is done to a port beside its settings. -/
inductive PortCall where
  | tcsendbreak
  | tciflush
  | tcoflush
  | tcioflush
  deriving DecidableEq, Repr

/-- A serial port: its settings, its modem control lines, and what was done to it. -/
structure Port where
  settings : Termios
  lines : BitVec 32
  calls : List PortCall := []
  deriving DecidableEq

namespace Port

variable (driver : Driver)

def tcsetattr (port : Port) (settings : Termios) : Port :=
  { port with settings := driver.tcsetattr port.settings settings }

def tiocmset (port : Port) (lines : BitVec 32) : Port :=
  { port with lines := driver.tiocmset port.lines lines }

/-- Retrieves the flow control status, including DTR and RTS status. -/
def getPortFlowControl (port : Port) (which : UInt8) : UInt8 :=
  if which = tncomCmdDtrReq then
    -- The status of DSR stands for that of DTR.
    if port.lines &&& tiocmDsr ≠ 0 then tncomCmdDtrOn else tncomCmdDtrOff
  else if which = tncomCmdRtsReq then
    -- The status of CTS stands for that of RTS, which is an output.
    if port.lines &&& tiocmCts ≠ 0 then tncomCmdRtsOn else tncomCmdRtsOff
  else if which = tncomCmdInflowReq then port.settings.termios2TncomInFlow
  else port.settings.termios2TncomOutFlow

/-- Return the status of the modem control lines, and what has changed in it. -/
def getModemState (port : Port) (pmState : UInt8) : UInt8 :=
  let line (mask : BitVec 32) (bit : UInt8) : UInt8 := if port.lines &&& mask ≠ 0 then bit else 0
  let state := line tiocmCar tncomModmaskRlsd + line tiocmRng tncomModmaskRing +
    line tiocmDsr tncomModmaskDsr + line tiocmCts tncomModmaskCts
  -- Compared with the state that was sent last, as it stands there with its deltas.
  let delta (mask bit : UInt8) : UInt8 := if state &&& mask ≠ pmState &&& mask then bit else 0
  state + delta tncomModmaskRlsd tncomModmaskRlsdDelta +
    delta tncomModmaskRing tncomModmaskRingTrail +
    delta tncomModmaskDsr tncomModmaskDsrDelta +
    delta tncomModmaskCts tncomModmaskCtsDelta

/-- The code of a data size; any other size is taken for 8. -/
def dataSizeCode (dataSize : UInt8) : BitVec 32 :=
  if dataSize = 5 then cs5
  else if dataSize = 6 then cs6
  else if dataSize = 7 then cs7
  else cs8

/-- Set the serial port data size. -/
def setPortDataSize (port : Port) (dataSize : UInt8) : Port :=
  -- The old size is cleared before the new one is set.
  let cflag := port.settings.cCflag &&& ~~~csize
  port.tcsetattr driver
    { port.settings with cCflag := cflag ||| (dataSizeCode dataSize &&& csize) }

/-- Set the serial port parity. -/
def setPortParity (port : Port) (parity : UInt8) : Port :=
  let cflag := port.settings.cCflag
  let cflag :=
    if parity = tncomNoparity then cflag &&& ~~~parenb
    else if parity = tncomOddparity then cflag ||| parenb ||| parodd
    else if parity = tncomEvenparity then (cflag ||| parenb) &&& ~~~parodd
    -- There's no support for MARK and SPACE parity.
    else cflag &&& ~~~parenb
  port.tcsetattr driver { port.settings with cCflag := cflag }

/-- Set the serial port stop bits size. -/
def setPortStopSize (port : Port) (stopSize : UInt8) : Port :=
  let cflag := port.settings.cCflag
  -- One stop bit, one and a half, and any other number give the same.
  let cflag := if stopSize = tncomTwostopbits then cflag ||| cstopb else cflag &&& ~~~cstopb
  port.tcsetattr driver { port.settings with cCflag := cflag }

/-- The settings that a flow control command asks for. -/
def flowSettings (settings : Termios) (how : UInt8) : Termios :=
  if how = tncomCmdFlowNone then
    { cIflag := settings.cIflag &&& ~~~ixon &&& ~~~ixoff
      cCflag := settings.cCflag &&& ~~~crtscts }
  else if how = tncomCmdFlowXonxoff then
    { cIflag := settings.cIflag ||| ixon ||| ixoff
      cCflag := settings.cCflag &&& ~~~crtscts }
  else if how = tncomCmdFlowHardware then
    { cIflag := settings.cIflag &&& ~~~ixon &&& ~~~ixoff
      cCflag := settings.cCflag ||| crtscts }
  else settings

/-- The lines that a flow control command asks for. -/
def flowLines (lines : BitVec 32) (how : UInt8) : BitVec 32 :=
  if how = tncomCmdDtrOn then lines ||| tiocmDtr
  else if how = tncomCmdDtrOff then lines &&& ~~~tiocmDtr
  else if how = tncomCmdRtsOn then lines ||| tiocmRts
  else if how = tncomCmdRtsOff then lines &&& ~~~tiocmRts
  else lines

/-- Set the port flow control and DTR and RTS status. -/
def setPortFlowControl (port : Port) (how : UInt8) : Port :=
  -- Both calls are made whatever the command asks for.
  (port.tcsetattr driver (flowSettings port.settings how)).tiocmset driver
    (flowLines port.lines how)

/-- Set the serial port speed. -/
def setPortSpeed (port : Port) (baudRate : Nat) : Port :=
  let speed :=
    match speeds.find? fun speed => speed.1 = baudRate with
    | some speed => speed.2
    -- A speed that is not known sets this one.
    | none => b9600
  port.tcsetattr driver (port.settings.cfsetspeed speed)

/-- Serial port break. -/
def setBreak (port : Port) (on : Bool) : Port :=
  -- There is no call that ends a break.
  if on then { port with calls := port.calls ++ [.tcsendbreak] } else port

/-- Flush serial port. -/
def setFlush (port : Port) (selector : UInt8) : Port :=
  if selector = tncomPurgeRx then { port with calls := port.calls ++ [.tciflush] }
  else if selector = tncomPurgeTx then { port with calls := port.calls ++ [.tcoflush] }
  else if selector = tncomPurgeBoth then { port with calls := port.calls ++ [.tcioflush] }
  else port

/-- The port as `OpenPort` leaves it: raw, with hang-up on close and with breaks handled. -/
def openPort (port : Port) : Port :=
  let raw := port.settings.cfmakeraw
  port.tcsetattr driver
    { cIflag := (raw.cIflag &&& ~~~ignbrk) ||| brkint
      cCflag := (raw.cCflag ||| hupcl) ||| clocal }

end Port

end SerialPort.Sercd
