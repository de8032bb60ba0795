import SerialPort.Library.Credit
import SerialPort.Library.Transition
import SerialPort.Sercd.Receiving

/-! The single moves that the turns of the main loop are made of. -/

namespace SerialPort.Sercd

open Telnet (Token encode)

namespace Redirector

variable {platform : Platform} {r next : Redirector} {c : UInt8}

/-- What was sent has found room, and is in the buffer. -/
theorem emit_eq_ok {bytes : Bytes} (sent : r.emit bytes = .ok next) :
    bytes.length ≤ r.toNetBuf.bufferRoomLeft ∧ next = r.withNet (r.toNetBuf.append bytes) := by
  by_cases room : bytes.length ≤ r.toNetBuf.bufferRoomLeft
  · rw [emit_ok r room] at sent
    exact ⟨room, (Except.ok.inj sent).symm⟩
  · rw [emit_full r (by omega)] at sent
    cases sent

/-- A byte of data that was sent has found room for itself, escaped and padded. -/
theorem escWriteChar_eq_ok (sent : r.escWriteChar c = .ok next) :
    ((pad r.sendsBinary r.escWriteLast c).flatMap Telnet.stuff).length ≤
        r.toNetBuf.bufferRoomLeft ∧
      next = { r with escWriteLast := c }.withNet
        (r.toNetBuf.append ((pad r.sendsBinary r.escWriteLast c).flatMap Telnet.stuff)) := by
  rw [escWriteChar_eq] at sent
  exact emit_eq_ok sent

/-- A command with one byte that was sent has found room for itself. -/
theorem sendCPCByteCommand_eq_ok {command parm : UInt8} (plain : command ≠ tnIac)
    (sent : r.sendCPCByteCommand command parm = .ok next) :
    (r.cpcToken command [parm]).bytes.length ≤ r.toNetBuf.bufferRoomLeft ∧
      next = (r.afterCPC [parm]).withNet
        (r.toNetBuf.append (r.cpcToken command [parm]).bytes) := by
  rw [sendCPCByteCommand, sendCPC_eq _ _ _ plain] at sent
  exact emit_eq_ok sent

/-- So have the offers that were made. -/
theorem sendTelnetInitialOptions_eq_ok (sent : r.sendTelnetInitialOptions = .ok next) :
    (encode initialTokens).length ≤ r.toNetBuf.bufferRoomLeft ∧
      next = r.offering.withNet (r.toNetBuf.append (encode initialTokens)) := by
  rw [sendTelnetInitialOptions_eq] at sent
  exact emit_eq_ok sent

/-- A byte for the device that was added has found room for itself. -/
theorem putDev_eq_ok (sent : r.putDev c = .ok next) :
    1 ≤ r.toDevBuf.bufferRoomLeft ∧ next = { r with toDevBuf := r.toDevBuf.store c } := by
  by_cases room : 1 ≤ r.toDevBuf.bufferRoomLeft
  · rw [putDev, BufferType.addToBuffer_ok _ _ room] at sent
    exact ⟨room, (Except.ok.inj sent).symm⟩
  · rw [putDev, BufferType.addToBuffer_full _ _ (by omega)] at sent
    cases sent

/-- A byte from the network that has been dealt with. -/
inductive Redirected (platform : Platform) (r : Redirector) (receiver : Receiver) :
    Received → Redirector → Prop where
  | nothing : Redirected platform r receiver .nothing { r with receiver := receiver }
  | data (c : UInt8) (room : 1 ≤ r.toDevBuf.bufferRoomLeft) :
    Redirected platform r receiver (.data c)
      { r with receiver := receiver, toDevBuf := r.toDevBuf.store c }
  | command {command : Bytes} {next : Redirector} {tokens : List Token}
    (complete : Complete command)
    (handled : Handled platform { r with receiver := receiver } command next tokens)
    (room : (encode tokens).length ≤ r.toNetBuf.bufferRoomLeft) :
    Redirected platform r receiver (.command command)
      (next.withNet (r.toNetBuf.append (encode tokens)))

/-- Whatever a byte from the network does, it is nothing yet, or data, or a whole command. -/
theorem escRedirectChar_cases (sound : r.receiver.Sound)
    (passed : r.escRedirectChar platform c = .ok next) :
    ∃ receiver received,
      r.receiver.receive (r.tnstate tnTransmitBinary).isDo c = .ok (receiver, received) ∧
      receiver.Sound ∧ Redirected platform r receiver received next := by
  obtain ⟨receiver, received, result, still, redirects⟩ :=
    escRedirectChar_redirects platform sound c
  refine ⟨receiver, received, result, still, ?_⟩
  generalize r.escRedirectChar platform c = outcome at redirects passed
  cases redirects with
  | nothing =>
    cases passed
    exact .nothing
  | data c =>
    obtain ⟨room, rfl⟩ := putDev_eq_ok passed
    exact .data c room
  | @command command after tokens complete handled =>
    obtain ⟨room, rfl⟩ := emit_eq_ok passed
    -- Handling leaves the buffer to the answer.
    have same : after.toNetBuf = r.toNetBuf := handled.toNetBuf
    rw [same] at room ⊢
    exact .command complete handled room

end Redirector

/-- One move of the server in a turn that began with or without flow from the device. -/
inductive Move (platform : Platform) (round : Round) (flow : Bool) : Server → Server → Prop where
  -- The clock and the lines change by themselves, whether the loop looks at them or not; what is
  -- read comes into the memory before anything is made of it.
  | polled (s : Server) (lastPoll : Timeval) :
    Move platform round flow s { s with lastPoll := lastPoll }
  | stored (s : Server) (data : Bytes) :
    Move platform round flow s { s with readbuf := s.readbuf.store data }
  | lines (s : Server) (lines : BitVec 32) :
    Move platform round flow s { s with redirector.port.lines := lines }
  -- One byte of a read from the device.
  | deviceByte {s : Server} {r : Redirector} (c : UInt8) (open_ : s.deviceFd = true)
    (flows : flow = true) (sent : s.redirector.escWriteChar c = .ok r) :
    Move platform round flow s { s with redirector := r, fromDev := s.fromDev ++ [c] }
  -- A write takes a first part of what waits, and a write that would block is taken for -1 bytes.
  | toDevice {s : Server} {data : Bytes} (open_ : s.deviceFd = true) (some_ : data ≠ [])
    (first : data <+: s.redirector.toDevBuf.contents) :
    Move platform round flow s { s with
      redirector.toDevBuf := s.redirector.toDevBuf.bufferPopBytes (UInt32.ofInt data.length)
      toDev := s.toDev ++ data }
  | toDeviceBlocked {s : Server} (open_ : s.deviceFd = true)
    (blocked : round.writeDev = .wouldBlock) :
    Move platform round flow s { s with
      redirector.toDevBuf := s.redirector.toDevBuf.bufferPopBytes (UInt32.ofInt (-1)) }
  | toNetwork {s : Server} {data : Bytes} (open_ : s.outSocketFd = true) (some_ : data ≠ [])
    (first : data <+: s.redirector.toNetBuf.contents) :
    Move platform round flow s { s with
      redirector.toNetBuf := s.redirector.toNetBuf.bufferPopBytes (UInt32.ofInt data.length)
      toNet := s.toNet ++ data }
  | toNetworkBlocked {s : Server} (open_ : s.outSocketFd = true)
    (blocked : round.writeNet = .wouldBlock) :
    Move platform round flow s { s with
      redirector.toNetBuf := s.redirector.toNetBuf.bufferPopBytes (UInt32.ofInt (-1)) }
  -- One byte of a read from the network.
  | networkByte {s : Server} {r : Redirector} (c : UInt8) (open_ : s.deviceFd = true)
    (passed : s.redirector.escRedirectChar platform c = .ok r) :
    Move platform round flow s { s with redirector := r, fromNet := s.fromNet ++ [c] }
  -- A client that is accepted; what the connection has carried is counted from here on.
  | accepted {s : Server} {r : Redirector} (free : (s.inSocketFd && s.outSocketFd) = false)
    (sent : Redirector.sendTelnetInitialOptions { s.redirector with
      toNetBuf := s.redirector.toNetBuf.initBuffer
      tnstate := fun _ => {}
      handled := [] } = .ok r) :
    Move platform round flow s { s with
      redirector := r
      inSocketFd := true
      outSocketFd := true
      states := s.states ++ [.connected]
      entry := s.redirector.receiver
      fromNet := []
      toDev := []
      fromDev := []
      toNet := [] }
  | opened {s : Server} (settings : Termios) (lines : BitVec 32)
    (connected : (s.inSocketFd && s.outSocketFd && !s.deviceFd) = true) :
    Move platform round flow s { s with
      deviceFd := true
      initialPortSettings := some settings
      redirector.port := ({ settings := settings, lines := lines } : Port).openPort platform.driver
      redirector.toDevBuf := s.redirector.toDevBuf.initBuffer
      states := s.states ++ [.portOpened] }
  -- A change of a line that the client has asked for.
  | notified {s : Server} {r : Redirector} (newstate : UInt8) (open_ : s.deviceFd = true)
    (flows : flow = true) (looked : newstate = s.redirector.port.getModemState s.modemState)
    (changed : newstate &&& s.redirector.modemStateMask &&& tncomModmaskNodelta ≠
      s.modemState &&& s.redirector.modemStateMask &&& tncomModmaskNodelta)
    (sent : s.redirector.sendCPCByteCommand tnascNotifyModemstate
      (newstate &&& s.redirector.modemStateMask) = .ok r) :
    Move platform round flow s { s with
      redirector := r
      modemState := newstate
      notices := s.notices ++
        [⟨s.redirector.modemStateMask, newstate &&& s.redirector.modemStateMask⟩] }
  | dropped {s : Server}
    (connected : s.deviceFd = true ∨ (s.inSocketFd = true ∧ s.outSocketFd = true)) :
    Move platform round flow s (s.dropConnection platform)

end SerialPort.Sercd
