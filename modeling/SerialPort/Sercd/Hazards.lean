import SerialPort.Sercd.Notices

/-! How the program can come to a bad end, and how a connection is lost without a reason. -/

namespace SerialPort.Sercd

open Telnet (Token encode)

variable {platform : Platform} {allowed : Round → Prop} {round : Round} {s next : Server}

/-- Every byte of such data from the device takes the room of two. -/
def escapes (number : Nat) : Bytes :=
  List.replicate number tnIac

namespace Redirector

variable (r : Redirector)

/-- Bytes that are all escapes are all doubled, and never padded. -/
theorem escapes_sent (number : Nat) (last : UInt8) (binary : Bool) :
    ((padder binary).answers last (escapes number)).flatMap Telnet.stuff =
      escapes (2 * number) := by
  induction number generalizing last with
  | zero => rfl
  | succ number ih =>
    -- IAC is not the byte a NUL is written before, whatever has been sent last.
    have word : pad binary last tnIac = [tnIac] := if_neg fun padded => padded.1 rfl
    rw [escapes, List.replicate_succ, Transducer.answers_cons, List.flatMap_append, Nat.mul_succ]
    change (pad binary last tnIac).flatMap Telnet.stuff ++ _ = _
    rw [word]
    exact congrArg (tnIac :: tnIac :: ·) (ih tnIac)

/-- What is left of the room behind such data. -/
theorem escapes_fill {number : Nat} (room : 2 * number ≤ r.toNetBuf.bufferRoomLeft) :
    ∃ buffer last, (escapes number).foldlM escWriteChar r =
        .ok (withNet { r with escWriteLast := last } buffer) ∧
      buffer.bufferRoomLeft = r.toNetBuf.bufferRoomLeft - 2 * number := by
  -- Each 255 of the device is two bytes on the way to the client.
  have length : (escapes (2 * number)).length = 2 * number := List.length_replicate ..
  have fits : (escapes (2 * number)).length ≤ r.toNetBuf.bufferRoomLeft := by rwa [length]
  refine ⟨r.toNetBuf.append (escapes (2 * number)),
    (padder r.sendsBinary).after r.escWriteLast (escapes number), ?_, ?_⟩
  · have whole := r.sendStr_eq (escapes number)
    rw [escapes_sent] at whole
    exact whole.trans (emit_ok _ fits)
  · rw [BufferType.append_room fits, length]

end Redirector

namespace Server

/-- What a device leaves that fills the buffer to the network as far as it is read. -/
structure Filled (s next : Server) : Prop where
  sockets : next.inSocketFd = s.inSocketFd ∧ next.outSocketFd = s.outSocketFd
  deviceFd : next.deviceFd = s.deviceFd
  states : next.states = s.states
  fromNet : next.fromNet = s.fromNet
  modemState : next.modemState = s.modemState
  port : next.redirector.port = s.redirector.port
  modemStateMask : next.redirector.modemStateMask = s.redirector.modemStateMask
  room : next.redirector.toNetBuf.bufferRoomLeft = s.redirector.toNetBuf.bufferRoomLeft -
    2 * min readbufSize (s.redirector.toNetBuf.bufferRoomLeft / escWriteCharBytes)

/-- A device that sends nothing but escapes fills the buffer as far as it is read. -/
theorem serialInput_escapes (platform : Platform) {events : Events} (open_ : s.deviceFd = true)
    (called : events.deviceIn = true) (read : round.readDev = .gives (escapes 512))
    (room : 2 ≤ s.redirector.toNetBuf.bufferRoomLeft) :
    ∃ next, s.serialInput platform events round = .ok next ∧ s.Filled next := by
  generalize trybytes_ : min readbufSize
    (s.redirector.toNetBuf.bufferRoomLeft / escWriteCharBytes) = trybytes
  have within : trybytes ≤ 512 := trybytes_ ▸ Nat.min_le_left _ _
  -- The source asks for half of the room, as each byte may take two.
  have fits : 2 * trybytes ≤ s.redirector.toNetBuf.bufferRoomLeft := by
    have half : trybytes ≤ s.redirector.toNetBuf.bufferRoomLeft / escWriteCharBytes :=
      trybytes_ ▸ Nat.min_le_right _ _
    simp only [escWriteCharBytes] at half
    omega
  have some_ : 0 < trybytes := by
    simp only [readbufSize, escWriteCharBytes] at trybytes_
    omega
  have taken : (escapes 512).take trybytes = escapes trybytes := by
    rw [escapes, List.take_replicate, Nat.min_eq_left within]
    rfl
  obtain ⟨buffer, last, sent, left⟩ := s.redirector.escapes_fill fits
  refine ⟨{ s with
    redirector := { s.redirector with escWriteLast := last }.withNet buffer
    readbuf := s.readbuf.store ((escapes 512).take trybytes)
    fromDev := s.fromDev ++ (escapes 512).take trybytes }, ?_,
    ⟨rfl, rfl⟩, rfl, rfl, rfl, rfl, rfl, rfl, trybytes_ ▸ left⟩
  unfold serialInput
  dsimp only
  rw [if_pos called, pointer, if_pos open_, trybytes_, read]
  change (if _ then _ else _) = _
  rw [error_read_gives, forBytes_gives (by omega), taken, sent]
  -- Something has been read, so the read is not the end of the device's stream.
  have more : (escapes trybytes).isEmpty = false := by
    rw [escapes]
    obtain ⟨fewer, rfl⟩ := Nat.exists_eq_succ_of_ne_zero (Nat.pos_iff_ne_zero.mp some_)
    rfl
  rw [more, if_neg Bool.false_ne_true]
  change Except.ok { s with
    redirector := _
    readbuf := s.readbuf.store ((escapes 512).take trybytes)
    fromDev := s.fromDev ++ (escapes 512).take trybytes } = _
  rw [taken]

variable {events : Events}

/-- A read for which there is no room finds the end of the stream, whatever there is to read. -/
theorem networkInput_full {pending : Bytes} (inSocket : s.inSocketFd = true)
    (called : events.socketIn = true) (read : round.readNet = .gives pending)
    (full : s.redirector.toNetBuf.bufferRoomLeft < escRedirectCharBytesSockB platform) :
    s.networkInput platform events round = .error (.next (s.dropConnection platform)) := by
  -- The room divided by what a byte may take is 0, and a read of no bytes gives none.
  have none_ : min (min readbufSize
      (s.redirector.toNetBuf.bufferRoomLeft / escRedirectCharBytesSockB platform))
      (s.redirector.toDevBuf.bufferRoomLeft / escRedirectCharBytesDevB) = 0 := by
    rw [Nat.div_eq_of_lt full, Nat.min_zero, Nat.zero_min]
  unfold networkInput
  dsimp only
  rw [if_pos called, pointer, if_pos inSocket, none_, read]
  rfl

/-- A device that fills the buffer takes the room from the client, which is dropped. -/
theorem serve_unread {pending : Bytes} (open_ : s.deviceFd = true) (inSocket : s.inSocketFd = true)
    (deviceIn : events.deviceIn = true) (deviceOut : events.deviceOut = false)
    (socketOut : events.socketOut = false) (socketIn : events.socketIn = true)
    (readDev : round.readDev = .gives (escapes 512)) (readNet : round.readNet = .gives pending)
    (small : 2 ≤ s.redirector.toNetBuf.bufferRoomLeft)
    (full : s.redirector.toNetBuf.bufferRoomLeft <
      escRedirectCharBytesSockB platform + escWriteCharBytes * readbufSize) :
    ∃ mid : Server, s.serve platform events round = .error (.next (mid.dropConnection platform)) ∧
      mid.states = s.states ∧ mid.fromNet = s.fromNet := by
  obtain ⟨mid, read, filled⟩ :=
    serialInput_escapes platform open_ deviceIn readDev small
  -- The client was asked for when there was room; the device is served before it.
  have less : mid.redirector.toNetBuf.bufferRoomLeft < escRedirectCharBytesSockB platform := by
    have room := filled.room
    rw [escRedirectCharBytesSockB_eq] at full ⊢
    simp only [readbufSize, escWriteCharBytes] at full room
    omega
  refine ⟨mid, ?_, filled.states, filled.fromNet⟩
  exact serve_interrupted read (serialOutput_skip deviceOut) (networkOutput_skip socketOut)
    (networkInput_full (filled.sockets.1.trans inSocket) socketIn readNet less)

end Server

/-- Whether a turn reports that the device and the client have sent something, and nothing else. -/
structure Round.BothRead (round : Round) (data pending : Bytes) : Prop where
  ready : round.ready = some { deviceIn := true, socketIn := true }
  readDev : round.readDev = .gives data
  readNet : round.readNet = .gives pending

/-- In every run there may come a turn that takes the client for gone whatever it has sent: if the
buffer to it is half full, the device can fill it so far that there is no room to read for. -/
theorem Reached.dropped_unread (reached : Reached platform allowed s)
    (running : s.status = .running) (open_ : s.deviceFd = true)
    (flows : s.redirector.inputFlow = true) (dev : 1 ≤ s.redirector.toDevBuf.bufferRoomLeft)
    (net : escRedirectCharBytesSockB platform ≤ s.redirector.toNetBuf.bufferRoomLeft)
    (full : s.redirector.toNetBuf.bufferRoomLeft <
      escRedirectCharBytesSockB platform + escWriteCharBytes * readbufSize) :
    ∃ data, ∀ pending round, round.BothRead data pending →
      ∃ next, s.step platform round = some next ∧ next.inSocketFd = false ∧
        next.deviceFd = false ∧ next.states = s.states ++ [.ready] ∧
        next.fromNet = s.fromNet := by
  refine ⟨escapes 512, fun pending round both => ?_⟩
  obtain ⟨inSocket, -⟩ := reached.settled
  rw [open_] at inSocket
  have small : 2 ≤ s.redirector.toNetBuf.bufferRoomLeft := by
    rw [escRedirectCharBytesSockB_eq] at net
    omega
  -- There is still room for both sides, so select reports both of them.
  have asked : sercdSelect (s.requests platform) s.lSocketFd
      { deviceIn := true, socketIn := true } = { deviceIn := true, socketIn := true } := by
    simp [sercdSelect, Server.requests, open_, inSocket, flows, dev, net, small]
  obtain ⟨events, looked, looks, stepped⟩ := Server.step_serves platform reached.well running open_
    both.ready
  have found := looks.reported
  rw [asked] at found
  have deviceIn : events.deviceIn = true := congrArg Events.deviceIn found
  have deviceOut : events.deviceOut = false := congrArg Events.deviceOut found
  have socketOut : events.socketOut = false := congrArg Events.socketOut found
  have socketIn : events.socketIn = true := congrArg Events.socketIn found
  have buffer := looks.buffers.1
  obtain ⟨mid, lost, states, fromNet⟩ := Server.serve_unread (looks.deviceFd.trans open_)
    (looks.sockets.1.trans inSocket) deviceIn deviceOut socketOut socketIn both.readDev
    both.readNet (by rwa [buffer]) (by rwa [buffer])
  rw [lost] at stepped
  refine ⟨_, stepped, ?_⟩
  obtain ⟨port, dropped⟩ := Well.dropConnection_eq platform mid
  change (mid.dropConnection platform).inSocketFd = false ∧
    (mid.dropConnection platform).deviceFd = false ∧
    (mid.dropConnection platform).states = _ ∧ (mid.dropConnection platform).fromNet = _
  rw [dropped]
  exact ⟨rfl, rfl, congrArg (· ++ _) (states.trans looks.states),
    fromNet.trans looks.streams.1⟩

/-- A device that has filled half of the buffer can take a client that sends something for gone. -/
theorem filled_dropped_unread : ∃ s : Server, s.redirector.toNetBuf.bufferRoomLeft = 1005 ∧
    ∃ data, ∀ pending round, round.BothRead data pending →
      ∃ next, s.step Sample.board round = some next ∧ next.inSocketFd = false ∧
        next.deviceFd = false ∧ next.states = s.states ++ [.ready] ∧
        next.fromNet = s.fromNet := by
  -- 512 escaped bytes leave 1005 free: too few for what the next turn reads.
  obtain ⟨s, reached, test⟩ := Reached.of_test
    (fun s => s.status == .running && s.deviceFd && s.redirector.inputFlow &&
      s.redirector.toDevBuf.bufferRoomLeft == 2047 && s.redirector.toNetBuf.bufferRoomLeft == 1005)
    (show (Transition.execute (Server.step Sample.board) (fun _ _ => True) startServer
      [Sample.connecting, Sample.reading (escapes 512)]).any _ = true by decide +kernel)
  simp only [Bool.and_eq_true, beq_iff_eq] at test
  obtain ⟨⟨⟨⟨running, open_⟩, flows⟩, dev⟩, net⟩ := test
  refine ⟨s, net, reached.dropped_unread running open_ flows (by rw [dev]; decide) ?_ ?_⟩
  · rw [net]
    decide
  · rw [net]
    decide

/-- In every run the program is only aborted in two ways: where a `long` has 32 bits, by a read that
would block, and then it runs past the end of what it has read or finds no room for what is left of
earlier reads; or it has no room for a notification any more, for which there was room when the turn
began. -/
theorem Reached.aborts {why : Abort} (reached : Reached platform allowed s)
    (stepped : s.step platform round = some next) (aborted : next.status = .aborted why) :
    ((why = .outOfBounds ∨ why = .assertion) ∧ platform.longSize = .four ∧
      (round.readDev = .wouldBlock ∨ round.readNet = .wouldBlock)) ∨
    (why = .assertion ∧ s.deviceFd = true ∧ s.redirector.inputFlow = true ∧
      sendCPCByteCommandBytes ≤ s.redirector.toNetBuf.bufferRoomLeft ∧
      (pollModemState s.lastPoll round.newpoll round.later).1 = true) := by
  have running := Server.running_of_step stepped
  cases Server.step_stepped reached.well stepped with
  | goesOn moved =>
    rw [moves_status moved, running] at aborted
    cases aborted
  | exits => cases aborted
  | @aborts ready _ reported bad =>
    cases aborted
    rcases bad with blocked | ⟨mid, -, assertion, due, -⟩
    · exact .inl blocked
    -- The modem state is only looked at if that was asked for when the turn began.
    · refine .inr ⟨assertion, ?_⟩
      obtain ⟨lines, observed⟩ := Server.observe_lines s round
      rw [observed] at due
      change (if (s.requests platform).modemstate then
        pollModemState s.lastPoll round.newpoll round.later
        else (false, s.lastPoll)).1 = true at due
      split at due
      · next called =>
        simp only [Server.requests, Bool.and_eq_true, BufferType.hasRoomFor_iff] at called
        obtain ⟨⟨⟨open_, -⟩, flows⟩, room⟩ := called
        exact ⟨open_, flows, room, due⟩
      · cases due

/-- A device that has sent much, a client that takes none of it, and a read that would block: where
a `long` has 32 bits there is no room for the bytes that are left of the read before. -/
theorem blocked_aborts : ∃ s next : Server, next.status = .aborted .assertion ∧
    ∃ (round : Round) (why : Abort), s.step Sample.board round = some next ∧
      (((why = .outOfBounds ∨ why = .assertion) ∧ Sample.board.longSize = .four ∧
        (round.readDev = .wouldBlock ∨ round.readNet = .wouldBlock)) ∨
      (why = .assertion ∧ s.deviceFd = true ∧ s.redirector.inputFlow = true ∧
        sendCPCByteCommandBytes ≤ s.redirector.toNetBuf.bufferRoomLeft ∧
        (pollModemState s.lastPoll round.newpoll round.later).1 = true)) := by
  -- The device has nothing to read; what is left in its read buffer runs into the assertion.
  let round : Round := { ready := some { deviceIn := true }, readDev := .wouldBlock }
  obtain ⟨s, reached, test⟩ := Reached.of_test
    (fun s => (s.step Sample.board round).any fun next => next.status == .aborted .assertion)
    (show (Transition.execute (Server.step Sample.board) (fun _ _ => True) startServer
      [Sample.connecting, Sample.reading (escapes 512)]).any _ = true by decide +kernel)
  obtain ⟨next, stepped, aborted⟩ := (Option.any_eq_true _ _).mp test
  rw [beq_iff_eq] at aborted
  exact ⟨s, next, aborted, _, _, stepped, reached.aborts stepped aborted⟩

namespace Server

variable {events : Events}

/-- A notification takes at least seven bytes. -/
theorem notification_length_ge (r : Redirector) (parm : UInt8) :
    7 ≤ (r.cpcToken tnascNotifyModemstate [parm]).bytes.length := by
  -- Six bytes frame the parameter, which is never empty, doubled or not.
  have some_ : ∀ byte, 1 ≤ (Telnet.stuff byte).length := fun byte => by
    unfold Telnet.stuff
    split
    · exact Nat.le_succ 1
    · exact Nat.le_refl 1
  have word : 1 ≤ ((r.padded [parm]).flatMap Telnet.stuff).length := by
    change 1 ≤ ((pad r.sendsBinary r.escWriteLast parm ++ []).flatMap Telnet.stuff).length
    rw [List.append_nil, pad]
    split
    · rw [List.flatMap_cons, List.length_append]
      exact Nat.le_add_right_of_le (some_ _)
    · rw [List.flatMap_singleton]
      exact some_ _
  have single : Telnet.stuff tnascNotifyModemstate = [tnascNotifyModemstate] := rfl
  have option : Telnet.stuff tncomPortOption = [tncomPortOption] := rfl
  simp only [Redirector.cpcToken, Token.bytes, List.flatMap_cons, single, option,
    List.length_append, List.length_cons, List.length_nil]
  omega

/-- A device that fills the buffer takes the room from the notification as well. -/
theorem serve_overrun (open_ : s.deviceFd = true) (deviceIn : events.deviceIn = true)
    (deviceOut : events.deviceOut = false) (socketOut : events.socketOut = false)
    (socketIn : events.socketIn = false) (socketConnect : events.socketConnect = false)
    (modemstate : events.modemstate = true) (readDev : round.readDev = .gives (escapes 512))
    (small : 2 ≤ s.redirector.toNetBuf.bufferRoomLeft)
    (full : s.redirector.toNetBuf.bufferRoomLeft < escWriteCharBytes * readbufSize + 7)
    (changed : s.redirector.port.modemLines &&& s.redirector.modemStateMask ≠
      s.modemState &&& s.redirector.modemStateMask &&& tncomModmaskNodelta) :
    s.serve platform events round = .error (.abort .assertion) := by
  obtain ⟨mid, read, filled⟩ :=
    serialInput_escapes platform open_ deviceIn readDev small
  have less : mid.redirector.toNetBuf.bufferRoomLeft < 7 := by
    have room := filled.room
    simp only [readbufSize, escWriteCharBytes] at full room
    omega
  have open' : mid.deviceFd = true := filled.deviceFd.trans open_
  rw [serve_transferred read (serialOutput_skip deviceOut) (networkOutput_skip socketOut)
    (networkInput_skip socketIn) socketConnect open']
  unfold notifyModemState
  rw [modemstate, if_pos rfl, pointer, if_pos open']
  change (if _ then _ else _) = _
  generalize parm_ : mid.redirector.port.getModemState mid.modemState &&&
    mid.redirector.modemStateMask = parm
  -- The lines have not changed since the turn began, so there is something to notify of.
  have differs : parm &&& tncomModmaskNodelta ≠
      mid.modemState &&& mid.redirector.modemStateMask &&& tncomModmaskNodelta := by
    rw [← parm_, UInt8.and_assoc, UInt8.and_comm mid.redirector.modemStateMask,
      ← UInt8.and_assoc, getModemState_line, filled.port, filled.modemState, filled.modemStateMask]
    exact changed
  have whole : mid.redirector.sendCPCByteCommand tnascNotifyModemstate parm =
      (mid.redirector.afterCPC [parm]).emit
        (mid.redirector.cpcToken tnascNotifyModemstate [parm]).bytes :=
    mid.redirector.sendCPC_eq _ _ (by decide)
  have long := notification_length_ge mid.redirector parm
  have sent := whole.trans
    (Redirector.emit_full (mid.redirector.afterCPC [parm]) (Nat.lt_of_lt_of_le less long))
  rw [if_pos differs, sent]
  rfl

end Server

/-- The lines that differ most from a modem state, as far as the client is told of them. -/
def linesAgainst (modemState mask : UInt8) : BitVec 32 :=
  if modemState &&& mask &&& tncomModmaskNodelta = 0 then
    tiocmCar ||| tiocmRng ||| tiocmDsr ||| tiocmCts
  else 0

/-- Against such lines the client is told of a change. -/
theorem linesAgainst_changed {port : Port} {modemState mask : UInt8}
    (lines : port.lines = linesAgainst modemState mask)
    (told : mask &&& tncomModmaskNodelta ≠ 0) :
    port.modemLines &&& mask ≠ modemState &&& mask &&& tncomModmaskNodelta := by
  unfold Port.modemLines
  rw [lines, linesAgainst]
  split
  -- Nothing was set before, and now all lines are; or something was, and now no line is.
  · next same =>
    rw [same]
    have all : modemBits true true true true false false false false = tncomModmaskNodelta := rfl
    intro none_
    refine told ?_
    rw [UInt8.and_comm, ← all]
    exact none_
  · next differs =>
    intro same
    exact differs (same.symm.trans (UInt8.zero_and ..))

/-- Whether a turn reports that the device has sent something, and that the lines have changed. -/
structure Round.ReadPolled (round : Round) (s : Server) (data : Bytes) (lines : BitVec 32) :
    Prop where
  ready : round.ready = some { deviceIn := true }
  readDev : round.readDev = .gives data
  lines : round.lines = some lines
  due : (pollModemState s.lastPoll round.newpoll round.later).1 = true

/-- In every run there may come a turn that ends the program by an assertion: if the buffer to the
client is half full, and the client is to be told of a line, the device can fill the buffer when
that line changes. -/
theorem Reached.overrun (reached : Reached platform allowed s) (running : s.status = .running)
    (open_ : s.deviceFd = true) (flows : s.redirector.inputFlow = true)
    (told : s.redirector.modemStateMask &&& tncomModmaskNodelta ≠ 0)
    (net : sendCPCByteCommandBytes ≤ s.redirector.toNetBuf.bufferRoomLeft)
    (full : s.redirector.toNetBuf.bufferRoomLeft < escWriteCharBytes * readbufSize + 7) :
    ∃ data lines, ∀ round : Round, round.ReadPolled s data lines →
      ∃ next, s.step platform round = some next ∧ next.status = .aborted .assertion := by
  refine ⟨escapes 512, linesAgainst s.modemState s.redirector.modemStateMask,
    fun round polled => ?_⟩
  have small : 2 ≤ s.redirector.toNetBuf.bufferRoomLeft := Nat.le_trans (by decide) net
  have enabled := reached.well.enabled
  have asked : sercdSelect (s.requests platform) s.lSocketFd { deviceIn := true } =
      { deviceIn := true } := by
    simp [sercdSelect, Server.requests, open_, flows, small]
  obtain ⟨events, looked, looks, stepped⟩ := Server.step_serves platform reached.well running open_
    polled.ready
  have found := looks.reported
  rw [asked] at found
  have due : events.modemstate = true := by
    rw [looks.modemstate, polled.due]
    simp [Server.requests, open_, enabled, flows, net]
  have deviceIn : events.deviceIn = true := congrArg Events.deviceIn found
  have deviceOut : events.deviceOut = false := congrArg Events.deviceOut found
  have socketOut : events.socketOut = false := congrArg Events.socketOut found
  have socketIn : events.socketIn = false := congrArg Events.socketIn found
  have socketConnect : events.socketConnect = false := congrArg Events.socketConnect found
  have buffer := looks.buffers.1
  -- The room is taken by the data first, and then by the notification.
  have changed := linesAgainst_changed (looks.lines _ polled.lines open_) told
  rw [Server.serve_overrun (looks.deviceFd.trans open_) deviceIn deviceOut socketOut socketIn
    socketConnect due polled.readDev (by rwa [buffer]) (by rwa [buffer])
    (by rwa [looks.modemState, looks.modemStateMask])] at stepped
  exact ⟨_, stepped, rfl⟩

/-- A device that has filled half of the buffer can end the program. -/
theorem filled_overrun : ∃ s : Server, s.redirector.toNetBuf.bufferRoomLeft = 1005 ∧
    ∃ data lines, ∀ round : Round, round.ReadPolled s data lines →
      ∃ next, s.step Sample.board round = some next ∧ next.status = .aborted .assertion := by
  -- As before with a mask that lets every change of the lines through.
  obtain ⟨s, reached, test⟩ := Reached.of_test
    (fun s => s.status == .running && s.deviceFd && s.redirector.inputFlow &&
      s.redirector.modemStateMask == 255 && s.redirector.toNetBuf.bufferRoomLeft == 1005)
    (show (Transition.execute (Server.step Sample.board) (fun _ _ => True) startServer
      [Sample.connecting, Sample.reading (escapes 512)]).any _ = true by decide +kernel)
  simp only [Bool.and_eq_true, beq_iff_eq] at test
  obtain ⟨⟨⟨⟨running, open_⟩, flows⟩, mask⟩, net⟩ := test
  refine ⟨s, net, reached.overrun running open_ flows (by rw [mask]; decide) ?_ ?_⟩
  · rw [net]
    decide
  · rw [net]
    decide

end SerialPort.Sercd
