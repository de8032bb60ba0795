import SerialPort.Sercd.Notices
import SerialPort.Sercd.Outgoing

/-! What waits in the buffers is delivered, as soon as it is taken. -/

namespace SerialPort.Sercd

namespace BufferType

variable (b : BufferType)

/-- The buffer behind a write that takes all it is given. -/
def drain : BufferType :=
  b.bufferPopBytes (UInt32.ofInt b.getBufferString.length)

/-- A write is given as many bytes as follow in a row. -/
theorem getBufferString_length : b.getBufferString.length = b.stringLength := by
  rw [getBufferString_eq, List.length_take, contents_length, stringLength_eq]
  omega

/-- What is written and what is left is what waited. -/
theorem drain_taken : b.getBufferString ++ b.drain.contents = b.contents := by
  refine popBytes_taken ?_
  rw [getBufferString_eq]
  exact List.take_prefix _ _

/-- One write takes everything that does not run past the end of the memory. -/
theorem drain_inside (inside : b.bufferLength ≤ bufferSize - b.rdPos) : b.drain.contents = [] := by
  -- The string is as long as what waits.
  have whole := congrArg List.length b.drain_taken
  simp only [List.length_append, getBufferString_length, stringLength_eq, contents_length] at whole
  rw [← List.length_eq_zero_iff, contents_length]
  omega

/-- Two writes take everything. -/
theorem drain_drain : b.drain.drain.contents = [] := by
  by_cases inside : b.bufferLength ≤ bufferSize - b.rdPos
  · have empty := b.drain_inside inside
    -- Nothing is left for the second write.
    have nothing := congrArg List.length b.drain.drain_taken
    rw [empty, List.length_append, List.length_nil] at nothing
    rw [← List.length_eq_zero_iff]
    omega
  · -- The second write begins with the first cell.
    have below := b.bufferLength_lt
    have rdInside := b.rdInside
    have count : (UInt32.ofInt b.getBufferString.length).toNat = bufferSize - b.rdPos := by
      rw [getBufferString_length, stringLength_eq, Nat.min_eq_right (by omega)]
      exact ofInt_natCast (by simp only [bufferSize] at rdInside ⊢; omega)
    have first : b.drain.rdPos = 0 := by
      rw [drain, popBytes_rdPos, count, Nat.add_sub_cancel' (Nat.le_of_lt rdInside), Nat.mod_self]
    refine b.drain.drain_inside ?_
    rw [first]
    exact Nat.le_of_lt b.drain.bufferLength_lt

/-- A write leaves no less room than there was. -/
theorem drain_room : b.bufferRoomLeft ≤ b.drain.bufferRoomLeft := by
  have whole := congrArg List.length b.drain_taken
  rw [List.length_append, contents_length, contents_length] at whole
  have before := b.room_add_length
  have after := b.drain.room_add_length
  omega

/-- What two writes take is what waited. -/
theorem drain_whole : b.getBufferString ++ b.drain.getBufferString = b.contents := by
  -- The second write takes all that the first has left.
  have first := b.drain_taken
  have second := b.drain.drain_taken
  rw [drain_drain, List.append_nil] at second
  rw [second, first]

/-- An empty buffer has room for all but one of its bytes. -/
theorem room_of_empty (empty : b.contents = []) : b.bufferRoomLeft = bufferSize - 1 := by
  have whole := b.room_add_length
  rwa [← contents_length, empty] at whole

/-- Nothing is removed from an empty buffer. -/
theorem drain_empty (none_ : b.getBufferString = []) : b.drain = b := by
  -- The position stays where it is, already reduced.
  have small : (0 + b.rdPos) % 2 ^ 32 % bufferSize = b.rdPos := by
    have inside := b.rdInside
    simp only [bufferSize] at inside ⊢
    omega
  obtain ⟨buffer, rdPos, wrPos, rdInside, wrInside⟩ := b
  unfold drain
  rw [none_]
  simp only [bufferPopBytes, BufferType.mk.injEq, true_and, and_true]
  exact small

end BufferType

variable {platform : Platform} {allowed : Round → Prop} {round first second : Round}
  {s next last : Server}

/-- Whether client and device take in a turn what there is for them, and send nothing. -/
structure Round.Drains (round : Round) : Prop where
  ready : round.ready = some { deviceOut := true, socketOut := true }
  writeDev : round.writeDev = .gives bufferSize
  writeNet : round.writeNet = .gives bufferSize

/-- What is left behind such a turn. -/
structure Drained (s next : Server) : Prop where
  deviceFd : next.deviceFd = s.deviceFd
  sockets : next.inSocketFd = s.inSocketFd ∧ next.outSocketFd = s.outSocketFd
  toDevBuf : next.redirector.toDevBuf = s.redirector.toDevBuf.drain
  toNetBuf : next.redirector.toNetBuf = s.redirector.toNetBuf.drain
  toDev : next.toDev = s.toDev ++ s.redirector.toDevBuf.getBufferString
  toNet : next.toNet = s.toNet ++ s.redirector.toNetBuf.getBufferString
  status : next.status = s.status

namespace Server

variable {events : Events}

/-- A string that is taken as a whole. -/
theorem getBufferString_take (b : BufferType) :
    b.getBufferString.take bufferSize = b.getBufferString := by
  refine List.take_of_length_le ?_
  have short := b.getBufferString_length_le
  have below := b.bufferLength_lt
  omega

/-- A write of all that waits for the device, if anything does. -/
theorem serialOutput_drains (platform : Platform) (open_ : s.deviceFd = true)
    (called : events.deviceOut = !s.redirector.toDevBuf.isBufferEmpty)
    (writes : round.writeDev = .gives bufferSize) :
    s.serialOutput platform events round = .ok { s with
      redirector.toDevBuf := s.redirector.toDevBuf.drain
      toDev := s.toDev ++ s.redirector.toDevBuf.getBufferString } := by
  cases empty : s.redirector.toDevBuf.isBufferEmpty with
  | true =>
    rw [empty] at called
    have none_ : s.redirector.toDevBuf.getBufferString = [] :=
      (BufferType.getBufferString_eq_nil _).mpr ((BufferType.isEmpty_iff _).mp empty)
    rw [serialOutput_skip called, BufferType.drain_empty _ none_, none_, List.append_nil]
  | false =>
    rw [empty] at called
    -- A write of something is not the end of the stream.
    have some_ : s.redirector.toDevBuf.getBufferString ≠ [] := fun none_ => by
      rw [(BufferType.isEmpty_iff _).mpr ((BufferType.getBufferString_eq_nil _).mp none_)] at empty
      cases empty
    unfold serialOutput
    rw [called, Bool.not_false, if_pos rfl, pointer, if_pos open_, writes]
    change (if _ then _ else _) = _
    rw [error_write_gives, getBufferString_take, List.isEmpty_eq_false_iff.mpr some_,
      if_neg Bool.false_ne_true]
    simp only [Answer.write, getBufferString_take]
    rfl

/-- A write of all that waits for the client, if anything does. -/
theorem networkOutput_drains (platform : Platform) (open_ : s.outSocketFd = true)
    (called : events.socketOut = !s.redirector.toNetBuf.isBufferEmpty)
    (writes : round.writeNet = .gives bufferSize) :
    s.networkOutput platform events round = .ok { s with
      redirector.toNetBuf := s.redirector.toNetBuf.drain
      toNet := s.toNet ++ s.redirector.toNetBuf.getBufferString } := by
  cases empty : s.redirector.toNetBuf.isBufferEmpty with
  -- Nothing waits, `select` is not asked and the turn leaves the buffer alone.
  | true =>
    rw [empty] at called
    have none_ : s.redirector.toNetBuf.getBufferString = [] :=
      (BufferType.getBufferString_eq_nil _).mpr ((BufferType.isEmpty_iff _).mp empty)
    rw [networkOutput_skip called, BufferType.drain_empty _ none_, none_, List.append_nil]
  -- Something waits: one write takes all of the buffer up to its end.
  | false =>
    rw [empty] at called
    have some_ : s.redirector.toNetBuf.getBufferString ≠ [] := fun none_ => by
      rw [(BufferType.isEmpty_iff _).mpr ((BufferType.getBufferString_eq_nil _).mp none_)] at empty
      cases empty
    unfold networkOutput
    rw [called, Bool.not_false, if_pos rfl, pointer, if_pos open_, writes]
    change (if _ then _ else _) = _
    rw [error_write_gives, getBufferString_take, List.isEmpty_eq_false_iff.mpr some_,
      if_neg Bool.false_ne_true]
    simp only [Answer.write, getBufferString_take]
    rfl

/-- With room for it a notice is sent whenever a line has changed. -/
theorem notifyModemState_changed (open_ : s.deviceFd = true) (called : events.modemstate = true)
    (room : sendCPCByteCommandBytes ≤ s.redirector.toNetBuf.bufferRoomLeft)
    (changed : s.redirector.port.getModemState s.modemState &&& s.redirector.modemStateMask &&&
      tncomModmaskNodelta ≠ s.modemState &&& s.redirector.modemStateMask &&& tncomModmaskNodelta) :
    ∃ next notice, s.notifyModemState events = .ok next ∧ next.notices = s.notices ++ [notice] := by
  generalize parm_ : s.redirector.port.getModemState s.modemState &&& s.redirector.modemStateMask =
    parm at changed
  have short := notification_length_le s.redirector parm
  -- The command fits, because there is room for the longest one.
  have sent : s.redirector.sendCPCByteCommand tnascNotifyModemstate parm = .ok _ :=
    (s.redirector.sendCPC_eq _ [parm] (by decide)).trans
      (Redirector.emit_ok (s.redirector.afterCPC [parm]) (Nat.le_trans short room))
  unfold notifyModemState
  rw [called, if_pos rfl, pointer, if_pos open_]
  dsimp only [bind, Except.bind]
  rw [parm_, if_pos changed, sent]
  exact ⟨_, _, rfl, rfl⟩

/-- With room for a notice, a turn that sends none leaves everything as it is. -/
theorem notifyModemState_quiet (open_ : s.deviceFd = true)
    (room : events.modemstate = true →
      sendCPCByteCommandBytes ≤ s.redirector.toNetBuf.bufferRoomLeft)
    (quiet : ∀ next, s.notifyModemState events = .ok next → next.notices = s.notices) :
    s.notifyModemState events = .ok s := by
  cases called : events.modemstate with
  | false => exact notifyModemState_skip called
  | true =>
    by_cases same : s.redirector.port.getModemState s.modemState &&&
        s.redirector.modemStateMask &&& tncomModmaskNodelta =
        s.modemState &&& s.redirector.modemStateMask &&& tncomModmaskNodelta
    · unfold notifyModemState
      rw [called, if_pos rfl, pointer, if_pos open_]
      exact if_neg (Decidable.not_not.mpr same)
    · -- A line that has changed would be noticed, and no notice is sent.
      obtain ⟨next, notice, result, more⟩ :=
        notifyModemState_changed open_ called (room called) same
      rw [quiet next result] at more
      exact absurd (congrArg List.length more) (by simp)

end Server

/-- Such a turn takes from both buffers what it is given, if no notice comes in between. -/
theorem Reached.drains (reached : Reached platform allowed s) (open_ : s.deviceFd = true)
    (drains : round.Drains) (stepped : s.step platform round = some next)
    (quiet : next.notices = s.notices) : Drained s next := by
  -- Between two turns the sockets are open together with the device.
  obtain ⟨-, outSocket⟩ := reached.settled
  rw [open_] at outSocket
  obtain ⟨events, looked, looks, served⟩ :=
    Server.step_serves platform reached.well (Server.running_of_step stepped) open_ drains.ready
  have found := looks.reported
  -- Only the two writes are reported.
  have deviceIn : events.deviceIn = false :=
    (congrArg Events.deviceIn found).trans (Bool.and_false _)
  have deviceOut : events.deviceOut = !looked.redirector.toDevBuf.isBufferEmpty := by
    have asked : events.deviceOut = ((s.requests platform).deviceOut && true) :=
      congrArg Events.deviceOut found
    rw [asked, looks.buffers.2, Bool.and_true]
    simp only [Server.requests, open_, Bool.true_and]
  have socketOut : events.socketOut = !looked.redirector.toNetBuf.isBufferEmpty := by
    have asked : events.socketOut = ((s.requests platform).socketOut && true) :=
      congrArg Events.socketOut found
    rw [asked, looks.buffers.1, Bool.and_true]
    simp only [Server.requests, outSocket, Bool.true_and]
  have socketIn : events.socketIn = false :=
    (congrArg Events.socketIn found).trans (Bool.and_false _)
  have socketConnect : events.socketConnect = false :=
    (congrArg Events.socketConnect found).trans (Bool.and_false _)
  obtain ⟨mid, mid_, toDevice⟩ : ∃ mid, mid = { looked with
        redirector.toDevBuf := looked.redirector.toDevBuf.drain
        toDev := looked.toDev ++ looked.redirector.toDevBuf.getBufferString } ∧
      looked.serialOutput platform events round = .ok mid :=
    ⟨_, rfl, Server.serialOutput_drains platform (looks.deviceFd.trans open_) deviceOut
      drains.writeDev⟩
  obtain ⟨last, last_, toNetwork⟩ : ∃ last, last = { mid with
        redirector.toNetBuf := mid.redirector.toNetBuf.drain
        toNet := mid.toNet ++ mid.redirector.toNetBuf.getBufferString } ∧
      mid.networkOutput platform events round = .ok last := by
    refine ⟨_, rfl, Server.networkOutput_drains platform ?_ ?_ drains.writeNet⟩
    · rw [mid_]
      exact looks.sockets.2.trans outSocket
    · rw [mid_]
      exact socketOut
  have open' : last.deviceFd = true := by
    rw [last_, mid_]
    exact looks.deviceFd.trans open_
  have ended := Server.serve_transferred (Server.serialInput_skip deviceIn) toDevice toNetwork
    (Server.networkInput_skip socketIn) socketConnect open'
  rw [served, ended] at stepped
  -- Without a notice that is all.
  have unnoticed : last.notifyModemState events = .ok last := by
    refine Server.notifyModemState_quiet open' (fun called => ?_) fun other result => ?_
    · have asked := looks.modemstate.symm.trans called
      simp only [Bool.and_eq_true, Server.requests, BufferType.hasRoomFor_iff] at asked
      refine Nat.le_trans asked.1.2 ?_
      rw [last_, mid_]
      change _ ≤ looked.redirector.toNetBuf.drain.bufferRoomLeft
      rw [looks.buffers.1]
      exact BufferType.drain_room _
    · rw [result] at stepped
      cases stepped
      change other.notices = s.notices at quiet
      rw [quiet, last_, mid_]
      exact looks.notices.symm
  rw [unnoticed] at stepped
  cases stepped
  change Drained s last
  subst last mid
  obtain ⟨toNetBuf, toDevBuf⟩ := looks.buffers
  obtain ⟨-, toDev, toNet⟩ := looks.streams
  refine ⟨looks.deviceFd, looks.sockets, ?_, ?_, ?_, ?_, looks.status⟩
  · exact congrArg BufferType.drain toDevBuf
  · exact congrArg BufferType.drain toNetBuf
  · change looked.toDev ++ _ = _
    rw [toDev, toDevBuf]
  · change looked.toNet ++ _ = _
    rw [toNet, toNetBuf]

/-- In every run, from every state in which a client is served: what waits in both buffers is
delivered within two turns in which it is taken, and then the client is read from again. -/
theorem Reached.waiting_delivered (reached : Reached platform allowed s) (open_ : s.deviceFd = true)
    (drains : first.Drains) (stepped : s.step platform first = some next)
    (quiet : next.notices = s.notices) (drains' : second.Drains)
    (stepped' : next.step platform second = some last) (quiet' : last.notices = next.notices) :
    last.toNet = s.toNet ++ s.redirector.toNetBuf.contents ∧
      last.toDev = s.toDev ++ s.redirector.toDevBuf.contents ∧
      last.redirector.toNetBuf.contents = [] ∧ last.redirector.toDevBuf.contents = [] ∧
      last.status = .running ∧ (last.requests platform).socketIn = true := by
  -- What the first turn leaves lies at the beginning of the memory, and goes with the second.
  have once := reached.drains open_ drains stepped quiet
  have reached' : Reached platform (fun _ => True) next :=
    (reached.weaken fun _ => trivial).snoc trivial stepped
  have twice := reached'.drains (once.deviceFd.trans open_) drains' stepped' quiet'
  have emptyNet : last.redirector.toNetBuf.contents = [] := by
    rw [twice.toNetBuf, once.toNetBuf, BufferType.drain_drain]
  have emptyDev : last.redirector.toDevBuf.contents = [] := by
    rw [twice.toDevBuf, once.toDevBuf, BufferType.drain_drain]
  refine ⟨?_, ?_, emptyNet, emptyDev, ?_, ?_⟩
  · rw [twice.toNet, once.toNet, once.toNetBuf, List.append_assoc, BufferType.drain_whole]
  · rw [twice.toDev, once.toDev, once.toDevBuf, List.append_assoc, BufferType.drain_whole]
  · rw [twice.status, once.status, Server.running_of_step stepped]
  -- Empty buffers have all the room that the loop asks for.
  · have roomNet := last.redirector.toNetBuf.room_of_empty emptyNet
    have roomDev := last.redirector.toDevBuf.room_of_empty emptyDev
    have device : last.deviceFd = true := twice.deviceFd.trans (once.deviceFd.trans open_)
    have inSocket : last.inSocketFd = true := by
      rw [twice.sockets.1, once.sockets.1, reached.settled.1, open_]
    simp only [Server.requests, device, inSocket, Bool.true_and, Bool.and_true, Bool.and_eq_true,
      BufferType.hasRoomFor_iff, escRedirectCharBytesSockB_eq, roomNet, roomDev]
    decide

/-- What a device has sent and what a client has sent is delivered. -/
theorem read_waiting_delivered : ∃ s last : Server, s.redirector.toDevBuf.contents = [7, 8] ∧
    last.toDev = s.toDev ++ s.redirector.toDevBuf.contents ∧ last.status = .running := by
  -- Both turns take all that is ready; the second is for what would wrap around.
  let round : Round := {
    ready := some { deviceOut := true, socketOut := true }
    writeDev := .gives 2048
    writeNet := .gives 2048 }
  obtain ⟨s, reached, test⟩ := Reached.of_test
    (fun s => s.deviceFd && s.redirector.toDevBuf.contents == [7, 8] && s.notices == [] &&
      (s.step Sample.board round).any fun next => next.notices == [] &&
        (next.step Sample.board round).any fun last => last.notices == [])
    (show (Transition.execute (Server.step Sample.board) (fun _ _ => True) startServer
      [Sample.connecting, Sample.reading [1, 255], Sample.hearing [7, 8]]).any _ = true by
        decide +kernel)
  rw [Bool.and_eq_true, Option.any_eq_true] at test
  obtain ⟨before, next, stepped, after⟩ := test
  simp only [Bool.and_eq_true, beq_iff_eq, Option.any_eq_true] at before after
  obtain ⟨⟨open_, waiting⟩, none_⟩ := before
  obtain ⟨none_', last, stepped', none_''⟩ := after
  obtain ⟨-, toDev, -, -, running, -⟩ := reached.waiting_delivered open_ ⟨rfl, rfl, rfl⟩ stepped
    (none_'.trans none_.symm) ⟨rfl, rfl, rfl⟩ stepped' (none_''.trans none_'.symm)
  exact ⟨s, last, waiting, toDev, running⟩

end SerialPort.Sercd
