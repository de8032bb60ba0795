import SerialPort.Sercd.Runs

/-! What a write to the client that would block does to the stream. -/

namespace SerialPort.Sercd

variable {platform : Platform} {round : Round} {s next : Server}

/-- While a client is connected, the last byte that it was sent is still in the buffer. -/
def Server.Remembers (s : Server) : Prop :=
  s.inSocketFd = true → s.toNet ≠ [] → s.toNet.getLast? = some s.redirector.toNetBuf.previous

namespace Server.Remembers

variable {flow : Bool}

/-- What leaves the cell alone is remembered. -/
theorem same (remembers : s.Remembers) (inSocketFd : next.inSocketFd = s.inSocketFd)
    (toNet : next.toNet = s.toNet)
    (previous : next.redirector.toNetBuf.previous = s.redirector.toNetBuf.previous) :
    next.Remembers := by
  unfold Server.Remembers
  rw [inSocketFd, toNet, previous]
  exact remembers

/-- Every move remembers it, as long as no write to the client would block. -/
theorem move (well : Well s) (remembers : s.Remembers) (drained : round.writeNet ≠ .wouldBlock)
    (moved : Move platform round flow s next) : next.Remembers := by
  cases moved with
  | polled | stored | lines | toDevice | toDeviceBlocked | opened =>
    exact remembers.same rfl rfl rfl
  | deviceByte c open_ flows written =>
    obtain ⟨room, rfl⟩ := Redirector.escWriteChar_eq_ok written
    exact remembers.same rfl rfl (BufferType.append_previous room)
  -- What the write took starts the buffer; its last byte is the one before the read position.
  | @toNetwork data open_ some_ first =>
    intro _ _
    have short := first.length_le
    rw [BufferType.contents_length] at short
    have below := s.redirector.toNetBuf.bufferLength_lt
    have count : (UInt32.ofInt data.length).toNat = data.length :=
      ofInt_natCast (Nat.lt_of_le_of_lt short (Nat.lt_trans below (by decide)))
    have last := BufferType.popBytes_previous s.redirector.toNetBuf
      (by rw [count]; exact List.length_pos_iff.mpr some_) (by rwa [count])
    rw [count, List.prefix_iff_eq_take.mp first |>.symm] at last
    change (s.toNet ++ data).getLast? = _
    rw [List.getLast?_append, last]
    rfl
  -- The one move that loses the byte before the read position; this round excludes it.
  | toNetworkBlocked open_ blocked => exact absurd blocked drained
  | networkByte c open_ passed =>
    obtain ⟨receiver, received, -, -, redirected⟩ :=
      Redirector.escRedirectChar_cases well.sound passed
    cases redirected with
    | nothing | data => exact remembers.same rfl rfl rfl
    | command complete handled room =>
      exact remembers.same rfl rfl (BufferType.append_previous room)
  -- A new client has received nothing yet.
  | accepted free written => exact fun _ some_ => absurd rfl some_
  | notified newstate open_ flows looked changed written =>
    obtain ⟨room, rfl⟩ := Redirector.sendCPCByteCommand_eq_ok (by decide) written
    exact remembers.same rfl rfl (BufferType.append_previous room)
  | dropped =>
    obtain ⟨port, dropped⟩ := Well.dropConnection_eq platform s
    rw [dropped]
    intro connected
    cases connected

end Server.Remembers

/-- What a part of a turn adds behind what waits for the client. -/
structure Server.Adds (s next : Server) (added : Bytes) : Prop where
  contents : next.redirector.toNetBuf.contents = s.redirector.toNetBuf.contents ++ added
  previous : next.redirector.toNetBuf.previous = s.redirector.toNetBuf.previous
  sound : s.redirector.receiver.Sound → next.redirector.receiver.Sound
  toNet : next.toNet = s.toNet
  deviceFd : next.deviceFd = s.deviceFd
  sockets : next.inSocketFd = s.inSocketFd ∧ next.outSocketFd = s.outSocketFd

/-- Doing nothing adds nothing. -/
theorem Server.Adds.refl (s : Server) : s.Adds s [] :=
  ⟨(List.append_nil _).symm, rfl, id, rfl, rfl, rfl, rfl⟩

namespace Server

variable {events : Events}

end Server

end SerialPort.Sercd
