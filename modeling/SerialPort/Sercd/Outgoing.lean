import SerialPort.Sercd.Runs

/-! What the client is sent over a connection, and what it may conclude from that. -/

namespace SerialPort.Sercd

open Telnet (Token encode decode dataBytes)
open Negotiation (Agrees)

/-- What was written to a buffer and taken from it is what waited in it. -/
theorem BufferType.popBytes_taken {b : BufferType} {data : Bytes} (first : data <+: b.contents) :
    data ++ (b.bufferPopBytes (UInt32.ofInt data.length)).contents = b.contents := by
  have short := first.length_le
  rw [b.contents_length] at short
  -- What waits is short enough to be counted.
  have below := b.bufferLength_lt
  have count : (UInt32.ofInt data.length).toNat = data.length :=
    ofInt_natCast (Nat.lt_of_le_of_lt short (Nat.lt_trans below (by decide)))
  rw [popBytes_contents b (by rwa [count]), count]
  exact List.prefix_iff_eq_append.mp first

namespace Redirector

/-- The offers are valid tokens. -/
theorem initialTokens_valid : ∀ token ∈ initialTokens, token.Valid := by
  simp [initialTokens, Token.Valid, Telnet.isVerb]

variable (r : Redirector) (side : Side) (option : UInt8)

/-- Whether an option is offered on a side when a connection begins. -/
def offers : Bool :=
  side.announcements option initialTokens = [true]

/-- The offers are those that are announced, and nothing is done yet. -/
theorem offering_starts (fresh : r.tnstate = fun _ => {}) :
    side.party (r.offering.tnstate option) = { offered := offers side option, active := false } ∧
      side.announcements option initialTokens = if offers side option then [true] else [] := by
  have known : option = tnTransmitBinary ∨ option = tnEcho ∨ option = tnSuppressGoAhead ∨
      option = tncomPortOption ∨ (option ≠ tnTransmitBinary ∧ option ≠ tnEcho ∧
        option ≠ tnSuppressGoAhead ∧ option ≠ tncomPortOption) := by
    tauto
  rcases known with rfl | rfl | rfl | rfl | ⟨binary, echo, goAhead, port⟩
  case inr.inr.inr.inr =>
    -- Nothing is said about any other option.
    have silent : side.announcements option initialTokens = [] := by
      simp [Side.announcements, initialTokens, Side.announcement, Ne.symm binary, Ne.symm echo,
        Ne.symm goAhead, Ne.symm port]
    have unknown : r.offering.tnstate option = {} := by
      simp [offering, setOption, fresh, binary, echo, goAhead, port]
    rw [silent, unknown, offers, silent]
    cases side <;> exact ⟨rfl, rfl⟩
  all_goals
    -- For an option that is named the state is looked up.
    simp only [offering, setOption, fresh]
    cases side <;> exact ⟨rfl, rfl⟩

end Redirector

/-- What the client has been sent and will be sent from the buffer, as tokens. -/
structure Sent (s : Server) (tokens : List Token) : Prop where
  stream : s.toNet ++ s.redirector.toNetBuf.contents = encode tokens
  valid : ∀ token ∈ tokens, token.Valid
  begins : Redirector.initialTokens <+: tokens
  inOrder : s.fromDev.Sublist (dataBytes tokens)
  padding : (dataBytes tokens).filter (· ≠ 0) = s.fromDev.filter (· ≠ 0)
  noticed : tokens.filterMap notification <:+ s.notices.map Notice.payload
  agrees : ∀ side option, Agrees (Side.party side (s.redirector.tnstate option))
    (Side.announcements side option tokens) (Side.demands side option s.redirector.handled)

/-- Padding is only ever a NUL. -/
theorem pad_filter (binary : Bool) (last c : UInt8) :
    [c].Sublist (pad binary last c) ∧ (pad binary last c).filter (· ≠ 0) = [c].filter (· ≠ 0) := by
  unfold pad
  split
  · exact ⟨List.sublist_cons_self _ _, rfl⟩
  · exact ⟨List.Sublist.refl _, rfl⟩

namespace Sent

variable {platform : Platform} {round : Round} {flow : Bool} {s next : Server}
  {tokens : List Token}

/-- When a client is accepted it is made the offers. -/
theorem start {r r' : Redirector} (fresh : r.tnstate = fun _ => {})
    (empty : r.toNetBuf.contents = [])
    (none_ : r.handled = []) (sent : r.sendTelnetInitialOptions = .ok r') (silent : s.toNet = [])
    (unread : s.fromDev = []) (redirector : s.redirector = r') :
    Sent s Redirector.initialTokens := by
  obtain ⟨room, rfl⟩ := Redirector.sendTelnetInitialOptions_eq_ok sent
  refine ⟨?_, Redirector.initialTokens_valid, List.prefix_refl _, ?_, ?_, List.nil_suffix,
    fun side option => ?_⟩
  -- The buffer was emptied before the offers.
  · rw [redirector, silent]
    change [] ++ (r.toNetBuf.append _).contents = _
    rw [BufferType.append_contents room, empty, List.nil_append, List.nil_append]
  · rw [unread]
    exact List.nil_sublist _
  · rw [unread]
    rfl
  · obtain ⟨party, announcements⟩ := Redirector.offering_starts r side option fresh
    rw [redirector]
    change Agrees (side.party (r.offering.tnstate option)) _ (side.demands option r.handled)
    rw [party, announcements, none_]
    exact .start _

/-- What is added to the buffer is sent behind what was sent. -/
theorem append (sent : Sent s tokens) (more : List Token) (toNet : next.toNet = s.toNet)
    (contents : next.redirector.toNetBuf.contents =
      s.redirector.toNetBuf.contents ++ encode more)
    (valid : ∀ token ∈ more, token.Valid) {data : Bytes}
    (fromDev : next.fromDev = s.fromDev ++ data)
    (inOrder : data.Sublist (dataBytes more))
    (padding : (dataBytes more).filter (· ≠ 0) = data.filter (· ≠ 0))
    (noticed : next.notices.map Notice.payload =
      s.notices.map Notice.payload ++ more.filterMap notification)
    (agrees : ∀ side option, Agrees (Side.party side (next.redirector.tnstate option))
      (Side.announcements side option tokens ++ Side.announcements side option more)
      (Side.demands side option next.redirector.handled)) : Sent next (tokens ++ more) where
  -- The stream grows by the new tokens' bytes, in the buffer or past it.
  stream := by
    rw [toNet, contents, Telnet.encode_append, ← sent.stream, List.append_assoc]
  valid := by
    intro token listed
    rcases List.mem_append.mp listed with before | new
    · exact sent.valid token before
    · exact valid token new
  begins := sent.begins.trans (List.prefix_append _ _)
  inOrder := by
    rw [fromDev, Telnet.dataBytes_append]
    exact sent.inOrder.append inOrder
  padding := by
    rw [fromDev, Telnet.dataBytes_append, List.filter_append, List.filter_append, sent.padding,
      padding]
  -- Notices from before the connection stay in front of the ones told.
  noticed := by
    obtain ⟨earlier, whole⟩ := sent.noticed
    exact ⟨earlier, by rw [noticed, ← whole, List.filterMap_append, List.append_assoc]⟩
  agrees := by
    intro side option
    rw [Side.announcements, List.filterMap_append]
    exact agrees side option

/-- What is written to the network has been sent, whether it waits or not. -/
theorem same (sent : Sent s tokens) (stream : next.toNet ++ next.redirector.toNetBuf.contents =
      s.toNet ++ s.redirector.toNetBuf.contents)
    (fromDev : next.fromDev = s.fromDev) (notices : next.notices = s.notices)
    (tnstate : next.redirector.tnstate = s.redirector.tnstate)
    (handled : next.redirector.handled = s.redirector.handled) : Sent next tokens where
  stream := stream.trans sent.stream
  valid := sent.valid
  begins := sent.begins
  inOrder := fromDev ▸ sent.inOrder
  padding := fromDev ▸ sent.padding
  noticed := notices ▸ sent.noticed
  -- What is promised of the parties speaks of their states and of what was handled alone.
  agrees := by
    intro side option
    rw [tnstate, handled]
    exact sent.agrees side option

/-- A byte from the device is sent as data, perhaps behind a NUL. -/
theorem deviceByte (sent : Sent s tokens) {c : UInt8} {r : Redirector}
    (written : s.redirector.escWriteChar c = .ok r) :
    ∃ tokens, Sent { s with redirector := r, fromDev := s.fromDev ++ [c] } tokens := by
  obtain ⟨room, rfl⟩ := Redirector.escWriteChar_eq_ok written
  obtain ⟨inOrder, padding⟩ := pad_filter s.redirector.sendsBinary s.redirector.escWriteLast c
  let word := pad s.redirector.sendsBinary s.redirector.escWriteLast c
  refine ⟨_, sent.append (word.map .data) rfl ?_ ?_ rfl ?_ ?_ ?_ fun side option => ?_⟩
  · rw [Telnet.encode_data]
    exact BufferType.append_contents room
  · intro token listed
    obtain ⟨byte, -, rfl⟩ := List.mem_map.mp listed
    trivial
  · rwa [Telnet.dataBytes_data]
  · rwa [Telnet.dataBytes_data]
  -- Data announce nothing, and give notice of nothing.
  · have silent : (word.map Token.data).filterMap notification = [] := by
      rw [List.filterMap_map]
      exact List.filterMap_eq_nil_iff.mpr fun _ _ => rfl
    rw [silent, List.append_nil]
  · have silent : Side.announcements side option (word.map .data) = [] := by
      rw [Side.announcements, List.filterMap_map]
      exact List.filterMap_eq_nil_iff.mpr fun _ _ => rfl
    rw [silent, List.append_nil]
    exact sent.agrees side option

/-- A command is answered as the parties have agreed. -/
theorem command (sent : Sent s tokens) {r : Redirector} {receiver : Receiver} {command : Bytes}
    {answer : List Token}
    (handled : Handled platform { s.redirector with receiver := receiver } command r answer)
    (room : (encode answer).length ≤ s.redirector.toNetBuf.bufferRoomLeft) {fromNet : Bytes} :
    ∃ tokens, Sent { s with
      redirector := r.withNet (s.redirector.toNetBuf.append (encode answer))
      fromNet := fromNet } tokens := by
  -- The answer carries no data.
  refine ⟨_, sent.append answer rfl (BufferType.append_contents room) handled.valid
    (List.append_nil _).symm (List.nil_sublist _) (by rw [handled.quiet])
    (by rw [handled.unnoticed, List.append_nil]) fun side option => ?_⟩
  have agrees := sent.agrees side option
  -- The command is the last demand, if it is one on this option.
  have demands : Side.demands side option r.handled =
      Side.demands side option s.redirector.handled ++ (side.demand option command).toList := by
    rw [handled.handled, Side.demands, Side.demands, List.filterMap_append]
    cases demanded : side.demand option command <;> simp [demanded]
  change Agrees (side.party (r.tnstate option)) _ (side.demands option r.handled)
  rw [handled.options, handled.announced, demands]
  unfold Side.partyAfter Side.answerTo
  cases side.demand option command with
  | some demand => exact agrees.step demand
  | none => simpa using agrees

/-- The last byte of a notification is the modem state that it gives notice of. -/
theorem notification_cpcToken (r : Redirector) (parm : UInt8) :
    notification (r.cpcToken tnascNotifyModemstate [parm]) = some parm := by
  have word : r.padded [parm] = pad r.sendsBinary r.escWriteLast parm := List.append_nil _
  rw [Redirector.cpcToken, notification, if_pos ⟨rfl, rfl⟩, word, pad]
  split <;> rfl

/-- A notification is one more subnegotiation. -/
theorem notified (sent : Sent s tokens) {r : Redirector} {mask parm : UInt8}
    (written : s.redirector.sendCPCByteCommand tnascNotifyModemstate parm = .ok r)
    {modemState : UInt8} :
    ∃ tokens, Sent { s with
      redirector := r
      modemState := modemState
      notices := s.notices ++ [⟨mask, parm⟩] } tokens := by
  obtain ⟨room, rfl⟩ := Redirector.sendCPCByteCommand_eq_ok (by decide) written
  let token := s.redirector.cpcToken tnascNotifyModemstate [parm]
  have noticed : [token].filterMap notification = [parm] := by
    rw [List.filterMap_cons, notification_cpcToken]
    rfl
  refine ⟨_, sent.append [token] rfl ?_ ?_ (List.append_nil _).symm
    (List.nil_sublist _) rfl (by rw [noticed, List.map_append]; rfl) fun side option => ?_⟩
  · rw [encode, List.flatMap_singleton]
    exact BufferType.append_contents room
  · intro other listed
    rw [List.mem_singleton.mp listed]
    trivial
  -- Neither does a subnegotiation.
  · have silent : Side.announcements side option [token] = [] := rfl
    rw [silent, List.append_nil]
    exact sent.agrees side option

/-- Whatever move is made while a client is connected, it has been sent some tokens. -/
theorem move (well : Well s) (sent : s.inSocketFd = true → ∃ tokens, Sent s tokens)
    (drained : round.writeNet ≠ .wouldBlock) (moved : Move platform round flow s next)
    (connected : next.inSocketFd = true) : ∃ tokens, Sent next tokens := by
  cases moved with
  | polled | stored | lines | toDevice | toDeviceBlocked | opened =>
    obtain ⟨tokens, sent⟩ := sent connected
    exact ⟨tokens, sent.same rfl rfl rfl rfl rfl⟩
  | deviceByte c open_ flows written =>
    obtain ⟨tokens, sent⟩ := sent connected
    exact sent.deviceByte written
  | @toNetwork data open_ some_ first =>
    obtain ⟨tokens, sent⟩ := sent connected
    refine ⟨tokens, sent.same ?_ rfl rfl rfl rfl⟩
    -- What is written moves from the buffer to the network.
    rw [List.append_assoc, BufferType.popBytes_taken first]
  -- Only a write that would block breaks the stream.
  | toNetworkBlocked open_ blocked => exact absurd blocked drained
  | networkByte c open_ passed =>
    obtain ⟨tokens, sent⟩ := sent connected
    obtain ⟨receiver, received, -, -, redirected⟩ :=
      Redirector.escRedirectChar_cases well.sound passed
    cases redirected with
    | nothing => exact ⟨tokens, sent.same rfl rfl rfl rfl rfl⟩
    | data => exact ⟨tokens, sent.same rfl rfl rfl rfl rfl⟩
    | command complete handled room => exact sent.command handled room
  -- A new client has been sent nothing before the offers.
  | accepted free written =>
    refine ⟨_, .start ?_ ?_ ?_ written rfl rfl rfl⟩
    · rfl
    · exact BufferType.initBuffer_contents _
    · rfl
  | notified newstate open_ flows looked changed written =>
    obtain ⟨tokens, sent⟩ := sent connected
    exact sent.notified written
  | dropped =>
    obtain ⟨port, dropped⟩ := Well.dropConnection_eq platform s
    rw [dropped] at connected
    cases connected

end Sent

variable {platform : Platform} {s : Server}

/-- In every run in which no write to the network would block, the client is sent tokens. -/
theorem Reached.sent (reached : Reached platform (fun round => round.writeNet ≠ .wouldBlock) s)
    (connected : s.inSocketFd = true) : ∃ tokens, Sent s tokens := by
  have first : startServer.inSocketFd = true → ∃ tokens, Sent startServer tokens :=
    fun connected => by cases connected
  -- A blocked write would send a byte twice, so the run has none.
  have sent : s.inSocketFd = true → ∃ tokens, Sent s tokens := by
    refine reached.keeps first (fun status sent connected => ?_)
      fun drained well sent moved => Sent.move well sent drained moved
    obtain ⟨tokens, sent⟩ := sent connected
    exact ⟨tokens, sent.same rfl rfl rfl rfl rfl⟩
  exact sent connected

/-- In every run in which no write to the network would block, what a client has been sent and will
be sent from the buffer is a telnet stream; it begins with the offers, and its data are all bytes
that were read from the device over the connection, in order and with nothing but NULs between. -/
theorem Reached.client_reads
    (reached : Reached platform (fun round => round.writeNet ≠ .wouldBlock) s)
    (connected : s.inSocketFd = true) :
    let told := decode (s.toNet ++ s.redirector.toNetBuf.contents)
    encode told = s.toNet ++ s.redirector.toNetBuf.contents ∧
      Redirector.initialTokens <+: told ∧ s.fromDev.Sublist (dataBytes told) ∧
        (dataBytes told).filter (· ≠ 0) = s.fromDev.filter (· ≠ 0) := by
  obtain ⟨tokens, sent⟩ := reached.sent connected
  dsimp only
  -- The codec is undone, because every token sent is a valid one.
  rw [sent.stream, Telnet.decode_encode sent.valid]
  exact ⟨rfl, sent.begins, sent.inOrder, sent.padding⟩

/-- A client is sent the offers, and then what the device has said. -/
theorem read_client_reads : ∃ s : Server, s.fromDev = [13, 255, 65] ∧
    let told := decode (s.toNet ++ s.redirector.toNetBuf.contents)
    encode told = s.toNet ++ s.redirector.toNetBuf.contents ∧
      Redirector.initialTokens <+: told ∧ s.fromDev.Sublist (dataBytes told) ∧
        (dataBytes told).filter (· ≠ 0) = s.fromDev.filter (· ≠ 0) := by
  -- A return and an escape byte, the return padded if the next byte asks for it.
  obtain ⟨s, reached, test⟩ := Reached.of_test
    (fun s => s.inSocketFd && s.fromDev == [13, 255, 65])
    (show (Transition.execute (Server.step Sample.board)
      (fun _ round => round.writeNet ≠ .wouldBlock) startServer
      [Sample.connecting, Sample.reading [13], Sample.sending, Sample.reading [255, 65]]).any _ =
        true by decide +kernel)
  rw [Bool.and_eq_true, beq_iff_eq] at test
  exact ⟨s, test.2, reached.client_reads test.1⟩

end SerialPort.Sercd
