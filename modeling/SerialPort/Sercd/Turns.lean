import SerialPort.Sercd.Moves

/-! Every turn of the main loop is a sequence of moves, unless it ends the program. -/

namespace SerialPort.Sercd

open Telnet (Token encode)
open Relation (ReflTransGen)

/-- What holds of the server before and behind each move. -/
structure Well (s : Server) : Prop where
  sound : s.redirector.receiver.Sound
  sockets : s.inSocketFd = s.outSocketFd
  device : s.deviceFd = true → s.inSocketFd = true
  listening : s.lSocketFd = true
  enabled : s.redirector.portControlEnable = true

/-- The program begins in a good state. -/
theorem startServer_well : Well startServer where
  sound := fun receiving => by cases receiving
  sockets := rfl
  device := fun open_ => by cases open_
  listening := rfl
  enabled := rfl

namespace Well

variable {platform : Platform} {round : Round} {flow : Bool} {s next : Server}

/-- Closing the device changes nothing but the port. -/
theorem closePort_eq (platform : Platform) (s : Server) :
    ∃ port, s.closePort platform = { s with redirector.port := port } := by
  unfold Server.closePort
  split
  · exact ⟨_, rfl⟩
  · exact ⟨s.redirector.port, rfl⟩

/-- Dropping a connection closes everything and tells the service. -/
theorem dropConnection_eq (platform : Platform) (s : Server) :
    ∃ port, s.dropConnection platform = { s with
      redirector.port := port
      deviceFd := false
      inSocketFd := false
      outSocketFd := false
      states := s.states ++ [.ready] } := by
  unfold Server.dropConnection
  -- A device that is open is closed first, which may set the port and nothing else.
  by_cases open_ : s.deviceFd = true
  · obtain ⟨port, closed⟩ := closePort_eq platform { s with states := s.states ++ [.ready] }
    refine ⟨port, ?_⟩
    dsimp only
    rw [if_pos open_, closed]
  · refine ⟨s.redirector.port, ?_⟩
    dsimp only
    rw [if_neg open_]

/-- Each move keeps what holds of the server. -/
theorem move (well : Well s) (moved : Move platform round flow s next) : Well next := by
  obtain ⟨sound, sockets, device, listening, enabled⟩ := well
  -- Only bytes from the network touch the receiver, and only clients that come or go the pointers.
  cases moved with
  | polled | stored => exact ⟨sound, sockets, device, listening, enabled⟩
  | lines => exact ⟨sound, sockets, device, listening, enabled⟩
  | deviceByte c open_ flows sent =>
    obtain ⟨-, rfl⟩ := Redirector.escWriteChar_eq_ok sent
    exact ⟨sound, sockets, device, listening, enabled⟩
  | toDevice => exact ⟨sound, sockets, device, listening, enabled⟩
  | toDeviceBlocked => exact ⟨sound, sockets, device, listening, enabled⟩
  | toNetwork => exact ⟨sound, sockets, device, listening, enabled⟩
  | toNetworkBlocked => exact ⟨sound, sockets, device, listening, enabled⟩
  | networkByte c open_ passed =>
    obtain ⟨receiver, received, -, still, redirected⟩ :=
      Redirector.escRedirectChar_cases sound passed
    cases redirected with
    | nothing => exact ⟨still, sockets, device, listening, enabled⟩
    | data => exact ⟨still, sockets, device, listening, enabled⟩
    | command complete handled room =>
      refine ⟨?_, sockets, device, listening, handled.enabled enabled⟩
      exact (congrArg Receiver.Sound handled.receiver).mpr still
  | accepted free sent =>
    obtain ⟨-, rfl⟩ := Redirector.sendTelnetInitialOptions_eq_ok sent
    exact ⟨sound, rfl, fun _ => rfl, listening, enabled⟩
  | opened settings lines connected =>
    simp only [Bool.and_eq_true] at connected
    exact ⟨sound, sockets, fun _ => connected.1.1, listening, enabled⟩
  | notified newstate open_ flows looked changed sent =>
    obtain ⟨-, rfl⟩ := Redirector.sendCPCByteCommand_eq_ok (by decide) sent
    exact ⟨sound, sockets, device, listening, enabled⟩
  | dropped =>
    obtain ⟨port, dropped⟩ := dropConnection_eq platform s
    rw [dropped]
    exact ⟨sound, rfl, fun open_ => (by cases open_), listening, enabled⟩

/-- Any number of moves keep what holds of the server. -/
theorem moves (well : Well s) (moved : ReflTransGen (Move platform round flow) s next) :
    Well next := by
  induction moved with
  | refl => exact well
  | tail _ last ih => exact ih.move last

end Well

/-! System calls. -/

section

variable {platform : Platform} {pending : Bytes} {count trybytes : Nat} {string : Bytes}

/-- A number of 32 bits is converted as it is. -/
theorem ofInt_natCast {number : Nat} (small : number < 2 ^ 32) :
    (UInt32.ofInt number).toNat = number := by
  have same : ((number : Int) % 2 ^ 32).toNat = number := by omega
  rw [UInt32.ofInt, same, UInt32.toNat_ofNat', Nat.mod_eq_of_lt small]

/-- A loop for a number of 32 bits takes that many turns. -/
theorem turns_natCast {number : Nat} (small : number < 2 ^ 32) (size : LongSize) :
    turns size number = number := by
  cases size with
  | four => exact ofInt_natCast small
  | eight => exact Int.toNat_natCast number

/-- Nothing that was read is the end of the stream. -/
theorem error_read_gives :
    ioResultError ((Answer.gives pending).read trybytes) = (pending.take trybytes).isEmpty := by
  -- A read that gives something is no error, and one that gives nothing is the end of the stream.
  have general : ∀ data : Bytes, ioResultError ⟨data.length, false, data⟩ = data.isEmpty := by
    intro data
    cases data with
    | nil => rfl
    | cons c data =>
      have some_ : ((c :: data).length : Int) ≠ -1 := by omega
      have some_' : ((c :: data).length : Int) ≠ 0 := by
        rw [List.length_cons]
        omega
      simp only [ioResultError, if_neg some_, List.isEmpty_cons, decide_eq_false some_']
  exact general _

/-- What is written are the first bytes that wait. -/
theorem write_prefix (b : BufferType) (count : Nat) :
    b.getBufferString.take count <+: b.contents := by
  refine (List.take_prefix _ _).trans ?_
  rw [b.getBufferString_eq]
  exact List.take_prefix _ _

/-- A write is an error if it has taken nothing. -/
theorem error_write_gives :
    ioResultError ((Answer.gives count).write string) = (string.take count).isEmpty :=
  error_read_gives

/-- What was stored last is found in front. -/
theorem Readbuf.store_take (readbuf : Readbuf) {data : Bytes} (short : data.length ≤ readbufSize) :
    (readbuf.store data).bytes.take data.length = data := by
  rw [store, List.take_take, Nat.min_eq_left short]
  exact List.take_left

variable {readbuf : Readbuf} {body : Redirector → UInt8 → Except Abort Redirector} {r : Redirector}

/-- The loop goes through the bytes that were read. -/
theorem forBytes_gives (small : trybytes ≤ readbufSize) :
    forBytes platform ((Answer.gives pending).read trybytes)
        (readbuf.store ((Answer.gives pending).read trybytes).data) body r =
      (pending.take trybytes).foldlM body r := by
  -- What was read is stored in front, so the loop sees exactly that.
  have short : (pending.take trybytes).length ≤ readbufSize :=
    Nat.le_trans (List.length_take_le _ _) small
  have count : turns platform.longSize ((Answer.gives pending).read trybytes).iobytes =
      (pending.take trybytes).length :=
    turns_natCast (Nat.lt_of_le_of_lt short (by decide)) _
  unfold forBytes
  have first := readbuf.store_take short
  dsimp only
  rw [count]
  change ((readbuf.store (pending.take trybytes)).bytes.take _).foldlM body r >>= _ = _
  rw [first]
  simp only [if_pos short]
  exact bind_pure _

/-- A read that would block makes the loop run away where a long has 32 bits: it goes through what
is left in the memory, and then past the end of it. -/
theorem forBytes_blocked :
    forBytes platform (Answer.wouldBlock.read trybytes) readbuf body r =
      if platform.longSize = .four then
        readbuf.bytes.foldlM body r >>= fun _ => .error .outOfBounds
      else .ok r := by
  unfold forBytes
  -- Where a long has 32 bits the count -1 is compared as unsigned, and larger than any index.
  cases size : platform.longSize with
  | four =>
    have count : turns .four (Answer.wouldBlock.read trybytes).iobytes = 2 ^ 32 - 1 := rfl
    have whole : readbuf.bytes.take (2 ^ 32 - 1) = readbuf.bytes :=
      List.take_of_length_le (by rw [readbuf.full]; decide)
    dsimp only
    rw [count, whole]
    rfl
  | eight => rfl

end

section

variable {platform : Platform} {r : Redirector} {bytes : Bytes} {why : Abort}

/-- Output can only fail for want of room. -/
theorem emit_fails {added : Bytes} (failed : r.emit added = .error why) : why = .assertion := by
  by_cases room : added.length ≤ r.toNetBuf.bufferRoomLeft
  · rw [Redirector.emit_ok r room] at failed
    cases failed
  · rw [Redirector.emit_full r (by omega)] at failed
    cases failed
    rfl

/-- Bytes from the device only fail for want of room. -/
theorem escWriteChar_fails (failed : bytes.foldlM Redirector.escWriteChar r = .error why) :
    why = .assertion :=
  emit_fails ((r.sendStr_eq bytes).symm.trans failed)

/-- So do bytes from the network, whatever they come to. -/
theorem escRedirectChar_fails (sound : r.receiver.Sound)
    (failed : bytes.foldlM (Redirector.escRedirectChar platform) r = .error why) :
    why = .assertion := by
  -- The receiver stays sound along the way, and a sound one only fails for want of room.
  refine Credit.foldlM_fails (fun r : Redirector => r.receiver.Sound) (fun why => why = .assertion)
    sound (fun {r next} c sound passed => ?_)
    (fun {r why} c sound failed => ?_) failed
  · obtain ⟨receiver, received, -, still, redirected⟩ :=
      Redirector.escRedirectChar_cases sound passed
    cases redirected with
    | nothing | data => exact still
    | command complete handled room => exact (congrArg Receiver.Sound handled.receiver).mpr still
  · obtain ⟨receiver, received, -, -, redirects⟩ :=
      Redirector.escRedirectChar_redirects platform sound c
    generalize r.escRedirectChar platform c = result at redirects failed
    cases redirects with
    | nothing => cases failed
    | data c =>
      by_cases room : 1 ≤ r.toDevBuf.bufferRoomLeft
      · rw [Redirector.putDev, BufferType.addToBuffer_ok _ _ room] at failed
        cases failed
      · have full : r.toDevBuf.bufferRoomLeft = 0 := Nat.lt_one_iff.mp (Nat.not_le.mp room)
        rw [Redirector.putDev, BufferType.addToBuffer_full _ _ full] at failed
        cases failed
        rfl
    | command complete handled => exact emit_fails failed

end

/-- The events that are reported are those that were asked for. -/
structure Asked (flow : Bool) (events : Events) (s : Server) : Prop where
  deviceIn : events.deviceIn = true → s.deviceFd = true ∧ flow = true
  deviceOut : events.deviceOut = true → s.deviceFd = true
  socketOut : events.socketOut = true → s.outSocketFd = true
  socketIn : events.socketIn = true → s.deviceFd = true
  modemstate : events.modemstate = true → s.deviceFd = true ∧ flow = true

/-- What is asked for depends on the descriptors alone. -/
theorem Asked.same {flow : Bool} {events : Events} {s next : Server} (asked : Asked flow events s)
    (deviceFd : next.deviceFd = s.deviceFd) (outSocketFd : next.outSocketFd = s.outSocketFd) :
    Asked flow events next where
  deviceIn := fun called => deviceFd ▸ asked.deviceIn called
  deviceOut := fun called => deviceFd ▸ asked.deviceOut called
  socketOut := fun called => outSocketFd ▸ asked.socketOut called
  socketIn := fun called => deviceFd ▸ asked.socketIn called
  modemstate := fun called => deviceFd ▸ asked.modemstate called

/-- How a read that would block ends the program: the loop runs past the end of the memory, or what
is left in it of earlier reads already finds no room. -/
def BlockedRead (platform : Platform) (round : Round) (why : Abort) : Prop :=
  (why = .outOfBounds ∨ why = .assertion) ∧ platform.longSize = .four ∧
    (round.readDev = .wouldBlock ∨ round.readNet = .wouldBlock)

/-- Whether all descriptors are set or none is: nobody is connected, or the device is open. -/
def Server.Settled (s : Server) : Prop :=
  s.inSocketFd = s.deviceFd ∧ s.outSocketFd = s.deviceFd

/-- Whether nobody is connected any more. -/
def Server.Closed (s : Server) : Prop :=
  s.deviceFd = false ∧ s.inSocketFd = false ∧ s.outSocketFd = false

/-- Where everything is closed everything is settled. -/
theorem Server.Closed.settled {s : Server} (closed : s.Closed) : s.Settled := by
  obtain ⟨device, inSocket, outSocket⟩ := closed
  exact ⟨inSocket.trans device.symm, outSocket.trans device.symm⟩

/-- How a part of a turn ends: with moves, after which the rest may follow, or badly. -/
def Ends (platform : Platform) (round : Round) (flow : Bool) (events : Events)
    (bad : Abort → Prop) (s : Server) : Except Jump Server → Prop
  | .ok next => ReflTransGen (Move platform round flow) s next ∧ Asked flow events next
  | .error (.next next) => ReflTransGen (Move platform round flow) s next ∧ next.Closed
  | .error (.abort why) => bad why
  | .error (.exit _) => False

namespace Ends

variable {platform : Platform} {round : Round} {flow : Bool} {events : Events}
  {bad bad' : Abort → Prop} {s : Server}

/-- One part behind another. -/
theorem bind {part : Except Jump Server} {rest : Server → Except Jump Server}
    (first : Ends platform round flow events bad s part)
    (second : ∀ next, part = .ok next → ReflTransGen (Move platform round flow) s next →
      Asked flow events next → Ends platform round flow events bad next (rest next)) :
    Ends platform round flow events bad s (part >>= rest) := by
  -- Whatever has ended the first part ends the whole; else the moves of both follow each other.
  match part, first with
  | .error (.next next), closed => exact closed
  | .error (.abort why), worse => exact worse
  | .ok next, ⟨moved, asked⟩ =>
    have ends := second next rfl moved asked
    change Ends platform round flow events bad s (rest next)
    match rest next, ends with
    | .ok last, ⟨more, asked⟩ => exact ⟨moved.trans more, asked⟩
    | .error (.next last), ⟨more, closed⟩ => exact ⟨moved.trans more, closed⟩
    | .error (.abort why), worse => exact worse

/-- What is bad can be said in other words. -/
theorem mono {part : Except Jump Server} (ends : Ends platform round flow events bad s part)
    (weaker : ∀ why, bad why → bad' why) : Ends platform round flow events bad' s part := by
  match part, ends with
  | .ok _, moved => exact moved
  | .error (.next _), moved => exact moved
  | .error (.abort why), worse => exact weaker why worse

/-- A part that is not called for. -/
theorem skip (asked : Asked flow events s) : Ends platform round flow events bad s (.ok s) :=
  ⟨.refl, asked⟩

/-- A part that drops the connection. -/
theorem drop (connected : s.deviceFd = true ∨ (s.inSocketFd = true ∧ s.outSocketFd = true)) :
    Ends platform round flow events bad s (.error (.next (s.dropConnection platform))) :=
  ⟨.single (.dropped connected), rfl, rfl, rfl⟩

/-- What a part does after it has stored what it has read. -/
theorem behindStore (data : Bytes) {part : Except Jump Server}
    (ends : Ends platform round flow events bad { s with readbuf := s.readbuf.store data } part) :
    Ends platform round flow events bad s part := by
  -- The store is a move of its own in front of all others.
  have stored : Move platform round flow s { s with readbuf := s.readbuf.store data } :=
    .stored s data
  match part, ends with
  | .ok _, ⟨moved, asked⟩ => exact ⟨.head stored moved, asked⟩
  | .error (.next _), ⟨moved, closed⟩ => exact ⟨.head stored moved, closed⟩
  | .error (.abort _), worse => exact worse

/-- A read that would block gives no byte, unless the loop over it runs away. -/
theorem blockedRead (rebuild : Redirector → Server) {trybytes : Nat} {readbuf : Readbuf}
    {body : Redirector → UInt8 → Except Abort Redirector} (asked : Asked flow events s)
    (same : rebuild s.redirector = s)
    (fails : ∀ {why}, readbuf.bytes.foldlM body s.redirector = .error why → why = .assertion)
    (blocked : round.readDev = .wouldBlock ∨ round.readNet = .wouldBlock) :
    Ends platform round flow events (BlockedRead platform round) s (do
      let redirector ← engine
        (forBytes platform (Answer.wouldBlock.read trybytes) readbuf body s.redirector)
      return rebuild redirector) := by
  rw [forBytes_blocked]
  split
  · next four =>
    -- The first turns are for the bytes of earlier reads.
    cases looped : readbuf.bytes.foldlM body s.redirector with
    | error why => exact ⟨.inr (fails looped), four, blocked⟩
    | ok r => exact ⟨.inl rfl, four, blocked⟩
  · change Ends platform round flow events _ s (.ok (rebuild s.redirector))
    rw [same]
    exact .skip asked

variable (well : Well s) (asked : Asked flow events s)

include asked

/-- Bytes from the device go into the buffer one by one, since there is room for each of them. -/
theorem deviceBytes {data : Bytes} (open_ : s.deviceFd = true) (flows : flow = true)
    (room : data.length ≤ s.redirector.toNetBuf.bufferRoomLeft / escWriteCharBytes) :
    Ends platform round flow events bad s (do
      let redirector ← engine (data.foldlM Redirector.escWriteChar s.redirector)
      return { s with redirector := redirector, fromDev := s.fromDev ++ data }) := by
  obtain ⟨r, result, moved⟩ := Credit.foldlM_ok
    (fun r => r.toNetBuf.bufferRoomLeft / escWriteCharBytes)
    (fun done r => ReflTransGen (Move platform round flow) s
      { s with redirector := r, fromDev := s.fromDev ++ done })
    room (by rw [List.append_nil]) fun {done r} c moved left => by
      -- A byte takes one unit of the credit, that is the room for two bytes.
      have short := pad_stuff_length_le r.sendsBinary r.escWriteLast c
      have fits : ((pad r.sendsBinary r.escWriteLast c).flatMap Telnet.stuff).length ≤
          r.toNetBuf.bufferRoomLeft := by
        have room : 2 ≤ r.toNetBuf.bufferRoomLeft := by
          simp only [escWriteCharBytes] at left
          omega
        omega
      have sent := Redirector.emit_ok { r with escWriteLast := c } fits
      rw [← Redirector.escWriteChar_eq] at sent
      refine ⟨_, sent, ?_, ?_⟩
      · rw [← List.append_assoc]
        exact moved.tail (.deviceByte c open_ flows sent)
      · have spent := BufferType.append_room fits
        simp only [Redirector.withNet, spent, escWriteCharBytes]
        omega
  rw [result]
  exact ⟨moved, asked.same rfl rfl⟩

/-- Bytes from the network are dealt with one by one, since there is room for each of them. -/
theorem networkBytes {data : Bytes} (well : Well s) (open_ : s.deviceFd = true)
    (net : data.length ≤ s.redirector.toNetBuf.bufferRoomLeft / escRedirectCharBytesSockB platform)
    (dev : data.length ≤ s.redirector.toDevBuf.bufferRoomLeft / escRedirectCharBytesDevB) :
    Ends platform round flow events bad s (do
      let redirector ← engine (data.foldlM (Redirector.escRedirectChar platform) s.redirector)
      return { s with redirector := redirector, fromNet := s.fromNet ++ data }) := by
  -- The room for answers and for data is the credit of which every byte spends one at most.
  have enough : data.length ≤
      min (s.redirector.toNetBuf.bufferRoomLeft / escRedirectCharBytesSockB platform)
        (s.redirector.toDevBuf.bufferRoomLeft / escRedirectCharBytesDevB) :=
    Nat.le_min.mpr ⟨net, dev⟩
  obtain ⟨r, result, moved, -⟩ := Credit.foldlM_ok
    (fun r => min (r.toNetBuf.bufferRoomLeft / escRedirectCharBytesSockB platform)
      (r.toDevBuf.bufferRoomLeft / escRedirectCharBytesDevB))
    (fun done r => ReflTransGen (Move platform round flow) s
      { s with redirector := r, fromNet := s.fromNet ++ done } ∧ r.receiver.Sound)
    enough ⟨by rw [List.append_nil], well.sound⟩ fun {done r} c held left => by
      obtain ⟨moved, sound⟩ := held
      obtain ⟨next, passed, spent⟩ := Redirector.escRedirectChar_passed platform sound
        (by
          have some_ := Nat.lt_of_lt_of_le left (Nat.min_le_left _ _)
          rw [escRedirectCharBytesSockB_eq] at some_ ⊢
          omega)
        (by
          have some_ := Nat.lt_of_lt_of_le left (Nat.min_le_right _ _)
          rwa [Nat.div_one] at some_) c
      refine ⟨next, passed, ⟨?_, spent.sound⟩, ?_⟩
      · rw [← List.append_assoc]
        exact moved.tail (.networkByte c open_ passed)
      · have net := spent.net
        have dev := spent.dev
        rw [escRedirectCharBytesSockB_eq] at net ⊢
        simp only [escRedirectCharBytesDevB] at dev ⊢
        omega
  rw [result]
  exact ⟨moved, asked.same rfl rfl⟩

end Ends

namespace Server

variable {platform : Platform} {round : Round} {flow : Bool} {events : Events} {s : Server}

/-- Reading from the device goes on, drops the connection, or fails for a read that would block. -/
theorem serialInput_ends (asked : Asked flow events s) :
    Ends platform round flow events (BlockedRead platform round) s
      (s.serialInput platform events round) := by
  unfold serialInput
  split
  · next called =>
    obtain ⟨open_, flows⟩ := asked.deviceIn called
    have connected : s.deviceFd = true ∨ (s.inSocketFd = true ∧ s.outSocketFd = true) := .inl open_
    rw [pointer, if_pos open_]
    change Ends platform round flow events _ s (if _ then _ else _)
    generalize limit : min readbufSize
      (s.redirector.toNetBuf.bufferRoomLeft / escWriteCharBytes) = trybytes
    have inside : trybytes ≤ readbufSize := limit ▸ Nat.min_le_left _ _
    have room : trybytes ≤ s.redirector.toNetBuf.bufferRoomLeft / escWriteCharBytes :=
      limit ▸ Nat.min_le_right _ _
    cases answer : round.readDev with
    | gives pending =>
      rw [error_read_gives]
      split
      · exact .drop connected
      · refine .behindStore (pending.take trybytes) ?_
        dsimp only
        rw [forBytes_gives inside]
        have asked : Asked flow events
            { s with readbuf := s.readbuf.store (pending.take trybytes) } := asked.same rfl rfl
        exact Ends.deviceBytes asked open_ flows (Nat.le_trans (List.length_take_le _ _) room)
    | wouldBlock =>
      -- Only where a long has 32 bits this is not the same as no byte.
      refine .behindStore [] ?_
      exact Ends.blockedRead (fun redirector => { s with
        redirector := redirector
        readbuf := s.readbuf.store []
        fromDev := s.fromDev ++ [] }) (asked.same rfl rfl) (by rw [List.append_nil])
        escWriteChar_fails (.inl answer)
    | fails => exact .drop connected
  · exact .skip asked

/-- So does reading from the network. -/
theorem networkInput_ends (well : Well s) (asked : Asked flow events s) :
    Ends platform round flow events (BlockedRead platform round) s
      (s.networkInput platform events round) := by
  unfold networkInput
  split
  · next called =>
    have open_ := asked.socketIn called
    have inSocket := well.device open_
    rw [pointer, if_pos inSocket]
    have connected : s.deviceFd = true ∨ (s.inSocketFd = true ∧ s.outSocketFd = true) := .inl open_
    change Ends platform round flow events _ s (if _ then _ else _)
    -- A client that can be read from has the device open, so no pointer is missing.
    have held : ∀ none_ : Bool, pointer (s.deviceFd || none_) = .ok () := by
      intro none_
      rw [open_]
      rfl
    rw [held]
    change Ends platform round flow events _ s (if _ then _ else (do
      let redirector ← engine _
      return { s with
        redirector := redirector
        readbuf := s.readbuf.store _
        fromNet := s.fromNet ++ _ }))
    -- What is read fits into all three: the buffer of the read and both of the others.
    generalize limit : min (min readbufSize
      (s.redirector.toNetBuf.bufferRoomLeft / escRedirectCharBytesSockB platform))
      (s.redirector.toDevBuf.bufferRoomLeft / escRedirectCharBytesDevB) = trybytes
    have inside : trybytes ≤ readbufSize :=
      limit ▸ Nat.le_trans (Nat.min_le_left _ _) (Nat.min_le_left _ _)
    have net : trybytes ≤
        s.redirector.toNetBuf.bufferRoomLeft / escRedirectCharBytesSockB platform :=
      limit ▸ Nat.le_trans (Nat.min_le_left _ _) (Nat.min_le_right _ _)
    have dev : trybytes ≤ s.redirector.toDevBuf.bufferRoomLeft / escRedirectCharBytesDevB :=
      limit ▸ Nat.min_le_right _ _
    cases answer : round.readNet with
    | gives pending =>
      rw [error_read_gives]
      split
      · exact .drop connected
      · refine .behindStore (pending.take trybytes) ?_
        rw [forBytes_gives inside]
        have stored : Move platform round flow s _ := .stored s (pending.take trybytes)
        have asked : Asked flow events
            { s with readbuf := s.readbuf.store (pending.take trybytes) } := asked.same rfl rfl
        have length := List.length_take_le trybytes pending
        exact Ends.networkBytes asked (well.move stored) open_
          (Nat.le_trans length net) (Nat.le_trans length dev)
    | wouldBlock =>
      refine .behindStore [] ?_
      exact Ends.blockedRead (fun redirector => { s with
        redirector := redirector
        readbuf := s.readbuf.store []
        fromNet := s.fromNet ++ [] }) (asked.same rfl rfl) (by rw [List.append_nil])
        (escRedirectChar_fails well.sound) (.inr answer)
    | fails => exact .drop connected
  · exact .skip asked

/-- Writing to the device goes on or drops the connection. -/
theorem serialOutput_ends (asked : Asked flow events s) :
    Ends platform round flow events (BlockedRead platform round) s
      (s.serialOutput platform events round) := by
  unfold serialOutput
  split
  · next called =>
    have open_ := asked.deviceOut called
    have connected : s.deviceFd = true ∨ (s.inSocketFd = true ∧ s.outSocketFd = true) := .inl open_
    rw [pointer, if_pos open_]
    change Ends platform round flow events _ s (if _ then _ else _)
    -- A write that would block moves the buffer back, and one that fails ends the connection.
    cases answer : round.writeDev with
    | gives count =>
      rw [error_write_gives]
      split
      · exact .drop connected
      · next some_ =>
        have written := write_prefix s.redirector.toDevBuf count
        have some_ := fun none_ => some_ (List.isEmpty_iff.mpr none_)
        exact ⟨.single (.toDevice open_ some_ written), asked.same rfl rfl⟩
    | wouldBlock =>
      change Ends platform round flow events _ s (.ok { s with
        redirector.toDevBuf := s.redirector.toDevBuf.bufferPopBytes (UInt32.ofInt (-1))
        toDev := s.toDev ++ [] })
      rw [List.append_nil]
      exact ⟨.single (.toDeviceBlocked open_ answer), asked.same rfl rfl⟩
    | fails => exact .drop connected
  · exact .skip asked

/-- So does writing to the network. -/
theorem networkOutput_ends (well : Well s) (asked : Asked flow events s) :
    Ends platform round flow events (BlockedRead platform round) s
      (s.networkOutput platform events round) := by
  unfold networkOutput
  split
  · next called =>
    have open_ := asked.socketOut called
    have connected : s.deviceFd = true ∨ (s.inSocketFd = true ∧ s.outSocketFd = true) :=
      .inr ⟨well.sockets.trans open_, open_⟩
    rw [pointer, if_pos open_]
    change Ends platform round flow events _ s (if _ then _ else _)
    -- The client is written to in the same way as the device.
    cases answer : round.writeNet with
    | gives count =>
      rw [error_write_gives]
      split
      · exact .drop connected
      · next some_ =>
        have written := write_prefix s.redirector.toNetBuf count
        have some_ := fun none_ => some_ (List.isEmpty_iff.mpr none_)
        exact ⟨.single (.toNetwork open_ some_ written), asked.same rfl rfl⟩
    | wouldBlock =>
      change Ends platform round flow events _ s (.ok { s with
        redirector.toNetBuf := s.redirector.toNetBuf.bufferPopBytes (UInt32.ofInt (-1))
        toNet := s.toNet ++ [] })
      rw [List.append_nil]
      exact ⟨.single (.toNetworkBlocked open_ answer), asked.same rfl rfl⟩
    | fails => exact .drop connected
  · exact .skip asked

/-- A client is accepted if there is none. -/
theorem acceptConnection_ends (asked : Asked flow events s) :
    Ends platform round flow events (BlockedRead platform round) s
      (s.acceptConnection events round) := by
  unfold acceptConnection
  split
  · split
    · exact .skip asked
    split
    · exact .skip asked
    · next free =>
      -- The initial negotiations fit an empty buffer.
      have room : (encode Redirector.initialTokens).length ≤
          s.redirector.toNetBuf.initBuffer.bufferRoomLeft := by
        rw [BufferType.initBuffer_room, Redirector.encode_initialTokens_length]
        decide
      have sent := Redirector.emit_ok (Redirector.offering { s.redirector with
        toNetBuf := s.redirector.toNetBuf.initBuffer
        tnstate := fun _ => {}
        handled := [] }) room
      rw [← Redirector.sendTelnetInitialOptions_eq] at sent
      dsimp only
      rw [sent]
      exact ⟨.single (.accepted (Bool.eq_false_iff.mpr free) sent), asked.deviceIn,
        asked.deviceOut, fun _ => rfl, asked.socketIn, asked.modemstate⟩
  · exact .skip asked

/-- The device is opened for a client, or the connection is dropped. -/
theorem openDevice_ends (asked : Asked flow events s) :
    Ends platform round flow events (BlockedRead platform round) s
      (s.openDevice platform round) := by
  unfold openDevice
  -- A device that cannot be opened costs the connection.
  split
  · next connected =>
    split
    · refine .drop (.inr ?_)
      simp only [Bool.and_eq_true] at connected
      exact connected.1
    · next settings lines found =>
      refine ⟨.single (.opened settings lines connected), ?_⟩
      exact ⟨fun called => ⟨rfl, (asked.deviceIn called).2⟩, fun _ => rfl, asked.socketOut,
        fun _ => rfl, fun called => ⟨rfl, (asked.modemstate called).2⟩⟩
  · exact .skip asked

/-- Reading and writing make moves, or fail for a read that would block. -/
theorem transfer_ends (well : Well s) (asked : Asked flow events s) :
    Ends platform round flow events (BlockedRead platform round) s
      (s.transfer platform events round) := by
  refine .bind (serialInput_ends asked) fun s _ moved asked => ?_
  refine .bind (serialOutput_ends asked) fun s' _ moved' asked => ?_
  have well := (well.moves moved).moves moved'
  exact .bind (networkOutput_ends well asked) fun s'' _ moved'' asked =>
    networkInput_ends (well.moves moved'') asked

/-- What a turn does before it looks at the modem state. -/
theorem exchange_ends (well : Well s) (asked : Asked flow events s) :
    Ends platform round flow events (BlockedRead platform round) s
      (s.exchange platform events round) :=
  .bind (transfer_ends well asked) fun _ _ _ asked =>
    .bind (acceptConnection_ends asked) fun _ _ _ asked => openDevice_ends asked

/-- Behind the opening of the device it is open if a client is connected. -/
theorem openDevice_settled {next : Server} (well : Well s)
    (ended : s.openDevice platform round = .ok next) : next.Settled := by
  have sockets := well.sockets
  have device := well.device
  unfold openDevice at ended
  split at ended
  · next connected =>
    simp only [Bool.and_eq_true] at connected
    split at ended
    · cases ended
    · cases ended
      exact connected.1
  · next closed =>
    cases ended
    -- Without a client the device is closed.
    by_cases open_ : s.deviceFd = true
    · have inSocket := device open_
      exact ⟨inSocket.trans open_.symm, (sockets.symm.trans inSocket).trans open_.symm⟩
    · have idle : s.inSocketFd = false := by
        by_contra connected
        simp_all
      simp only [Bool.not_eq_true] at open_
      exact ⟨idle.trans open_.symm, (sockets.symm.trans idle).trans open_.symm⟩

/-- An exchange that comes to its end leaves no client waiting for the device. -/
theorem exchange_settled {next : Server} (well : Well s) (asked : Asked flow events s)
    (ended : s.exchange platform events round = .ok next) : next.Settled := by
  -- Behind the transfers only the last part matters, which opens the device for whoever has none.
  have transferred : Ends platform round flow events _ s _ := transfer_ends well asked
  unfold exchange at ended
  generalize s.transfer platform events round = result at transferred ended
  match result, transferred with
  | .ok mid, ⟨moved, asked⟩ =>
    have accepted : Ends platform round flow events _ mid _ := acceptConnection_ends asked
    change (mid.acceptConnection events round >>= _) = _ at ended
    generalize mid.acceptConnection events round = result at accepted ended
    match result, accepted with
    | .ok last, ⟨moved', _⟩ => exact openDevice_settled ((well.moves moved).moves moved') ended
    | .error _, _ => cases ended
  | .error _, _ => cases ended

/-- How a notification ends the program: the buffer has no room for it. -/
def Overrun (events : Events) (s : Server) (why : Abort) : Prop :=
  why = .assertion ∧ events.modemstate = true ∧
    s.redirector.toNetBuf.bufferRoomLeft < sendCPCByteCommandBytes

/-- A notification takes no more than the room that the loop asks for. -/
theorem notification_length_le (r : Redirector) (parm : UInt8) :
    (r.cpcToken tnascNotifyModemstate [parm]).bytes.length ≤ sendCPCByteCommandBytes := by
  have short := r.cpcToken_length_le tnascNotifyModemstate (by decide) [parm]
  rwa [encode, List.flatMap_singleton] at short

/-- A notification goes on, or fails for want of room. -/
theorem notifyModemState_ends (asked : Asked flow events s) :
    Ends platform round flow events (Overrun events s) s (s.notifyModemState events) := by
  unfold notifyModemState
  split
  · next called =>
    obtain ⟨open_, flows⟩ := asked.modemstate called
    rw [pointer, if_pos open_]
    change Ends platform round flow events _ s (if _ then _ else _)
    split
    · next changed =>
      generalize parm_ : s.redirector.port.getModemState s.modemState &&&
        s.redirector.modemStateMask = parm at changed ⊢
      have whole : s.redirector.sendCPCByteCommand tnascNotifyModemstate parm =
          (s.redirector.afterCPC [parm]).emit
            (s.redirector.cpcToken tnascNotifyModemstate [parm]).bytes :=
        s.redirector.sendCPC_eq _ _ (by decide)
      by_cases room : (s.redirector.cpcToken tnascNotifyModemstate [parm]).bytes.length ≤
          s.redirector.toNetBuf.bufferRoomLeft
      · have sent := whole.trans (Redirector.emit_ok (s.redirector.afterCPC [parm]) room)
        rw [sent]
        subst parm
        exact ⟨.single (.notified _ open_ flows rfl changed sent), asked.same rfl rfl⟩
      · -- The notification is at most as long as the room that the loop has asked for.
        have short := notification_length_le s.redirector parm
        have full := whole.trans
          (Redirector.emit_full (s.redirector.afterCPC [parm]) (Nat.lt_of_not_le room))
        rw [full]
        exact ⟨rfl, called, Nat.lt_of_lt_of_le (Nat.lt_of_not_le room) short⟩
    · exact .skip asked
  · exact .skip asked

/-- How a turn ends the program badly: a read that would block, or a notification behind an
exchange that has left no room for it. -/
def BadTurn (platform : Platform) (round : Round) (events : Events) (s : Server) (why : Abort) :
    Prop :=
  BlockedRead platform round why ∨
    ∃ mid, s.exchange platform events round = .ok mid ∧ Overrun events mid why

/-- A notification leaves everything settled. -/
theorem notifyModemState_settled {next : Server} (settled : s.Settled)
    (ended : s.notifyModemState events = .ok next) : next.Settled := by
  unfold notifyModemState at ended
  -- No branch touches the descriptors.
  split at ended
  · by_cases open_ : s.deviceFd = true
    · rw [pointer, if_pos open_] at ended
      change (if _ then _ else _) = _ at ended
      split at ended
      · generalize s.redirector.sendCPCByteCommand _ _ = result at ended
        cases result with
        | error => cases ended
        | ok r =>
          cases ended
          exact settled
      · cases ended
        exact settled
    · rw [pointer, if_neg open_] at ended
      cases ended
  · cases ended
    exact settled

/-- A turn that goes on leaves everything settled. -/
theorem serve_settled {next : Server} (well : Well s) (asked : Asked flow events s)
    (ended : s.serve platform events round = .ok next) : next.Settled := by
  unfold serve at ended
  cases exchanged : s.exchange platform events round with
  | error => rw [exchanged] at ended; cases ended
  | ok mid =>
    rw [exchanged] at ended
    exact notifyModemState_settled (exchange_settled well asked exchanged) ended

/-- A turn makes moves, or fails in one of the two ways. -/
theorem serve_ends (well : Well s) (asked : Asked flow events s) :
    Ends platform round flow events (BadTurn platform round events s) s
      (s.serve platform events round) := by
  refine .bind ((exchange_ends well asked).mono fun why => .inl) fun mid exchanged _ asked => ?_
  exact (notifyModemState_ends asked).mono fun why overrun => .inr ⟨mid, exchanged, overrun⟩

/-- What select reports was asked for. -/
theorem select_asked (ready : Events) :
    Asked s.redirector.inputFlow (s.select platform round ready).1
      (s.select platform round ready).2 := by
  -- Nothing is reported that has not been asked for, and it is asked for only under its condition.
  refine ⟨?_, ?_, ?_, ?_, ?_⟩ <;> intro called
  · simp only [select, sercdSelect, requests, Bool.and_eq_true] at called
    exact ⟨called.1.1.1, called.1.2⟩
  · simp only [select, sercdSelect, requests, Bool.and_eq_true] at called
    exact called.1.1
  · simp only [select, sercdSelect, requests, Bool.and_eq_true] at called
    exact called.1.1
  · simp only [select, sercdSelect, requests, Bool.and_eq_true] at called
    exact called.1.1.1.1
  · simp only [select] at called ⊢
    split at called
    · next due =>
      simp only [requests, Bool.and_eq_true] at due
      exact ⟨due.1.1.1, due.1.2⟩
    · cases called

/-- The server at the beginning of a turn, apart from the modem control lines. -/
theorem observe_eq (s : Server) (round : Round) :
    s.observe round = s ∨
      ∃ lines, s.observe round = { s with redirector.port.lines := lines } := by
  -- The lines of a device that is not open are not seen.
  unfold observe
  split
  · next lines _ =>
    split
    · exact .inr ⟨lines, rfl⟩
    · exact .inl rfl
  · exact .inl rfl

/-- The lines change by a move. -/
theorem observe_moves (s : Server) (round : Round) :
    ReflTransGen (Move platform round flow) s (s.observe round) := by
  rcases observe_eq s round with same | ⟨lines, changed⟩
  · rw [same]
  · rw [changed]
    exact .single (.lines s lines)

/-- The lines have nothing to do with the flow. -/
theorem observe_flow (s : Server) (round : Round) :
    (s.observe round).redirector.inputFlow = s.redirector.inputFlow := by
  rcases observe_eq s round with same | ⟨lines, changed⟩
  · rw [same]
  · rw [changed]

/-- How a turn that is taken ends. -/
inductive Turned (platform : Platform) (round : Round) (s : Server) :
    Except Jump Server → Prop where
  | goesOn {next : Server}
    (moved : ReflTransGen (Move platform round s.redirector.inputFlow) s next)
    (settled : s.Settled → next.Settled) : Turned platform round s (.ok next)
  | starts {next : Server}
    (moved : ReflTransGen (Move platform round s.redirector.inputFlow) s next)
    (settled : next.Settled) : Turned platform round s (.error (.next next))
  | exits (failed : round.ready = none) : Turned platform round s (.error (.exit 1))
  | aborts {ready : Events} {why : Abort} (reported : round.ready = some ready)
    (bad : BadTurn platform round (s.select platform round ready).1
      (s.select platform round ready).2 why) :
    Turned platform round s (.error (.abort why))

/-- Whatever a turn comes to, it has come there by moves. -/
theorem turn_turned (well : Well s) (round : Round) :
    Turned platform round s (s.turn platform round) := by
  -- The listener stays, so there is always something to do, and status 0 is out of reach.
  unfold turn
  dsimp only
  rw [well.listening, Bool.not_true, Bool.and_false, if_neg Bool.false_ne_true]
  split
  · next failed => exact .exits failed
  · next ready reported =>
    have looked : ReflTransGen (Move platform round s.redirector.inputFlow) s
        (s.select platform round ready).2 := .single (.polled s _)
    split
    · exact .goesOn looked id
    · have ends : Ends platform round _ _ _ _ _ :=
        serve_ends (well.moves looked) (select_asked ready)
      have settled := fun next ended =>
        @serve_settled platform round _ _ _ next (well.moves looked) (select_asked ready) ended
      generalize (s.select platform round ready).2.serve platform
        (s.select platform round ready).1 round = result at ends settled
      match result, ends with
      | .ok next, ⟨moved, _⟩ => exact .goesOn (looked.trans moved) fun _ => settled next rfl
      | .error (.next next), ⟨moved, closed⟩ => exact .starts (looked.trans moved) closed.settled
      | .error (.abort why), bad => exact .aborts reported bad

/-- What one step of the program does: moves, or the end of the program. -/
inductive Stepped (platform : Platform) (round : Round) (s : Server) : Server → Prop where
  | goesOn {next : Server}
    (moved : ReflTransGen (Move platform round s.redirector.inputFlow) s next)
    (settled : s.Settled → next.Settled) : Stepped platform round s next
  | exits (failed : round.ready = none) :
    Stepped platform round s { s.observe round with status := .exited 1 }
  | aborts {ready : Events} {why : Abort} (reported : round.ready = some ready)
    (bad : BadTurn platform round ((s.observe round).select platform round ready).1
      ((s.observe round).select platform round ready).2 why) :
    Stepped platform round s { s.observe round with status := .aborted why }

/-- The lines leave everything settled. -/
theorem observe_settled (settled : s.Settled) : (s.observe round).Settled := by
  rcases observe_eq s round with same | ⟨lines, changed⟩
  · rwa [same]
  · rw [changed]
    exact settled

/-- Every step of the program is a sequence of moves, or ends it. -/
theorem step_stepped {next : Server} (well : Well s)
    (stepped : s.step platform round = some next) : Stepped platform round s next := by
  -- The world changes the lines before the turn, which is a move like those inside it.
  have observed : ReflTransGen (Move platform round s.redirector.inputFlow) s _ :=
    observe_moves s round
  unfold step at stepped
  split at stepped
  · obtain rfl := Option.some.inj stepped
    have turned : Turned platform round _ _ := turn_turned (well.moves observed) round
    have flow := observe_flow s round
    generalize (s.observe round).turn platform round = result at turned
    cases turned with
    | goesOn moved settled =>
      rw [flow] at moved
      exact .goesOn (observed.trans moved) fun before => settled (observe_settled before)
    | starts moved settled =>
      rw [flow] at moved
      exact .goesOn (observed.trans moved) fun _ => settled
    | exits failed => exact .exits failed
    | aborts reported bad => exact .aborts reported bad
  · cases stepped

/-- Only the lines change. -/
theorem observe_lines (s : Server) (round : Round) :
    ∃ lines, s.observe round = { s with redirector.port.lines := lines } := by
  rcases observe_eq s round with same | changed
  · exact ⟨s.redirector.port.lines, same⟩
  · exact changed

/-- The server that has looked at the lines and the clock, and the events that it has found. -/
structure Looks (platform : Platform) (round : Round) (ready : Events) (s looked : Server)
    (events : Events) : Prop where
  well : Well looked
  asked : Asked s.redirector.inputFlow events looked
  sockets : looked.inSocketFd = s.inSocketFd ∧ looked.outSocketFd = s.outSocketFd
  deviceFd : looked.deviceFd = s.deviceFd
  states : looked.states = s.states
  notices : looked.notices = s.notices
  streams : looked.fromNet = s.fromNet ∧ looked.toDev = s.toDev ∧ looked.toNet = s.toNet
  status : looked.status = s.status
  modemState : looked.modemState = s.modemState
  modemStateMask : looked.redirector.modemStateMask = s.redirector.modemStateMask
  fromDev : looked.fromDev = s.fromDev
  sending : looked.redirector.sendsBinary = s.redirector.sendsBinary ∧
    looked.redirector.escWriteLast = s.redirector.escWriteLast
  buffers : looked.redirector.toNetBuf = s.redirector.toNetBuf ∧
    looked.redirector.toDevBuf = s.redirector.toDevBuf
  lines : ∀ lines, round.lines = some lines → s.deviceFd = true →
    looked.redirector.port.lines = lines
  reported : { events with modemstate := false } =
    sercdSelect (s.requests platform) s.lSocketFd ready
  modemstate : events.modemstate = ((s.requests platform).modemstate &&
    (pollModemState s.lastPoll round.newpoll round.later).1)

/-- Only a program that runs takes a step. -/
theorem running_of_step {next : Server} (stepped : s.step platform round = some next) :
    s.status = .running := by
  unfold step at stepped
  split at stepped
  · assumption
  · cases stepped

/-- A turn in which select fails ends the program. -/
theorem step_exits (well : Well s) (running : s.status = .running) (failed : round.ready = none) :
    s.step platform round = some ((s.observe round).settle (.error (.exit 1))) := by
  -- A select that fails is fatal, whatever the lines were.
  have observing : ReflTransGen (Move platform round true) s (s.observe round) :=
    observe_moves s round
  unfold step
  rw [if_pos running]
  unfold turn
  dsimp only
  rw [(well.moves observing).listening, Bool.not_true, Bool.and_false,
    if_neg Bool.false_ne_true, failed]

/-! Parts of a turn that are not called for. -/

/-- A device that is not to be read from is left alone. -/
theorem serialInput_skip (idle : events.deviceIn = false) :
    s.serialInput platform events round = .ok s := by
  rw [serialInput, idle]
  rfl

/-- A device that is not to be written to is left alone. -/
theorem serialOutput_skip (idle : events.deviceOut = false) :
    s.serialOutput platform events round = .ok s := by
  rw [serialOutput, idle]
  rfl

/-- A client that is not to be written to is left alone. -/
theorem networkOutput_skip (idle : events.socketOut = false) :
    s.networkOutput platform events round = .ok s := by
  rw [networkOutput, idle]
  rfl

/-- A client that is not to be read from is left alone. -/
theorem networkInput_skip (idle : events.socketIn = false) :
    s.networkInput platform events round = .ok s := by
  rw [networkInput, idle]
  rfl

/-- Without a client that connects none is accepted. -/
theorem acceptConnection_skip (idle : events.socketConnect = false) :
    s.acceptConnection events round = .ok s := by
  rw [acceptConnection, idle]
  rfl

/-- A device that is open is not opened again. -/
theorem openDevice_skip (open_ : s.deviceFd = true) : s.openDevice platform round = .ok s := by
  rw [openDevice, open_, Bool.not_true, Bool.and_false]
  rfl

/-- A modem state that is not to be looked at is left alone. -/
theorem notifyModemState_skip (idle : events.modemstate = false) :
    s.notifyModemState events = .ok s := by
  rw [notifyModemState, idle]
  rfl

section

variable {first second third last : Server}
  (input : s.serialInput platform events round = .ok first)
  (output : first.serialOutput platform events round = .ok second)
  (sent : second.networkOutput platform events round = .ok third)

include input output sent

/-- A turn in which nobody connects comes to the modem state behind its reads and writes. -/
theorem serve_transferred (received : third.networkInput platform events round = .ok last)
    (socketConnect : events.socketConnect = false) (open_ : last.deviceFd = true) :
    s.serve platform events round = last.notifyModemState events := by
  -- Each part is known by its result, so the turn is computed from one to the next.
  have exchanged : s.exchange platform events round = .ok last := by
    unfold exchange transfer
    rw [input]
    dsimp only [bind, Except.bind]
    rw [output]
    dsimp only
    rw [sent]
    dsimp only
    rw [received]
    dsimp only
    rw [acceptConnection_skip socketConnect]
    exact openDevice_skip open_
  unfold serve
  rw [exchanged]
  rfl

/-- A turn that does not get beyond the last of its reads. -/
theorem serve_interrupted {jump : Jump}
    (lost : third.networkInput platform events round = .error jump) :
    s.serve platform events round = .error jump := by
  -- The parts before the loss go through, and those behind it are left out.
  unfold serve exchange transfer
  rw [input]
  dsimp only [bind, Except.bind]
  rw [output]
  dsimp only
  rw [sent]
  dsimp only
  rw [lost]

end

/-- A turn in which nothing is called for changes nothing. -/
theorem serve_skip (open_ : s.deviceFd = true) (deviceIn : events.deviceIn = false)
    (deviceOut : events.deviceOut = false) (socketOut : events.socketOut = false)
    (socketIn : events.socketIn = false) (socketConnect : events.socketConnect = false)
    (modemstate : events.modemstate = false) : s.serve platform events round = .ok s := by
  rw [serve_transferred (serialInput_skip deviceIn) (serialOutput_skip deviceOut)
    (networkOutput_skip socketOut) (networkInput_skip socketIn) socketConnect open_]
  exact notifyModemState_skip modemstate

/-- A turn that serves a client; where nothing is reported there is nothing to be done. -/
theorem step_serves (platform : Platform) {ready : Events} (well : Well s)
    (running : s.status = .running) (open_ : s.deviceFd = true)
    (reported : round.ready = some ready) :
    ∃ events looked, Looks platform round ready s looked events ∧
      s.step platform round =
        some ((s.observe round).settle (looked.serve platform events round)) := by
  -- Looking at the lines and at the clock changes neither the buffers nor the descriptors.
  have observing : ReflTransGen (Move platform round true) s (s.observe round) :=
    observe_moves s round
  have still := well.moves observing
  obtain ⟨lines, observed⟩ := observe_lines s round
  generalize selected : (s.observe round).select platform round ready = result
  obtain ⟨events, looked⟩ := result
  have asked : Asked s.redirector.inputFlow events looked := by
    have asked : Asked _ ((s.observe round).select platform round ready).1 _ :=
      select_asked ready
    rw [selected, observe_flow] at asked
    exact asked
  have looks : Looks platform round ready s looked events := by
    have first := congrArg Prod.fst selected
    have second := congrArg Prod.snd selected
    rw [observed] at first second
    dsimp only at first second
    subst first second
    refine ⟨?_, asked, ⟨rfl, rfl⟩, rfl, rfl, rfl, ⟨rfl, rfl, rfl⟩, rfl, rfl, rfl, rfl, ⟨rfl, rfl⟩,
      ⟨rfl, rfl⟩, ?_, rfl, ?_⟩
    · rw [observed] at still
      exact ⟨still.sound, still.sockets, still.device, still.listening, still.enabled⟩
    · intro lines' changed open_
      unfold observe at observed
      rw [changed] at observed
      dsimp only at observed
      rw [if_pos open_] at observed
      exact (congrArg (fun s : Server => s.redirector.port.lines) observed).symm
    · change (if (s.requests platform).modemstate then
        pollModemState s.lastPoll round.newpoll round.later else (false, s.lastPoll)).1 = _
      cases (s.requests platform).modemstate <;> rfl
  refine ⟨events, looked, looks, ?_⟩
  unfold step
  rw [if_pos running]
  unfold turn
  dsimp only
  rw [still.listening, Bool.not_true, Bool.and_false, if_neg Bool.false_ne_true, reported]
  dsimp only
  rw [selected]
  dsimp only
  split
  · next none_ =>
    subst none_
    rw [serve_skip (looks.deviceFd.trans open_) rfl rfl rfl rfl rfl rfl]
    rfl
  · rfl

/-- A turn that goes on with the device open has come to its end. -/
theorem step_completed {next : Server} (well : Well s) (open_ : s.deviceFd = true)
    (stepped : s.step platform round = some next) (goesOn : next.status = .running)
    (still : next.deviceFd = true) :
    ∃ ready events looked, round.ready = some ready ∧ Looks platform round ready s looked events ∧
      looked.serve platform events round = .ok next := by
  have running := running_of_step stepped
  obtain ⟨ready, reported⟩ : ∃ ready, round.ready = some ready := by
    refine Option.ne_none_iff_exists'.mp fun failed => ?_
    rw [step_exits well running failed] at stepped
    cases stepped
    cases goesOn
  obtain ⟨events, looked, looks, served⟩ := step_serves platform well running open_ reported
  refine ⟨ready, events, looked, reported, looks, ?_⟩
  have ends : Ends platform round _ events _ looked _ := serve_ends looks.well looks.asked
  generalize looked.serve platform events round = result at served ends ⊢
  rw [served] at stepped
  cases stepped
  cases result with
  | ok last => rfl
  | error jump =>
    -- A turn that ends early leaves no device open, or no program.
    cases jump with
    | next =>
      obtain ⟨-, closed⟩ := ends
      exact absurd (closed.1.symm.trans still) (by decide)
    | abort => cases goesOn
    | exit => exact ends.elim

end Server

end SerialPort.Sercd
