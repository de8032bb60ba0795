import SerialPort.Sercd.Outgoing

/-! What the device and the engine hear of the client. -/

namespace SerialPort.Sercd

open Telnet (Token encode)

/-- What decides on the meaning of the next byte: the receiver, and whether data are binary. -/
structure Listener where
  receiver : Receiver
  binary : Bool
  deriving DecidableEq

/-- Whether the client sends binary data behind what it has said. -/
def Received.binaryAfter (binary : Bool) : Received → Bool
  | .command heard => Side.client.activeAfter tnTransmitBinary binary heard
  | _ => binary

def Received.toData : Received → Option UInt8
  | .data c => some c
  | _ => none

def Received.toCommand : Received → Option Bytes
  | .command heard => some heard
  | _ => none

/-- One more byte from the client. -/
def Listener.hear (listener : Listener) (c : UInt8) : Listener × Received :=
  match listener.receiver.receive listener.binary c with
  | .ok (receiver, received) => (⟨receiver, received.binaryAfter listener.binary⟩, received)
  | .error _ => (listener, .nothing)

/-- The meaning of what a client sends, whatever else goes on. -/
def hearing : Transducer Listener UInt8 Received where
  next listener c := (listener.hear c).1
  answer listener c := [(listener.hear c).2]

/-- The data that a client sends. -/
def heardData (listener : Listener) (bytes : Bytes) : Bytes :=
  (hearing.answers listener bytes).filterMap Received.toData

/-- The commands that a client sends. -/
def heardCommands (listener : Listener) (bytes : Bytes) : List Bytes :=
  (hearing.answers listener bytes).filterMap Received.toCommand

/-- The listener at the beginning of a connection and as it is. -/
def Server.listenedFirst (s : Server) : Listener :=
  ⟨s.entry, false⟩

def Server.listens (s : Server) : Listener :=
  ⟨s.redirector.receiver, (s.redirector.tnstate tnTransmitBinary).isDo⟩

/-- The engine has heard what the client has said so far, and nothing else. -/
structure Heard (s : Server) : Prop where
  listens : s.listens = hearing.after s.listenedFirst s.fromNet
  commands : s.redirector.handled = heardCommands s.listenedFirst s.fromNet

/-- The device has been sent the data that were heard, or will be sent them from the buffer. -/
structure Delivered (s : Server) : Prop where
  waiting : s.deviceFd = false → s.fromNet = [] ∧ s.toDev = []
  delivered : s.deviceFd = true →
    s.toDev ++ s.redirector.toDevBuf.contents = heardData s.listenedFirst s.fromNet

section

variable (listener : Listener) (bytes : Bytes) (c : UInt8)

/-- One more byte is heard behind all that was heard before. -/
theorem hearing_after_concat :
    hearing.after listener (bytes ++ [c]) = ((hearing.after listener bytes).hear c).1 := by
  rw [Transducer.after_append]
  rfl

/-- Its data come behind the data before it. -/
theorem heardData_concat : heardData listener (bytes ++ [c]) =
    heardData listener bytes ++ ((hearing.after listener bytes).hear c).2.toData.toList := by
  rw [heardData, Transducer.answers_append, List.filterMap_append]
  congr 1

/-- So does the command that it may complete. -/
theorem heardCommands_concat : heardCommands listener (bytes ++ [c]) =
    heardCommands listener bytes ++
      ((hearing.after listener bytes).hear c).2.toCommand.toList := by
  rw [heardCommands, Transducer.answers_append, List.filterMap_append]
  congr 1

end

variable {platform : Platform} {allowed : Round → Prop} {round : Round} {flow : Bool}
  {s next : Server}

namespace Heard

/-- What does not concern the client leaves all that was heard as it is. -/
theorem same (heard : Heard s) (receiver : next.redirector.receiver = s.redirector.receiver)
    (tnstate : next.redirector.tnstate = s.redirector.tnstate)
    (handled : next.redirector.handled = s.redirector.handled) (entry : next.entry = s.entry)
    (fromNet : next.fromNet = s.fromNet) : Heard next := by
  have first : next.listenedFirst = s.listenedFirst := by
    unfold Server.listenedFirst
    rw [entry]
  constructor
  · rw [first, fromNet, ← heard.listens]
    unfold Server.listens
    rw [receiver, tnstate]
  · rw [handled, first, fromNet, heard.commands]

variable {c : UInt8} {r : Redirector} {receiver : Receiver} {received : Received}

/-- The meaning of a byte from the network is the one that the listener finds. -/
theorem hear (heard : Heard s)
    (result : s.redirector.receiver.receive (s.redirector.tnstate tnTransmitBinary).isDo c =
      .ok (receiver, received)) :
    (hearing.after s.listenedFirst s.fromNet).hear c =
      (⟨receiver, received.binaryAfter (s.redirector.tnstate tnTransmitBinary).isDo⟩,
        received) := by
  rw [← heard.listens, Listener.hear, Server.listens, result]

/-- A byte from the network is heard for what it is. -/
theorem networkByte (heard : Heard s) (well : Well s)
    (passed : s.redirector.escRedirectChar platform c = .ok r) :
    Heard { s with redirector := r, fromNet := s.fromNet ++ [c] } := by
  obtain ⟨receiver, received, result, -, redirected⟩ :=
    Redirector.escRedirectChar_cases well.sound passed
  have step := heard.hear result
  have said : hearing.after s.listenedFirst (s.fromNet ++ [c]) =
      ⟨receiver, received.binaryAfter (s.redirector.tnstate tnTransmitBinary).isDo⟩ := by
    rw [hearing_after_concat, step]
  have commands := heardCommands_concat s.listenedFirst s.fromNet c
  rw [step, ← heard.commands] at commands
  cases redirected with
  | nothing | data => exact ⟨said.symm, (commands.trans (List.append_nil _)).symm⟩
  | @command command next tokens complete handled room =>
    refine ⟨Eq.trans ?_ said.symm, handled.handled.trans commands.symm⟩
    -- Whether the client sends binary data is decided by the command itself.
    have same : next.receiver = receiver := handled.receiver
    have binary : (next.tnstate tnTransmitBinary).isDo =
        (Side.client.partyAfter tnTransmitBinary { s.redirector with receiver := receiver }
          command).active :=
      congrArg Negotiation.Party.active (handled.options .client tnTransmitBinary)
    change (⟨next.receiver, (next.tnstate tnTransmitBinary).isDo⟩ : Listener) = _
    rw [same, binary, Side.partyAfter_active _ rfl]
    rfl

/-- Whatever move is made while a client is connected, the client has been heard. -/
theorem move (well : Well s) (heard : s.inSocketFd = true → Heard s)
    (moved : Move platform round flow s next) (connected : next.inSocketFd = true) :
    Heard next := by
  cases moved with
  | polled | stored | lines | toNetwork | toNetworkBlocked | toDevice | toDeviceBlocked | opened =>
    exact (heard connected).same rfl rfl rfl rfl rfl
  | deviceByte c open_ flows written =>
    obtain ⟨-, rfl⟩ := Redirector.escWriteChar_eq_ok written
    exact (heard connected).same rfl rfl rfl rfl rfl
  | networkByte c open_ passed => exact (heard connected).networkByte well passed
  | accepted free written =>
    -- With a new client the stream begins anew, where the receiver was left.
    obtain ⟨-, rfl⟩ := Redirector.sendTelnetInitialOptions_eq_ok written
    exact ⟨rfl, rfl⟩
  | notified newstate open_ flows looked changed written =>
    obtain ⟨-, rfl⟩ := Redirector.sendCPCByteCommand_eq_ok (by decide) written
    exact (heard connected).same rfl rfl rfl rfl rfl
  | dropped =>
    obtain ⟨port, dropped⟩ := Well.dropConnection_eq platform s
    rw [dropped] at connected
    cases connected

end Heard

namespace Delivered

/-- What does not concern the device leaves all that was delivered as it is. -/
theorem same (delivered : Delivered s) (entry : next.entry = s.entry)
    (fromNet : next.fromNet = s.fromNet) (deviceFd : next.deviceFd = s.deviceFd)
    (toDev : s.deviceFd = false → next.toDev = s.toDev)
    (stream : next.toDev ++ next.redirector.toDevBuf.contents =
      s.toDev ++ s.redirector.toDevBuf.contents) : Delivered next := by
  have first : next.listenedFirst = s.listenedFirst := by
    unfold Server.listenedFirst
    rw [entry]
  constructor
  · intro closed
    rw [deviceFd] at closed
    rw [fromNet, toDev closed]
    exact delivered.waiting closed
  · intro open_
    rw [deviceFd] at open_
    rw [stream, first, fromNet, delivered.delivered open_]

/-- A byte from the network is put into the buffer if it is data. -/
theorem networkByte (delivered : Delivered s) (heard : Heard s) (well : Well s) {c : UInt8}
    {r : Redirector} (open_ : s.deviceFd = true)
    (passed : s.redirector.escRedirectChar platform c = .ok r) :
    Delivered { s with redirector := r, fromNet := s.fromNet ++ [c] } := by
  obtain ⟨receiver, received, result, -, redirected⟩ :=
    Redirector.escRedirectChar_cases well.sound passed
  have data := heardData_concat s.listenedFirst s.fromNet c
  rw [heard.hear result, ← delivered.delivered open_] at data
  refine ⟨fun closed => absurd (closed.symm.trans open_) (by decide),
    fun _ => Eq.trans ?_ data.symm⟩
  -- Of the three things a byte can be, only data make the buffer longer.
  cases redirected with
  | nothing => exact (List.append_nil _).symm
  | data c room =>
    change s.toDev ++ (s.redirector.toDevBuf.store c).contents = _
    rw [BufferType.store_contents _ _ room, ← List.append_assoc]
    rfl
  | @command command next tokens complete handled room =>
    have dev : next.toDevBuf = s.redirector.toDevBuf := handled.toDevBuf
    change s.toDev ++ next.toDevBuf.contents = _
    rw [dev]
    exact (List.append_nil _).symm

/-- Whatever move is made while a client is connected, its data have been delivered. -/
theorem move (well : Well s) (heard : s.inSocketFd = true → Heard s)
    (delivered : s.inSocketFd = true → Delivered s) (drained : round.writeDev ≠ .wouldBlock)
    (moved : Move platform round flow s next) (connected : next.inSocketFd = true) :
    Delivered next := by
  cases moved with
  | polled | stored | lines | toNetwork | toNetworkBlocked =>
    exact (delivered connected).same rfl rfl rfl (fun _ => rfl) rfl
  | deviceByte c open_ flows written =>
    obtain ⟨-, rfl⟩ := Redirector.escWriteChar_eq_ok written
    exact (delivered connected).same rfl rfl rfl (fun _ => rfl) rfl
  | toDevice open_ some_ first =>
    refine (delivered connected).same rfl rfl rfl (fun closed => ?_) ?_
    · exact absurd (closed.symm.trans open_) (by decide)
    -- What is written moves from the buffer to the device.
    · rw [List.append_assoc, BufferType.popBytes_taken first]
  | toDeviceBlocked open_ blocked => exact absurd blocked drained
  | networkByte c open_ passed =>
    exact (delivered connected).networkByte (heard connected) well open_ passed
  | accepted free written =>
    obtain ⟨-, rfl⟩ := Redirector.sendTelnetInitialOptions_eq_ok written
    -- The streams of a connection begin with it, before the device is open.
    obtain ⟨-, closed⟩ := well.free_closed free
    exact ⟨fun _ => ⟨rfl, rfl⟩, fun open_ => absurd (closed.symm.trans open_) (by decide)⟩
  | opened settings lines waited =>
    -- Nothing has been read from the client yet, and the buffer is emptied.
    simp only [Bool.and_eq_true, Bool.not_eq_true'] at waited
    obtain ⟨unread, unwritten⟩ := (delivered connected).waiting waited.2
    refine ⟨fun _ => ⟨unread, unwritten⟩, fun _ => ?_⟩
    change s.toDev ++ s.redirector.toDevBuf.initBuffer.contents = heardData _ s.fromNet
    rw [unread, unwritten, BufferType.initBuffer_contents]
    rfl
  | notified newstate open_ flows looked changed written =>
    obtain ⟨-, rfl⟩ := Redirector.sendCPCByteCommand_eq_ok (by decide) written
    exact (delivered connected).same rfl rfl rfl (fun _ => rfl) rfl
  | dropped =>
    obtain ⟨port, dropped⟩ := Well.dropConnection_eq platform s
    rw [dropped] at connected
    cases connected

end Delivered

/-- In every run the engine has heard the client that is connected. -/
theorem Reached.heard (reached : Reached platform allowed s) (connected : s.inSocketFd = true) :
    Heard s := by
  have first : startServer.inSocketFd = true → Heard startServer := fun connected => by
    cases connected
  have heard : s.inSocketFd = true → Heard s := by
    refine reached.keeps first (fun status heard connected => ?_)
      fun _ well heard moved => Heard.move well heard moved
    exact (heard connected).same rfl rfl rfl rfl rfl
  exact heard connected

/-- While a client is connected, it has been heard and its data delivered. -/
def Server.Hears (s : Server) : Prop :=
  s.inSocketFd = true → Heard s ∧ Delivered s

/-- In every run in which no write to the device would block, it gets the data that were heard. -/
theorem Reached.delivered
    (reached : Reached platform (fun round => round.writeDev ≠ .wouldBlock) s)
    (open_ : s.deviceFd = true) :
    s.toDev ++ s.redirector.toDevBuf.contents = heardData s.listenedFirst s.fromNet := by
  have first : startServer.Hears := fun connected => by cases connected
  -- What is delivered is what was heard, so both are kept together.
  have both : s.Hears := by
    refine reached.keeps first (fun status both => ?_) fun drained well both moved => ?_
    · intro connected
      obtain ⟨heard, delivered⟩ := both connected
      exact ⟨heard.same rfl rfl rfl rfl rfl, delivered.same rfl rfl rfl (fun _ => rfl) rfl⟩
    · intro connected
      exact ⟨Heard.move well (fun connected => (both connected).1) moved connected,
        Delivered.move well (fun connected => (both connected).1)
          (fun connected => (both connected).2) drained moved connected⟩
  exact (both (reached.well.device open_)).2.delivered open_

end SerialPort.Sercd
