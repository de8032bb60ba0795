import SerialPort.Sercd.Handling

/-! What the engine makes of the bytes from the network. -/

namespace SerialPort.Sercd

open Telnet (Token encode)

/-- The length at which a command is complete, unless it is a signature. -/
def completeLength (command : Bytes) : Nat :=
  if byteAt command 1 = tnSb then
    if byteAt command 3 = tncasSetBaudrate then 10
    else if byteAt command 3 = tncasFlowcontrolSuspend ∨
        byteAt command 3 = tncasFlowcontrolResume then 6
    else 7
  else 3

/-- Whether a command is a subnegotiation with the signature of the client. -/
def isSignature (command : Bytes) : Prop :=
  byteAt command 1 = tnSb ∧ 4 ≤ command.length ∧ byteAt command 3 = tncasSignature

/-- A command that is being received is shorter than a complete one. -/
structure Unfinished (command : Bytes) : Prop where
  begun : 2 ≤ command.length
  fits : command.length ≤ tmpStrLen
  short : ¬isSignature command → command.length < completeLength command

/-- A command that is handed over has all the bytes that are read from it. -/
structure Complete (command : Bytes) : Prop where
  fits : command.length ≤ tmpStrLen
  signature : isSignature command → 6 ≤ command.length
  whole : ¬isSignature command → command.length = completeLength command

/-- No command but a signature is longer than a request for a speed. -/
theorem completeLength_le (command : Bytes) : completeLength command ≤ 10 := by
  unfold completeLength
  split
  · split
    · exact Nat.le_refl 10
    · split
      · exact by decide
      · exact by decide
  · exact by decide

/-- No command ends before its third byte. -/
theorem two_lt_completeLength (command : Bytes) : 2 < completeLength command := by
  -- A command is at least an option.
  unfold completeLength
  split
  · split
    · decide
    · split <;> decide
  · decide

/-- No subnegotiation ends before its sixth byte. -/
theorem six_le_completeLength {command : Bytes} (sub : byteAt command 1 = tnSb) :
    6 ≤ completeLength command := by
  unfold completeLength
  rw [if_pos sub]
  split
  · decide
  · split <;> decide

section

variable {command : Bytes} (more : Bytes)

/-- What comes behind a command does not change the bytes in it. -/
theorem byteAt_append {position : Nat} (inside : position < command.length) :
    byteAt (command ++ more) position = byteAt command position := by
  simp only [byteAt, List.getD_eq_getElem?_getD, List.getElem?_append_left inside]

/-- What decides on the length of a command is known from its first four bytes. -/
theorem completeLength_append (known : byteAt command 1 ≠ tnSb ∨ 4 ≤ command.length)
    (begun : 2 ≤ command.length) :
    completeLength (command ++ more) = completeLength command := by
  have verb := byteAt_append more (show 1 < command.length by omega)
  unfold completeLength
  rw [verb]
  split
  · next sub =>
    -- The request only matters for a subnegotiation.
    rcases known with other | long
    · exact absurd sub other
    · rw [byteAt_append more (show 3 < command.length by omega)]
  · rfl

/-- Whether a command is a signature is known from its first four bytes as well. -/
theorem isSignature_append (known : byteAt command 1 ≠ tnSb ∨ 4 ≤ command.length)
    (begun : 2 ≤ command.length) : isSignature (command ++ more) ↔ isSignature command := by
  have verb := byteAt_append more (show 1 < command.length by omega)
  unfold isSignature
  rw [verb, List.length_append]
  -- What tells a signature apart is the first four bytes, which are there already.
  rcases known with other | long
  · exact ⟨fun same => absurd same.1 other, fun same => absurd same.1 other⟩
  · rw [byteAt_append more (show 3 < command.length by omega)]
    exact ⟨fun ⟨sub, _, request⟩ => ⟨sub, long, request⟩,
      fun ⟨sub, _, request⟩ => ⟨sub, by omega, request⟩⟩

end

namespace Receiver

/-- While a command is received, what has come of it is not yet a complete one. -/
def Sound (v : Receiver) : Prop :=
  v.iacEscape = .comReceiving → Unfinished v.iacCommand

/-- What a step of the receiver leaves, and what it may hand over. -/
structure Took (next : Receiver) (received : Received) : Prop where
  sound : next.Sound
  complete : ∀ command, received = .command command → Complete command

variable {v : Receiver} {c : UInt8}

/-- Behind a complete command the next byte is a normal one. -/
theorem took_finish (complete : Complete v.iacCommand) :
    Took v.finishCommand.1 v.finishCommand.2 where
  sound := fun receiving => by cases receiving
  complete := by
    rintro command handed
    cases handed
    exact complete

/-- Outside of commands nothing is handed over. -/
theorem took_idle {received : Received} (idle : v.iacEscape ≠ .comReceiving)
    (quiet : ∀ command, received ≠ .command command) : Took v received where
  sound := fun receiving => absurd receiving idle
  complete := fun command handed => absurd handed (quiet command)

/-- A byte that does not complete a command makes it longer. -/
theorem took_silent (unfinished : Unfinished v.iacCommand) : Took v .nothing where
  sound := fun _ => unfinished
  complete := by
    rintro command handed
    cases handed

/-- A byte is stored where there is room. -/
theorem storeCommand_ok (room : v.iacCommand.length < tmpStrLen) :
    v.storeCommand c = .ok { v with iacCommand := v.iacCommand ++ [c] } :=
  if_pos room

/-- A byte is stored in a command of a known length, which it may complete. -/
theorem storeUntil_took (c : UInt8) (unfinished : Unfinished v.iacCommand)
    (known : byteAt v.iacCommand 1 ≠ tnSb ∨ 4 ≤ v.iacCommand.length)
    (other : ¬isSignature v.iacCommand) :
    ∃ next received, v.storeUntil (completeLength v.iacCommand) c = .ok (next, received) ∧
      Took next received := by
  have short := unfinished.short other
  have bound := completeLength_le v.iacCommand
  have room : v.iacCommand.length < 255 := by omega
  have longer : (v.iacCommand ++ [c]).length = v.iacCommand.length + 1 := by simp
  have limit := completeLength_append [c] known unfinished.begun
  -- One more byte decides nothing about the kind of the command.
  have other' : ¬isSignature (v.iacCommand ++ [c]) :=
    fun same => other ((isSignature_append [c] known unfinished.begun).mp same)
  have fits : v.iacCommand.length + 1 ≤ tmpStrLen := room
  unfold storeUntil
  rw [storeCommand_ok room]
  simp only [bind, Except.bind, pure, Except.pure]
  by_cases whole : (v.iacCommand ++ [c]).length = completeLength v.iacCommand
  · rw [if_pos whole]
    refine ⟨_, _, rfl, took_finish ⟨?_, fun same => absurd same other', fun _ => ?_⟩⟩
    · exact longer ▸ fits
    · exact whole.trans limit.symm
  · rw [if_neg whole]
    refine ⟨_, _, rfl, took_silent ⟨?_, ?_, fun _ => ?_⟩⟩
    · have begun := unfinished.begun
      exact longer ▸ by omega
    · exact longer ▸ fits
    · rw [limit]
      -- Not being complete, the command is still too short.
      have less : (v.iacCommand ++ [c]).length ≤ completeLength v.iacCommand := by omega
      exact Nat.lt_of_le_of_ne less whole

/-- A signature is stored as far as there is room for it. -/
theorem storeIfRoom_signature (c : UInt8) (unfinished : Unfinished v.iacCommand)
    (signature : isSignature v.iacCommand) :
    Unfinished (v.storeIfRoom c).iacCommand ∧ isSignature (v.storeIfRoom c).iacCommand ∧
      min (v.iacCommand.length + 1) tmpStrLen ≤ (v.storeIfRoom c).iacCommand.length := by
  unfold storeIfRoom
  split
  · -- Stored: the command is longer by the byte.
    next room =>
    have longer : (v.iacCommand ++ [c]).length = v.iacCommand.length + 1 := by simp
    have begun := unfinished.begun
    have still := (isSignature_append [c] (.inr signature.2.1) begun).mpr signature
    refine ⟨⟨?_, ?_, fun other => absurd still other⟩, still, ?_⟩
    · exact longer ▸ by omega
    · exact longer ▸ room
    · exact longer ▸ Nat.min_le_left _ _
  · -- Full: a signature's text is cut off here, and nothing is stored.
    next full => exact ⟨unfinished, signature, by omega⟩

/-- A byte of a signature is stored, or escapes the next one, or ends the signature. -/
theorem receiveSignature_took (unfinished : Unfinished v.iacCommand)
    (signature : isSignature v.iacCommand) :
    Took (v.receiveSignature c).1 (v.receiveSignature c).2 := by
  obtain ⟨stored, -, -⟩ := storeIfRoom_signature c unfinished signature
  unfold receiveSignature
  split
  · split
    · exact took_silent unfinished
    · exact took_silent stored
  · exact took_silent unfinished
  · split
    · exact took_silent stored
    · -- The two bytes that end the signature are stored if there is room for them.
      obtain ⟨first, still, long⟩ := storeIfRoom_signature tnIac unfinished signature
      obtain ⟨second, ends, longer⟩ := storeIfRoom_signature c first still
      have begun := signature.2.1
      refine took_finish ⟨second.fits, fun _ => ?_, fun other => absurd ends other⟩
      simp only [tmpStrLen] at long longer
      omega

/-- A command other than a signature is received up to its length, once that is known. -/
theorem receiveCommand_eq (known : byteAt v.iacCommand 1 ≠ tnSb ∨ 4 ≤ v.iacCommand.length)
    (other : ¬isSignature v.iacCommand) :
    v.receiveCommand c = v.storeUntil (completeLength v.iacCommand) c := by
  unfold receiveCommand completeLength
  by_cases sub : byteAt v.iacCommand 1 = tnSb
  · have long : 4 ≤ v.iacCommand.length := known.resolve_left fun no => no sub
    -- Long enough to tell: it is a request other than a signature.
    have request : byteAt v.iacCommand 3 ≠ tncasSignature := fun same => other ⟨sub, long, same⟩
    rw [if_pos sub, if_pos sub, if_neg (Nat.not_lt.mpr long)]
    dsimp only
    rw [if_neg request]
    split
    · rfl
    · split <;> rfl
  · rw [if_neg sub, if_neg sub]

/-- A signature is received up to its end, wherever that is. -/
theorem receiveCommand_signature (signature : isSignature v.iacCommand) :
    v.receiveCommand c = .ok (v.receiveSignature c) := by
  obtain ⟨sub, long, request⟩ := signature
  rw [receiveCommand, if_pos sub, if_neg (Nat.not_lt.mpr long)]
  exact if_pos request

/-- Storing never goes beyond the end, whatever the client sends. -/
theorem receiveCommand_took (unfinished : Unfinished v.iacCommand) :
    ∃ next received, v.receiveCommand c = .ok (next, received) ∧ Took next received := by
  by_cases known : byteAt v.iacCommand 1 ≠ tnSb ∨ 4 ≤ v.iacCommand.length
  · by_cases signature : isSignature v.iacCommand
    · exact ⟨_, _, receiveCommand_signature signature, receiveSignature_took unfinished signature⟩
    · rw [receiveCommand_eq known signature]
      exact storeUntil_took c unfinished known signature
  · -- The option and the request are stored before anything is decided.
    obtain ⟨sub, head⟩ := not_or.mp known
    rw [not_not] at sub
    rw [Nat.not_le] at head
    have begun := unfinished.begun
    have room : v.iacCommand.length < tmpStrLen := Nat.lt_trans head (by decide)
    -- Up to here every subnegotiation is too short to be complete.
    have late := six_le_completeLength ((byteAt_append [c] (show 1 < _ from begun)).trans sub)
    have longer : (v.iacCommand ++ [c]).length = v.iacCommand.length + 1 := by simp
    rw [receiveCommand, if_pos sub, if_pos head, storeCommand_ok room]
    refine ⟨_, _, rfl, took_silent ⟨?_, ?_, fun _ => ?_⟩⟩
    · exact longer ▸ by omega
    · exact longer ▸ room
    · change (v.iacCommand ++ [c]).length < completeLength (v.iacCommand ++ [c])
      omega

/-- Storing never goes beyond the end of the memory, whatever the client sends. -/
theorem receive_took (sound : v.Sound) (binary : Bool) (c : UInt8) :
    ∃ next received, v.receive binary c = .ok (next, received) ∧ Took next received := by
  -- The last byte plays no part in whether a command is sound.
  have scanned : ∃ next received, v.scan binary c = .ok (next, received) ∧
      Took next received := by
    unfold scan
    split
    · next normal =>
      have idle : v.iacEscape ≠ .comReceiving := by simp [normal]
      split
      · exact ⟨_, _, rfl, took_idle (by simp) (by simp)⟩
      split
      · exact ⟨_, _, rfl, took_idle idle (by simp)⟩
      · exact ⟨_, _, rfl, took_idle idle (by simp)⟩
    · split
      · exact ⟨_, _, rfl, took_idle (by simp) (by simp)⟩
      · -- A command begins with the escape byte and what follows it.
        have fits : 2 ≤ tmpStrLen := by decide
        exact ⟨_, _, rfl, took_silent ⟨Nat.le_refl 2, fits, fun _ => two_lt_completeLength _⟩⟩
    · next receiving => exact receiveCommand_took (sound receiving)
  obtain ⟨next, received, result, took⟩ := scanned
  -- It is remembered behind the switch, in every case.
  refine ⟨{ next with last := c }, received, ?_, took.sound, took.complete⟩
  rw [receive, result]
  rfl

end Receiver

namespace Redirector

/-- What becomes of one byte from the network, apart from the room in the buffers. -/
inductive Redirects (platform : Platform) (r : Redirector) (receiver : Receiver) :
    Received → Except Abort Redirector → Prop where
  | nothing : Redirects platform r receiver .nothing (.ok { r with receiver := receiver })
  | data (c : UInt8) :
    Redirects platform r receiver (.data c) ({ r with receiver := receiver }.putDev c)
  | command {command : Bytes} {next : Redirector} {tokens : List Token}
    (complete : Complete command)
    (handled : Handled platform { r with receiver := receiver } command next tokens) :
    Redirects platform r receiver (.command command) (next.emit (encode tokens))

/-- A byte from the network is nothing yet, or a byte of data, or completes a command. -/
theorem escRedirectChar_redirects (platform : Platform) {r : Redirector}
    (sound : r.receiver.Sound) (c : UInt8) :
    ∃ receiver received,
      r.receiver.receive (r.tnstate tnTransmitBinary).isDo c = .ok (receiver, received) ∧
      receiver.Sound ∧ Redirects platform r receiver received (r.escRedirectChar platform c) := by
  obtain ⟨receiver, received, result, took⟩ :=
    Receiver.receive_took sound (r.tnstate tnTransmitBinary).isDo c
  refine ⟨receiver, received, result, took.sound, ?_⟩
  unfold escRedirectChar
  rw [result]
  cases received with
  -- Half a command is kept, a byte of data goes on, a whole command is handled.
  | nothing => exact .nothing
  | data c => exact .data c
  | command command =>
    obtain ⟨next, tokens, whole, handled⟩ :=
      handleIACCommand_handled platform { r with receiver := receiver } command
    change Redirects platform r receiver _
      ({ r with receiver := receiver }.handleIACCommand platform command)
    rw [whole]
    exact .command (took.complete command rfl) handled

/-- A byte adds at most one byte to the device and one answer to the network. -/
structure Passed (platform : Platform) (r next : Redirector) : Prop where
  sound : next.receiver.Sound
  net : r.toNetBuf.bufferRoomLeft ≤
    next.toNetBuf.bufferRoomLeft + escRedirectCharBytesSockB platform
  dev : r.toDevBuf.bufferRoomLeft ≤ next.toDevBuf.bufferRoomLeft + escRedirectCharBytesDevB

/-- With the room that the loop checks for, a byte from the network is passed on. -/
theorem escRedirectChar_passed (platform : Platform) {r : Redirector} (sound : r.receiver.Sound)
    (net : escRedirectCharBytesSockB platform ≤ r.toNetBuf.bufferRoomLeft)
    (dev : escRedirectCharBytesDevB ≤ r.toDevBuf.bufferRoomLeft) (c : UInt8) :
    ∃ next, r.escRedirectChar platform c = .ok next ∧ Passed platform r next := by
  obtain ⟨receiver, received, -, still, redirects⟩ := escRedirectChar_redirects platform sound c
  generalize r.escRedirectChar platform c = result at redirects ⊢
  cases redirects with
  | nothing => exact ⟨_, rfl, still, Nat.le_add_right _ _, Nat.le_add_right _ _⟩
  | data c =>
    -- The byte takes the one place that there has to be.
    have left := r.toDevBuf.store_room c dev
    refine ⟨{ r with receiver := receiver, toDevBuf := r.toDevBuf.store c }, ?_, still,
      Nat.le_add_right _ _, ?_⟩
    · rw [putDev, BufferType.addToBuffer_ok _ _ dev]
      rfl
    · change _ ≤ (r.toDevBuf.store c).bufferRoomLeft + _
      rw [left]
      exact Nat.le_add_of_sub_le (Nat.le_refl _)
  | @command command next tokens _ handled =>
    have toNetBuf : next.toNetBuf = r.toNetBuf := handled.toNetBuf
    have toDevBuf : next.toDevBuf = r.toDevBuf := handled.toDevBuf
    -- The answer is no longer than what the loop makes sure there is room for.
    have room : (encode tokens).length ≤ next.toNetBuf.bufferRoomLeft := by
      rw [toNetBuf]
      exact Nat.le_trans handled.short net
    have left := BufferType.append_room room
    have short := handled.short
    refine ⟨_, emit_ok next room, ?_, ?_, ?_⟩
    · exact (congrArg Receiver.Sound handled.receiver).mpr still
    · change _ ≤ (next.toNetBuf.append (encode tokens)).bufferRoomLeft + _
      rw [left, toNetBuf]
      omega
    · change _ ≤ next.toDevBuf.bufferRoomLeft + _
      rw [toDevBuf]
      exact Nat.le_add_right _ _

end Redirector

end SerialPort.Sercd
