import SerialPort.Library.Telnet
import SerialPort.Sercd.Redirector

/-! What the engine sends, as tokens of a telnet stream. -/

namespace SerialPort.Sercd

open Telnet (Token stuff encode)

/-- A NUL goes between a CR and what follows it, unless that is a LF or data are binary. -/
def pad (binary : Bool) (last c : UInt8) : Bytes :=
  if c ≠ tnIac ∧ c ≠ 0x0A ∧ binary = false ∧ last = 0x0D then [0x00, c] else [c]

/-- The bytes to the network before their escaping; the state is the one that came last. -/
def padder (binary : Bool) : Transducer UInt8 UInt8 UInt8 where
  next _ c := c
  answer last c := pad binary last c

/-- A byte takes at most two bytes, whether it is escaped or has a NUL before it. -/
theorem pad_stuff_length_le (binary : Bool) (last c : UInt8) :
    ((pad binary last c).flatMap stuff).length ≤ 2 := by
  -- No byte has both: the escape byte is never padded, and a NUL is not escaped.
  unfold pad
  split
  · next padded =>
    have single : stuff c = [c] := if_neg padded.1
    rw [List.flatMap_cons, List.flatMap_singleton, single]
    exact Nat.le_refl 2
  · rw [List.flatMap_singleton, stuff]
    split
    · exact Nat.le_refl 2
    · exact Nat.le_succ 1

/-- So a text takes at most two bytes for each of its own. -/
theorem padder_length_le (binary : Bool) (last : UInt8) (bytes : Bytes) :
    (((padder binary).answers last bytes).flatMap stuff).length ≤ 2 * bytes.length := by
  -- The byte before is a parameter, since each byte is padded by the one before it.
  induction bytes generalizing last with
  | nil => exact Nat.zero_le _
  | cons c bytes ih =>
    have here := pad_stuff_length_le binary last c
    have there := ih c
    rw [Transducer.answers_cons, List.flatMap_append, List.length_append, List.length_cons]
    simp only [padder] at there ⊢
    omega

namespace Redirector

variable (platform : Platform) (r : Redirector)

/-- The engine with another buffer to the network. -/
def withNet (buffer : BufferType) : Redirector :=
  { r with toNetBuf := buffer }

/-- Adds some bytes to the buffer to the network. -/
def emit (bytes : Bytes) : Except Abort Redirector :=
  (r.toNetBuf.addAll bytes).map r.withNet

/-- Whether the client is sent binary data. -/
def sendsBinary : Bool :=
  (r.tnstate tnTransmitBinary).isWill

/-- Output that finds room is appended to the buffer. -/
theorem emit_ok {bytes : Bytes} (room : bytes.length ≤ r.toNetBuf.bufferRoomLeft) :
    r.emit bytes = .ok (r.withNet (r.toNetBuf.append bytes)) := by
  rw [emit, BufferType.addAll_ok _ room]
  rfl

/-- Output that does not find room fails the assertion. -/
theorem emit_full {bytes : Bytes} (full : r.toNetBuf.bufferRoomLeft < bytes.length) :
    r.emit bytes = .error .assertion := by
  rw [emit, BufferType.addAll_full _ full]
  rfl

/-- No output changes nothing. -/
@[simp] theorem emit_nil : r.emit [] = .ok r := rfl

/-- What follows some output and is itself output, is output behind it. -/
theorem emit_bind {next : Redirector} {bytes more : Bytes}
    {action : Redirector → Except Abort Redirector} (same : next.toNetBuf = r.toNetBuf)
    (acts : ∀ buffer, action (r.withNet buffer) = (next.withNet buffer).emit more) :
    (r.emit bytes >>= action) = next.emit (bytes ++ more) := by
  -- The action finds the buffer with the first bytes in it, or none if they did not fit.
  simp only [emit, BufferType.addAll_append, same]
  cases added : r.toNetBuf.addAll bytes with
  | error why => rfl
  | ok buffer =>
    show action (r.withNet buffer) = _
    rw [acts]
    rfl

/-- A change of something else can as well be made before the output. -/
theorem emit_map {next : Redirector} {bytes : Bytes} {change : Redirector → Redirector}
    (same : next.toNetBuf = r.toNetBuf)
    (changes : ∀ buffer, change (r.withNet buffer) = next.withNet buffer) :
    (r.emit bytes >>= fun r => pure (change r)) = next.emit bytes := by
  have whole : (r.emit bytes >>= fun r => pure (change r)) = next.emit (bytes ++ []) :=
    emit_bind r same fun buffer => by rw [changes, emit_nil]; rfl
  rwa [List.append_nil] at whole

/-- A single byte is an output of one byte. -/
theorem putNet_eq (c : UInt8) : r.putNet c = r.emit [c] := by
  -- A list of one byte is added by one call.
  simp only [putNet, emit, BufferType.addAll, List.foldlM_cons, List.foldlM_nil]
  cases r.toNetBuf.addToBuffer c <;> rfl

/-- A byte of data is sent escaped, and after a NUL where one is needed. -/
theorem escWriteChar_eq (c : UInt8) :
    r.escWriteChar c = { r with escWriteLast := c }.emit
      ((pad r.sendsBinary r.escWriteLast c).flatMap stuff) := by
  -- Whatever went before, the byte itself is added and then remembered.
  have rest : ∀ buffer, ((r.withNet buffer).putNet c >>= fun r =>
      pure { r with escWriteLast := c }) =
        (withNet { r with escWriteLast := c } buffer).emit [c] := by
    intro buffer
    rw [putNet_eq]
    exact emit_map _ rfl fun _ => rfl
  unfold escWriteChar
  by_cases escaped : c = tnIac
  · -- The escape byte comes twice.
    have word : pad r.sendsBinary r.escWriteLast c = [c] := if_neg fun padded => padded.1 escaped
    rw [if_pos escaped, word, putNet_eq]
    subst c
    exact emit_bind r rfl rest
  · have single : stuff c = [c] := if_neg escaped
    rw [if_neg escaped]
    by_cases padded : c ≠ 0x0A ∧ (r.tnstate tnTransmitBinary).isWill = false ∧
        r.escWriteLast = 0x0D
    · have word : pad r.sendsBinary r.escWriteLast c = [0x00, c] := if_pos ⟨escaped, padded⟩
      rw [if_pos padded, word, putNet_eq, List.flatMap_cons, List.flatMap_singleton, single]
      exact emit_bind r rfl rest
    · have word : pad r.sendsBinary r.escWriteLast c = [c] := if_neg fun all => padded all.2
      rw [if_neg padded, word, List.flatMap_singleton, single]
      exact rest r.toNetBuf

/-- The bytes of a string are sent one after another. -/
theorem sendStr_eq (str : Bytes) :
    r.sendStr str = { r with escWriteLast := (padder r.sendsBinary).after r.escWriteLast str }.emit
      (((padder r.sendsBinary).answers r.escWriteLast str).flatMap stuff) := by
  -- What a byte leaves behind is the engine from which the rest is sent.
  induction str generalizing r with
  | nil => rfl
  | cons c str ih =>
    rw [sendStr, List.foldlM_cons, escWriteChar_eq, Transducer.answers_cons, List.flatMap_append]
    exact emit_bind _ rfl fun buffer => ih (withNet { r with escWriteLast := c } buffer)

/-- An option is sent as one token. -/
theorem sendTelnetOption_eq (command option : UInt8) :
    r.sendTelnetOption command option = r.emit (Token.option command option).bytes := by
  -- An option is not escaped: the token is the three bytes.
  have bytes : (Token.option command option).bytes = [tnIac] ++ ([command] ++ [option]) := rfl
  rw [bytes]
  simp only [sendTelnetOption, putNet_eq]
  exact emit_bind r rfl fun _ => emit_bind _ rfl fun _ => rfl

/-- The parameter of a CPC command as the client reads it. -/
def padded (parameter : Bytes) : Bytes :=
  (padder r.sendsBinary).answers r.escWriteLast parameter

/-- A CPC command as one token. -/
def cpcToken (command : UInt8) (parameter : Bytes) : Token :=
  .sub (tncomPortOption :: command :: r.padded parameter)

/-- The engine behind a CPC command, apart from the buffer. -/
def afterCPC (parameter : Bytes) : Redirector :=
  { r with escWriteLast := (padder r.sendsBinary).after r.escWriteLast parameter }

/-- A CPC command is sent as one token. -/
theorem sendCPC_eq (command : UInt8) (parameter : Bytes) (plain : command ≠ tnIac) :
    r.sendCPC command parameter =
      (r.afterCPC parameter).emit (r.cpcToken command parameter).bytes := by
  -- The marks and the command stand as they are, and only the parameter is escaped.
  have bytes : (r.cpcToken command parameter).bytes =
      [tnIac] ++ ([tnSb] ++ ([tncomPortOption] ++ ([command] ++
        ((r.padded parameter).flatMap stuff ++ ([tnIac] ++ [tnSe]))))) := by
    have single : stuff command = [command] := if_neg plain
    have option : stuff tncomPortOption = [tncomPortOption] := rfl
    simp only [cpcToken, Token.bytes, List.flatMap_cons, single, option, List.append_assoc]
    rfl
  rw [bytes]
  simp only [sendCPC, putNet_eq]
  refine emit_bind r rfl fun _ => emit_bind _ rfl fun _ => emit_bind _ rfl fun _ =>
    emit_bind _ rfl fun buffer => ?_
  rw [sendStr_eq]
  exact emit_bind _ rfl fun _ => emit_bind _ rfl fun _ => rfl

/-- The negotiations with which a connection begins. -/
def initialTokens : List Token :=
  [.option tnWill tnTransmitBinary, .option tnDo tnTransmitBinary, .option tnWill tnEcho,
    .option tnWill tnSuppressGoAhead, .option tnDo tnSuppressGoAhead, .option tnDo tncomPortOption]

/-- The engine that has made its offers. -/
def offering : Redirector :=
  let will (state : TnState) : TnState := { state with sentWill := true }
  let do_ (state : TnState) : TnState := { state with sentDo := true }
  (((((r.setOption tnTransmitBinary will).setOption tnTransmitBinary do_).setOption
    tnEcho will).setOption tnSuppressGoAhead will).setOption tnSuppressGoAhead do_).setOption
    tncomPortOption do_

/-- The initial negotiations are one token for each offer. -/
theorem sendTelnetInitialOptions_eq :
    r.sendTelnetInitialOptions = r.offering.emit (encode initialTokens) := by
  -- One output for each offer; the changes of the states between them are made first.
  have bytes : encode initialTokens =
      (Token.option tnWill tnTransmitBinary).bytes ++ ((Token.option tnDo tnTransmitBinary).bytes ++
        ((Token.option tnWill tnEcho).bytes ++ ((Token.option tnWill tnSuppressGoAhead).bytes ++
          ((Token.option tnDo tnSuppressGoAhead).bytes ++
            (Token.option tnDo tncomPortOption).bytes)))) := rfl
  rw [bytes]
  simp only [sendTelnetInitialOptions, sendTelnetOption_eq]
  refine emit_bind r rfl fun _ => emit_bind _ rfl fun _ => emit_bind _ rfl fun _ =>
    emit_bind _ rfl fun _ => emit_bind _ rfl fun _ => ?_
  exact emit_map _ rfl fun _ => rfl

/-- The offers take six times three bytes. -/
theorem encode_initialTokens_length : (encode initialTokens).length = 18 := rfl

end Redirector

end SerialPort.Sercd
