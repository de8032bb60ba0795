import SerialPort.Sercd.Incoming

/-! A client that speaks the protocol as the engine reads it is understood. -/

namespace SerialPort.Sercd

open Telnet (Token stuff isVerb dataBytes)

/-- The token that a command stands for. -/
def commandToken (command : Bytes) : Token :=
  if byteAt command 1 = tnSb then .sub ((command.drop 2).take (command.length - 4))
  else .option (byteAt command 1) (byteAt command 2)

def Received.toToken : Received → Option Token
  | .nothing => none
  | .data c => some (.data c)
  | .command heard => some (commandToken heard)

/-- What is understood of what a client sends. -/
def understanding : Transducer Listener UInt8 Token where
  next := hearing.next
  answer listener c := (listener.hear c).2.toToken.toList

section

variable (listener : Listener) (bytes : Bytes)

end

/-- A client that remembers the byte it has sent last, and whether its data are binary. -/
structure Speaker where
  last : UInt8
  binary : Bool
  deriving DecidableEq

namespace Speaker

/-- A client sends binary data once it has said so, and until it says otherwise. -/
def next (speaker : Speaker) : Token → Speaker
  | .data c => ⟨c, speaker.binary⟩
  | .command code => ⟨code, speaker.binary⟩
  | .option verb subject =>
    ⟨subject, if subject = tnTransmitBinary then
      if verb = tnWill then true else if verb = tnWont then false else speaker.binary
      else speaker.binary⟩
  | .sub _ => ⟨tnSe, speaker.binary⟩

/-- A NUL goes behind a CR in data that are not binary, and the escape byte is doubled. -/
def say (speaker : Speaker) : Token → Bytes
  | .data c => (pad speaker.binary speaker.last c).flatMap stuff
  | token => token.bytes

end Speaker

/-- A client that says some tokens. -/
def speaking : Transducer Speaker Token UInt8 where
  next := Speaker.next
  answer := Speaker.say

/-- A subnegotiation as the engine keeps it, without the escapes. -/
def frame (payload : Bytes) : Bytes :=
  [tnIac, tnSb] ++ payload ++ [tnIac, tnSe]

/-- The bytes that take a listener to another one, and what is understood of them. -/
structure Hears (listener : Listener) (bytes : Bytes) (tokens : List Token) (next : Listener) :
    Prop where
  answers : understanding.answers listener bytes = tokens
  after : understanding.after listener bytes = next

namespace Hears

variable {listener middle last : Listener} {bytes more : Bytes} {tokens others : List Token}
  {c : UInt8} {received : Received}

/-- Who hears nothing understands nothing. -/
theorem nil : Hears listener [] [] listener := ⟨rfl, rfl⟩

/-- What is heard in two parts is understood in two parts. -/
theorem append (first : Hears listener bytes tokens middle)
    (second : Hears middle more others last) :
    Hears listener (bytes ++ more) (tokens ++ others) last where
  answers := by
    rw [Transducer.answers_append, first.after, first.answers, second.answers]
  after := by
    rw [Transducer.after_append, first.after, second.after]

/-- One byte, of which the receiver knows what it completes. -/
theorem single {v receiver : Receiver} {binary : Bool}
    (taken : v.receive binary c = .ok (receiver, received)) :
    Hears ⟨v, binary⟩ [c] received.toToken.toList ⟨receiver, received.binaryAfter binary⟩ := by
  -- One byte is heard by one step of the receiver.
  have heard : Listener.hear ⟨v, binary⟩ c =
      (⟨receiver, received.binaryAfter binary⟩, received) := by
    rw [Listener.hear, taken]
  constructor
  · change (Listener.hear ⟨v, binary⟩ c).2.toToken.toList ++ [] = _
    rw [heard, List.append_nil]
  · change (Listener.hear ⟨v, binary⟩ c).1 = _
    rw [heard]

end Hears

/-- The bytes of a token that is understood with the last of them, and not before. -/
structure Completes (listener : Listener) (bytes : Bytes) (token : Token) (next : Listener) :
    Prop where
  hears : Hears listener bytes [token] next
  late : understanding.answers listener bytes.dropLast = []

namespace Completes

variable {listener middle next : Listener} {bytes more : Bytes} {token : Token}

/-- One byte that completes something. -/
theorem single {v receiver : Receiver} {binary : Bool} {c : UInt8} {received : Received}
    (taken : v.receive binary c = .ok (receiver, received))
    (understood : received.toToken = some token) :
    Completes ⟨v, binary⟩ [c] token ⟨receiver, received.binaryAfter binary⟩ where
  hears := by
    have heard := Hears.single taken
    rwa [understood] at heard
  late := rfl

/-- Bytes that are not understood yet, in front of those that complete them. -/
theorem behind (silent : Hears listener bytes [] middle)
    (completes : Completes middle more token next) :
    Completes listener (bytes ++ more) token next where
  hears := silent.append completes.hears
  late := by
    -- What is said before adds nothing, so the last byte is still the one that completes the token.
    have some_ : more ≠ [] := by
      rintro rfl
      cases completes.hears.answers
    rw [List.dropLast_append_of_ne_nil some_, Transducer.answers_append, silent.answers,
      silent.after, completes.late]
    rfl

/-- Less than the whole is not understood. -/
theorem silent (completes : Completes listener bytes token next) {part : Bytes}
    (first : part <+: bytes) (less : part.length < bytes.length) :
    understanding.answers listener part = [] := by
  obtain ⟨rest, rfl⟩ := first
  -- A part that is not the whole lacks at least the last byte.
  have some_ : rest ≠ [] := by
    rintro rfl
    rw [List.append_nil] at less
    exact absurd less (Nat.lt_irrefl _)
  have late := completes.late
  rw [List.dropLast_append_of_ne_nil some_] at late
  exact Transducer.answers_prefix _ _ _ late (List.prefix_append _ _)

end Completes

section

variable {sig : IACState} {command : Bytes} {last c : UInt8} {binary : Bool}

section

variable {whole rest : Bytes} (sub : byteAt command 1 = tnSb) (begun : 2 ≤ command.length)
  (other : ¬isSignature whole) (length : whole.length = completeLength whole)

include sub begun other length

end

section

variable (signature : isSignature command)

include signature

end

/-- Whether client and engine are ready for the next token, and agree on whether a CR came last. -/
def InStep (speaker : Speaker) (listener : Listener) : Prop :=
  listener.receiver.iacEscape = .normal ∧
    (listener.receiver.last = 0x0D ↔ speaker.last = 0x0D) ∧ listener.binary = speaker.binary

section

variable {option code : UInt8}

end

end

section

variable (tokens : List Token)

end

/-- A client that has just connected. -/
def Speaker.first : Speaker := ⟨0x00, false⟩

/-- A client that has said some tokens over the connection, and a part of some more, which may be
empty; the client before it has left the receiver outside of a command, and not behind a CR. -/
structure Server.Said (s : Server) (tokens begun : List Token) (part : Bytes) : Prop where
  outside : s.entry.iacEscape = .normal
  apart : s.entry.last ≠ 0x0D
  first : part <+: speaking.answers (speaking.after .first tokens) begun
  less : part.length < (speaking.answers (speaking.after .first tokens) begun).length
  stream : s.fromNet = speaking.answers .first tokens ++ part

namespace Server.Said

variable {s : Server} {tokens begun : List Token} {token : Token} {part : Bytes}

/-- Whole tokens, and nothing of the one that is to come. -/
theorem whole (outside : s.entry.iacEscape = .normal) (apart : s.entry.last ≠ 0x0D)
    (said : s.fromNet = speaking.answers .first tokens) :
    s.Said tokens [.option tnWill tnEcho] [] where
  outside := outside
  apart := apart
  first := List.nil_prefix
  less := by
    -- An option takes three bytes, whatever went before.
    change 0 < [tnIac, tnWill, tnEcho].length
    decide
  stream := by rw [said, List.append_nil]

section

variable (said : s.Said tokens begun part)

include said

/-- Client and engine begin in step. -/
theorem together : InStep .first s.listenedFirst :=
  ⟨said.outside, iff_of_false said.apart (by decide), rfl⟩

/-- What was said to its end is understood, and then what was only begun. -/
theorem understood : understanding.answers s.listenedFirst s.fromNet =
    understanding.answers s.listenedFirst (speaking.answers .first tokens) ++
      understanding.answers
        (understanding.after s.listenedFirst (speaking.answers .first tokens)) part := by
  rw [said.stream, Transducer.answers_append]

end

end Server.Said

section

variable {platform : Platform} {allowed : Round → Prop} {s : Server} {tokens : List Token}
  {token : Token} {part : Bytes}

end

end SerialPort.Sercd
