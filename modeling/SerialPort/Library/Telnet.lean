import SerialPort.Library.Transducer

/-! The Telnet stream: data in which commands are marked by an escape byte. -/

namespace Telnet

/-- The byte that marks commands, and twice in a row is a byte of data. -/
abbrev iac : UInt8 := 255

/-- The bytes that begin and end a subnegotiation. -/
abbrev sb : UInt8 := 250
abbrev se : UInt8 := 240

/-- The four commands that are followed by an option. -/
abbrev willByte : UInt8 := 251
abbrev wontByte : UInt8 := 252
abbrev doByte : UInt8 := 253
abbrev dontByte : UInt8 := 254

/-- Whether a command is followed by the option it is about. -/
def isVerb (byte : UInt8) : Bool :=
  byte == willByte || byte == wontByte || byte == doByte || byte == dontByte

/-- What a stream consists of. -/
inductive Token where
  | data (byte : UInt8)
  | command (byte : UInt8)
  | option (verb subject : UInt8)
  | sub (payload : List UInt8)
  deriving DecidableEq

/-- Tokens that have a form in the stream. -/
def Token.Valid : Token → Prop
  | data _ => True
  | command byte => byte ≠ iac ∧ byte ≠ sb ∧ isVerb byte = false
  | option code _ => isVerb code = true
  | sub _ => True

/-- The escape byte is doubled, and every other byte stays as it is. -/
def stuff (byte : UInt8) : List UInt8 :=
  if byte = iac then [iac, iac] else [byte]

/-- The form of a token in the stream. -/
def Token.bytes : Token → List UInt8
  | data byte => stuff byte
  | command byte => [iac, byte]
  | option code subject => [iac, code, subject]
  | sub payload => [iac, sb] ++ payload.flatMap stuff ++ [iac, se]

/-- Where a reader is in the stream. -/
inductive Reading where
  | plain
  | escaped
  | verb (byte : UInt8)
  | sub (payload : List UInt8)
  | subEscaped (payload : List UInt8)
  deriving DecidableEq

/-- What a reader knows behind one more byte. -/
def Reading.next : Reading → UInt8 → Reading
  | plain, byte => if byte = iac then escaped else plain
  | escaped, byte =>
    if byte = sb then sub [] else if isVerb byte then verb byte else plain
  | verb _, _ => plain
  | sub payload, byte => if byte = iac then subEscaped payload else sub (payload ++ [byte])
  | subEscaped payload, byte => if byte = iac then sub (payload ++ [iac]) else plain

/-- The token that one more byte completes. -/
def Reading.token : Reading → UInt8 → List Token
  | plain, byte => if byte = iac then [] else [.data byte]
  | escaped, byte =>
    if byte = iac then [.data iac] else if byte = sb ∨ isVerb byte then [] else [.command byte]
  | verb code, byte => [.option code byte]
  | sub _, _ => []
  | subEscaped payload, byte => if byte = se then [.sub payload] else []

/-- A reader of the stream. -/
def reader : Transducer Reading UInt8 Token where
  next := Reading.next
  answer := Reading.token

/-- A writer of tokens, which needs no memory. -/
def writer : Transducer Unit Token UInt8 where
  next _ _ := ()
  answer _ := Token.bytes

/-- The stream of some tokens. -/
def encode (tokens : List Token) : List UInt8 :=
  tokens.flatMap Token.bytes

/-- The tokens of a stream. -/
def decode (stream : List UInt8) : List Token :=
  reader.answers .plain stream

/-- The data among some tokens. -/
def dataBytes (tokens : List Token) : List UInt8 :=
  tokens.filterMap fun token => match token with
    | .data byte => some byte
    | _ => none

/-- Tokens are encoded one behind the other. -/
theorem encode_append (tokens more : List Token) :
    encode (tokens ++ more) = encode tokens ++ encode more :=
  List.flatMap_append

/-- Data are encoded as their bytes, the escape byte doubled. -/
theorem encode_data (bytes : List UInt8) : encode (bytes.map .data) = bytes.flatMap stuff := by
  rw [encode, List.flatMap_map]
  rfl

/-- The data of two texts are those of the first and then those of the second. -/
theorem dataBytes_append (tokens more : List Token) :
    dataBytes (tokens ++ more) = dataBytes tokens ++ dataBytes more :=
  List.filterMap_append

/-- Data carry their own bytes. -/
theorem dataBytes_data (bytes : List UInt8) : dataBytes (bytes.map .data) = bytes := by
  rw [dataBytes, List.filterMap_map]
  exact List.filterMap_some

/-- Encoding is what the writer answers. -/
theorem encode_eq (tokens : List Token) : encode tokens = writer.answers () tokens := by
  induction tokens with
  | nil => rfl
  | cons token tokens ih => rw [Transducer.answers_cons, encode, List.flatMap_cons, ← ih]; rfl

section

variable (payload more : List UInt8)

/-- Inside a subnegotiation a stuffed byte is one more byte of it. -/
theorem after_sub_stuff (byte : UInt8) :
    reader.after (.sub payload) (stuff byte) = .sub (payload ++ [byte]) := by
  unfold stuff
  split
  · next doubled =>
    rw [doubled]
    rfl
  · next single => simp [reader, Reading.next, single]

/-- A byte inside a subnegotiation completes nothing. -/
theorem answers_sub_stuff (byte : UInt8) : reader.answers (.sub payload) (stuff byte) = [] := by
  unfold stuff
  split
  · rfl
  · rfl

/-- The bytes of a subnegotiation are gathered in their order. -/
theorem after_sub_flatMap :
    reader.after (.sub payload) (more.flatMap stuff) = .sub (payload ++ more) := by
  -- The payload that is known grows byte by byte.
  induction more generalizing payload with
  | nil => rw [List.flatMap_nil, Transducer.after_nil, List.append_nil]
  | cons byte more ih =>
    rw [List.flatMap_cons, Transducer.after_append, after_sub_stuff, ih, List.append_assoc,
      List.singleton_append]

/-- Until its end a subnegotiation completes nothing. -/
theorem answers_sub_flatMap : reader.answers (.sub payload) (more.flatMap stuff) = [] := by
  induction more generalizing payload with
  | nil => rfl
  | cons byte more ih =>
    rw [List.flatMap_cons, Transducer.answers_append, answers_sub_stuff, after_sub_stuff, ih,
      List.append_nil]

end

/-- The four verbs are no other marks. -/
theorem verb_ne {byte : UInt8} (verb : isVerb byte = true) : byte ≠ iac ∧ byte ≠ sb := by
  simp only [isVerb, Bool.or_eq_true, beq_iff_eq] at verb
  rcases verb with ((will | wont) | do_) | dont
  all_goals subst byte; decide

/-- Reading a token that was written gives it back, and the reader waits for another one. -/
theorem reader_undoes_writer :
    Transducer.Undoes writer reader Token.Valid fun _ reading => reading = .plain where
  answers := by
    rintro _ _ token rfl valid
    cases token with
    | data byte =>
      by_cases doubled : byte = iac
      · subst byte; rfl
      · simp [writer, reader, Token.bytes, stuff, Reading.token, doubled]
    | command byte =>
      obtain ⟨notIac, notSb, notVerb⟩ := valid
      simp [writer, reader, Token.bytes, Reading.token, Reading.next, notIac, notSb, notVerb]
    | option verb subject =>
      obtain ⟨notIac, notSb⟩ := verb_ne valid
      have verb_ : isVerb verb = true := valid
      simp [writer, reader, Token.bytes, Reading.token, Reading.next, notIac, notSb, verb_]
    | sub payload =>
      -- Nothing is known before the last byte, and then the whole payload.
      have opened : reader.after .plain [iac, sb] = .sub [] := rfl
      have silent : reader.answers .plain [iac, sb] = [] := rfl
      simp only [writer, Token.bytes, Transducer.answers_append, Transducer.after_append, opened,
        silent, after_sub_flatMap, answers_sub_flatMap]
      rfl
  stays := by
    rintro _ _ token rfl valid
    cases token with
    | data byte =>
      by_cases doubled : byte = iac
      · subst byte; rfl
      · simp [writer, reader, Token.bytes, stuff, Reading.next, doubled]
    | command byte =>
      obtain ⟨notIac, notSb, notVerb⟩ := valid
      simp [writer, reader, Token.bytes, Reading.next, notSb, notVerb]
    | option verb subject =>
      obtain ⟨notIac, notSb⟩ := verb_ne valid
      have verb_ : isVerb verb = true := valid
      simp [writer, reader, Token.bytes, Reading.next, notSb, verb_]
    | sub payload =>
      have opened : reader.after .plain [iac, sb] = .sub [] := rfl
      simp only [writer, Token.bytes, Transducer.after_append, opened, after_sub_flatMap]
      rfl

/-- The tokens that were written are read back. -/
theorem decode_encode {tokens : List Token} (valid : ∀ token ∈ tokens, token.Valid) :
    decode (encode tokens) = tokens := by
  rw [decode, encode_eq]
  exact reader_undoes_writer.run rfl valid

end Telnet
