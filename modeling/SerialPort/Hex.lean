import SerialPort.Bytes
import SerialPort.Library.BlockCode

/-! Bytes as hexadecimal text and back. -/

namespace SerialPort

open BlockCodes

/-- A string, as its UTF-16 code units. -/
abbrev Text := List UInt16

/-- What the platform's character tables say of the characters that are not ASCII. -/
structure CharacterTables where
  isWhitespace : UInt16 → Bool
  /-- The value of a character as a hexadecimal digit. -/
  digit : UInt16 → Option Int32

namespace Text

/-- Whether an ASCII character is a blank, a tab, a line break or a separator. -/
def asciiWhitespace (char : UInt16) : Bool :=
  char == 0x20 || (0x09 ≤ char && char ≤ 0x0D) || (0x1C ≤ char && char ≤ 0x1F)

/-- Whether a character is white space, `isWhitespace()`. -/
def isWhitespace (tables : CharacterTables) (char : UInt16) : Bool :=
  if char < 0x80 then asciiWhitespace char else tables.isWhitespace char

/-- Whether an ASCII character is a hexadecimal digit. -/
def isHexDigit (char : UInt16) : Bool :=
  (0x30 ≤ char && char ≤ 0x39) || (0x41 ≤ char && char ≤ 0x46) || (0x61 ≤ char && char ≤ 0x66)

/-- The value of an ASCII character as a hexadecimal digit. -/
def asciiDigit (char : UInt16) : Option Int32 :=
  if 0x30 ≤ char && char ≤ 0x39 then some (Int32.ofNat (char - 0x30).toNat)
  else if 0x41 ≤ char && char ≤ 0x46 then some (Int32.ofNat ((char - 0x41).toNat + 10))
  else if 0x61 ≤ char && char ≤ 0x66 then some (Int32.ofNat ((char - 0x61).toNat + 10))
  else none

/-- The value of a character as a hexadecimal digit, `digitToIntOrNull(16)`. -/
def digitToIntOrNull (tables : CharacterTables) (char : UInt16) : Option Int32 :=
  if char < 0x80 then asciiDigit char else tables.digit char

/-- An ASCII letter in upper case, any other ASCII character as it is. -/
def uppercase (char : UInt16) : UInt16 :=
  if 0x61 ≤ char && char ≤ 0x7A then char - 0x20 else char

/-- The digits of a number in base sixteen, in upper case and at least two, `"%02X".format`. -/
def twoDigits (value : Nat) : Text :=
  -- `%02X` pads with zeros, which a byte needs below sixteen only.
  let digits := (Nat.toDigits 16 value).map fun digit => uppercase (UInt16.ofNat digit.toNat)
  List.replicate (2 - digits.length) 0x30 ++ digits

/-- Every character of the text is ASCII. -/
def IsAscii (text : Text) : Prop := ∀ char ∈ text, char < 0x80

/-- The text without its white space. -/
def stripped (tables : CharacterTables) (text : Text) : Text :=
  text.filter fun char => !isWhitespace tables char

/-- The byte that two digits stand for; anything else than a digit is refused. -/
def byteOf (high low : Option Int32) : Except Fault UInt8 :=
  match high, low with
  -- The two digits are put together as 32-bit integers, of which `toByte` keeps the low bits.
  | some high, some low => .ok ((high <<< 4) ||| low).toUInt32.toUInt8
  | _, _ => .error .illegalArgument

/-- The character at an index. -/
def charAt (text : Text) (index : Nat) : Except Fault UInt16 :=
  match text[index]? with
  | some char => .ok char
  | none => .error .indexOutOfBounds

/-- Parses a hexadecimal string, ignoring its white space. -/
def hexToByteArray (tables : CharacterTables) (text : Text) : Except Fault Bytes :=
  let value := stripped tables text
  -- `require` asks for whole bytes, and the digits are looked at later.
  if value.length % 2 ≠ 0 then .error .illegalArgument
  else
    (List.range (value.length / 2)).mapM fun index => do
      let high := digitToIntOrNull tables (← charAt value (index * 2))
      let low := digitToIntOrNull tables (← charAt value (index * 2 + 1))
      byteOf high low

end Text

/-- The bytes as uppercase hexadecimal text, with a separator between them. -/
def Bytes.toHex (bytes : Bytes) (separator : Text) : Text :=
  separator.intercalate (bytes.map fun byte => Text.twoDigits (Bytes.unsigned byte).toNatClampNeg)

namespace Text

/-- The digits of a byte. -/
def digitsOf (byte : UInt8) : Text :=
  twoDigits (Bytes.unsigned byte).toNatClampNeg

/-- The digit of a value below sixteen. -/
def digitChar (value : Nat) : UInt16 :=
  UInt16.ofNat (if value < 10 then 0x30 + value else 0x37 + value)

/-- The digits of a byte are those of its two halves. -/
theorem digitsOf_halves (high low : Fin 16) :
    digitsOf ((Int32.ofNat high <<< 4) ||| Int32.ofNat low).toUInt32.toUInt8 =
      [digitChar high, digitChar low] := by
  -- There are 256 pairs of halves.
  revert high low
  decide +kernel

/-- An ASCII statement is checked character by character. -/
theorem of_ascii {P : UInt16 → Prop} (checked : ∀ code : Fin 128, P (UInt16.ofNat code))
    {char : UInt16} (ascii : char < 0x80) : P char := by
  -- The character is the one with its own code.
  have below : char.toNat < 128 := UInt16.lt_iff_toNat_lt.mp ascii
  have found := checked ⟨char.toNat, below⟩
  rwa [UInt16.ofNat_toNat] at found

/-- Only ASCII characters are hexadecimal digits here. -/
theorem isHexDigit_ascii {char : UInt16} (digit : isHexDigit char = true) : char < 0x80 := by
  -- The ranges of digits and letters end below 128.
  simp only [isHexDigit, Bool.or_eq_true, Bool.and_eq_true, decide_eq_true_eq,
    UInt16.le_iff_toNat_le, UInt16.lt_iff_toNat_lt] at digit ⊢
  simp at digit ⊢
  omega

/-- A digit has a value below sixteen, whose digit is the same character in upper case. -/
theorem asciiDigit_of_isHexDigit {char : UInt16} (digit : isHexDigit char = true) :
    ∃ value : Fin 16, asciiDigit char = some (Int32.ofNat value) ∧
      digitChar value = uppercase char := by
  -- The 128 characters are checked one by one.
  have checked : ∀ code : Fin 128, isHexDigit (UInt16.ofNat code) = true →
      ∃ value : Fin 16, asciiDigit (UInt16.ofNat code) = some (Int32.ofNat value) ∧
        digitChar value = uppercase (UInt16.ofNat code) := by decide +kernel
  have all := @of_ascii (fun char => isHexDigit char = true →
    ∃ value : Fin 16, asciiDigit char = some (Int32.ofNat value) ∧
      digitChar value = uppercase char) checked char (isHexDigit_ascii digit)
  exact all digit

/-- A character that is no digit has no value. -/
theorem asciiDigit_eq_none {char : UInt16} (other : isHexDigit char = false) :
    asciiDigit char = none := by
  -- None of the three ranges contains the character.
  simp only [isHexDigit, Bool.or_eq_false_iff] at other
  rw [asciiDigit, if_neg (by simp [other.1.1]), if_neg (by simp [other.1.2]),
    if_neg (by simp [other.2])]

/-- The two digits of a byte are digits and read back as the byte. -/
theorem digitsOf_reads (byte : UInt8) :
    ∃ high low, digitsOf byte = [high, low] ∧ isHexDigit high = true ∧ isHexDigit low = true ∧
      byteOf (asciiDigit high) (asciiDigit low) = .ok byte := by
  -- There are 256 bytes.
  have checked : ∀ code : Fin 256,
      let digits := digitsOf (UInt8.ofNat code)
      digits = [digits.getD 0 0, digits.getD 1 0] ∧ isHexDigit (digits.getD 0 0) = true ∧
        isHexDigit (digits.getD 1 0) = true ∧
        byteOf (asciiDigit (digits.getD 0 0)) (asciiDigit (digits.getD 1 0)) =
          .ok (UInt8.ofNat code) := by decide +kernel
  have found := checked ⟨byte.toNat, byte.toNat_lt⟩
  simp only [UInt8.ofNat_toNat] at found
  exact ⟨_, _, found⟩

/-- On ASCII characters the tables of the platform are not asked. -/
theorem digitToIntOrNull_ascii {tables : CharacterTables} {char : UInt16} (ascii : char < 0x80) :
    digitToIntOrNull tables char = asciiDigit char := if_pos ascii

/-- A hexadecimal digit is no white space. -/
theorem isWhitespace_of_isHexDigit {tables : CharacterTables} {char : UInt16}
    (digit : isHexDigit char = true) : isWhitespace tables char = false := by
  -- Among the 128 characters none is both.
  have checked : ∀ code : Fin 128, isHexDigit (UInt16.ofNat code) = true →
      asciiWhitespace (UInt16.ofNat code) = false := by decide +kernel
  have ascii := isHexDigit_ascii digit
  have all := @of_ascii (fun char => isHexDigit char = true → asciiWhitespace char = false) checked
    char ascii
  rw [isWhitespace, if_pos ascii, all digit]

/-- Two characters read as one byte. -/
def readPair (tables : CharacterTables) (pair : Text) : Except Fault UInt8 :=
  match pair with
  | [high, low] => byteOf (digitToIntOrNull tables high) (digitToIntOrNull tables low)
  | _ => .error .illegalArgument

/-- Hexadecimal text as a code that writes each byte with two digits. -/
def code (tables : CharacterTables) : BlockCode UInt16 UInt8 Fault where
  width := 2
  write := digitsOf
  read := readPair tables
  positive := by decide
  write_length := by
    intro byte
    obtain ⟨high, low, digits, -⟩ := digitsOf_reads byte
    rw [digits]
    rfl
  read_write := by
    intro byte
    obtain ⟨high, low, digits, first, second, read⟩ := digitsOf_reads byte
    rw [digits, readPair, digitToIntOrNull_ascii (isHexDigit_ascii first),
      digitToIntOrNull_ascii (isHexDigit_ascii second), read]

variable {tables : CharacterTables} {text : Text}

/-- Parsing text of even length, its white space removed, reads its pairs. -/
theorem hexToByteArray_eq (even : (stripped tables text).length % 2 = 0) :
    text.hexToByteArray tables = (code tables).readAll (stripped tables text) := by
  dsimp only [hexToByteArray]
  rw [if_neg (not_not.mpr even), BlockCode.readAll, groups, List.mapM_map]
  -- Both sides go through the same indices, and the two characters there are the pair.
  apply mapM_congr
  intro index member
  have below : index < (stripped tables text).length / 2 := List.mem_range.mp member
  generalize stripped tables text = value at even below ⊢
  have first : index * 2 < value.length := by omega
  have second : index * 2 + 1 < value.length := by omega
  have pair : (value.drop (index * 2)).take 2 = [value[index * 2], value[index * 2 + 1]] := by
    rw [List.drop_eq_getElem_cons first, List.drop_eq_getElem_cons second]
    rfl
  have high : charAt value (index * 2) = .ok value[index * 2] := by
    rw [charAt, List.getElem?_eq_getElem first]
  have low : charAt value (index * 2 + 1) = .ok value[index * 2 + 1] := by
    rw [charAt, List.getElem?_eq_getElem second]
  show _ = readPair tables ((value.drop (index * 2)).take 2)
  rw [pair, high, low]
  rfl

/-- Text of odd length, its white space removed, is refused. -/
theorem hexToByteArray_odd (odd : (stripped tables text).length % 2 ≠ 0) :
    text.hexToByteArray tables = .error .illegalArgument := if_pos odd

/-- A pair of ASCII characters is a byte exactly when both are digits. -/
theorem readPair_ok_iff {high low : UInt16} (highAscii : high < 0x80) (lowAscii : low < 0x80) :
    (∃ byte, readPair tables [high, low] = .ok byte) ↔
      isHexDigit high = true ∧ isHexDigit low = true := by
  -- Outside of ASCII the tables would have to be asked, and inside they are not.
  rw [readPair, digitToIntOrNull_ascii highAscii, digitToIntOrNull_ascii lowAscii]
  cases first : isHexDigit high with
  | false =>
    rw [asciiDigit_eq_none first]
    simp [byteOf]
  | true =>
    obtain ⟨highValue, readHigh, -⟩ := asciiDigit_of_isHexDigit first
    rw [readHigh]
    cases second : isHexDigit low with
    | false =>
      rw [asciiDigit_eq_none second]
      simp [byteOf]
    | true =>
      obtain ⟨lowValue, readLow, -⟩ := asciiDigit_of_isHexDigit second
      rw [readLow]
      exact ⟨fun _ => ⟨rfl, rfl⟩, fun _ => ⟨_, rfl⟩⟩

/-- The byte read from a pair of ASCII characters is written as the pair in upper case. -/
theorem digitsOf_readPair {high low : UInt16} {byte : UInt8} (highAscii : high < 0x80)
    (lowAscii : low < 0x80) (read : readPair tables [high, low] = .ok byte) :
    digitsOf byte = [uppercase high, uppercase low] := by
  -- Both characters are digits, or the pair would not have been read.
  obtain ⟨first, second⟩ := (readPair_ok_iff highAscii lowAscii).mp ⟨byte, read⟩
  obtain ⟨highValue, readHigh, highChar⟩ := asciiDigit_of_isHexDigit first
  obtain ⟨lowValue, readLow, lowChar⟩ := asciiDigit_of_isHexDigit second
  rw [readPair, digitToIntOrNull_ascii highAscii, digitToIntOrNull_ascii lowAscii, readHigh,
    readLow] at read
  obtain rfl := Except.ok.inj read
  rw [digitsOf_halves, highChar, lowChar]

/-- A pair of the stripped text is two characters of the text. -/
theorem pair_of_mem_groups {pair : Text} (even : (stripped tables text).length % 2 = 0)
    (member : pair ∈ groups 2 ((stripped tables text).length / 2) (stripped tables text)) :
    ∃ high low, pair = [high, low] ∧ high ∈ stripped tables text ∧ low ∈ stripped tables text := by
  -- The groups are of two characters each, since the length is even.
  have wide : pair.length = 2 := length_of_mem_groups (by omega) member
  match pair, wide with
  | [high, low], _ =>
    exact ⟨high, low, rfl, mem_of_mem_group member (by simp), mem_of_mem_group member (by simp)⟩

/-- The characters left of ASCII text are ASCII. -/
theorem IsAscii.stripped (ascii : IsAscii text) : IsAscii (stripped tables text) :=
  fun char member => ascii char (List.mem_of_mem_filter member)

/-- ASCII text is parsed exactly when it has an even number of digits and nothing else. -/
theorem hexToByteArray_ok_iff (ascii : IsAscii text) :
    (∃ bytes, text.hexToByteArray tables = .ok bytes) ↔
      (stripped tables text).length % 2 = 0 ∧
        ∀ char ∈ stripped tables text, isHexDigit char = true := by
  have left : IsAscii (stripped tables text) := ascii.stripped
  by_cases even : (stripped tables text).length % 2 = 0
  · rw [hexToByteArray_eq even, BlockCode.readAll_ok_iff]
    constructor
    · -- Every character stands in some pair, and a pair that is read has two digits.
      intro readable
      refine ⟨even, fun char member => ?_⟩
      have whole : (groups 2 ((stripped tables text).length / 2) (stripped tables text)).flatten =
          stripped tables text := flatten_groups (by omega)
      rw [← whole] at member
      obtain ⟨pair, among, inside⟩ := List.mem_flatten.mp member
      obtain ⟨high, low, rfl, highIn, lowIn⟩ := pair_of_mem_groups even among
      have digits := (readPair_ok_iff (left high highIn) (left low lowIn)).mp (readable _ among)
      rcases List.mem_pair.mp inside with rfl | rfl
      · exact digits.1
      · exact digits.2
    · rintro ⟨-, digits⟩ pair among
      obtain ⟨high, low, rfl, highIn, lowIn⟩ := pair_of_mem_groups even among
      exact (readPair_ok_iff (left high highIn) (left low lowIn)).mpr
        ⟨digits high highIn, digits low lowIn⟩
  · rw [hexToByteArray_odd even]
    constructor
    · rintro ⟨bytes, parsed⟩
      cases parsed
    · exact fun both => absurd both.1 even

/-- Without a separator, the digits of the bytes stand one after another. -/
theorem toHex_nil (bytes : Bytes) : bytes.toHex [] = (code tables).writeAll bytes := by
  -- Joining with nothing in between is concatenating.
  show ([] : Text).intercalate (bytes.map digitsOf) = bytes.flatMap digitsOf
  induction bytes with
  | nil => rfl
  | cons byte bytes ih =>
    cases bytes with
    | nil => simp
    | cons next bytes =>
      rw [List.flatMap_cons, ← ih]
      simp [List.intercalate_cons_cons]

/-- Parsed ASCII text is written again without its white space and in upper case. -/
theorem toHex_hexToByteArray {bytes : Bytes} (ascii : IsAscii text)
    (parsed : text.hexToByteArray tables = .ok bytes) :
    bytes.toHex [] = (stripped tables text).map uppercase := by
  have left : IsAscii (stripped tables text) := ascii.stripped
  have even := ((hexToByteArray_ok_iff ascii).mp ⟨bytes, parsed⟩).1
  -- What a code has read it writes again, pair by pair.
  rw [hexToByteArray_eq even] at parsed
  rw [@toHex_nil tables]
  refine BlockCode.writeAll_of_readAll (Nat.dvd_of_mod_eq_zero even)
    (fun pair among byte read => ?_) parsed
  obtain ⟨high, low, rfl, highIn, lowIn⟩ := pair_of_mem_groups even among
  exact digitsOf_readPair (left high highIn) (left low lowIn) read

/-- Stripping text that was joined with white space leaves the parts, if these have none. -/
theorem stripped_intercalate {separator : Text} {parts : List Text}
    (blank : ∀ char ∈ separator, isWhitespace tables char = true)
    (solid : ∀ part ∈ parts, ∀ char ∈ part, isWhitespace tables char = false) :
    stripped tables (separator.intercalate parts) = parts.flatten := by
  have gone : stripped tables separator = [] :=
    List.filter_eq_nil_iff.mpr fun char member => by simp [blank char member]
  have kept : ∀ part ∈ parts, stripped tables part = part := fun part member =>
    List.filter_eq_self.mpr fun char inside => by simp [solid part member char inside]
  -- Each part is kept and each separator between two parts vanishes.
  induction parts with
  | nil => rfl
  | cons part parts ih =>
    have rest := ih (fun later member => solid later (by simp [member]))
      (fun later member => kept later (by simp [member]))
    have first := kept part (by simp)
    cases parts with
    | nil => simpa using first
    | cons next parts =>
      rw [List.intercalate_cons_cons, List.flatten_cons, ← rest]
      simp only [stripped, List.filter_append] at first gone ⊢
      rw [first, gone, List.append_nil]

/-- What is written with white space between the bytes is parsed as the bytes. -/
theorem hexToByteArray_toHex {separator : Text} (bytes : Bytes)
    (blank : ∀ char ∈ separator, isWhitespace tables char = true) :
    (bytes.toHex separator).hexToByteArray tables = .ok bytes := by
  -- Only the digits are left, and they are what the code writes.
  have solid : ∀ part ∈ bytes.map digitsOf, ∀ char ∈ part, isWhitespace tables char = false := by
    intro part member char inside
    obtain ⟨byte, -, rfl⟩ := List.mem_map.mp member
    obtain ⟨high, low, digits, first, second, -⟩ := digitsOf_reads byte
    rw [digits] at inside
    rcases List.mem_pair.mp inside with rfl | rfl
    · exact isWhitespace_of_isHexDigit first
    · exact isWhitespace_of_isHexDigit second
  have left : stripped tables (bytes.toHex separator) = (code tables).writeAll bytes := by
    rw [BlockCode.writeAll, List.flatMap_def]
    exact stripped_intercalate blank solid
  have size : (stripped tables (bytes.toHex separator)).length = bytes.length * 2 := by
    rw [left, (code tables).writeAll_length]
    rfl
  rw [hexToByteArray_eq (by omega), left, (code tables).readAll_writeAll]

/--
The hexadecimal codec: written bytes are parsed back, and parsed ASCII text is written back.

Parsing throws exactly on an odd number of characters that are not white space, or on one of them
that is no hexadecimal digit.
-/
theorem hexadecimal_codec (tables : CharacterTables) :
    (∀ (bytes : Bytes) (separator : Text),
      (∀ char ∈ separator, isWhitespace tables char = true) →
        (bytes.toHex separator).hexToByteArray tables = .ok bytes) ∧
    (∀ text : Text, IsAscii text →
      ((∃ fault, text.hexToByteArray tables = .error fault) ↔
        (stripped tables text).length % 2 ≠ 0 ∨
          ∃ char ∈ stripped tables text, isHexDigit char = false) ∧
      (∀ bytes, text.hexToByteArray tables = .ok bytes →
        bytes.toHex [] = (stripped tables text).map uppercase)) := by
  refine ⟨fun bytes separator blank => hexToByteArray_toHex bytes blank, fun text ascii => ⟨?_,
    fun bytes parsed => toHex_hexToByteArray ascii parsed⟩⟩
  have parsing := @hexToByteArray_ok_iff tables text ascii
  cases parsed : text.hexToByteArray tables with
  | ok bytes =>
    obtain ⟨even, digits⟩ := parsing.mp ⟨bytes, parsed⟩
    constructor
    · rintro ⟨fault, refused⟩
      cases refused
    · rintro (odd | ⟨char, member, other⟩)
      · exact absurd even odd
      · rw [digits char member] at other
        cases other
  | error fault =>
    refine ⟨fun _ => ?_, fun _ => ⟨fault, rfl⟩⟩
    -- Text of even length with digits only would have been parsed.
    by_contra fine
    simp only [not_or, not_exists, not_and, Bool.not_eq_false, ne_eq, not_not] at fine
    obtain ⟨bytes, done⟩ := parsing.mpr ⟨fine.1, fine.2⟩
    rw [parsed] at done
    cases done

/-- Three bytes with blanks between them, on a platform without other white space or digits. -/
theorem hexadecimal_codec_three :
    (Bytes.toHex [0x00, 0xFF, 0x10] [0x20]).hexToByteArray ⟨fun _ => false, fun _ => none⟩ =
      .ok [0x00, 0xFF, 0x10] := by
  have blank : isWhitespace ⟨fun _ => false, fun _ => none⟩ 0x20 = true := rfl
  exact (hexadecimal_codec ⟨fun _ => false, fun _ => none⟩).1 _ _
    fun char member => List.mem_singleton.mp member ▸ blank

end Text

end SerialPort
