import SerialPort.Bytes

/-! The pluggable checksums and the two operations that append and verify them. -/

namespace SerialPort

/-- A checksum maps the checked bytes to the bytes that vouch for them. -/
abbrev Checksum := Bytes → Bytes

namespace Checksums

/-- No checksum at all. -/
def None : Checksum := fun _ => []

/-- The exclusive or of all bytes. -/
def Xor8 : Checksum := fun data =>
  [(data.foldl (fun result byte => result ^^^ Bytes.unsigned byte) 0).toUInt32.toUInt8]

/-- The sum of all bytes, modulo 256. -/
def Sum8 : Checksum := fun data =>
  [(data.foldl (fun result byte => (result + Bytes.unsigned byte) &&& 0xFF) 0).toUInt32.toUInt8]

/-- One shift of the register, with the polynomial folded in when a one bit leaves it. -/
def crcShift (crc : UInt32) : UInt32 :=
  if crc &&& 1 ≠ 0 then (crc >>> 1) ^^^ 0xA001 else crc >>> 1

/-- One byte enters the register and is shifted through, bit by bit. -/
def crcByte (crc : UInt32) (byte : UInt8) : UInt32 :=
  Nat.repeat crcShift 8 (crc ^^^ byte.toUInt32)

/-- The Modbus CRC, low byte first. -/
def Crc16Modbus : Checksum := fun data =>
  -- The register begins with all bits set.
  let crc := data.foldl crcByte 0xFFFF
  [(crc &&& 0xFF).toUInt8, (crc >>> 8).toUInt8]

end Checksums

namespace Bytes

/-- The bytes followed by their checksum. -/
def withChecksum (bytes : Bytes) (checksum : Checksum) : Bytes :=
  bytes ++ checksum bytes

/-- Whether the array ends with the checksum of the bytes before it. -/
def hasChecksum (bytes : Bytes) (checksum : Checksum) : Bool :=
  -- The width is that of the checksum of no bytes.
  if bytes.length < (checksum []).length then false
  else
    let body := bytes.take (bytes.length - (checksum []).length)
    withChecksum body checksum == bytes

/-- A message followed by a checksum of fixed size passes the test for it. -/
theorem hasChecksum_withChecksum {checksum : Checksum}
    (fixed : ∀ data, (checksum data).length = (checksum []).length) (body : Bytes) :
    (body.withChecksum checksum).hasChecksum checksum = true := by
  -- Cutting off as many bytes as the checksum has leaves the body.
  have length : (body.withChecksum checksum).length = body.length + (checksum []).length := by
    rw [withChecksum, List.length_append, fixed]
  have bodyBack : (body.withChecksum checksum).take
      ((body.withChecksum checksum).length - (checksum []).length) = body := by
    rw [length, Nat.add_sub_cancel, withChecksum, List.take_left]
  unfold hasChecksum
  rw [if_neg (by omega)]
  simp only [bodyBack, beq_self_eq_true]

end Bytes

/-- The three common checksums of one message. -/
example : Bytes.withChecksum [1, 2, 3] Checksums.Xor8 = [1, 2, 3, 0] ∧
    Checksums.Sum8 [1, 2, 3] = [6] ∧ Checksums.Crc16Modbus [1, 2, 3] = [0x61, 0x61] := by
  decide +kernel

end SerialPort
