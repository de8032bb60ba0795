import SerialPort.Checksum
import SerialPort.Library.Scanner

/-! The frame parser: its configuration, one turn of its loop, and the calls that offer bytes. -/

namespace SerialPort

open Scanning

/-- How frames are delimited, together with what the constructor requires of the values. -/
structure FrameConfig where
  header : Bytes
  lengthOffset : Int32
  lengthSize : Int32 := 1
  lengthByteOrder : ByteOrder := .bigEndian
  lengthIncludesHeader : Bool := false
  footer : Bytes := []
  checksum : Option Checksum := none
  checksumSize : Int32 := (checksum.map fun calculate => Int32.ofNat (calculate []).length).getD 0
  checksumOffset : Option Int32 := none
  minimumFrameSize : Int32 := Int32.ofNat header.length
  maximumFrameSize : Int32 := 4096
  maximumBufferSize : Int32 := maximumFrameSize * 2
  header_nonempty : header ≠ [] := by decide
  length_valid : 0 ≤ lengthOffset ∧ 1 ≤ lengthSize ∧ lengthSize ≤ 4 := by decide
  sizes_valid : (header.length : Int) ≤ minimumFrameSize.toInt ∧
    minimumFrameSize ≤ maximumFrameSize := by decide
  buffer_valid : maximumFrameSize ≤ maximumBufferSize := by decide
  checksumSize_valid : 0 ≤ checksumSize := by decide

/-- Why a candidate frame was thrown away. -/
inductive FrameParseError where
  | invalidLength
  | oversized
  | checksumMismatch
  | footerMismatch
  deriving DecidableEq, Repr

/-- The frames and the errors of one call, each in the order they were found. -/
structure FrameParseResult where
  frames : List Bytes
  errors : List FrameParseError
  deriving DecidableEq

/-- What one turn of the loop adds to the result. -/
inductive FrameOutcome where
  | frame (bytes : Bytes)
  | error (reason : FrameParseError)
  deriving DecidableEq

/-- The frame an outcome adds, if it adds one. -/
def FrameOutcome.frame? : FrameOutcome → Option Bytes
  | .frame bytes => some bytes
  | .error _ => none

/-- The error an outcome adds, if it adds one. -/
def FrameOutcome.error? : FrameOutcome → Option FrameParseError
  | .frame _ => none
  | .error reason => some reason

namespace Bytes

/-- The first index at which the value stands, or -1. -/
def indexOfHeader (bytes value : Bytes) : Int :=
  -- The indices are tried from the first on, up to the end of the array.
  match (List.range bytes.length).find? fun index =>
      index + value.length ≤ bytes.length && bytes.slice index (index + value.length) == value with
  | some index => index
  | none => -1

/-- An unsigned integer of a few bytes, accumulated in a 32-bit register. -/
def readUnsigned (bytes : Bytes) (offset size : Int32) (order : ByteOrder) : Except Fault Int32 :=
  match order with
  | .bigEndian =>
    (List.range size.toNatClampNeg).foldlM (fun result index => do
      let byte ← bytes.get (offset + Int32.ofNat index)
      return (result <<< 8) ||| unsigned byte) 0
  | .littleEndian =>
    (List.range size.toNatClampNeg).foldlM (fun result index => do
      let byte ← bytes.get (offset + Int32.ofNat index)
      return result ||| (unsigned byte <<< (Int32.ofNat index * 8))) 0

/-- Whether the bytes at the checksum's place are the checksum of all the others. -/
def hasChecksumAt (bytes : Bytes) (checksum : Checksum) (size : Int32) (offset : Option Int32) :
    Except Fault Bool :=
  -- A checksum without a byte is never accepted.
  if size = 0 ∨ (bytes.length : Int) < size.toInt then .ok false
  else
    -- Without an offset the checksum stands at the end of the frame.
    let position := offset.getD (Int32.ofNat bytes.length - size)
    if position < 0 ∨ (bytes.length : Int) < (position + size).toInt then .ok false
    else do
      let front ← bytes.copyOfRange 0 position.toInt
      let back ← bytes.copyOfRange (position + size).toInt bytes.length
      let stored ← bytes.copyOfRange position.toInt (position + size).toInt
      return checksum (front ++ back) == stored

end Bytes

namespace FrameConfig

/-- The size of the header as a 32-bit integer. -/
def headerSize (config : FrameConfig) : Int32 :=
  Int32.ofNat config.header.length

/-- The frame size that a declared length stands for, in wrapping arithmetic. -/
def frameSize (config : FrameConfig) (declared : Int32) : Int32 :=
  -- Otherwise the length counts neither the header nor its own field.
  if config.lengthIncludesHeader then declared
  else declared + config.headerSize + config.lengthSize

/-- Whether the last bytes of a frame are the footer, when there is one. -/
def footerMatches (config : FrameConfig) (frame : Bytes) : Bool :=
  config.footer.isEmpty || frame.takeLast config.footer.length == config.footer

/-- Whether a frame carries its checksum, when one is configured. -/
def checksumMatches (config : FrameConfig) (frame : Bytes) : Except Fault Bool :=
  match config.checksum with
  | none => .ok true
  | some checksum => frame.hasChecksumAt checksum config.checksumSize config.checksumOffset

/-- What becomes of a frame of the right size: the footer is tested before the checksum. -/
def judge (config : FrameConfig) (frame : Bytes) : Except Fault FrameOutcome :=
  if config.footerMatches frame then do
    if ← config.checksumMatches frame then return .frame frame
    else return .error .checksumMismatch
  else return .error .footerMismatch

/-- One turn of the loop once the buffer begins with the header. -/
def cut (config : FrameConfig) (pending : Bytes) : Except Fault (Verdict UInt8 FrameOutcome) :=
  -- The length field is not complete.
  if (pending.length : Int) < (config.lengthOffset + config.lengthSize).toInt then
    return .wait pending
  else do
    let declared ← pending.readUnsigned config.lengthOffset config.lengthSize config.lengthByteOrder
    -- The frame leaves the buffer before it is judged.
    let frameSize := config.frameSize declared
    if frameSize < config.minimumFrameSize then
      return .emit (.error .invalidLength)
        (← pending.copyOfRange config.header.length pending.length)
    else if config.maximumFrameSize < frameSize then
      return .emit (.error .oversized) (← pending.copyOfRange config.header.length pending.length)
    else if (pending.length : Int) < frameSize.toInt then
      return .wait pending
    else
      let frame ← pending.copyOf frameSize.toInt
      let rest ← pending.copyOfRange frameSize.toInt pending.length
      return .emit (← config.judge frame) rest

/-- One turn of the loop: find the header, drop the noise before it, and look at the frame. -/
def turn (config : FrameConfig) (pending : Bytes) : Except Fault (Verdict UInt8 FrameOutcome) :=
  let start := pending.indexOfHeader config.header
  -- The last bytes may be the beginning of a header.
  if start < 0 then return .wait (pending.takeLast (config.header.length - 1))
  else do
    let pending ← if start > 0 then pending.copyOfRange start pending.length else pure pending
    config.cut pending

/-- The buffer and the bytes behind it, cut down to the last bytes that fit the buffer. -/
def refill (config : FrameConfig) (pending bytes : Bytes) : Bytes :=
  -- The oldest bytes are dropped, whatever frames they are part of.
  if config.maximumBufferSize.toInt < (pending ++ bytes).length then
    Bytes.takeLast (pending ++ bytes) config.maximumBufferSize.toNatClampNeg
  else pending ++ bytes

end FrameConfig

end SerialPort
