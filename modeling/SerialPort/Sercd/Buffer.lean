import SerialPort.Bytes
import SerialPort.Library.BoundedQueue
import SerialPort.Library.Circular

/-! The ring buffers between the network and the device. -/

namespace SerialPort.Sercd

open Circular

/-- How the program comes to a bad end. -/
inductive Abort where
  | assertion
  | outOfBounds
  | nullPointer
  deriving DecidableEq, Repr

/-- The size of a buffer, `BufferSize`. -/
abbrev bufferSize : Nat := 2048

theorem bufferSize_pos : 0 < bufferSize := by decide

/-- A buffer with its positions, which stay inside by the way they are computed. -/
structure BufferType where
  buffer : Vector UInt8 bufferSize
  rdPos : Nat
  wrPos : Nat
  rdInside : rdPos < bufferSize
  wrInside : wrPos < bufferSize
  deriving DecidableEq

namespace BufferType

/-- Initialize a buffer for operation. -/
def initBuffer (b : BufferType) : BufferType where
  buffer := b.buffer
  rdPos := 0
  wrPos := 0
  rdInside := bufferSize_pos
  wrInside := bufferSize_pos

/-- The length of the data in the buffer. -/
def bufferLength (b : BufferType) : Nat :=
  -- The difference of two unsigned positions wraps, so the size is added first.
  (b.wrPos + bufferSize - b.rdPos) % bufferSize

/-- How much room is left; one cell stays free, for the distinction of full and empty. -/
def bufferRoomLeft (b : BufferType) : Nat :=
  bufferSize - 1 - b.bufferLength

/-- Whether there is room for a number of additional bytes. -/
def bufferHasRoomFor (b : BufferType) (x : Nat) : Bool :=
  x ≤ b.bufferRoomLeft

def isBufferEmpty (b : BufferType) : Bool :=
  b.bufferLength = 0

/-- The byte goes into the buffer and the position behind it. -/
def store (b : BufferType) (c : UInt8) : BufferType where
  buffer := b.buffer.set b.wrPos c b.wrInside
  rdPos := b.rdPos
  wrPos := (b.wrPos + 1) % bufferSize
  rdInside := b.rdInside
  wrInside := Nat.mod_lt _ bufferSize_pos

/-- Add a byte to a buffer, which has to have room for it. -/
def addToBuffer (b : BufferType) (c : UInt8) : Except Abort BufferType :=
  -- The assertion is compiled in.
  if b.bufferHasRoomFor 1 then .ok (b.store c) else .error .assertion

/-- Remove the number of read bytes specified, an `unsigned int`. -/
def bufferPopBytes (b : BufferType) (len : UInt32) : BufferType where
  buffer := b.buffer
  rdPos := (len.toNat + b.rdPos) % 2 ^ 32 % bufferSize
  wrPos := b.wrPos
  rdInside := Nat.mod_lt _ bufferSize_pos
  wrInside := b.wrInside

/-- Get a byte from a buffer. -/
def getFromBuffer (b : BufferType) : UInt8 × BufferType :=
  -- The position moves on as it does for a write of one byte.
  (b.buffer.get ⟨b.rdPos, b.rdInside⟩, b.bufferPopBytes 1)

/-- The length of the string that `GetBufferString` points to. -/
def stringLength (b : BufferType) : Nat :=
  -- What runs past the end of the memory is left for the next string.
  if b.rdPos ≤ b.wrPos then b.wrPos - b.rdPos else bufferSize - b.rdPos

/-- Get string from buffer, without removing it. -/
def getBufferString (b : BufferType) : Bytes :=
  (b.buffer.toList.drop b.rdPos).take b.stringLength

/-- The bytes that wait in the buffer, the oldest one first. -/
def contents (b : BufferType) : Bytes :=
  window b.buffer b.rdPos b.bufferLength

/-- The byte in the cell before the position from which the buffer is read. -/
def previous (b : BufferType) : UInt8 :=
  cell b.buffer (b.rdPos + (bufferSize - 1))

/-- Adds some bytes, one after another. -/
def addAll (b : BufferType) (bytes : Bytes) : Except Abort BufferType :=
  bytes.foldlM addToBuffer b

/-- The buffer with some bytes behind what waits in it. -/
def append (b : BufferType) (bytes : Bytes) : BufferType :=
  bytes.foldl store b

variable (b : BufferType) (c : UInt8)

/-- As many bytes wait as the positions say. -/
@[simp] theorem contents_length : b.contents.length = b.bufferLength :=
  window_length _ _ _

/-- At least one cell is always free. -/
theorem bufferLength_lt : b.bufferLength < bufferSize :=
  Nat.mod_lt _ bufferSize_pos

/-- What waits and the room for more take all cells but one. -/
theorem room_add_length : b.bufferRoomLeft + b.bufferLength = bufferSize - 1 := by
  have short := b.bufferLength_lt
  unfold bufferRoomLeft
  omega

/-- There is room for a number of bytes if as many can be added. -/
@[simp] theorem hasRoomFor_iff (x : Nat) : b.bufferHasRoomFor x = true ↔ x ≤ b.bufferRoomLeft :=
  decide_eq_true_iff

/-- An empty buffer is one in which nothing waits. -/
@[simp] theorem isEmpty_iff : b.isBufferEmpty = true ↔ b.contents = [] := by
  rw [isBufferEmpty, decide_eq_true_iff, ← b.contents_length, List.length_eq_zero_iff]

/-- Nothing waits in a buffer that was set back. -/
@[simp] theorem initBuffer_contents : b.initBuffer.contents = [] := by
  rw [← List.length_eq_zero_iff, contents_length]
  simp only [bufferLength, initBuffer, Nat.zero_add, Nat.sub_zero, Nat.mod_self]

/-- A buffer that was set back has all the room there is. -/
@[simp] theorem initBuffer_room : b.initBuffer.bufferRoomLeft = bufferSize - 1 := by
  simp only [bufferRoomLeft, bufferLength, initBuffer, Nat.zero_add, Nat.sub_zero, Nat.mod_self]

/-- The position at which the buffer is written is the one right behind what waits. -/
theorem wrPos_eq : b.wrPos = (b.rdPos + b.bufferLength) % bufferSize := by
  -- Both positions are inside, so that either is at most once around from the other.
  have inside := b.rdInside
  have inside' := b.wrInside
  simp only [bufferLength, bufferSize] at inside inside' ⊢
  omega

/-- A byte that is stored makes the buffer longer by one. -/
theorem store_length (room : 1 ≤ b.bufferRoomLeft) :
    (b.store c).bufferLength = b.bufferLength + 1 := by
  -- With room for one more the length does not come round to nothing.
  have inside := b.rdInside
  have inside' := b.wrInside
  simp only [bufferRoomLeft, bufferLength, bufferSize] at room inside inside'
  simp only [store, bufferLength, bufferSize]
  omega

/-- A byte that is stored takes the room of one. -/
theorem store_room (room : 1 ≤ b.bufferRoomLeft) :
    (b.store c).bufferRoomLeft = b.bufferRoomLeft - 1 := by
  simp only [bufferRoomLeft, store_length b c room]
  omega

/-- A byte that is added waits behind the others. -/
theorem store_contents (room : 1 ≤ b.bufferRoomLeft) :
    (b.store c).contents = b.contents ++ [c] := by
  have whole := b.room_add_length
  rw [contents, store_length b c room]
  simp only [store, contents, wrPos_eq]
  exact window_push b.buffer b.rdPos b.bufferLength c (by omega)

/-- The cell before the position of reading is the one that is never written. -/
theorem store_previous (room : 1 ≤ b.bufferRoomLeft) : (b.store c).previous = b.previous := by
  have whole := b.room_add_length
  have other : (b.rdPos + b.bufferLength) % bufferSize ≠
      (b.rdPos + (bufferSize - 1)) % bufferSize := position_ne (by omega) (by omega)
  -- The byte is written behind what waits, and there it is not yet once around.
  simp only [previous, store, cell, wrPos_eq]
  exact Vector.getElem_set_ne _ _ other

/-- Adding a byte succeeds as long as there is room. -/
theorem addToBuffer_ok (room : 1 ≤ b.bufferRoomLeft) : b.addToBuffer c = .ok (b.store c) :=
  if_pos ((b.hasRoomFor_iff 1).mpr room)

/-- A byte for which there is no room fails the assertion. -/
theorem addToBuffer_full (full : b.bufferRoomLeft = 0) : b.addToBuffer c = .error .assertion := by
  refine if_neg fun room => ?_
  have room := (b.hasRoomFor_iff 1).mp room
  omega

/-- Bytes are added in two parts as in one. -/
theorem addAll_append (bytes more : Bytes) :
    b.addAll (bytes ++ more) = (b.addAll bytes).bind fun b => b.addAll more :=
  List.foldlM_append

/-- Bytes for which there is room are added. -/
theorem addAll_ok {bytes : Bytes} (room : bytes.length ≤ b.bufferRoomLeft) :
    b.addAll bytes = .ok (b.append bytes) := by
  -- Each byte finds the room that those behind it still need, and its own.
  induction bytes generalizing b with
  | nil => rfl
  | cons c bytes ih =>
    rw [List.length_cons] at room
    have some_ : 1 ≤ b.bufferRoomLeft := by omega
    have left := b.store_room c some_
    rw [addAll, List.foldlM_cons, addToBuffer_ok b c some_]
    exact ih (b.store c) (by omega)

/-- Bytes for which there is no room make the assertion fail. -/
theorem addAll_full {bytes : Bytes} (full : b.bufferRoomLeft < bytes.length) :
    b.addAll bytes = .error .assertion := by
  -- The bytes that there is room for are added, and the next one fails.
  induction bytes generalizing b with
  | nil => exact absurd full (Nat.not_lt_zero _)
  | cons c bytes ih =>
    rw [List.length_cons] at full
    rw [addAll, List.foldlM_cons]
    by_cases some_ : 1 ≤ b.bufferRoomLeft
    · have left := b.store_room c some_
      rw [addToBuffer_ok b c some_]
      exact ih (b.store c) (by omega)
    · rw [addToBuffer_full b c (by omega)]
      rfl

section

variable {b} {bytes : Bytes} (room : bytes.length ≤ b.bufferRoomLeft)

include room

/-- Bytes that find room wait behind those that waited before, and leave the last one sent alone. -/
theorem append_spec :
    (b.append bytes).contents = b.contents ++ bytes ∧
      (b.append bytes).bufferRoomLeft = b.bufferRoomLeft - bytes.length ∧
        (b.append bytes).previous = b.previous := by
  -- The room is a measure of how many more there can be: each byte takes one from it.
  induction bytes generalizing b with
  | nil => exact ⟨(List.append_nil _).symm, rfl, rfl⟩
  | cons c bytes ih =>
    rw [List.length_cons] at room
    have some_ : 1 ≤ b.bufferRoomLeft := by omega
    have left := b.store_room c some_
    have fits : bytes.length ≤ (b.store c).bufferRoomLeft := by omega
    obtain ⟨waiting, rest, same⟩ := ih fits
    rw [store_contents b c some_] at waiting
    rw [store_previous b c some_] at same
    refine ⟨?_, ?_, same⟩
    · rw [append, List.foldl_cons, ← append, waiting, List.append_assoc, List.singleton_append]
    · rw [append, List.foldl_cons, ← append, rest, List.length_cons]
      omega

/-- What is appended waits behind what waited before. -/
theorem append_contents : (b.append bytes).contents = b.contents ++ bytes :=
  (append_spec room).1

/-- What is appended takes its length of the room. -/
theorem append_room : (b.append bytes).bufferRoomLeft = b.bufferRoomLeft - bytes.length :=
  (append_spec room).2.1

/-- What is appended leaves the cell before the first one alone. -/
theorem append_previous : (b.append bytes).previous = b.previous :=
  (append_spec room).2.2

end

/-- The string starts with the first byte that waits and ends with the last one or the memory. -/
theorem stringLength_eq :
    b.stringLength = min b.bufferLength (bufferSize - b.rdPos) := by
  -- The position of writing is behind that of reading, unless the data runs past the end.
  have inside := b.rdInside
  have inside' := b.wrInside
  simp only [stringLength, bufferLength, bufferSize] at inside inside' ⊢
  split <;> omega

/-- The string that is read are the first bytes that wait. -/
theorem getBufferString_eq : b.getBufferString = b.contents.take b.stringLength := by
  -- Up to the end of the memory the cells of the window are those of the list.
  have inside := b.rdInside
  rw [contents, window_take _ _ _ _ (by rw [stringLength_eq]; omega)]
  refine (window_eq_stretch _ _ _ ?_).symm
  rw [stringLength_eq]
  omega

/-- There is something to be read as long as something waits. -/
theorem getBufferString_length_pos (waits : b.contents ≠ []) : 0 < b.getBufferString.length := by
  have some_ : 0 < b.bufferLength := by
    rw [← contents_length]
    exact List.length_pos_iff.mpr waits
  have inside := b.rdInside
  rw [getBufferString_eq, List.length_take, contents_length, stringLength_eq]
  omega

/-- There is nothing to be read exactly when nothing waits. -/
theorem getBufferString_eq_nil : b.getBufferString = [] ↔ b.contents = [] := by
  constructor
  · intro none_
    by_contra waits
    have some_ := b.getBufferString_length_pos waits
    rw [none_] at some_
    exact absurd some_ (Nat.lt_irrefl 0)
  · intro none_
    rw [getBufferString_eq, none_, List.take_nil]

/-- No more bytes are written than wait. -/
theorem getBufferString_length_le : b.getBufferString.length ≤ b.bufferLength := by
  rw [getBufferString_eq, List.length_take, contents_length]
  exact Nat.min_le_right _ _

/-- The first position is moved on, around the end of the memory. -/
theorem popBytes_rdPos (len : UInt32) :
    (b.bufferPopBytes len).rdPos = (b.rdPos + len.toNat) % bufferSize := by
  rw [Nat.add_comm]
  exact Nat.mod_mod_of_dvd _ (by decide)

/-- Removing bytes removes so many of the first ones that wait. -/
theorem popBytes_length {len : UInt32} (waits : len.toNat ≤ b.bufferLength) :
    (b.bufferPopBytes len).bufferLength = b.bufferLength - len.toNat := by
  -- The position of reading does not overtake that of writing.
  have inside := b.rdInside
  have inside' := b.wrInside
  rw [bufferLength, popBytes_rdPos]
  simp only [bufferLength, bufferPopBytes, bufferSize] at waits inside inside' ⊢
  omega

/-- Bytes that have waited are dropped from the front. -/
theorem popBytes_contents {len : UInt32} (waits : len.toNat ≤ b.bufferLength) :
    (b.bufferPopBytes len).contents = b.contents.drop len.toNat := by
  rw [contents, popBytes_length b waits, popBytes_rdPos, window_mod, contents, window_drop]
  rfl

/-- The byte before the position of reading is the last one that was removed. -/
theorem popBytes_previous {len : UInt32} (some_ : 0 < len.toNat)
    (waits : len.toNat ≤ b.bufferLength) :
    (b.contents.take len.toNat).getLast? = some (b.bufferPopBytes len).previous := by
  obtain ⟨fewer, last⟩ := Nat.exists_eq_add_of_lt some_
  rw [contents, window_take _ _ _ _ waits, last, Nat.zero_add, window_concat,
    List.getLast?_append, List.getLast?_singleton, Option.some_or, previous, popBytes_rdPos,
    ← cell_mod _ (_ % _ + _), Nat.mod_add_mod, ← cell_mod]
  -- Once around and one back is the same cell as one back.
  have around : b.rdPos + (0 + fewer + 1) + (bufferSize - 1) = b.rdPos + fewer + bufferSize := by
    simp only [bufferSize]
    omega
  rw [last, around, Nat.add_mod_right]
  rfl

/-- Removing one byte takes the first one that waits. -/
theorem getFromBuffer_contents {first : UInt8} {rest : Bytes} (waits : b.contents = first :: rest) :
    b.getFromBuffer.1 = first ∧ b.getFromBuffer.2.contents = rest := by
  have some_ : b.bufferLength = rest.length + 1 := by
    rw [← contents_length, waits, List.length_cons]
  have one : (1 : UInt32).toNat = 1 := rfl
  refine ⟨?_, ?_⟩
  · -- The byte read is the one at the read position, the first of the window.
    rw [contents, some_, window_cons] at waits
    rw [← (List.cons.inj waits).1]
    simp only [getFromBuffer, cell, Nat.mod_eq_of_lt b.rdInside]
    rfl
  · -- What is left is what a pop of one byte leaves.
    rw [getFromBuffer, popBytes_contents b (by rw [one]; omega), waits, one, List.drop_one,
      List.tail_cons]

end BufferType

end SerialPort.Sercd
