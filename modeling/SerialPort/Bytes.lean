import Mathlib.Algebra.Order.Ring.Int

/-! Byte arrays, 32-bit integers, and the exceptions their operations throw. -/

namespace SerialPort

/-- A byte array, each byte given by its bit pattern. -/
abbrev Bytes := List UInt8

/-- The order in which the bytes of an integer are stored. -/
inductive ByteOrder where
  | bigEndian
  | littleEndian
  deriving DecidableEq, Repr

/-- The exceptions that array operations throw. -/
inductive Fault where
  | indexOutOfBounds
  | illegalArgument
  | negativeArraySize
  deriving DecidableEq, Repr

/-- A 32-bit integer that is no less than zero is not negative. -/
theorem not_negative_of_toInt {value : Int32} (nonneg : 0 ≤ value.toInt) : ¬value < 0 := by
  rw [Int32.lt_iff_toInt_lt, Int32.toInt_zero]
  exact Int.not_lt.mpr nonneg

/-- A 32-bit integer that is a natural number is this number as an index. -/
theorem toNatClampNeg_of_toInt {value : Int32} {size : Nat} (natural : value.toInt = size) :
    value.toNatClampNeg = size := by
  rw [← Int32.toNat_toInt, natural, Int.toNat_natCast]

namespace Bytes

/-- The value of a byte read as unsigned, `toInt() and 0xFF`. -/
def unsigned (byte : UInt8) : Int32 :=
  Int32.ofNat byte.toNat

/-- The byte at an index, `this[index]`. -/
def get (bytes : Bytes) (index : Int32) : Except Fault UInt8 :=
  if index < 0 then .error .indexOutOfBounds
  else
    match bytes[index.toNatClampNeg]? with
    | some byte => .ok byte
    | none => .error .indexOutOfBounds

/-- The bytes from one index up to another, for indices already known to lie in the array. -/
def slice (bytes : Bytes) (fromIndex toIndex : Nat) : Bytes :=
  (bytes.take toIndex).drop fromIndex

/-- The bytes from one index up to another, `copyOfRange(fromIndex, toIndex)`. -/
def copyOfRange (bytes : Bytes) (fromIndex toIndex : Int) : Except Fault Bytes :=
  if (bytes.length : Int) < toIndex then .error .indexOutOfBounds
  else if toIndex < fromIndex then .error .illegalArgument
  else if fromIndex < 0 then .error .indexOutOfBounds
  else .ok (bytes.slice fromIndex.toNat toIndex.toNat)

/-- The array cut or padded with zeros to a new size, `copyOf(newSize)`. -/
def copyOf (bytes : Bytes) (newSize : Int) : Except Fault Bytes :=
  if newSize < 0 then .error .negativeArraySize
  else .ok (bytes.take newSize.toNat ++ List.replicate (newSize.toNat - bytes.length) 0)

/-- The last bytes of the array, all of them when there are fewer, `takeLast(n)`. -/
def takeLast (bytes : Bytes) (n : Nat) : Bytes :=
  bytes.drop (bytes.length - n)

/-- A window inside the array is copied without an exception. -/
theorem copyOfRange_inside {bytes : Bytes} {fromIndex toIndex : Nat} (ordered : fromIndex ≤ toIndex)
    (inside : toIndex ≤ bytes.length) :
    bytes.copyOfRange fromIndex toIndex = .ok (bytes.slice fromIndex toIndex) := by
  -- None of the three range checks fires.
  simp only [copyOfRange, Int.toNat_natCast]
  rw [if_neg (by omega), if_neg (by omega), if_neg (by omega)]

/-- The window reaching to the end of the array is what remains after its start. -/
theorem slice_to_end (bytes : Bytes) (fromIndex : Nat) :
    bytes.slice fromIndex bytes.length = bytes.drop fromIndex := by
  rw [slice, List.take_length]

/-- Copying no more bytes than there are cuts the array. -/
theorem copyOf_inside {bytes : Bytes} {newSize : Nat} (inside : newSize ≤ bytes.length) :
    bytes.copyOf newSize = .ok (bytes.take newSize) := by
  -- No zero is needed when the array is long enough.
  simp only [copyOf, Int.toNat_natCast]
  rw [if_neg (by omega), Nat.sub_eq_zero_of_le inside, List.replicate_zero, List.append_nil]

/-- A byte that is there is read whatever follows the array. -/
theorem get_append {bytes : Bytes} {index : Int32} {byte : UInt8}
    (read : bytes.get index = .ok byte) (later : Bytes) :
    Bytes.get (bytes ++ later) index = .ok byte := by
  -- The index was inside the array already.
  unfold get at read ⊢
  split at read
  · cases read
  · rename_i nonneg
    rw [if_neg nonneg]
    split at read
    · rename_i found
      rw [List.getElem?_append_left (List.getElem?_eq_some_iff.mp found).1, found]
      exact read
    · cases read

/-- An index inside the array is read without an exception. -/
theorem get_inside {bytes : Bytes} {index : Int32} (nonneg : 0 ≤ index.toInt)
    (inside : index.toInt < bytes.length) : ∃ byte, bytes.get index = .ok byte := by
  -- The natural number the index denotes is below the length.
  have bounded : index.toNatClampNeg < bytes.length := by
    rw [← Int32.toNat_toInt]
    omega
  exact ⟨bytes[index.toNatClampNeg], by simp [get, not_negative_of_toInt nonneg, bounded]⟩

end Bytes

/-- A sum that stays in range is the sum of the mathematical integers. -/
theorem toInt_add_of_fits {left right : Int32} (low : -2 ^ 31 ≤ left.toInt + right.toInt)
    (high : left.toInt + right.toInt < 2 ^ 31) :
    (left + right).toInt = left.toInt + right.toInt := by
  -- Reducing to the 32-bit range changes nothing inside it.
  rw [Int32.toInt_add]
  exact Int.bmod_eq_of_le (by omega) (by omega)

/-- An array size below the 32-bit limit is its own mathematical value. -/
theorem toInt_ofNat_of_fits {size : Nat} (fits : size < 2 ^ 31) :
    (Int32.ofNat size).toInt = size := Int32.toInt_ofNat_of_lt fits

end SerialPort
