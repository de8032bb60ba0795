import Mathlib.Data.BitVec

/-! Fields of a word, each of them the bits that a mask selects. -/

namespace BitField

variable {width : Nat} (word mask value other : BitVec width)

/-- The word with the bits that the mask selects taken from a value. -/
def replace : BitVec width :=
  (word &&& ~~~mask) ||| (value &&& mask)

/-- The field that was replaced holds the new value. -/
@[simp] theorem replace_and_self : replace word mask value &&& mask = value &&& mask := by
  ext index inside
  simp only [replace, BitVec.getElem_and, BitVec.getElem_or, BitVec.getElem_not]
  cases mask[index] <;> simp

/-- A field that shares no bit with the mask stays as it is. -/
theorem replace_and_of_disjoint (disjoint : mask &&& other = 0) :
    replace word mask value &&& other = word &&& other := by
  ext index inside
  have apart := congrArg (fun bits => bits[index]) disjoint
  simp only [BitVec.getElem_and, BitVec.ofNat_eq_ofNat, BitVec.getElem_zero] at apart
  simp only [replace, BitVec.getElem_and, BitVec.getElem_or, BitVec.getElem_not]
  -- A bit that the other field has is none of the mask.
  cases bit : other[index] with
  | false => simp
  | true =>
    rw [bit, Bool.and_true] at apart
    simp [apart]

/-- Setting the bits of a mask replaces the field by ones. -/
theorem or_eq_replace : word ||| mask = replace word mask mask := by
  ext index inside
  simp only [replace, BitVec.getElem_and, BitVec.getElem_or, BitVec.getElem_not]
  cases mask[index] <;> simp

/-- Clearing the bits of a mask replaces the field by zeros. -/
theorem and_not_eq_replace : word &&& ~~~mask = replace word mask 0 := by
  ext index inside
  simp [replace]

end BitField
