import Mathlib.Data.List.Basic

/-! Linear feedback shift registers over bits, and the differences of inputs they cannot miss. -/

namespace ShiftRegister

variable {w : Nat}

/-- One shift: the bit that leaves the register decides whether the polynomial is folded in. -/
def shift (poly register : BitVec w) : BitVec w :=
  if register.getLsbD 0 then (register >>> 1) ^^^ poly else register >>> 1

/-- Several shifts in a row. -/
def shifts (poly : BitVec w) (count : Nat) (register : BitVec w) : BitVec w :=
  Nat.repeat (shift poly) count register

/-- The register that holds one bit at the end where bits leave. -/
def low (bit : Bool) : BitVec w :=
  if bit then 1#w else 0#w

/-- Reads input bits one by one, each joining the bit that leaves next. -/
def absorb (poly register : BitVec w) (bits : List Bool) : BitVec w :=
  bits.foldl (fun register bit => shift poly (register ^^^ low bit)) register

/-- The register that the bits fill from the end where they leave. -/
def load : List Bool → BitVec w
  | [] => 0#w
  | bit :: bits => low bit ^^^ (load bits <<< 1)

/-- The bits of a register in the order in which they would leave. -/
def unload (register : BitVec w) : List Bool :=
  (List.range w).map register.getLsbD

/-- Whether the number of ones is odd. -/
def parity (bits : List Bool) : Bool :=
  bits.foldr xor false

/-- The positions at which two inputs differ, as ones among zeros. -/
def difference (left right : List Bool) : List Bool :=
  List.zipWith xor left right

/-- A shift is linear. -/
theorem shift_xor (poly left right : BitVec w) :
    shift poly (left ^^^ right) = shift poly left ^^^ shift poly right := by
  -- Two polynomials folded in cancel, so only the parity of the leaving bits matters.
  simp only [shift, BitVec.getLsbD_xor, BitVec.ushiftRight_xor_distrib]
  cases left.getLsbD 0 <;> cases right.getLsbD 0 <;>
    simp only [Bool.xor_false, Bool.xor_true, Bool.not_false, Bool.not_true, Bool.false_eq_true,
      if_true, if_false]
  · rw [BitVec.xor_assoc]
  · rw [BitVec.xor_assoc, BitVec.xor_assoc, BitVec.xor_comm poly]
  · rw [BitVec.xor_assoc (left >>> 1), BitVec.xor_comm (right >>> 1),
      ← BitVec.xor_assoc poly poly, BitVec.xor_self, BitVec.zero_xor]

/-- An empty register stays empty. -/
@[simp] theorem shift_zero (poly : BitVec w) : shift poly 0#w = 0#w := by
  simp [shift]

/-- So are several shifts in a row. -/
theorem shifts_xor (poly : BitVec w) (count : Nat) (left right : BitVec w) :
    shifts poly count (left ^^^ right) = shifts poly count left ^^^ shifts poly count right := by
  induction count with
  | zero => rfl
  | succ count ih => simp only [shifts, Nat.repeat] at ih ⊢; rw [ih, shift_xor]

/-- However often it is shifted, an empty register stays empty. -/
@[simp] theorem shifts_zero (poly : BitVec w) (count : Nat) : shifts poly count 0#w = 0#w := by
  induction count with
  | zero => rfl
  | succ count ih => simp only [shifts, Nat.repeat] at ih ⊢; rw [ih, shift_zero]

/-- The first of some shifts may as well be the last. -/
theorem shifts_succ (poly : BitVec w) (count : Nat) (register : BitVec w) :
    shifts poly (count + 1) register = shifts poly count (shift poly register) := by
  induction count with
  | zero => rfl
  | succ count ih =>
    rw [shifts, Nat.repeat]
    exact congrArg (shift poly) ih

/-- With a polynomial that fills the top of the register, only the zero register shifts to zero. -/
theorem shift_eq_zero {poly register : BitVec w} (top : poly.msb = true)
    (zero : shift poly register = 0#w) : register = 0#w := by
  -- The top bit of the result tells whether the polynomial was folded in.
  have wide : 0 < w := by
    by_contra empty
    obtain rfl : w = 0 := by omega
    simp [BitVec.of_length_zero] at top
  have filled : poly.getLsbD (w - 1) = true := by rwa [BitVec.msb_eq_getLsbD_last] at top
  unfold shift at zero
  by_cases leaves : register.getLsbD 0
  · rw [if_pos leaves] at zero
    have bit := congrArg (fun result => result.getLsbD (w - 1)) zero
    simp only [BitVec.getLsbD_xor, BitVec.getLsbD_ushiftRight, filled, BitVec.getLsbD_zero] at bit
    rw [BitVec.getLsbD_of_ge register (1 + (w - 1)) (by omega)] at bit
    cases bit
  · rw [if_neg leaves] at zero
    -- Nothing left the register and nothing remains in it.
    apply BitVec.eq_of_getLsbD_eq
    intro index inside
    rw [BitVec.getLsbD_zero]
    cases index with
    | zero => simpa using leaves
    | succ index =>
      have bit := congrArg (fun result => result.getLsbD index) zero
      simpa only [BitVec.getLsbD_ushiftRight, BitVec.getLsbD_zero, Nat.add_comm 1] using bit

/-- No number of shifts empties a register with something in it. -/
theorem shifts_eq_zero {poly register : BitVec w} (top : poly.msb = true) {count : Nat}
    (zero : shifts poly count register = 0#w) : register = 0#w := by
  induction count with
  | zero => exact zero
  | succ count ih => exact ih (shift_eq_zero top zero)

/-- So no two registers shift to the same one. -/
theorem shifts_injective {poly left right : BitVec w} (top : poly.msb = true) {count : Nat}
    (same : shifts poly count left = shifts poly count right) : left = right := by
  -- Their difference shifts to zero.
  have zero : shifts poly count (left ^^^ right) = 0#w := by
    rw [shifts_xor, same, BitVec.xor_self]
  exact BitVec.xor_eq_zero_iff.mp (shifts_eq_zero top zero)

@[simp] theorem absorb_nil (poly register : BitVec w) : absorb poly register [] = register := rfl

@[simp] theorem absorb_cons (poly register : BitVec w) (bit : Bool) (bits : List Bool) :
    absorb poly register (bit :: bits) =
      absorb poly (shift poly (register ^^^ low bit)) bits := rfl

/-- Bits are absorbed in two parts as in one. -/
theorem absorb_append (poly register : BitVec w) (front back : List Bool) :
    absorb poly register (front ++ back) = absorb poly (absorb poly register front) back :=
  List.foldl_append ..

/-- The lowest bit is linear in what is put there. -/
theorem low_xor (left right : Bool) :
    (low (left ^^ right) : BitVec w) = low left ^^^ low right := by
  cases left <;> cases right <;> simp [low]

/-- Reading is linear: the difference of the inputs is read by the difference of the registers. -/
theorem absorb_xor (poly : BitVec w) {left right : List Bool} (same : left.length = right.length)
    (first second : BitVec w) :
    absorb poly first left ^^^ absorb poly second right =
      absorb poly (first ^^^ second) (difference left right) := by
  -- The induction is on both inputs at once, with the registers free.
  induction left generalizing right first second with
  | nil =>
    obtain rfl := List.eq_nil_of_length_eq_zero same.symm
    rfl
  | cons bit left ih =>
    cases right with
    | nil => cases same
    | cons other right =>
      simp only [absorb_cons, difference, List.zipWith_cons_cons]
      rw [ih (Nat.succ.inj same), ← shift_xor, low_xor]
      congr 2
      rw [BitVec.xor_assoc, BitVec.xor_assoc, ← BitVec.xor_assoc (low bit),
        BitVec.xor_comm (low bit) second, BitVec.xor_assoc]

/-- Only the lowest bit is put there. -/
theorem getLsbD_low (bit : Bool) (index : Nat) :
    (low bit : BitVec w).getLsbD index = (decide (index = 0 ∧ 0 < w) && bit) := by
  cases bit with
  | false => simp [low]
  | true => simp [low, BitVec.getLsbD_one]; grind

/-- The bits of a loaded register are the bits it was loaded with. -/
theorem getLsbD_load (bits : List Bool) (index : Nat) :
    (load bits : BitVec w).getLsbD index = (decide (index < w) && bits.getD index false) := by
  induction bits generalizing index with
  | nil => simp [load]
  | cons bit bits ih =>
    rw [load, BitVec.getLsbD_xor, BitVec.getLsbD_shiftLeft, getLsbD_low, ih]
    -- The first bit sits at index 0, and the others move up by one.
    cases index with
    | zero => simp
    | succ index => simp; grind

/-- Loading what a register unloads gives the register back. -/
theorem load_unload (register : BitVec w) : load (unload register) = register := by
  apply BitVec.eq_of_getLsbD_eq
  intro index inside
  rw [getLsbD_load]
  simp [unload, inside]

/-- No more bits than fit the register may as well be loaded at once and shifted out together. -/
theorem absorb_eq_shifts (poly : BitVec w) {bits : List Bool} (fits : bits.length ≤ w)
    (register : BitVec w) :
    absorb poly register bits = shifts poly bits.length (register ^^^ load bits) := by
  induction bits generalizing register with
  | nil => simp [load, shifts, Nat.repeat]
  | cons bit bits ih =>
    simp only [List.length_cons] at fits
    -- The bits behind the first one come back from their place after one shift.
    have back : shift poly (load bits <<< 1) = load bits := by
      have kept : (load bits <<< 1 : BitVec w).getLsbD 0 = false := by simp
      rw [shift, if_neg (by simp [kept])]
      apply BitVec.eq_of_getLsbD_eq
      intro index inside
      rw [BitVec.getLsbD_ushiftRight, BitVec.getLsbD_shiftLeft]
      by_cases last : 1 + index < w
      · simp [last]
      · have beyond : bits.length ≤ index := by omega
        simp [last, getLsbD_load, List.getElem?_eq_none beyond]
    rw [absorb_cons, ih (by omega), List.length_cons, shifts_succ, load, ← BitVec.xor_assoc,
      shift_xor poly (register ^^^ low bit), back]

/-- A register that reads its own bits is empty afterwards. -/
theorem absorb_unload (poly register : BitVec w) :
    absorb poly register (unload register) = 0#w := by
  rw [absorb_eq_shifts poly (by simp [unload]), load_unload, BitVec.xor_self, shifts_zero]

/-- Reading zeros is shifting. -/
theorem absorb_zeros (poly register : BitVec w) {bits : List Bool}
    (zeros : ∀ bit ∈ bits, bit = false) :
    absorb poly register bits = shifts poly bits.length register := by
  induction bits generalizing register with
  | nil => rfl
  | cons bit bits ih =>
    rw [absorb_cons, ih _ (fun other member => zeros other (List.mem_cons_of_mem _ member)),
      zeros bit List.mem_cons_self, List.length_cons, shifts_succ]
    simp [low]

/-- An empty register is no longer empty after ones that lie within its own width. -/
theorem absorb_burst {poly : BitVec w} (top : poly.msb = true) {bits : List Bool} {start : Nat}
    (some_ : true ∈ bits)
    (within : ∀ position, bits[position]? = some true → start ≤ position ∧ position < start + w) :
    absorb poly 0#w bits ≠ 0#w := by
  -- Zeros before the burst change nothing, the burst itself is loaded, zeros behind it shift.
  intro zero
  have before : ∀ bit ∈ bits.take start, bit = false := by
    intro bit member
    obtain ⟨position, found⟩ := List.mem_iff_getElem?.mp member
    rw [List.getElem?_take] at found
    cases bit with
    | false => rfl
    | true =>
      split at found
      · have late := (within position found).1
        omega
      · cases found
  have after : ∀ bit ∈ (bits.drop start).drop w, bit = false := by
    intro bit member
    obtain ⟨position, found⟩ := List.mem_iff_getElem?.mp member
    rw [List.getElem?_drop, List.getElem?_drop] at found
    cases bit with
    | false => rfl
    | true =>
      have early := (within _ found).2
      omega
  have split_ :
      bits = bits.take start ++ ((bits.drop start).take w ++ (bits.drop start).drop w) := by
    rw [List.take_append_drop, List.take_append_drop]
  rw [split_, absorb_append, absorb_append, absorb_zeros poly _ before, shifts_zero,
    absorb_zeros poly _ after] at zero
  have loaded := shifts_eq_zero top zero
  have fits : ((bits.drop start).take w).length ≤ w := by
    rw [List.length_take]
    exact Nat.min_le_left ..
  rw [absorb_eq_shifts poly fits, BitVec.zero_xor] at loaded
  have empty := shifts_eq_zero top loaded
  -- So no one was loaded, although there is one.
  obtain ⟨position, found⟩ := List.mem_iff_getElem?.mp some_
  obtain ⟨early, late⟩ := within position found
  have bit := congrArg (fun register => register.getLsbD (position - start)) empty
  rw [getLsbD_load, BitVec.getLsbD_zero, List.getD_eq_getElem?_getD, List.getElem?_take,
    List.getElem?_drop, show start + (position - start) = position by omega, found] at bit
  simp [show position - start < w by omega] at bit

/-- The parity of two texts is the difference of theirs. -/
theorem parity_append (front back : List Bool) :
    parity (front ++ back) = (parity front ^^ parity back) := by
  induction front with
  | nil => simp [parity]
  | cons bit front ih => simp only [parity, List.cons_append, List.foldr_cons] at ih ⊢; simp [ih]

/-- The number of ones is odd exactly when the parity says so. -/
theorem parity_iff_odd (bits : List Bool) : parity bits = true ↔ bits.count true % 2 = 1 := by
  induction bits with
  | nil => simp [parity]
  | cons bit bits ih =>
    simp only [parity, List.foldr_cons] at ih ⊢
    cases bit with
    | false => simpa using ih
    -- A set bit turns the parity, and the count is one more.
    | true =>
      rw [List.count_cons_self, Bool.true_xor, Bool.not_eq_true', ← Bool.not_eq_true, ih]
      omega

/-- The parity of a difference is the difference of the parities. -/
theorem parity_difference {left right : List Bool} (same : left.length = right.length) :
    parity (difference left right) = (parity left ^^ parity right) := by
  induction left generalizing right with
  | nil =>
    obtain rfl := List.eq_nil_of_length_eq_zero same.symm
    rfl
  | cons bit left ih =>
    cases right with
    | nil => cases same
    | cons other right =>
      -- Both first bits come out of the exclusive or in front of the rest.
      have rest := ih (Nat.succ.inj same)
      simp only [parity, difference, List.zipWith_cons_cons, List.foldr_cons] at rest ⊢
      rw [rest]
      simp only [Bool.xor_assoc, Bool.xor_left_comm]

/-- The parity of the difference of two registers. -/
theorem parity_unload_xor (left right : BitVec w) :
    parity (unload (left ^^^ right)) = (parity (unload left) ^^ parity (unload right)) := by
  rw [← parity_difference (by simp [unload])]
  congr 1
  simp [unload, difference, List.zipWith_map, List.zipWith_self]

/-- A polynomial with an odd number of ones keeps the parity of the register it shifts. -/
theorem parity_shift {poly : BitVec w} (odd : parity (unload poly) = true) (register : BitVec w) :
    parity (unload (shift poly register)) = parity (unload register) := by
  -- The one that leaves is replaced by the polynomial's odd number of ones.
  cases w with
  | zero => cases odd
  | succ w =>
    have before : unload register =
        register.getLsbD 0 :: (List.range w).map fun index => register.getLsbD (index + 1) := by
      rw [unload, List.range_succ_eq_map, List.map_cons, List.map_map]
      rfl
    have after : unload (register >>> 1) =
        ((List.range w).map fun index => register.getLsbD (index + 1)) ++ [false] := by
      rw [unload, List.range_succ, List.map_append, List.map_singleton]
      simp [Nat.add_comm]
    have moved : parity (unload (register >>> 1)) =
        (register.getLsbD 0 ^^ parity (unload register)) := by
      rw [before, after, parity_append]
      simp [parity]
    rw [shift]
    cases leaves : register.getLsbD 0 with
    | true =>
      rw [if_pos rfl, parity_unload_xor, moved, odd, leaves]
      simp
    | false => rw [if_neg Bool.false_ne_true, moved, leaves, Bool.false_xor]

/-- With such a polynomial, reading adds the parity of the input to the parity of the register. -/
theorem parity_absorb {poly : BitVec w} (odd : parity (unload poly) = true) (bits : List Bool)
    (register : BitVec w) :
    parity (unload (absorb poly register bits)) = (parity (unload register) ^^ parity bits) := by
  -- An odd polynomial has a bit, so the register has a place to put one.
  have wide : 0 < w := by
    by_contra empty
    obtain rfl : w = 0 := by omega
    cases odd
  have one (bit : Bool) : parity (unload (low bit : BitVec w)) = bit := by
    obtain ⟨rest, rfl⟩ : ∃ rest, w = rest + 1 := ⟨w - 1, by omega⟩
    have ones : unload (low bit : BitVec (rest + 1)) = bit :: List.replicate rest false := by
      rw [unload, List.range_succ_eq_map, List.map_cons, List.map_map, getLsbD_low]
      simp [getLsbD_low, List.eq_replicate_iff]
    have none_ : parity (List.replicate rest false) = false := by
      rw [← Bool.not_eq_true, parity_iff_odd]
      simp [List.count_replicate]
    rw [ones, show bit :: List.replicate rest false = [bit] ++ List.replicate rest false from rfl,
      parity_append, none_]
    simp [parity]
  -- Neither a shift nor an odd polynomial loses the parity: each bit adds its own.
  induction bits generalizing register with
  | nil => simp [parity]
  | cons bit bits ih =>
    rw [absorb_cons, ih, parity_shift odd, parity_unload_xor, one, Bool.xor_assoc]
    rfl

/-- The positions at which the difference has a one are those at which the inputs differ. -/
theorem getElem?_difference {left right : List Bool} (same : left.length = right.length)
    (position : Nat) :
    (difference left right)[position]? = some true ↔ left[position]? ≠ right[position]? := by
  rw [difference, List.getElem?_zipWith]
  by_cases inside : position < left.length
  · rw [List.getElem?_eq_getElem inside, List.getElem?_eq_getElem (same ▸ inside)]
    simp
  · rw [List.getElem?_eq_none (by omega), List.getElem?_eq_none (by omega)]
    simp

/-- Inputs that differ, but only within the width of the register, leave it differently. -/
theorem burst_detected {poly : BitVec w} (top : poly.msb = true) {left right : List Bool}
    (same : left.length = right.length) (differ : left ≠ right) {start : Nat}
    (within : ∀ position, left[position]? ≠ right[position]? →
      start ≤ position ∧ position < start + w) (register : BitVec w) :
    absorb poly register left ≠ absorb poly register right := by
  -- The two results differ by what the empty register makes of the difference.
  intro equal
  have read := absorb_xor poly same register register
  rw [equal, BitVec.xor_self, BitVec.xor_self] at read
  obtain ⟨position, differs⟩ : ∃ position, left[position]? ≠ right[position]? := by
    by_contra nowhere
    simp only [not_exists, not_not] at nowhere
    exact differ (List.ext_getElem? nowhere)
  have one := List.mem_of_getElem? ((getElem?_difference same position).mpr differs)
  have close : ∀ other, (difference left right)[other]? = some true →
      start ≤ other ∧ other < start + w := by
    intro other found
    exact within other ((getElem?_difference same other).mp found)
  exact absorb_burst top one close read.symm

/-- Inputs that differ in an odd number of positions leave a parity-keeping register differently. -/
theorem odd_detected {poly : BitVec w} (odd : parity (unload poly) = true) {left right : List Bool}
    (same : left.length = right.length) (differ : (difference left right).count true % 2 = 1)
    (register : BitVec w) : absorb poly register left ≠ absorb poly register right := by
  -- Equal results have equal parity, so the inputs have it too.
  intro equal
  have parities := congrArg (fun result => parity (unload result)) equal
  simp only [parity_absorb odd, Bool.xor_right_inj] at parities
  rw [← parity_iff_odd, parity_difference same, parities, Bool.xor_self] at differ
  cases differ

end ShiftRegister
