import SerialPort.Bytes
import SerialPort.Library.BlockCode

/-! Bytes as Boolean arrays and back, one Boolean for each bit in wire order. -/

namespace SerialPort

open BlockCodes

/-- A Boolean array. -/
abbrev Booleans := List Bool

/-- How far the bit of a given wire index is shifted within its byte. -/
def ByteOrder.shift (order : ByteOrder) (bitIndex : Nat) : Int32 :=
  match order with
  | .bigEndian => 7 - Int32.ofNat bitIndex
  | .littleEndian => Int32.ofNat bitIndex

/-- The other byte order. -/
def ByteOrder.other : ByteOrder → ByteOrder
  | .bigEndian => .littleEndian
  | .littleEndian => .bigEndian

namespace Booleans

/-- The Boolean at an index, `this[index]`. -/
def get (bits : Booleans) (index : Int32) : Except Fault Bool :=
  if index < 0 then .error .indexOutOfBounds
  else
    match bits[index.toNatClampNeg]? with
    | some bit => .ok bit
    | none => .error .indexOutOfBounds

/-- The array after a write at an index, `this[index] = bit`. -/
def assign (bits : Booleans) (index : Int32) (bit : Bool) : Except Fault Booleans :=
  if index < 0 ∨ (bits.length : Int) ≤ index.toInt then .error .indexOutOfBounds
  else .ok (bits.set index.toNatClampNeg bit)

/-- The place of a byte's bit in the Boolean array, in wrapping arithmetic. -/
def place (byteIndex bitIndex : Nat) : Int32 :=
  -- The sum wraps around in an array that is too large, and then the index is negative.
  Int32.ofNat byteIndex * 8 + Int32.ofNat bitIndex

/-- Packs bits in wire order into bytes; the bit count must be a multiple of eight. -/
def toByteArray (bits : Booleans) (order : ByteOrder) : Except Fault Bytes :=
  if bits.length % 8 ≠ 0 then .error .illegalArgument
  else
    (List.range (bits.length / 8)).mapM fun byteIndex => do
      -- The value is built up in 32 bits, of which `toByte` keeps the low ones.
      let value ← (List.range 8).foldlM (fun value bitIndex => do
        if ← bits.get (place byteIndex bitIndex) then
          return value ||| ((1 : Int32) <<< order.shift bitIndex)
        else return value) (0 : Int32)
      return value.toUInt32.toUInt8

/-- Packs exactly eight bits into one byte. -/
def toByte (bits : Booleans) (order : ByteOrder) : Except Fault UInt8 :=
  if bits.length ≠ 8 then .error .illegalArgument
  else
    let value := bits.zipIdx.foldl (fun value bit =>
      if bit.1 then value ||| ((1 : Int32) <<< order.shift bit.2) else value) (0 : Int32)
    .ok value.toUInt32.toUInt8

/-- The array with each group of eight bits reversed. -/
def reverseGroups (bits : Booleans) : Booleans :=
  (groups 8 (bits.length / 8) bits).flatMap List.reverse

end Booleans

/-- Whether the bit of a given wire index is set in a byte. -/
def ByteOrder.isSet (order : ByteOrder) (byte : UInt8) (bitIndex : Nat) : Bool :=
  Bytes.unsigned byte &&& ((1 : Int32) <<< order.shift bitIndex) != 0

/-- One Boolean for each bit, in wire order; the size of the result is computed in 32 bits. -/
def Bytes.toBooleanArray (bytes : Bytes) (order : ByteOrder) : Except Fault Booleans :=
  let size := Int32.ofNat bytes.length * 8
  if size < 0 then .error .negativeArraySize
  else
    bytes.zipIdx.foldlM (fun result value =>
      (List.range 8).foldlM (fun (result : Booleans) bitIndex =>
        result.assign (Booleans.place value.2 bitIndex) (order.isSet value.1 bitIndex)) result)
      (List.replicate size.toNatClampNeg false)

/-- The eight bits of one byte. -/
def Byte.toBooleanArray (byte : UInt8) (order : ByteOrder) : Except Fault Booleans :=
  Bytes.toBooleanArray [byte] order

namespace ByteOrder

/-- The bits of a byte in wire order. -/
def bits (order : ByteOrder) (byte : UInt8) : Booleans :=
  (List.range 8).map (order.isSet byte)

/-- Packing the bits of a byte gives the byte back. -/
theorem toByte_bits (order : ByteOrder) (byte : UInt8) :
    (order.bits byte).toByte order = .ok byte := by
  -- There are 256 bytes and two orders.
  cases byte with
  | ofBitVec byte =>
    cases byte with
    | ofFin byte =>
      cases order <;> revert byte <;> decide +kernel

/-- Eight bits are the bits of the byte they are packed into. -/
theorem bits_of_toByte {order : ByteOrder} {group : Booleans} {byte : UInt8}
    (wide : group.length = 8) (packed : group.toByte order = .ok byte) :
    order.bits byte = group := by
  -- There are 256 groups of eight bits and two orders.
  have general : ∀ a b c d e f g h : Bool, ∀ order : ByteOrder,
      (Booleans.toByte [a, b, c, d, e, f, g, h] order).map order.bits =
        .ok [a, b, c, d, e, f, g, h] := by
    intro a b c d e f g h order
    revert a b c d e f g h
    cases order <;> decide +kernel
  obtain ⟨a, b, c, d, e, f, g, h, rfl⟩ : ∃ a b c d e f g h, group = [a, b, c, d, e, f, g, h] := by
    match group, wide with
    | [a, b, c, d, e, f, g, h], _ => exact ⟨a, b, c, d, e, f, g, h, rfl⟩
  -- The group is unpacked from what it has been packed into.
  have found := general a b c d e f g h order
  rw [packed] at found
  exact Except.ok.inj found

/-- A byte order as a code that writes each byte with eight bits. -/
def code (order : ByteOrder) : BlockCode Bool UInt8 Fault where
  width := 8
  write := order.bits
  read := fun group => Booleans.toByte group order
  positive := by decide
  write_length := fun byte => by rw [bits, List.length_map, List.length_range]
  read_write := order.toByte_bits

/-- Packing with the other order is packing the reversed group. -/
theorem toByte_other {order : ByteOrder} {group : Booleans} (wide : group.length = 8) :
    group.toByte order.other = Booleans.toByte group.reverse order := by
  -- There are 256 groups of eight bits and two orders.
  have general : ∀ a b c d e f g h : Bool, ∀ order : ByteOrder,
      Booleans.toByte [a, b, c, d, e, f, g, h] order.other =
        Booleans.toByte [h, g, f, e, d, c, b, a] order := by
    intro a b c d e f g h order
    revert a b c d e f g h
    cases order <;> decide +kernel
  match group, wide with
  | [a, b, c, d, e, f, g, h], _ => exact general a b c d e f g h order

end ByteOrder

/-- A fold that succeeds has succeeded at each of its items. -/
theorem foldlM_step {α β ε : Type*} {step : β → α → Except ε β} {items : List α} {start result : β}
    (done : items.foldlM step start = .ok result) {item : α} (member : item ∈ items) :
    ∃ before after, step before item = .ok after := by
  induction items generalizing start with
  | nil => cases member
  | cons first items ih =>
    rw [List.foldlM_cons] at done
    cases stepped : step start first with
    | error failure =>
      rw [stepped] at done
      cases done
    | ok next =>
      rw [stepped] at done
      -- Either it is the item just taken or one of the rest.
      rcases List.mem_cons.mp member with rfl | later
      · exact ⟨start, next, stepped⟩
      · exact ih done later

/-- A fold whose every step succeeds is a fold of the steps' values. -/
theorem foldlM_pure {α β ε : Type*} (step : β → α → Except ε β) (value : β → α → β)
    (items : List α) (steps : ∀ item ∈ items, ∀ before, step before item = .ok (value before item))
    (start : β) : items.foldlM step start = .ok (items.foldl value start) := by
  induction items generalizing start with
  | nil => rfl
  | cons item items ih =>
    rw [List.foldlM_cons, steps item (by simp), List.foldl_cons]
    exact ih (fun later member => steps later (by simp [member])) _

namespace Booleans

/-- Below the 32-bit limit, a bit's place is computed without wrapping. -/
theorem place_toInt {byteIndex bitIndex : Nat} (fits : byteIndex * 8 + bitIndex < 2 ^ 31) :
    (place byteIndex bitIndex).toInt = ((byteIndex * 8 + bitIndex : Nat) : Int) := by
  have byteValue : (Int32.ofNat byteIndex).toInt = byteIndex := toInt_ofNat_of_fits (by omega)
  have bitValue : (Int32.ofNat bitIndex).toInt = bitIndex := toInt_ofNat_of_fits (by omega)
  have product : (Int32.ofNat byteIndex * 8).toInt = byteIndex * 8 := by
    rw [Int32.toInt_mul, byteValue]
    exact Int.bmod_eq_of_le (by simp; omega) (by simp; omega)
  -- Neither the product nor the sum leaves the 32-bit range.
  rw [place, toInt_add_of_fits (by omega) (by omega), product, bitValue]
  omega

/-- A bit inside the array is read at its place. -/
theorem get_place {bits : Booleans} {byteIndex bitIndex : Nat} {bit : Bool}
    (fits : bits.length < 2 ^ 31) (found : bits[byteIndex * 8 + bitIndex]? = some bit) :
    bits.get (place byteIndex bitIndex) = .ok bit := by
  -- The place of a bit inside the array is below the limit, as its length is.
  have inside := (List.getElem?_eq_some_iff.mp found).1
  have value := place_toInt (show byteIndex * 8 + bitIndex < 2 ^ 31 by omega)
  have nonneg : ¬place byteIndex bitIndex < 0 := not_negative_of_toInt (by omega)
  rw [get, if_neg nonneg, toNatClampNeg_of_toInt value, found]

/-- A bit inside the array is written at its place. -/
theorem assign_place {bits : Booleans} {byteIndex bitIndex : Nat} (bit : Bool)
    (fits : bits.length < 2 ^ 31) (inside : byteIndex * 8 + bitIndex < bits.length) :
    bits.assign (place byteIndex bitIndex) bit = .ok (bits.set (byteIndex * 8 + bitIndex) bit) := by
  have value := place_toInt (show byteIndex * 8 + bitIndex < 2 ^ 31 by omega)
  have nonneg : ¬place byteIndex bitIndex < 0 := not_negative_of_toInt (by omega)
  rw [assign, if_neg (by rw [value]; simp only [nonneg, false_or]; omega),
    toNatClampNeg_of_toInt value]

/-- The bits of one group, read one after another, pack into the byte of the group. -/
theorem packed_group {bits : Booleans} {byteIndex : Nat} (order : ByteOrder)
    (fits : bits.length < 2 ^ 31) (inside : (byteIndex + 1) * 8 ≤ bits.length) :
    (do
      let value ← (List.range 8).foldlM (fun value bitIndex => do
        if ← bits.get (place byteIndex bitIndex) then
          return value ||| ((1 : Int32) <<< order.shift bitIndex)
        else return value) (0 : Int32)
      return value.toUInt32.toUInt8) =
      toByte ((bits.drop (byteIndex * 8)).take 8) order := by
  have wide : ((bits.drop (byteIndex * 8)).take 8).length = 8 := by
    rw [List.length_take, List.length_drop]
    omega
  -- Each of the eight bits is read from its place in the array.
  have read : ∀ bitIndex ∈ List.range 8, bits.get (place byteIndex bitIndex) =
      .ok (((bits.drop (byteIndex * 8)).take 8).getD bitIndex false) := by
    intro bitIndex member
    have below := List.mem_range.mp member
    have within : byteIndex * 8 + bitIndex < bits.length := by omega
    apply get_place fits
    rw [List.getD_eq_getElem?_getD, List.getElem?_take_of_lt below, List.getElem?_drop,
      List.getElem?_eq_getElem within, Option.getD_some]
  have folded := foldlM_pure
    (fun (value : Int32) bitIndex => do
      if ← bits.get (place byteIndex bitIndex) then
        return value ||| ((1 : Int32) <<< order.shift bitIndex)
      else return value)
    (fun value bitIndex =>
      if ((bits.drop (byteIndex * 8)).take 8).getD bitIndex false then
        value ||| ((1 : Int32) <<< order.shift bitIndex)
      else value)
    (List.range 8) ?_ 0
  · rw [folded]
    -- Folding over the indices of eight bits is folding over the bits with their indices.
    generalize (bits.drop (byteIndex * 8)).take 8 = group at wide
    match group, wide with
    | [a, b, c, d, e, f, g, h], _ => rfl
  · intro bitIndex member value
    simp only [read bitIndex member, Bind.bind, Except.bind, Pure.pure, Except.pure]
    split <;> rfl

/-- Packing an aligned array reads its groups, one byte from each. -/
theorem toByteArray_eq {bits : Booleans} (order : ByteOrder) (fits : bits.length < 2 ^ 31)
    (aligned : bits.length % 8 = 0) : bits.toByteArray order = order.code.readAll bits := by
  rw [toByteArray, if_neg (not_not.mpr aligned), BlockCode.readAll, groups, List.mapM_map]
  -- Both sides go through the same indices.
  apply mapM_congr
  intro byteIndex member
  have below := List.mem_range.mp member
  exact packed_group order fits (by omega)

/-- An array that is not aligned is refused. -/
theorem toByteArray_unaligned {bits : Booleans} (order : ByteOrder) (odd : bits.length % 8 ≠ 0) :
    bits.toByteArray order = .error .illegalArgument := if_pos odd

/-- Writing a run of bits one by one fills the hole they were reserved. -/
theorem assign_run {done hole later : Booleans} {byteIndex : Nat} (value : Nat → Bool)
    (fits : (done ++ hole ++ later).length < 2 ^ 31) (start : done.length = byteIndex * 8)
    {count : Nat} (enough : count ≤ hole.length) :
    (List.range count).foldlM (fun (result : Booleans) bitIndex =>
        result.assign (place byteIndex bitIndex) (value bitIndex)) (done ++ hole ++ later) =
      .ok (done ++ ((List.range count).map value ++ hole.drop count) ++ later) := by
  -- The writes go upward, so each one replaces the first bit that is still a placeholder.
  induction count with
  | zero => rfl
  | succ count ih =>
    obtain ⟨placeholder, kept, open_⟩ : ∃ placeholder kept,
        hole.drop count = placeholder :: kept :=
      List.exists_cons_of_ne_nil (by rw [Ne, List.drop_eq_nil_iff]; omega)
    have rest : hole.drop (count + 1) = kept := by
      rw [← List.drop_drop, open_]
      rfl
    have size := congrArg List.length open_
    simp only [List.length_drop, List.length_cons, List.length_append] at size fits
    rw [List.range_succ, List.foldlM_append, ih (by omega), open_, rest]
    -- The array is regrouped around its first placeholder.
    have around : done ++ ((List.range count).map value ++ placeholder :: kept) ++ later =
        (done ++ (List.range count).map value) ++ placeholder :: (kept ++ later) := by
      simp only [List.append_assoc, List.cons_append]
    have spot : byteIndex * 8 + count = (done ++ (List.range count).map value).length := by
      rw [List.length_append, List.length_map, List.length_range, start]
    have total : ((done ++ (List.range count).map value) ++ placeholder :: (kept ++ later)).length =
        done.length + hole.length + later.length := by
      simp only [List.length_append, List.length_cons, List.length_map, List.length_range]
      omega
    -- The one write of this step goes to the place of the placeholder.
    have written := assign_place (value count) (by rw [total]; exact fits)
      (show byteIndex * 8 + count < ((done ++ (List.range count).map value) ++
        placeholder :: (kept ++ later)).length by rw [total]; omega)
    simp only [Bind.bind, Except.bind, List.foldlM_cons, List.foldlM_nil, Pure.pure, Except.pure]
    rw [around, written, spot, List.set_append_right _ _ (Nat.le_refl _), Nat.sub_self,
      List.set_cons_zero, List.map_append]
    simp only [List.map_cons, List.map_nil, List.append_assoc, List.cons_append, List.nil_append]

/-- Writing all bytes, one after another, fills the array with their bits in wire order. -/
theorem assign_bytes {order : ByteOrder} {bytes : Bytes} {done : Booleans} {byteIndex : Nat}
    (fits : done.length + bytes.length * 8 < 2 ^ 31) (start : done.length = byteIndex * 8) :
    (bytes.zipIdx byteIndex).foldlM (fun result value =>
        (List.range 8).foldlM (fun (result : Booleans) bitIndex =>
          result.assign (place value.2 bitIndex) (order.isSet value.1 bitIndex)) result)
        (done ++ List.replicate (bytes.length * 8) false) =
      (.ok (done ++ order.code.writeAll bytes) : Except Fault Booleans) := by
  -- Each byte fills the next eight placeholders.
  induction bytes generalizing done byteIndex with
  | nil => rfl
  | cons byte bytes ih =>
    rw [List.length_cons, Nat.succ_mul] at fits
    have reserved : done ++ List.replicate ((byte :: bytes).length * 8) false =
        done ++ List.replicate 8 false ++ List.replicate (bytes.length * 8) false := by
      rw [List.length_cons, Nat.succ_mul, Nat.add_comm, List.replicate_add, List.append_assoc]
    have filled := assign_run (order.isSet byte)
      (show (done ++ List.replicate 8 false ++ List.replicate (bytes.length * 8) false).length <
        2 ^ 31 by simp only [List.length_append, List.length_replicate]; omega) start
      (Nat.le_of_eq List.length_replicate.symm)
    have exact_ : (List.replicate 8 false).drop 8 = [] := rfl
    rw [exact_, List.append_nil] at filled
    rw [List.zipIdx_cons, List.foldlM_cons, reserved, filled]
    have size : (done ++ order.bits byte).length = (byteIndex + 1) * 8 := by
      rw [List.length_append, start, Nat.succ_mul]
      rfl
    have rest := @ih (done ++ order.bits byte) (byteIndex + 1) (by omega) size
    have whole :
        order.code.writeAll (byte :: bytes) = order.bits byte ++ order.code.writeAll bytes :=
      List.flatMap_cons
    rw [whole, ← List.append_assoc]
    exact rest

end Booleans

namespace Bytes

/-- Up to the 32-bit limit, the Boolean array holds the bits of the bytes in wire order. -/
theorem toBooleanArray_eq {bytes : Bytes} (order : ByteOrder) (fits : bytes.length < 2 ^ 28) :
    bytes.toBooleanArray order = .ok (order.code.writeAll bytes) := by
  have value : (Int32.ofNat bytes.length).toInt = bytes.length := toInt_ofNat_of_fits (by omega)
  have size : (Int32.ofNat bytes.length * 8).toInt = ((bytes.length * 8 : Nat) : Int) := by
    rw [Int32.toInt_mul, value]
    exact Int.bmod_eq_of_le (by simp; omega) (by simp; omega)
  have nonneg : ¬Int32.ofNat bytes.length * 8 < 0 := not_negative_of_toInt (by omega)
  have reserved := toNatClampNeg_of_toInt size
  rw [toBooleanArray]
  simp only [if_neg nonneg, reserved]
  -- The array is all placeholders at first, and the bytes fill it from the front.
  have none : ([] : Booleans).length + bytes.length * 8 < 2 ^ 31 := by simp; omega
  exact Booleans.assign_bytes none rfl

/-- Beyond the 32-bit limit, some bit has no place in an array, and the conversion throws. -/
theorem toBooleanArray_beyond {bytes : Bytes} {order : ByteOrder} {bits : Booleans}
    (large : 2 ^ 28 ≤ bytes.length) : bytes.toBooleanArray order ≠ .ok bits := by
  intro done
  dsimp only [toBooleanArray] at done
  split at done
  · cases done
  · rename_i nonneg
    -- With exactly the limit's bytes, the size itself has wrapped to a negative number.
    have more : 2 ^ 28 < bytes.length := by
      refine Nat.lt_of_le_of_ne large fun same => nonneg ?_
      rw [← same]
      decide
    -- With more, the first bit behind the limit is written to a negative index.
    have member : (bytes[2 ^ 28], 2 ^ 28) ∈ bytes.zipIdx :=
      List.mem_zipIdx_iff_getElem?.mpr (List.getElem?_eq_getElem more)
    obtain ⟨before, after, stepped⟩ := foldlM_step done member
    obtain ⟨result, next, written⟩ := foldlM_step stepped (List.mem_range.mpr (Nat.succ_pos 7))
    have behind : Booleans.place (2 ^ 28) 0 < 0 := by decide
    rw [Booleans.assign, if_pos (Or.inl behind)] at written
    cases written

/-- Exactly the byte arrays below the limit have a Boolean array. -/
theorem toBooleanArray_ok_iff {bytes : Bytes} {order : ByteOrder} :
    (∃ bits, bytes.toBooleanArray order = .ok bits) ↔ bytes.length < 2 ^ 28 := by
  constructor
  · rintro ⟨bits, done⟩
    exact Nat.lt_of_not_le fun large => toBooleanArray_beyond large done
  · exact fun fits => ⟨_, toBooleanArray_eq order fits⟩

end Bytes

namespace Booleans

/-- Reversing the groups of an aligned array reverses each group where it stands. -/
theorem groups_reverseGroups {bits : Booleans} (aligned : bits.length % 8 = 0) :
    groups 8 (bits.length / 8) bits.reverseGroups =
      (groups 8 (bits.length / 8) bits).map List.reverse ∧
      bits.reverseGroups.length = bits.length := by
  have even : bits.length = bits.length / 8 * 8 := by omega
  -- A reversed group is as wide as the group.
  have uniform : ∀ part ∈ (groups 8 (bits.length / 8) bits).map List.reverse, part.length = 8 := by
    intro part member
    obtain ⟨group, inside, rfl⟩ := List.mem_map.mp member
    rw [List.length_reverse]
    exact length_of_mem_groups even inside
  constructor
  · have found := groups_flatten uniform
    rwa [List.length_map, groups_length, ← List.flatMap_def] at found
  · have total : (groups 8 (bits.length / 8) bits).flatten.length = bits.length := by
      rw [flatten_groups even]
    rw [reverseGroups, List.length_flatMap]
    rw [List.length_flatten] at total
    simpa only [List.length_reverse] using total

/-- Reading with the other order is reading the reversed groups. -/
theorem readAll_other {bits : Booleans} (order : ByteOrder) (aligned : bits.length % 8 = 0) :
    order.other.code.readAll bits = order.code.readAll bits.reverseGroups := by
  -- In place of every group there is the reversed one, which the other order reads the same.
  obtain ⟨reversed, size⟩ := groups_reverseGroups aligned
  have even : bits.length = bits.length / 8 * 8 := by omega
  have wide : ∀ group ∈ groups 8 (bits.length / 8) bits, group.length = 8 :=
    fun group member => length_of_mem_groups even member
  show (groups 8 (bits.length / 8) bits).mapM (fun group => toByte group order.other) =
    (groups 8 (bits.reverseGroups.length / 8) bits.reverseGroups).mapM
      (fun group => toByte group order)
  rw [size, reversed, List.mapM_map]
  exact mapM_congr fun group member => order.toByte_other (wide group member)

/-- Every aligned array can be read, since a group of eight bits is always some byte. -/
theorem readAll_aligned {bits : Booleans} (order : ByteOrder) (aligned : bits.length % 8 = 0) :
    ∃ bytes, order.code.readAll bits = .ok bytes := by
  have even : bits.length = bits.length / 8 * 8 := by omega
  -- Every group is read, whatever bits there are in it.
  refine BlockCode.readAll_ok_iff.mpr fun group member => ?_
  have wide : group.length = 8 := length_of_mem_groups even member
  exact ⟨_, if_neg (not_not.mpr wide)⟩

/-- What packing an aligned array gives: it unpacks again, byte by byte, and in either order. -/
theorem toByteArray_aligned {bits : Booleans} (order : ByteOrder) (fits : bits.length < 2 ^ 31)
    (aligned : bits.length % 8 = 0) :
    ∃ bytes : Bytes, bits.toByteArray order = .ok bytes ∧ bytes.length = bits.length / 8 ∧
      bytes.toBooleanArray order = .ok bits ∧
      (∀ index (inside : index < bytes.length),
        toByte ((bits.drop (index * 8)).take 8) order = .ok bytes[index]) ∧
      bits.toByteArray order.other = bits.reverseGroups.toByteArray order := by
  obtain ⟨bytes, read⟩ := readAll_aligned order aligned
  have even : bits.length = bits.length / 8 * 8 := by omega
  -- Writing the bytes that were read spells every bit as it was.
  have written : order.code.writeAll bytes = bits.map id :=
    BlockCode.writeAll_of_readAll (Nat.dvd_of_mod_eq_zero aligned)
      (fun group member byte packed => by
      rw [List.map_id]
      exact ByteOrder.bits_of_toByte (length_of_mem_groups even member) packed) read
  rw [List.map_id] at written
  have size : bits.length = bytes.length * 8 := by
    rw [← written, order.code.writeAll_length]
    rfl
  have reversed := groups_reverseGroups aligned
  refine ⟨bytes, ?_, by omega, ?_, ?_, ?_⟩
  · rw [toByteArray_eq order fits aligned, read]
  · rw [Bytes.toBooleanArray_eq order (by omega), written]
  · exact fun index inside => BlockCode.readAll_getElem read inside
  · rw [toByteArray_eq order.other fits aligned, readAll_other order aligned,
      toByteArray_eq order (by rw [reversed.2]; exact fits) (by rw [reversed.2]; exact aligned)]

/-- A byte array that has a Boolean array is packed from it again. -/
theorem toByteArray_of_toBooleanArray {bytes : Bytes} (order : ByteOrder)
    (fits : bytes.length < 2 ^ 28) :
    (bytes.toBooleanArray order).bind (fun bits => toByteArray bits order) = .ok bytes := by
  have size : (order.code.writeAll bytes).length = bytes.length * 8 :=
    order.code.writeAll_length bytes
  -- Reading what a code has written gives the blocks back.
  rw [Bytes.toBooleanArray_eq order fits]
  show toByteArray (order.code.writeAll bytes) order = .ok bytes
  rw [toByteArray_eq order (by omega) (by omega), order.code.readAll_writeAll]

/--
Bit packing is a bijection between the byte arrays below the limit and the aligned Boolean arrays.

From the limit on, a byte array has more bits than a Boolean array has room, so that unpacking it
throws.
-/
theorem packing_bijective (order : ByteOrder) :
    (∀ bytes : Bytes,
      ((∃ bits, bytes.toBooleanArray order = .ok bits) ↔ bytes.length < 2 ^ 28) ∧
      (bytes.length < 2 ^ 28 →
        (bytes.toBooleanArray order).bind (fun bits => toByteArray bits order) = .ok bytes)) ∧
    (∀ bits : Booleans, bits.length < 2 ^ 31 →
      (bits.length % 8 = 0 →
        ∃ bytes : Bytes, bits.toByteArray order = .ok bytes ∧ bytes.length = bits.length / 8 ∧
          bytes.toBooleanArray order = .ok bits ∧
          (∀ index (inside : index < bytes.length),
            toByte ((bits.drop (index * 8)).take 8) order = .ok bytes[index]) ∧
          bits.toByteArray order.other = bits.reverseGroups.toByteArray order) ∧
      (bits.length % 8 ≠ 0 → bits.toByteArray order = .error .illegalArgument)) :=
  ⟨fun _ => ⟨Bytes.toBooleanArray_ok_iff, toByteArray_of_toBooleanArray order⟩,
    fun _ fits => ⟨toByteArray_aligned order fits, toByteArray_unaligned order⟩⟩

/-- Two bytes, most significant bit first. -/
theorem packing_bijective_two :
    ((Bytes.toBooleanArray [0x81, 0x24] .bigEndian).bind fun bits => toByteArray bits .bigEndian) =
      .ok [0x81, 0x24] :=
  ((packing_bijective .bigEndian).1 [0x81, 0x24]).2 (by decide)

/-- Zeros without a Boolean array: their bits are one more than the largest 32-bit integer. -/
theorem packing_fails_large :
    ¬∀ (bytes : Bytes) (order : ByteOrder), bytes.length < 2 ^ 31 →
      (bytes.toBooleanArray order).bind (fun bits => toByteArray bits order) = .ok bytes := by
  intro all
  -- An array of this size is possible, but not one of its bits.
  have found := all (List.replicate (2 ^ 28) 0) .bigEndian (by rw [List.length_replicate]; decide)
  cases unpacked : Bytes.toBooleanArray (List.replicate (2 ^ 28) 0) .bigEndian with
  | error fault =>
    rw [unpacked] at found
    cases found
  | ok bits =>
    exact Bytes.toBooleanArray_beyond (Nat.le_of_eq List.length_replicate.symm) unpacked

end Booleans

end SerialPort
