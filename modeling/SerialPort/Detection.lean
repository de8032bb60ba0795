import SerialPort.Checksum
import SerialPort.Library.ShiftRegister

/-! Which differences between two messages the Modbus CRC cannot miss. -/

namespace SerialPort

open ShiftRegister

namespace Bytes

/-- The bits of a byte in the order in which they are sent, the least significant one first. -/
def byteBits (byte : UInt8) : List Bool :=
  (List.range 8).map byte.toBitVec.getLsbD

/-- The bits of a message in wire order: the bytes in order, each from its least significant bit. -/
def wireBits (bytes : Bytes) : List Bool :=
  bytes.flatMap byteBits

/-- The bit positions, in wire order, at which two messages differ. -/
def flipped (sent received : Bytes) : List Nat :=
  (List.range sent.wireBits.length).filter fun position =>
    sent.wireBits[position]? != received.wireBits[position]?

/-- The bits of a byte are those of its register. -/
theorem getD_byteBits (byte : UInt8) (index : Nat) :
    (byteBits byte).getD index false = byte.toBitVec.getLsbD index := by
  by_cases inside : index < 8
  · simp [byteBits, inside]
  · simp [byteBits, inside, BitVec.getLsbD_of_ge byte.toBitVec index (by omega)]

/-- A byte has eight bits. -/
@[simp] theorem length_byteBits (byte : UInt8) : (byteBits byte).length = 8 := by
  simp [byteBits]

/-- The first byte is sent first. -/
theorem wireBits_cons (byte : UInt8) (bytes : Bytes) :
    wireBits (byte :: bytes) = byteBits byte ++ bytes.wireBits :=
  List.flatMap_cons

/-- What is sent in two parts is sent as one. -/
theorem wireBits_append (front back : Bytes) :
    wireBits (front ++ back) = front.wireBits ++ back.wireBits :=
  List.flatMap_append

/-- Every byte is sent as eight bits. -/
theorem length_wireBits (bytes : Bytes) : bytes.wireBits.length = 8 * bytes.length := by
  induction bytes with
  | nil => rfl
  | cons byte bytes ih =>
    rw [wireBits_cons, List.length_append, ih, length_byteBits, List.length_cons]
    omega

end Bytes

namespace Checksums

/-- The polynomial of the Modbus CRC. -/
def modbus : BitVec 16 := 0xA001#16

/-- The register before the first byte. -/
def initial : BitVec 16 := 0xFFFF#16

/-- The 16-bit register held in a 32-bit integer. -/
def widen (register : BitVec 16) : UInt32 := ⟨register.setWidth 32⟩

/-- Widening is linear. -/
theorem widen_xor (left right : BitVec 16) :
    widen (left ^^^ right) = widen left ^^^ widen right := by
  apply UInt32.toBitVec_inj.mp
  simp [widen]

/-- One shift of the model's 32-bit register is one shift of the 16-bit register in it. -/
theorem crcShift_widen (register : BitVec 16) :
    crcShift (widen register) = widen (shift modbus register) := by
  -- The lowest bit is tested in both, and the sixteen high bits stay zero.
  have lowest : widen register &&& 1 = if register.getLsbD 0 then 1 else 0 := by
    apply UInt32.toBitVec_inj.mp
    rw [UInt32.toBitVec_and]
    apply BitVec.eq_of_getLsbD_eq
    intro index inside
    cases index with
    | zero => cases bit : register.getLsbD 0 <;> simp_all [widen]
    | succ index => cases bit : register.getLsbD 0 <;> simp [BitVec.getLsbD_one]
  have moved : widen register >>> 1 = widen (register >>> 1) := by
    apply UInt32.toBitVec_inj.mp
    rw [UInt32.toBitVec_shiftRight]
    simp [widen, BitVec.setWidth_ushiftRight]
  rw [crcShift, shift, lowest, moved]
  cases register.getLsbD 0 with
  | false => rfl
  | true =>
    rw [if_pos rfl, if_pos rfl, if_pos (by decide), widen_xor]
    rfl

/-- A byte of the message, as the register that its bits fill. -/
theorem byte_widen (byte : UInt8) : byte.toUInt32 = widen (load (Bytes.byteBits byte)) := by
  apply UInt32.toBitVec_inj.mp
  apply BitVec.eq_of_getLsbD_eq
  intro index inside
  -- The register is 16 bits wide and the byte 8: above those, both have no bit set.
  have loaded : (load (Bytes.byteBits byte) : BitVec 16).getLsbD index =
      byte.toBitVec.getLsbD index := by
    rw [getLsbD_load, Bytes.getD_byteBits]
    by_cases small : index < 16
    · simp [small]
    · simp [BitVec.getLsbD_of_ge byte.toBitVec index (by omega)]
  simp only [widen, UInt8.toBitVec_toUInt32, BitVec.getLsbD_setWidth, inside, loaded]

/-- The bits of one byte may as well be loaded at once. -/
theorem absorb_byte (register : BitVec 16) (byte : UInt8) :
    absorb modbus register (Bytes.byteBits byte) =
      shifts modbus 8 (register ^^^ load (Bytes.byteBits byte)) := by
  rw [absorb_eq_shifts modbus (by simp), Bytes.length_byteBits]

/-- Reading a message is reading its bytes one after the other. -/
theorem absorb_wireBits (data : Bytes) (register : BitVec 16) :
    absorb modbus register data.wireBits =
      data.foldl (fun register byte => absorb modbus register (Bytes.byteBits byte)) register := by
  induction data generalizing register with
  | nil => rfl
  | cons byte data ih => rw [Bytes.wireBits_cons, absorb_append, ih, List.foldl_cons]

/-- Taking in one byte is reading its bits, the least significant one first. -/
theorem crcByte_widen (register : BitVec 16) (byte : UInt8) :
    crcByte (widen register) byte = widen (absorb modbus register (Bytes.byteBits byte)) := by
  -- Loading the bits at once is what the code does before it shifts.
  have shifted : ∀ count (register : BitVec 16),
      Nat.repeat crcShift count (widen register) = widen (shifts modbus count register) := by
    intro count
    induction count with
    | zero => intro register; rfl
    | succ count ih => intro register; rw [Nat.repeat, ih, crcShift_widen]; rfl
  rw [crcByte, byte_widen, ← widen_xor, shifted, absorb_byte]

/-- The register after a whole message. -/
theorem foldl_crcByte (data : Bytes) (register : BitVec 16) :
    data.foldl crcByte (widen register) = widen (absorb modbus register data.wireBits) := by
  -- Both go through the bytes, and one byte does the same to either register.
  rw [absorb_wireBits]
  exact List.foldl_hom widen crcByte_widen

/-- The two bytes of the checksum are the bits of the register in the order in which they leave. -/
theorem wireBits_crc (data : Bytes) :
    (Crc16Modbus data).wireBits = unload (absorb modbus initial data.wireBits) := by
  have start : (0xFFFF : UInt32) = widen initial := rfl
  simp only [Crc16Modbus, start, foldl_crcByte]
  generalize absorb modbus initial data.wireBits = register
  have lowByte : Bytes.byteBits (widen register &&& 0xFF).toUInt8 =
      (List.range 8).map register.getLsbD := by
    apply List.map_congr_left
    intro index member
    have small := List.mem_range.mp member
    -- The mask keeps exactly the bits that a byte has.
    have mask : ((255 : UInt32).toBitVec).getLsbD index = true := by
      rw [show (255 : UInt32).toBitVec = BitVec.ofNat 32 (2 ^ 8 - 1) from rfl, BitVec.getLsbD_ofNat,
        Nat.testBit_two_pow_sub_one]
      simp [small, show index < 32 by omega]
    rw [UInt32.toBitVec_toUInt8, BitVec.getLsbD_setWidth, UInt32.toBitVec_and, BitVec.getLsbD_and,
      mask]
    simp [widen, small, show index < 32 by omega]
  have highByte : Bytes.byteBits (widen register >>> 8).toUInt8 =
      (List.range 8).map fun index => register.getLsbD (8 + index) := by
    apply List.map_congr_left
    intro index member
    have small := List.mem_range.mp member
    simp [widen, UInt32.toBitVec_shiftRight, small, show 8 + index < 32 by omega]
  have halves : List.range 16 = List.range 8 ++ (List.range 8).map (8 + ·) := rfl
  rw [Bytes.wireBits_cons, Bytes.wireBits_cons, lowByte, highByte, unload, halves, List.map_append,
    List.map_map]
  simp [Bytes.wireBits]

/-- A message followed by its checksum empties the register. -/
theorem absorb_withChecksum (body : Bytes) :
    absorb modbus initial (body.withChecksum Crc16Modbus).wireBits = 0#16 := by
  rw [Bytes.withChecksum, Bytes.wireBits_append, wireBits_crc, absorb_append, absorb_unload]

/-- A message that passes the test empties the register. -/
theorem absorb_of_hasChecksum {message : Bytes} (passed : message.hasChecksum Crc16Modbus = true) :
    absorb modbus initial message.wireBits = 0#16 := by
  -- It is the body before its last two bytes, followed by the checksum of that body.
  unfold Bytes.hasChecksum at passed
  split at passed
  · cases passed
  · rw [← eq_of_beq passed]
    exact absorb_withChecksum _

end Checksums

namespace Bytes

/-- The flipped positions are those at which the two messages have different bits. -/
theorem mem_flipped {sent received : Bytes} (same : received.length = sent.length)
    {position : Nat} : position ∈ flipped sent received ↔
      sent.wireBits[position]? ≠ received.wireBits[position]? := by
  -- Behind both messages there is no bit to differ.
  rw [flipped, List.mem_filter, List.mem_range, bne_iff_ne, and_iff_right_iff_imp]
  intro differs
  by_contra beyond
  rw [List.getElem?_eq_none (by omega), List.getElem?_eq_none] at differs
  · exact differs rfl
  · rw [length_wireBits, same, ← length_wireBits]
    omega

/-- The number of flipped positions is the number of ones in the difference of the bits. -/
theorem length_flipped {sent received : Bytes} (same : received.length = sent.length) :
    (flipped sent received).length =
      (difference sent.wireBits received.wireBits).count true := by
  have bits : sent.wireBits.length = received.wireBits.length := by
    rw [length_wireBits, length_wireBits, same]
  have length : (difference sent.wireBits received.wireBits).length = sent.wireBits.length := by
    simp [difference, bits]
  -- Counting ones in a list is counting the indices at which it has them.
  have listed : difference sent.wireBits received.wireBits =
      (List.range sent.wireBits.length).map fun position =>
        sent.wireBits[position]? != received.wireBits[position]? := by
    apply List.ext_getElem (by simp [length])
    intro position inside also
    have found := getElem?_difference bits position
    rw [List.getElem?_eq_getElem inside, Option.some.injEq, ← bne_iff_ne, Bool.eq_iff_iff.symm]
      at found
    simp [found]
  rw [listed, List.count, List.countP_map, flipped, ← List.countP_eq_length_filter]
  congr 1
  funext position
  simp

/--
Error detection: a message followed by its Modbus CRC passes the test, and no longer does so once
bits are flipped within 16 consecutive positions or in an odd number.

Positions are counted in wire order, and the bits of the checksum itself may be flipped as well.
-/
theorem withChecksum_detects (body : Bytes) :
    (body.withChecksum Checksums.Crc16Modbus).hasChecksum Checksums.Crc16Modbus = true ∧
      ∀ received : Bytes, received.length = (body.withChecksum Checksums.Crc16Modbus).length →
        flipped (body.withChecksum Checksums.Crc16Modbus) received ≠ [] →
        ((∃ start, ∀ position ∈ flipped (body.withChecksum Checksums.Crc16Modbus) received,
            start ≤ position ∧ position < start + 16) ∨
          (flipped (body.withChecksum Checksums.Crc16Modbus) received).length % 2 = 1) →
        received.hasChecksum Checksums.Crc16Modbus = false := by
  refine ⟨hasChecksum_withChecksum (fun data => rfl) body, ?_⟩
  intro received same differs detectable
  have emptied := Checksums.absorb_withChecksum body
  generalize body.withChecksum Checksums.Crc16Modbus = sent at *
  have bits : sent.wireBits.length = received.wireBits.length := by
    rw [length_wireBits, length_wireBits, same]
  -- Both messages would empty the register, which the difference between them does not allow.
  rw [← Bool.not_eq_true]
  intro passed
  have equal := emptied.trans (Checksums.absorb_of_hasChecksum passed).symm
  rcases detectable with ⟨start, within⟩ | odd
  · obtain ⟨position, member⟩ := List.exists_mem_of_ne_nil _ differs
    have differ : sent.wireBits ≠ received.wireBits := by
      intro alike
      simp [flipped, alike] at member
    have close : ∀ position, sent.wireBits[position]? ≠ received.wireBits[position]? →
        start ≤ position ∧ position < start + 16 :=
      fun position differs => within position ((mem_flipped same).mpr differs)
    exact burst_detected (by decide) bits differ close _ equal
  · rw [length_flipped same] at odd
    exact odd_detected (by decide) bits odd _ equal

/-- A burst across the body and its checksum, and three single bits far from each other. -/
theorem withChecksum_detects_damaged :
    Bytes.hasChecksum [1, 0x82, 0xD3, 0x62, 0x61] Checksums.Crc16Modbus = false ∧
      Bytes.hasChecksum [0, 2, 2, 0x61, 0x60] Checksums.Crc16Modbus = false := by
  have body : Bytes.withChecksum [1, 2, 3] Checksums.Crc16Modbus = [1, 2, 3, 0x61, 0x61] := by
    decide +kernel
  obtain ⟨-, detects⟩ := withChecksum_detects [1, 2, 3]
  rw [body] at detects
  -- A burst of twelve bits, then an odd number of flipped bits.
  constructor
  · exact detects _ (by decide) (by decide) (Or.inl ⟨12, by decide⟩)
  · exact detects _ (by decide) (by decide) (Or.inr (by decide))

/-- The message with one bit of one of its bytes flipped. -/
def flipBit (bytes : Bytes) (index bit : Nat) : Bytes :=
  bytes.modify index fun byte => byte ^^^ (1 <<< UInt8.ofNat bit)

/-- A bit that is flipped changes no length. -/
@[simp] theorem length_flipBit (bytes : Bytes) (index bit : Nat) :
    (bytes.flipBit index bit).length = bytes.length := by
  rw [flipBit, List.length_modify]

/-- A bit of the back part is flipped there. -/
theorem flipBit_append_right (front back : Bytes) (index bit : Nat) :
    flipBit (front ++ back) (front.length + index) bit = front ++ back.flipBit index bit := by
  induction front with
  | nil => simp
  | cons byte front ih =>
    rw [List.length_cons, Nat.add_right_comm, List.cons_append, flipBit, List.modify_succ_cons]
    exact congrArg (byte :: ·) ih

/-- A bit of the front part is flipped there. -/
theorem flipBit_append_left {front : Bytes} {index : Nat} (inside : index < front.length)
    (bit : Nat) (back : Bytes) :
    flipBit (front ++ back) index bit = front.flipBit index bit ++ back := by
  induction front generalizing index with
  | nil => cases inside
  | cons byte front ih =>
    cases index with
    | zero => rfl
    -- Past the first byte the flip is one in the rest of the front.
    | succ index =>
      rw [List.cons_append, flipBit, List.modify_succ_cons]
      exact congrArg (byte :: ·) (ih (Nat.lt_of_succ_lt_succ inside))

/-- Flipping a bit replaces one byte by another one. -/
theorem flipBit_eq {bytes : Bytes} {index bit : Nat} (inside : index < bytes.length)
    (small : bit < 8) :
    ∃ front byte other back, bytes = front ++ byte :: back ∧ byte ≠ other ∧
      bytes.flipBit index bit = front ++ other :: back := by
  -- The mask has exactly one bit, so it changes the byte it meets.
  have mask : (1 <<< UInt8.ofNat bit : UInt8) ≠ 0 := by
    rcases show bit = 0 ∨ bit = 1 ∨ bit = 2 ∨ bit = 3 ∨ bit = 4 ∨ bit = 5 ∨ bit = 6 ∨ bit = 7 by
      omega with rfl | rfl | rfl | rfl | rfl | rfl | rfl | rfl <;> decide
  refine ⟨bytes.take index, bytes[index], bytes[index] ^^^ (1 <<< UInt8.ofNat bit),
    bytes.drop (index + 1), ?_, ?_, ?_⟩
  · rw [List.getElem_cons_drop, List.take_append_drop]
  · intro same
    exact mask (UInt8.xor_right_inj _ |>.mp (same.symm.trans UInt8.xor_zero.symm))
  · rw [flipBit, List.modify_eq_take_cons_drop inside]

end Bytes

namespace Checksums

/-- An accumulation whose every step can be undone tells messages apart that differ in one byte. -/
theorem foldl_ne {σ : Type} {step : σ → UInt8 → σ}
    (sameState : ∀ one other byte, step one byte = step other byte → one = other)
    (sameByte : ∀ state one other, step state one = step state other → one = other)
    (state : σ) {byte other : UInt8} (differ : byte ≠ other) (front back : Bytes) :
    (front ++ byte :: back).foldl step state ≠ (front ++ other :: back).foldl step state := by
  -- Equal results are traced back through the bytes behind the two that differ.
  intro equal
  rw [List.foldl_append, List.foldl_append, List.foldl_cons, List.foldl_cons] at equal
  have backwards : ∀ (bytes : Bytes) {one other : σ},
      bytes.foldl step one = bytes.foldl step other → one = other := by
    intro bytes
    induction bytes with
    | nil => exact fun same => same
    | cons byte bytes ih => exact fun same => sameState _ _ _ (ih same)
  exact differ (sameByte _ _ _ (backwards back equal))

/-- The three checksums of the library, apart from the empty one. -/
def common : List Checksum :=
  [Xor8, Sum8, Crc16Modbus]

/-- A byte of a 32-bit integer, `toByte()`. -/
theorem toUInt8_unsigned (byte : UInt8) : (Bytes.unsigned byte).toUInt32.toUInt8 = byte := by
  apply UInt8.toBitVec_inj.mp
  show (BitVec.ofNat 32 byte.toNat).setWidth 8 = byte.toBitVec
  apply BitVec.eq_of_toNat_eq
  have small := byte.toNat_lt
  simp

/-- The exclusive or in a 32-bit register is that of the bytes. -/
theorem Xor8_eq (data : Bytes) :
    Xor8 data = [data.foldl (fun result byte => result ^^^ byte) 0] := by
  -- The code folds over a 32-bit number and keeps its low byte at the end.
  have step : ∀ (result : Int32) (byte : UInt8), result.toUInt32.toUInt8 ^^^ byte =
      (result ^^^ Bytes.unsigned byte).toUInt32.toUInt8 := by
    intro result byte
    conv => lhs; rw [← toUInt8_unsigned byte]
    apply UInt8.toBitVec_inj.mp
    show result.toBitVec.setWidth 8 ^^^ (Bytes.unsigned byte).toBitVec.setWidth 8 =
      (result.toBitVec ^^^ (Bytes.unsigned byte).toBitVec).setWidth 8
    rw [BitVec.setWidth_xor]
  exact congrArg (fun result => [result]) (List.foldl_hom _ step).symm

/-- The sum in a 32-bit register, masked at every step, is that of the bytes. -/
theorem Sum8_eq (data : Bytes) : Sum8 data = [data.foldl (fun result byte => result + byte) 0] := by
  have step : ∀ (result : Int32) (byte : UInt8), result.toUInt32.toUInt8 + byte =
      ((result + Bytes.unsigned byte) &&& 0xFF).toUInt32.toUInt8 := by
    intro result byte
    conv => lhs; rw [← toUInt8_unsigned byte]
    apply UInt8.toBitVec_inj.mp
    show result.toBitVec.setWidth 8 + (Bytes.unsigned byte).toBitVec.setWidth 8 =
      ((result.toBitVec + (Bytes.unsigned byte).toBitVec) &&& 0xFF#32).setWidth 8
    -- The mask keeps all bits of the byte.
    rw [BitVec.setWidth_and, BitVec.setWidth_add _ _ (by decide)]
    exact BitVec.and_allOnes.symm
  exact congrArg (fun result => [result]) (List.foldl_hom _ step).symm

/-- A common checksum has one or two bytes, whatever the message. -/
theorem common_length {checksum : Checksum} (isCommon : checksum ∈ common) (data : Bytes) :
    0 < (checksum []).length ∧ (checksum []).length ≤ 2 ∧
      (checksum data).length = (checksum []).length := by
  simp only [common, List.mem_cons, List.not_mem_nil, or_false] at isCommon
  rcases isCommon with rfl | rfl | rfl <;> exact ⟨by decide +kernel, by decide +kernel, rfl⟩

/-- Each of the common checksums notices every change of one byte. -/
theorem common_ne {checksum : Checksum} (isCommon : checksum ∈ common) {byte other : UInt8}
    (differ : byte ≠ other) (front back : Bytes) :
    checksum (front ++ byte :: back) ≠ checksum (front ++ other :: back) := by
  simp only [common, List.mem_cons, List.not_mem_nil, or_false] at isCommon
  rcases isCommon with rfl | rfl | rfl
  · rw [Xor8_eq, Xor8_eq]
    intro equal
    exact foldl_ne (fun _ _ byte same => (UInt8.xor_left_inj byte).mp same)
      (fun state _ _ same => (UInt8.xor_right_inj state).mp same) 0 differ front back
      (List.cons.inj equal).1
  · rw [Sum8_eq, Sum8_eq]
    intro equal
    exact foldl_ne (fun _ _ byte same => (UInt8.add_left_inj byte).mp same)
      (fun state _ _ same => (UInt8.add_right_inj state).mp same) 0 differ front back
      (List.cons.inj equal).1
  · intro equal
    -- Equal checksums are equal registers, and no byte or register is lost on the way there.
    have bits := congrArg Bytes.wireBits equal
    rw [wireBits_crc, wireBits_crc] at bits
    have registers := congrArg (load : List Bool → BitVec 16) bits
    rw [load_unload, load_unload, absorb_wireBits, absorb_wireBits] at registers
    refine foldl_ne (fun one other byte same => ?_) (fun state one other same => ?_) _ differ front
      back registers
    · rw [absorb_byte, absorb_byte] at same
      exact (BitVec.xor_left_inj _).mp (shifts_injective (by decide) same)
    · rw [absorb_byte, absorb_byte] at same
      have loads := (BitVec.xor_right_inj _).mp (shifts_injective (by decide) same)
      have wide : one.toUInt32 = other.toUInt32 := by rw [byte_widen, byte_widen, loads]
      exact UInt8.toUInt32_inj.mp wide

/-- So none of them misses a flipped bit. -/
theorem common_flipBit {checksum : Checksum} (isCommon : checksum ∈ common) {data : Bytes}
    {index bit : Nat} (inside : index < data.length) (small : bit < 8) :
    checksum (data.flipBit index bit) ≠ checksum data := by
  obtain ⟨front, byte, other, back, rfl, differ, flipped⟩ := Bytes.flipBit_eq inside small
  rw [flipped]
  exact common_ne isCommon differ.symm front back

end Checksums

end SerialPort
