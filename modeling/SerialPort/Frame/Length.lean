import Mathlib.Data.Nat.Digits.Lemmas
import SerialPort.Frame.Recovery

/-! The length field as a mathematical integer, and when the size computed from it is exact. -/

namespace SerialPort

open Scanning Occurrence

namespace Bytes

/-- The unsigned integer that the bytes of a field denote. -/
def denoted (order : ByteOrder) (field : Bytes) : Nat :=
  match order with
  | .bigEndian => Nat.ofDigits 256 (field.reverse.map UInt8.toNat)
  | .littleEndian => Nat.ofDigits 256 (field.map UInt8.toNat)

/-- The value of one byte more, behind the bytes read so far. -/
theorem denoted_concat (order : ByteOrder) (field : Bytes) (byte : UInt8) :
    denoted order (field ++ [byte]) =
      match order with
      | .bigEndian => denoted order field * 256 + byte.toNat
      | .littleEndian => denoted order field + byte.toNat * 256 ^ field.length := by
  -- The last byte is the lowest digit of one order and the highest of the other.
  cases order with
  | bigEndian =>
    simp only [denoted, List.reverse_append, List.reverse_singleton, List.singleton_append,
      List.map_cons, Nat.ofDigits_cons]
    omega
  | littleEndian =>
    simp only [denoted, List.map_append, List.map_singleton, Nat.ofDigits_append,
      Nat.ofDigits_singleton, List.length_map]
    rw [Nat.mul_comm]

/-- A field of so many bytes denotes one of so many values. -/
theorem denoted_lt (order : ByteOrder) (field : Bytes) :
    denoted order field < 256 ^ field.length := by
  -- Every byte is a digit below 256.
  have digits : ∀ bytes : Bytes, Nat.ofDigits 256 (bytes.map UInt8.toNat) < 256 ^ bytes.length := by
    intro bytes
    have bounded : ∀ digit ∈ bytes.map UInt8.toNat, digit < 256 := by
      intro digit member
      obtain ⟨byte, -, rfl⟩ := List.mem_map.mp member
      exact byte.toNat_lt
    have below := Nat.ofDigits_lt_base_pow_length (by omega : 1 < 256) bounded
    rwa [List.length_map] at below
  cases order with
  | bigEndian => simpa [denoted] using digits field.reverse
  | littleEndian => exact digits field

/-- A number moved up in a register is the number multiplied. -/
theorem ofNat_shiftLeft (value places : Nat) :
    BitVec.ofNat 32 value <<< places = BitVec.ofNat 32 (value <<< places) := by
  -- Both sides drop the bits that leave the register.
  apply BitVec.eq_of_toNat_eq
  rw [BitVec.toNat_shiftLeft, BitVec.toNat_ofNat, BitVec.toNat_ofNat, Nat.shiftLeft_eq,
    Nat.shiftLeft_eq, Nat.mod_mul_mod]

/-- Moving a number up by a byte makes room for a byte below it. -/
theorem shiftLeft_or_ofNat (value : Nat) (byte : UInt8) :
    (Int32.ofNat value <<< (8 : Int32)) ||| unsigned byte =
      Int32.ofNat (value * 256 + byte.toNat) := by
  -- The two summands have no bit in common.
  have apart : (value <<< 8) ||| byte.toNat = value * 256 + byte.toNat := by
    rw [← Nat.shiftLeft_add_eq_or_of_lt byte.toNat_lt, Nat.shiftLeft_eq]
  apply Int32.toBitVec_inj.mp
  show BitVec.ofNat 32 value <<< 8 ||| BitVec.ofNat 32 byte.toNat = BitVec.ofNat 32 _
  rw [ofNat_shiftLeft, ← BitVec.ofNat_or, apart]

/-- A byte set above the bits of a number is added at its place. -/
theorem ofNat_or_shiftLeft {value : Nat} (byte : UInt8) {places : Nat}
    (below : value < 256 ^ places) (few : places < 4) :
    Int32.ofNat value ||| (unsigned byte <<< (Int32.ofNat places * 8)) =
      Int32.ofNat (value + byte.toNat * 256 ^ places) := by
  have power : 256 ^ places = 2 ^ (8 * places) := by rw [Nat.pow_mul]
  -- The two summands have no bit in common.
  have apart : value ||| (byte.toNat <<< (8 * places)) = value + byte.toNat * 256 ^ places := by
    rw [power] at below ⊢
    rw [Nat.or_comm, ← Nat.shiftLeft_add_eq_or_of_lt below, Nat.shiftLeft_eq, Nat.add_comm]
  have moved : (unsigned byte <<< (Int32.ofNat places * 8)).toBitVec =
      BitVec.ofNat 32 byte.toNat <<< (8 * places) := by
    rcases show places = 0 ∨ places = 1 ∨ places = 2 ∨ places = 3 by omega with
      rfl | rfl | rfl | rfl <;> rfl
  apply Int32.toBitVec_inj.mp
  rw [Int32.toBitVec_or, moved, ofNat_shiftLeft]
  show BitVec.ofNat 32 value ||| _ = BitVec.ofNat 32 _
  rw [← BitVec.ofNat_or, apart]

/-- A length field within the array is read as the wrapped value of the integer it denotes. -/
theorem readUnsigned_eq {bytes : Bytes} {offset size : Int32} (order : ByteOrder)
    (nonneg : 0 ≤ offset.toInt) (positive : 0 ≤ size.toInt) (narrow : size.toInt ≤ 4)
    (fits : offset.toInt + size.toInt < 2 ^ 31)
    (inside : offset.toInt + size.toInt ≤ bytes.length) :
    bytes.readUnsigned offset size order =
      .ok (Int32.ofNat (denoted order
        ((bytes.drop offset.toNatClampNeg).take size.toNatClampNeg))) := by
  have start := Int32.toNat_toInt offset
  have width := Int32.toNat_toInt size
  -- The accumulator holds what the bytes read so far denote, if reading one more keeps it so.
  have general : ∀ combine : Int32 → Nat → UInt8 → Int32,
      (∀ (field : Bytes) (byte : UInt8), field.length < 4 →
        combine (Int32.ofNat (denoted order field)) field.length byte =
          Int32.ofNat (denoted order (field ++ [byte]))) →
      ∀ count : Nat, (count : Int) ≤ size.toInt →
        (List.range count).foldlM (fun result index => do
          let byte ← bytes.get (offset + Int32.ofNat index)
          return combine result index byte) 0 =
        (.ok (Int32.ofNat (denoted order ((bytes.drop offset.toNatClampNeg).take count))) :
          Except Fault Int32) := by
    intro combine extends_ count
    induction count with
    | zero =>
      intro _
      cases order <;> rfl
    | succ count ih =>
      intro bounded
      have value : (Int32.ofNat count).toInt = count := toInt_ofNat_of_fits (by omega)
      have sum : (offset + Int32.ofNat count).toInt = offset.toInt + count := by
        rw [toInt_add_of_fits (by omega) (by omega), value]
      have place : (offset + Int32.ofNat count).toNatClampNeg = offset.toNatClampNeg + count :=
        toNatClampNeg_of_toInt (by omega)
      have stands : offset.toNatClampNeg + count < bytes.length := by omega
      have got : bytes.get (offset + Int32.ofNat count) =
          .ok bytes[offset.toNatClampNeg + count] := by
        have notNegative : ¬offset + Int32.ofNat count < 0 := not_negative_of_toInt (by omega)
        rw [get, if_neg notNegative, place, List.getElem?_eq_getElem stands]
      have field : ((bytes.drop offset.toNatClampNeg).take count).length = count := by
        rw [List.length_take, List.length_drop]
        omega
      have one := extends_ ((bytes.drop offset.toNatClampNeg).take count)
        bytes[offset.toNatClampNeg + count] (by omega)
      have longer : (bytes.drop offset.toNatClampNeg).take (count + 1) =
          (bytes.drop offset.toNatClampNeg).take count ++
            [bytes[offset.toNatClampNeg + count]] := by
        rw [List.take_add_one, List.getElem?_drop, List.getElem?_eq_getElem stands]
        rfl
      rw [field] at one
      rw [List.range_succ, List.foldlM_append, ih (by omega), longer, ← one]
      simp [got, Bind.bind, Except.bind, Pure.pure, Except.pure]
  have all : (size.toNatClampNeg : Int) ≤ size.toInt := by omega
  cases order with
  | bigEndian =>
    refine general (fun result _ byte => (result <<< 8) ||| unsigned byte) ?_ _ all
    intro field byte _
    rw [shiftLeft_or_ofNat, denoted_concat]
  | littleEndian =>
    refine general (fun result index byte => result ||| (unsigned byte <<< (Int32.ofNat index * 8)))
      ?_ _ all
    intro field byte few
    rw [ofNat_or_shiftLeft byte (denoted_lt _ field) few, denoted_concat]

end Bytes

namespace FrameConfig

/-- The integer that the length field of a buffer denotes. -/
def declaredLength (config : FrameConfig) (pending : Bytes) : Nat :=
  Bytes.denoted config.lengthByteOrder
    ((pending.drop config.lengthOffset.toNatClampNeg).take config.lengthSize.toNatClampNeg)

/-- The size that the length field of a buffer stands for, as a mathematical integer. -/
def declaredSize (config : FrameConfig) (pending : Bytes) : Nat :=
  if config.lengthIncludesHeader then config.declaredLength pending
  else config.declaredLength pending + config.header.length + config.lengthSize.toNatClampNeg

/-- The buffer holds the whole length field. -/
def HoldsLength (config : FrameConfig) (pending : Bytes) : Prop :=
  config.lengthOffset.toInt + config.lengthSize.toInt ≤ pending.length

/-- A turn that treats the declared size as the mathematical integer it is. -/
structure SizedExactly (config : FrameConfig) (pending : Bytes) : Prop where
  /-- Below the minimum, and only there, the length is invalid. -/
  invalid : config.turn pending =
      .ok (.emit (.error .invalidLength) (pending.drop config.header.length)) ↔
    config.declaredSize pending < config.minimumFrameSize.toInt
  /-- Above the maximum, and only there, the frame is oversized. -/
  oversized : config.turn pending =
      .ok (.emit (.error .oversized) (pending.drop config.header.length)) ↔
    config.maximumFrameSize.toInt < config.declaredSize pending
  /-- Between the limits, a frame of that size is cut and judged once it is there. -/
  otherwise : config.minimumFrameSize.toInt ≤ config.declaredSize pending →
    (config.declaredSize pending : Int) ≤ config.maximumFrameSize.toInt →
    config.turn pending =
      if pending.length < config.declaredSize pending then .ok (.wait pending)
      else (config.judge (pending.take (config.declaredSize pending))).map fun outcome =>
        .emit outcome (pending.drop (config.declaredSize pending))
  /-- No frame of another size is ever accepted. -/
  accepted : ∀ {frame rest : Bytes}, config.turn pending = .ok (.emit (.frame frame) rest) →
    frame.length = config.declaredSize pending

/-- The field that is there is read as the wrapped value of the integer it denotes. -/
theorem readUnsigned_eq_declared {config : FrameConfig} {pending : Bytes}
    (holds : config.HoldsLength pending) (small : pending.length < 2 ^ 31) :
    pending.readUnsigned config.lengthOffset config.lengthSize config.lengthByteOrder =
      .ok (Int32.ofNat (config.declaredLength pending)) := by
  -- The end of the field is in range because the buffer is.
  obtain ⟨nonneg, least, narrow⟩ := config.lengths
  unfold HoldsLength at holds
  exact Bytes.readUnsigned_eq _ nonneg (by omega) narrow (by omega) holds

/-- The size that the code computes is the declared one, reduced to 32 bits. -/
theorem frameSize_eq_bmod (config : FrameConfig) (pending : Bytes) :
    (config.frameSize (Int32.ofNat (config.declaredLength pending))).toInt =
      (config.declaredSize pending : Int).bmod (2 ^ 32) := by
  -- Every addition of the code is one of integers, reduced to the 32-bit range.
  obtain ⟨-, least, -⟩ := config.lengths
  have width := Int32.toNat_toInt config.lengthSize
  have reduced : (Int32.ofNat (config.declaredLength pending)).toInt =
      (config.declaredLength pending : Int).bmod (2 ^ 32) := Int32.toInt_ofNat
  rw [frameSize, declaredSize]
  by_cases includes : config.lengthIncludesHeader
  · rw [if_pos includes, if_pos includes, reduced]
  · rw [if_neg includes, if_neg includes, Int32.toInt_add, Int32.toInt_add, reduced,
      config.headerSize_toInt, Int.bmod_add_bmod, Int.add_assoc, Int.bmod_add_bmod]
    congr 1
    omega

/-- A frame whose own length field stands for its size, within the limits, is a sized frame. -/
theorem Sized.of_declaredSize {config : FrameConfig} {frame : Bytes}
    (begins : config.header <+: frame) (holds : config.HoldsLength frame)
    (declares : config.declaredSize frame = frame.length)
    (enough : config.minimumFrameSize.toInt ≤ frame.length)
    (bounded : (frame.length : Int) ≤ config.maximumFrameSize.toInt) : config.Sized frame := by
  -- The declared length is no larger than the frame, so it is not reduced.
  have limits := config.sizes
  have width := Int32.toNat_toInt config.lengthSize
  obtain ⟨-, least, -⟩ := config.lengths
  refine ⟨begins, holds, ⟨_, readUnsigned_eq_declared holds (by omega), ?_⟩, enough, bounded⟩
  unfold declaredSize at declares
  by_cases includes : config.lengthIncludesHeader
  · rw [if_pos includes] at declares ⊢
    rw [toInt_ofNat_of_fits (by omega), declares]
  · rw [if_neg includes] at declares ⊢
    rw [toInt_ofNat_of_fits (by omega)]
    omega

/-- A turn at a header follows the size that the code computes. -/
theorem turn_eq_size {config : FrameConfig} {pending : Bytes} (begins : config.header <+: pending)
    (holds : config.HoldsLength pending) (small : pending.length < 2 ^ 31) {size : Int}
    (reduced : size = (config.declaredSize pending : Int).bmod (2 ^ 32)) :
    config.turn pending =
      if size < config.minimumFrameSize.toInt then
        .ok (.emit (.error .invalidLength) (pending.drop config.header.length))
      else if config.maximumFrameSize.toInt < size then
        .ok (.emit (.error .oversized) (pending.drop config.header.length))
      else if pending.length < size then .ok (.wait pending)
      else (config.judge (pending.take size.toNat)).map fun outcome =>
        .emit outcome (pending.drop size.toNat) := by
  -- The tests are followed in the order in which the loop makes them.
  have read := readUnsigned_eq_declared holds small
  have computed := frameSize_eq_bmod config pending
  rw [← reduced] at computed
  have limits := config.sizes
  unfold HoldsLength at holds
  have field := @fieldEnd_toInt config (by omega)
  rw [turn_first (first_zero begins), List.drop_zero, cut, if_neg (by omega)]
  simp only [read, Bind.bind, Except.bind, drop_header begins, Pure.pure, Except.pure,
    Int32.lt_iff_toInt_lt, computed]
  by_cases invalid : size < config.minimumFrameSize.toInt
  · rw [if_pos invalid, if_pos invalid]
  rw [if_neg invalid, if_neg invalid]
  by_cases oversized : config.maximumFrameSize.toInt < size
  · rw [if_pos oversized, if_pos oversized]
  rw [if_neg oversized, if_neg oversized]
  by_cases missing : (pending.length : Int) < size
  · rw [if_pos missing, if_pos missing]
  rw [if_neg missing, if_neg missing]
  -- A size within the limits is a natural number within the buffer.
  obtain ⟨count, rfl⟩ := Int.eq_ofNat_of_zero_le (a := size) (by omega)
  have inside : count ≤ pending.length := by omega
  rw [Bytes.copyOf_inside inside, Bytes.copyOfRange_inside inside le_rfl, Bytes.slice_to_end]
  simp only [Int.toNat_natCast]
  cases config.judge (pending.take count) <;> rfl

/-- Judging a frame names neither of the two length errors. -/
theorem judge_ne_length {config : FrameConfig} {frame : Bytes} {outcome : FrameOutcome}
    (judgement : config.judge frame = .ok outcome) :
    outcome ≠ .error .invalidLength ∧ outcome ≠ .error .oversized := by
  -- The error of a judged frame is one of the two others.
  have failed := (judge_eq judgement).2
  unfold failure? at failed
  constructor
  all_goals
    rintro rfl
    simp only [FrameOutcome.error?] at failed
    split at failed
    · cases failed
    · split at failed <;> cases failed

/-- A frame that judging accepts is the judged one. -/
theorem judge_frame {config : FrameConfig} {frame accepted : Bytes}
    (judgement : config.judge frame = .ok (.frame accepted)) :
    accepted = frame ∧ config.passes frame = true := by
  have kept := (judge_eq judgement).1
  by_cases passed : config.passes frame
  · rw [if_pos passed] at kept
    exact ⟨Option.some.inj kept, passed⟩
  · rw [if_neg passed] at kept
    cases kept

/-- A field of a few bytes bounds the declared size. -/
theorem declaredSize_lt {config : FrameConfig} {width : Nat}
    (narrow : config.lengthSize.toInt ≤ width) (pending : Bytes) :
    config.declaredSize pending < 256 ^ width + (config.header.length + width) := by
  -- Each byte of the field has 256 values.
  have clamped := Int32.toNat_toInt config.lengthSize
  have below := Bytes.denoted_lt config.lengthByteOrder
    ((pending.drop config.lengthOffset.toNatClampNeg).take config.lengthSize.toNatClampNeg)
  have few : ((pending.drop config.lengthOffset.toNatClampNeg).take
      config.lengthSize.toNatClampNeg).length ≤ width := by
    rw [List.length_take]
    omega
  have bound := Nat.lt_of_lt_of_le below (Nat.pow_le_pow_right (by omega : 0 < 256) few)
  rw [← declaredLength] at bound
  unfold declaredSize
  split <;> omega

/-- A turn that follows the declared size treats it as the integer it is. -/
theorem sizedExactly_of_turn {config : FrameConfig} {pending : Bytes}
    (followed : config.turn pending =
      if (config.declaredSize pending : Int) < config.minimumFrameSize.toInt then
        .ok (.emit (.error .invalidLength) (pending.drop config.header.length))
      else if config.maximumFrameSize.toInt < config.declaredSize pending then
        .ok (.emit (.error .oversized) (pending.drop config.header.length))
      else if (pending.length : Int) < config.declaredSize pending then .ok (.wait pending)
      else (config.judge (pending.take (config.declaredSize pending))).map fun outcome =>
        .emit outcome (pending.drop (config.declaredSize pending))) :
    config.SizedExactly pending := by
  have limits := config.sizes
  by_cases small : (config.declaredSize pending : Int) < config.minimumFrameSize.toInt
  · rw [if_pos small] at followed
    refine ⟨⟨fun _ => small, fun _ => followed⟩, ⟨fun turned => ?_, fun large => ?_⟩,
      fun enough => absurd small (Int.not_lt.mpr enough), fun turned => ?_⟩
    · rw [followed] at turned
      cases turned
    · omega
    · rw [followed] at turned
      cases turned
  rw [if_neg small] at followed
  by_cases large : config.maximumFrameSize.toInt < config.declaredSize pending
  · rw [if_pos large] at followed
    refine ⟨⟨fun turned => ?_, fun below => absurd below small⟩,
      ⟨fun _ => large, fun _ => followed⟩,
      fun _ bounded => absurd large (Int.not_lt.mpr bounded), fun turned => ?_⟩
    · rw [followed] at turned
      cases turned
    · rw [followed] at turned
      cases turned
  rw [if_neg large] at followed
  simp only [Int.ofNat_lt] at followed
  -- Between the limits the frame is judged once it is there, and its length is no fault.
  have notLength : ∀ {outcome : FrameOutcome} {rest : Bytes},
      config.turn pending = .ok (.emit outcome rest) →
      config.judge (pending.take (config.declaredSize pending)) = .ok outcome ∧
        config.declaredSize pending ≤ pending.length := by
    intro outcome rest turned
    rw [followed] at turned
    by_cases missing : pending.length < config.declaredSize pending
    · rw [if_pos missing] at turned
      cases turned
    · rw [if_neg missing] at turned
      cases judgement : config.judge (pending.take (config.declaredSize pending)) with
      | error fault => rw [judgement] at turned; cases turned
      | ok judged =>
        rw [judgement] at turned
        simp only [Except.map, Except.ok.injEq, Verdict.emit.injEq] at turned
        exact ⟨congrArg _ turned.1, Nat.le_of_not_lt missing⟩
  refine ⟨⟨fun turned => ?_, fun below => absurd below small⟩,
    ⟨fun turned => ?_, fun beyond => absurd beyond large⟩, fun _ _ => followed, fun turned => ?_⟩
  · exact absurd rfl (judge_ne_length (notLength turned).1).1
  · exact absurd rfl (judge_ne_length (notLength turned).1).2
  · obtain ⟨judgement, inside⟩ := notLength turned
    rw [(judge_frame judgement).1, List.length_take, Nat.min_eq_left inside]

/--
Size arithmetic: a turn treats every declared size as the integer it is.

This is so exactly if the size fits a signed 32-bit integer, or wraps around to one that is still
above the maximum.
-/
theorem sizedExactly_iff {config : FrameConfig} {pending : Bytes}
    (begins : config.header <+: pending)
    (holds : config.HoldsLength pending)
    (buffered : (pending.length : Int) ≤ config.maximumBufferSize.toInt) :
    config.SizedExactly pending ↔
      (config.declaredSize pending : Int) < 2 ^ 31 ∨
        2 ^ 32 + config.maximumFrameSize.toInt < config.declaredSize pending ∧
          (config.declaredSize pending : Int) < 2 ^ 32 + 2 ^ 31 := by
  have limits := config.sizes
  have largest := Int32.toInt_lt config.maximumBufferSize
  have bounded :=
    @declaredSize_lt config 4 config.lengths.2.2 pending
  obtain ⟨size, computed⟩ : ∃ size, size = (config.declaredSize pending : Int).bmod (2 ^ 32) :=
    ⟨_, rfl⟩
  have followed := turn_eq_size begins holds (by omega) computed
  have headerFits := List.IsPrefix.length_le begins
  rw [Int.bmod_def] at computed
  constructor
  · intro exact_
    -- A size that wraps to one that is not above the maximum is not found to be oversized.
    by_contra wraps
    have beyond : config.maximumFrameSize.toInt < config.declaredSize pending := by omega
    have turned := exact_.oversized.mpr beyond
    rw [followed] at turned
    by_cases below : size < config.minimumFrameSize.toInt
    · rw [if_pos below] at turned
      cases turned
    rw [if_neg below, if_neg (by omega)] at turned
    by_cases missing : (pending.length : Int) < size
    · rw [if_pos missing] at turned
      cases turned
    · rw [if_neg missing] at turned
      cases judgement : config.judge (pending.take size.toNat) with
      | error fault => rw [judgement] at turned; cases turned
      | ok outcome =>
        rw [judgement] at turned
        simp only [Except.map, Except.ok.injEq, Verdict.emit.injEq] at turned
        exact (judge_ne_length judgement).2 turned.1
  · intro fits
    rcases fits with fits | ⟨far, near⟩
    · -- The computed size is the declared one, so the tests are those of the integers.
      obtain rfl : size = config.declaredSize pending := by omega
      rw [Int.toNat_natCast] at followed
      exact sizedExactly_of_turn followed
    · -- The computed size is above the maximum, as the declared one is.
      rw [if_neg (by omega), if_pos (by omega)] at followed
      refine ⟨⟨fun turned => ?_, fun small => ?_⟩, ⟨fun _ => ?_, fun _ => followed⟩,
        fun _ small => ?_, fun turned => ?_⟩
      · rw [followed] at turned
        cases turned
      · omega
      · omega
      · omega
      · rw [followed] at turned
        cases turned

/-- Four bytes FF are negative as a signed integer, and five bytes are accepted as a frame. -/
theorem sizedExactly_fails_beyond_signed :
    let config : FrameConfig := { header := [0x55, 0xAA], lengthOffset := 2, lengthSize := 4 }
    let pending : Bytes := [0x55, 0xAA, 0xFF, 0xFF, 0xFF, 0xFF]
    config.header <+: pending ∧ config.HoldsLength pending ∧
      config.declaredSize pending = 2 ^ 32 + 5 ∧
      config.turn pending = .ok (.emit (.frame [0x55, 0xAA, 0xFF, 0xFF, 0xFF]) [0xFF]) ∧
      ¬config.SizedExactly pending := by
  intro config pending
  -- FF FF FF FF is read as -1, and a frame of five bytes is cut.
  have turned : config.turn pending =
      .ok (.emit (.frame [0x55, 0xAA, 0xFF, 0xFF, 0xFF]) [0xFF]) := by decide +kernel
  have size : config.declaredSize pending = 2 ^ 32 + 5 := by decide +kernel
  refine ⟨by decide, by unfold FrameConfig.HoldsLength; decide, size, turned, fun exact_ => ?_⟩
  have length := exact_.accepted turned
  rw [size] at length
  exact absurd length (by decide)

/-- A field of two bytes is always within the range of the signed integers. -/
theorem sizedExactly_two_bytes :
    let config : FrameConfig :=
      { header := [0x55], lengthOffset := 1, lengthSize := 2, lengthByteOrder := .littleEndian }
    config.SizedExactly [0x55, 0x02, 0x00, 0x10] :=
  (sizedExactly_iff (by decide) (by unfold HoldsLength; decide) (by decide)).mpr
    (Or.inl (by decide +kernel))

end FrameConfig

end SerialPort
