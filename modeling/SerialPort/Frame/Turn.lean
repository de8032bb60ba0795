import SerialPort.Library.Occurrence
import SerialPort.Frame.Parser

/-! What one turn of the parsing loop decides, and what bytes that arrive later can change. -/

namespace SerialPort

open Scanning Occurrence

namespace Bytes

/-- A window of the value's size equals the value exactly when the value stands there. -/
theorem slice_eq_iff_at {bytes value : Bytes} {index : Nat} :
    bytes.slice index (index + value.length) = value ↔ At value bytes index := by
  -- Cutting and then dropping is dropping and then cutting to the window's length.
  rw [at_iff_window, slice, List.drop_take, Nat.add_sub_cancel_left]

/-- The test of one index asks whether the value stands there. -/
theorem header_test_iff {bytes value : Bytes} (nonempty : value ≠ []) {index : Nat} :
    (index + value.length ≤ bytes.length &&
        bytes.slice index (index + value.length) == value) = true ↔
      At value bytes index := by
  -- An occurrence lies within the array, so the bound adds nothing.
  simp only [Bool.and_eq_true, decide_eq_true_eq, beq_iff_eq, slice_eq_iff_at]
  exact ⟨fun both => both.2, fun occurs => ⟨occurs.length_le nonempty, occurs⟩⟩

/-- The index found is the first occurrence of the header. -/
theorem indexOfHeader_eq {bytes value : Bytes} (nonempty : value ≠ []) {index : Nat}
    (first : First value bytes index) : bytes.indexOfHeader value = index := by
  -- The search runs through the indices upward, and the first occurrence is below the length.
  have inside := first.1.length_le nonempty
  have positive := List.length_pos_iff.mpr nonempty
  have found : (List.range bytes.length).find? (fun index =>
      index + value.length ≤ bytes.length && bytes.slice index (index + value.length) == value)
        = some index := by
    rw [List.find?_range_eq_some]
    refine ⟨(header_test_iff nonempty).mpr first.1, by simpa using by omega, ?_⟩
    intro earlier before
    rw [Bool.not_eq_true', ← Bool.not_eq_true, header_test_iff nonempty]
    exact first.2 earlier before
  simp only [indexOfHeader, found]

/-- No index is found when the header stands nowhere. -/
theorem indexOfHeader_absent {bytes value : Bytes} (nonempty : value ≠ [])
    (absent : Absent value bytes) : bytes.indexOfHeader value = -1 := by
  -- Every index fails the test.
  have missing : (List.range bytes.length).find? (fun index =>
      index + value.length ≤ bytes.length && bytes.slice index (index + value.length) == value)
        = none := by
    rw [List.find?_eq_none]
    intro index _
    rw [header_test_iff nonempty]
    exact absent index
  simp only [indexOfHeader, missing]

/-- A length field that was read is read the same when more bytes follow. -/
theorem readUnsigned_append {bytes : Bytes} {offset size declared : Int32} {order : ByteOrder}
    (read : bytes.readUnsigned offset size order = .ok declared) (later : Bytes) :
    readUnsigned (bytes ++ later) offset size order = .ok declared := by
  -- Each byte of the field was inside the array, so the accumulation repeats step by step.
  have general : ∀ (combine : Int32 → Nat → UInt8 → Int32) (indices : List Nat) (result : Int32),
      indices.foldlM (fun result index => do
        let byte ← bytes.get (offset + Int32.ofNat index)
        return combine result index byte) result = (.ok declared : Except Fault Int32) →
      indices.foldlM (fun result index => do
        let byte ← Bytes.get (bytes ++ later) (offset + Int32.ofNat index)
        return combine result index byte) result = (.ok declared : Except Fault Int32) := by
    intro combine indices
    induction indices with
    | nil => intro result folded; exact folded
    | cons index indices ih =>
      intro result folded
      rw [List.foldlM_cons] at folded ⊢
      cases got : bytes.get (offset + Int32.ofNat index) with
      | error fault => simp [got, Bind.bind, Except.bind] at folded
      | ok byte =>
        rw [get_append got later]
        simp only [got, Bind.bind, Except.bind, Pure.pure, Except.pure] at folded ⊢
        exact ih _ folded
  cases order with
  | bigEndian => exact general (fun result _ byte => (result <<< 8) ||| unsigned byte) _ 0 read
  | littleEndian =>
    exact general (fun result index byte => result ||| (unsigned byte <<< (Int32.ofNat index * 8)))
      _ 0 read

/-- A length field that lies within the array is read without an exception. -/
theorem readUnsigned_inside {bytes : Bytes} {offset size : Int32} (order : ByteOrder)
    (nonneg : 0 ≤ offset.toInt) (positive : 0 ≤ size.toInt)
    (fits : offset.toInt + size.toInt < 2 ^ 31)
    (inside : offset.toInt + size.toInt ≤ bytes.length) :
    ∃ declared, bytes.readUnsigned offset size order = .ok declared := by
  -- Every index of the field is in range, and its sum with the offset does not wrap.
  have general : ∀ (combine : Int32 → Nat → UInt8 → Int32) (indices : List Nat) (result : Int32),
      (∀ index ∈ indices, (index : Int) < size.toInt) →
      ∃ declared, indices.foldlM (fun result index => do
        let byte ← bytes.get (offset + Int32.ofNat index)
        return combine result index byte) result = (.ok declared : Except Fault Int32) := by
    intro combine indices
    induction indices with
    | nil => exact fun result _ => ⟨result, rfl⟩
    | cons index indices ih =>
      intro result bounded
      have small := bounded index (by simp)
      have value : (Int32.ofNat index).toInt = index := toInt_ofNat_of_fits (by omega)
      have sum : (offset + Int32.ofNat index).toInt = offset.toInt + index := by
        rw [toInt_add_of_fits (by omega) (by omega), value]
      have nonnegSum : 0 ≤ (offset + Int32.ofNat index).toInt := by omega
      have insideSum : (offset + Int32.ofNat index).toInt < bytes.length := by omega
      obtain ⟨byte, got⟩ := get_inside nonnegSum insideSum
      obtain ⟨declared, rest⟩ := ih (combine result index byte)
        (fun later member => bounded later (by simp [member]))
      refine ⟨declared, ?_⟩
      rw [List.foldlM_cons]
      simp only [got, Bind.bind, Except.bind, Pure.pure, Except.pure]
      exact rest
  have indices : ∀ index ∈ List.range size.toNatClampNeg, (index : Int) < size.toInt := by
    intro index member
    have below := List.mem_range.mp member
    rw [← Int32.toNat_toInt] at below
    omega
  cases order with
  | bigEndian =>
    exact general (fun result _ byte => (result <<< 8) ||| unsigned byte) _ 0 indices
  | littleEndian =>
    exact general (fun result index byte => result ||| (unsigned byte <<< (Int32.ofNat index * 8)))
      _ 0 indices

end Bytes

namespace FrameConfig

/-- The constructor's size limits, as mathematical integers. -/
theorem sizes (config : FrameConfig) :
    0 < config.header.length ∧ (config.header.length : Int) ≤ config.minimumFrameSize.toInt ∧
      config.minimumFrameSize.toInt ≤ config.maximumFrameSize.toInt ∧
      config.maximumFrameSize.toInt < 2 ^ 31 := by
  -- The header has at least one byte, and the other limits are the constructor's own.
  have positive := List.length_pos_iff.mpr config.header_nonempty
  have ordered := Int32.le_iff_toInt_le.mp config.sizes_valid.2
  exact ⟨positive, config.sizes_valid.1, ordered, Int32.toInt_lt _⟩

/-- The constructor's limits on the length field, as mathematical integers. -/
theorem lengths (config : FrameConfig) :
    0 ≤ config.lengthOffset.toInt ∧ 1 ≤ config.lengthSize.toInt ∧ config.lengthSize.toInt ≤ 4 := by
  have offset := Int32.le_iff_toInt_le.mp config.length_valid.1
  have least := Int32.le_iff_toInt_le.mp config.length_valid.2.1
  have most := Int32.le_iff_toInt_le.mp config.length_valid.2.2
  rw [Int32.toInt_zero] at offset
  rw [Int32.toInt_one] at least
  exact ⟨offset, least, most⟩

/-- The end of the length field is computed without wrapping where it is a 32-bit integer. -/
theorem fieldEnd_toInt {config : FrameConfig}
    (fits : config.lengthOffset.toInt + config.lengthSize.toInt < 2 ^ 31) :
    (config.lengthOffset + config.lengthSize).toInt =
      config.lengthOffset.toInt + config.lengthSize.toInt := by
  obtain ⟨nonneg, least, -⟩ := config.lengths
  exact toInt_add_of_fits (by omega) fits

/-- What one look at a buffer that begins with the header can decide, and when. -/
inductive Cut (config : FrameConfig) (pending : Bytes) : Verdict UInt8 FrameOutcome → Prop where
  /-- The length field is not there yet. -/
  | short (missing : (pending.length : Int) < (config.lengthOffset + config.lengthSize).toInt) :
      Cut config pending (.wait pending)
  /-- The declared size is below the minimum. -/
  | invalid {declared : Int32}
      (complete : (config.lengthOffset + config.lengthSize).toInt ≤ pending.length)
      (read : pending.readUnsigned config.lengthOffset config.lengthSize config.lengthByteOrder =
        .ok declared)
      (small : config.frameSize declared < config.minimumFrameSize) :
      Cut config pending (.emit (.error .invalidLength) (pending.drop config.header.length))
  /-- The declared size is above the maximum. -/
  | oversized {declared : Int32}
      (complete : (config.lengthOffset + config.lengthSize).toInt ≤ pending.length)
      (read : pending.readUnsigned config.lengthOffset config.lengthSize config.lengthByteOrder =
        .ok declared)
      (enough : config.minimumFrameSize ≤ config.frameSize declared)
      (large : config.maximumFrameSize < config.frameSize declared) :
      Cut config pending (.emit (.error .oversized) (pending.drop config.header.length))
  /-- The frame is not there as a whole yet. -/
  | incomplete {declared : Int32}
      (complete : (config.lengthOffset + config.lengthSize).toInt ≤ pending.length)
      (read : pending.readUnsigned config.lengthOffset config.lengthSize config.lengthByteOrder =
        .ok declared)
      (enough : config.minimumFrameSize ≤ config.frameSize declared)
      (bounded : config.frameSize declared ≤ config.maximumFrameSize)
      (missing : (pending.length : Int) < (config.frameSize declared).toInt) :
      Cut config pending (.wait pending)
  /-- A whole frame is there, and it is judged. -/
  | judged {declared : Int32} {size : Nat} {outcome : FrameOutcome}
      (complete : (config.lengthOffset + config.lengthSize).toInt ≤ pending.length)
      (read : pending.readUnsigned config.lengthOffset config.lengthSize config.lengthByteOrder =
        .ok declared)
      (sized : (config.frameSize declared).toInt = size)
      (enough : config.minimumFrameSize ≤ config.frameSize declared)
      (bounded : config.frameSize declared ≤ config.maximumFrameSize)
      (inside : size ≤ pending.length)
      (judgement : config.judge (pending.take size) = .ok outcome) :
      Cut config pending (.emit outcome (pending.drop size))

/-- The header's bytes can be dropped from a buffer that begins with it. -/
theorem drop_header {config : FrameConfig} {pending : Bytes} (begins : config.header <+: pending) :
    pending.copyOfRange config.header.length pending.length =
      .ok (pending.drop config.header.length) := by
  -- The header is no longer than the buffer it begins.
  rw [Bytes.copyOfRange_inside (List.IsPrefix.length_le begins) le_rfl, Bytes.slice_to_end]

/-- A look that does not fail decides one of the listed cases. -/
theorem Cut.of_cut {config : FrameConfig} {pending : Bytes} {verdict : Verdict UInt8 FrameOutcome}
    (begins : config.header <+: pending) (looked : config.cut pending = .ok verdict) :
    Cut config pending verdict := by
  -- The tests are followed in the order in which the loop makes them.
  unfold cut at looked
  by_cases missing : (pending.length : Int) < (config.lengthOffset + config.lengthSize).toInt
  · rw [if_pos missing] at looked
    cases looked
    exact .short missing
  rw [if_neg missing] at looked
  have complete := Int.not_lt.mp missing
  cases read :
    pending.readUnsigned config.lengthOffset config.lengthSize config.lengthByteOrder with
  | error fault => simp [read, Bind.bind, Except.bind] at looked
  | ok declared =>
    simp only [read, Bind.bind, Except.bind, drop_header begins, Pure.pure, Except.pure] at looked
    by_cases small : config.frameSize declared < config.minimumFrameSize
    · rw [if_pos small] at looked
      cases looked
      exact .invalid complete read small
    rw [if_neg small] at looked
    have enough := Int32.not_lt.mp small
    by_cases large : config.maximumFrameSize < config.frameSize declared
    · rw [if_pos large] at looked
      cases looked
      exact .oversized complete read enough large
    rw [if_neg large] at looked
    have bounded := Int32.not_lt.mp large
    by_cases lacking : (pending.length : Int) < (config.frameSize declared).toInt
    · rw [if_pos lacking] at looked
      cases looked
      exact .incomplete complete read enough bounded lacking
    rw [if_neg lacking] at looked
    -- An accepted size is not negative, so it is a natural number within the buffer.
    have limits := config.sizes
    have atLeast := Int32.le_iff_toInt_le.mp enough
    obtain ⟨size, sized⟩ := Int.eq_ofNat_of_zero_le (a := (config.frameSize declared).toInt)
      (by omega)
    have inside : size ≤ pending.length := by omega
    rw [sized, Bytes.copyOf_inside inside, Bytes.copyOfRange_inside inside le_rfl,
      Bytes.slice_to_end] at looked
    simp only at looked
    cases judgement : config.judge (pending.take size) with
    | error fault => simp [judgement] at looked
    | ok outcome =>
      simp only [judgement] at looked
      cases looked
      exact .judged complete read sized enough bounded inside judgement

/-- Each listed case is what the look decides. -/
theorem Cut.cut_eq {config : FrameConfig} {pending : Bytes} {verdict : Verdict UInt8 FrameOutcome}
    (begins : config.header <+: pending) (decided : Cut config pending verdict) :
    config.cut pending = .ok verdict := by
  -- The hypotheses of each case settle the tests up to the one that decides it.
  unfold cut
  cases decided with
  | short missing => rw [if_pos missing]; rfl
  | invalid complete read small =>
    rw [if_neg (Int.not_lt.mpr complete)]
    simp only [read, Bind.bind, Except.bind, drop_header begins, if_pos small]
    rfl
  | oversized complete read enough large =>
    rw [if_neg (Int.not_lt.mpr complete)]
    simp only [read, Bind.bind, Except.bind, drop_header begins,
      if_neg (Int32.not_lt.mpr enough), if_pos large]
    rfl
  | incomplete complete read enough bounded missing =>
    rw [if_neg (Int.not_lt.mpr complete)]
    simp only [read, Bind.bind, Except.bind, if_neg (Int32.not_lt.mpr enough),
      if_neg (Int32.not_lt.mpr bounded), if_pos missing]
    rfl
  | judged complete read sized enough bounded inside judgement =>
    rw [if_neg (Int.not_lt.mpr complete)]
    simp only [read, Bind.bind, Except.bind, if_neg (Int32.not_lt.mpr enough),
      if_neg (Int32.not_lt.mpr bounded), sized, Int.ofNat_lt, if_neg (Nat.not_lt.mpr inside),
      Bytes.copyOf_inside inside, Bytes.copyOfRange_inside inside le_rfl, Bytes.slice_to_end,
      judgement]
    rfl

/-- A waiting look keeps the buffer that begins with the header. -/
theorem Cut.wait_eq {config : FrameConfig} {pending rest : Bytes}
    (decided : Cut config pending (.wait rest)) : rest = pending := by
  cases decided <;> rfl

/-- A decided outcome uses up at least one byte, and leaves a suffix of the buffer. -/
theorem Cut.emit_drop {config : FrameConfig} {pending rest : Bytes} {outcome : FrameOutcome}
    (begins : config.header <+: pending) (decided : Cut config pending (.emit outcome rest)) :
    ∃ size, 0 < size ∧ size ≤ pending.length ∧ rest = pending.drop size := by
  -- Either the header is skipped or a frame at least as long as the header is cut.
  have limits := config.sizes
  have fits := List.IsPrefix.length_le begins
  cases decided with
  | invalid complete read small => exact ⟨_, limits.1, fits, rfl⟩
  | oversized complete read enough large => exact ⟨_, limits.1, fits, rfl⟩
  | judged complete read sized enough bounded inside judgement =>
    have atLeast := Int32.le_iff_toInt_le.mp enough
    exact ⟨_, by omega, inside, rfl⟩

/-- A decided outcome stays decided when more bytes follow the buffer. -/
theorem Cut.append {config : FrameConfig} {pending rest : Bytes} {outcome : FrameOutcome}
    (begins : config.header <+: pending) (decided : Cut config pending (.emit outcome rest))
    (later : Bytes) : Cut config (pending ++ later) (.emit outcome (rest ++ later)) := by
  -- The length field and the frame lie within the bytes that were there.
  have fits := List.IsPrefix.length_le begins
  have longer : (pending.length : Int) ≤ (pending ++ later).length := by
    simp only [List.length_append]
    omega
  cases decided with
  | invalid complete read small =>
    rw [← List.drop_append_of_le_length fits]
    exact .invalid (Int.le_trans complete longer) (Bytes.readUnsigned_append read later) small
  | oversized complete read enough large =>
    rw [← List.drop_append_of_le_length fits]
    exact .oversized (Int.le_trans complete longer) (Bytes.readUnsigned_append read later)
      enough large
  | judged complete read sized enough bounded inside judgement =>
    rw [← List.drop_append_of_le_length inside]
    refine .judged (Int.le_trans complete longer) (Bytes.readUnsigned_append read later)
      sized enough bounded (by simp; omega) ?_
    rwa [List.take_append_of_le_length inside]

/-- Without a header in the buffer, only a possible beginning of one is kept. -/
theorem turn_absent {config : FrameConfig} {pending : Bytes}
    (absent : Absent config.header pending) :
    config.turn pending = .ok (.wait (pending.drop (spent config.header pending))) := by
  -- The search returns -1, and the last bytes of the buffer are what the spent part leaves.
  rw [turn, Bytes.indexOfHeader_absent config.header_nonempty absent]
  rfl

/-- With a header in the buffer, the bytes before it are dropped. -/
theorem turn_first {config : FrameConfig} {pending : Bytes} {start : Nat}
    (first : First config.header pending start) :
    config.turn pending = config.cut (pending.drop start) := by
  -- A header at the very beginning leaves the buffer as it is.
  have inside := first.1.length_le config.header_nonempty
  rw [turn, Bytes.indexOfHeader_eq config.header_nonempty first]
  simp only
  rw [if_neg (by omega)]
  by_cases front : start = 0
  · subst front
    rfl
  · rw [if_pos (by omega), Bytes.copyOfRange_inside (by omega) le_rfl, Bytes.slice_to_end]
    rfl

/-- An outcome leaves a strictly shorter buffer. -/
theorem turn_shrinks {config : FrameConfig} {pending rest : Bytes} {outcome : FrameOutcome}
    (looked : config.turn pending = .ok (.emit outcome rest)) : rest.length < pending.length := by
  -- Dropping noise never lengthens the buffer, and an outcome uses up a byte of what is left.
  rcases first_or_absent config.header pending with ⟨start, first⟩ | absent
  · rw [turn_first first] at looked
    obtain ⟨size, positive, inside, rfl⟩ := (Cut.of_cut first.begins looked).emit_drop first.begins
    simp only [List.length_drop] at inside ⊢
    omega
  · rw [turn_absent absent] at looked
    cases looked

/-- The parser's loop, as a scanner over the pending bytes. -/
def scanner (config : FrameConfig) : Scanner UInt8 FrameOutcome Fault where
  scan := config.turn
  shrinks := turn_shrinks

/-- No turn of the loop is changed by bytes that arrive later. -/
theorem scanner_stable (config : FrameConfig) : Scanner.Stable config.scanner where
  emit_append := by
    -- The header stays the first one, and the outcome was decided by bytes that were there.
    intro pending rest outcome looked later
    rcases first_or_absent config.header pending with ⟨start, first⟩ | absent
    · have inside := first.1.length_le config.header_nonempty
      have decided := Cut.of_cut first.begins ((turn_first first).symm.trans looked)
      have later_first := first.append config.header_nonempty later
      show config.turn (pending ++ later) = _
      rw [turn_first later_first]
      rw [List.drop_append_of_le_length (by omega)]
      exact (decided.append first.begins later).cut_eq
        (List.prefix_append_of_prefix first.begins)
    · have waited := (turn_absent absent).symm.trans looked
      cases waited
  wait_append := by
    intro pending rest looked later
    show config.turn (pending ++ later) = config.turn (rest ++ later)
    rcases first_or_absent config.header pending with ⟨start, first⟩ | absent
    · -- The kept buffer begins with the header, so its own first header is at the front.
      have inside := first.1.length_le config.header_nonempty
      have kept := (Cut.of_cut first.begins ((turn_first first).symm.trans looked)).wait_eq
      subst kept
      have begins : config.header <+: pending.drop start ++ later :=
        List.prefix_append_of_prefix first.begins
      rw [turn_first (first.append config.header_nonempty later), turn_first (first_zero begins),
        List.drop_append_of_le_length (by omega), List.drop_zero]
    · -- The dropped bytes cannot take part in a header that later bytes complete.
      have waited := (turn_absent absent).symm.trans looked
      cases waited
      rcases first_or_absent config.header
          (pending.drop (spent config.header pending) ++ later) with ⟨start, first⟩ | gone
      · rw [turn_first first, turn_first (absent.first_drop.mp first), ← List.drop_drop,
          List.drop_append_of_le_length (spent_le config.header pending)]
      · rw [turn_absent gone, turn_absent (absent.absent_drop.mp gone), drop_spent_append]

end FrameConfig

end SerialPort
