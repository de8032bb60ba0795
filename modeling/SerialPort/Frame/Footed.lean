import SerialPort.Detection
import SerialPort.Frame.Coalesced

/-! Frames that carry both a checksum and a footer. -/

namespace SerialPort

open Scanning Occurrence

namespace FrameConfig

/-- A configuration with a footer and a common checksum, all of the latter left at its default. -/
structure Footed (config : FrameConfig) (checksum : Checksum) : Prop where
  adjacent : config.lengthOffset = config.headerSize
  footed : config.footer ≠ []
  configured : config.checksum = some checksum
  isCommon : checksum ∈ Checksums.common
  defaultSize : config.checksumSize = Int32.ofNat (checksum []).length
  defaultPlace : config.checksumOffset = none

/-- The frame that is sent: header, length field, payload, their checksum, and the footer. -/
def footedFrame (config : FrameConfig) (checksum : Checksum) (field payload : Bytes) : Bytes :=
  Bytes.withChecksum (config.header ++ field ++ payload) checksum ++ config.footer

/-- The field denotes the total size of the frame, and the frame fits the size limits. -/
structure Fitting (config : FrameConfig) (checksum : Checksum) (field payload : Bytes) : Prop where
  width : field.length = config.lengthSize.toNatClampNeg
  declares : config.declaredSize (config.footedFrame checksum field payload) =
    (config.footedFrame checksum field payload).length
  enough : config.minimumFrameSize.toInt ≤ (config.footedFrame checksum field payload).length
  bounded : ((config.footedFrame checksum field payload).length : Int) ≤
    config.maximumFrameSize.toInt

/-- A frame is returned alone and without error, and never with a bit of the given part flipped. -/
structure Guarded (config : FrameConfig) (frame : Bytes) (start width : Nat) : Prop where
  delivered : (SerialFrameParser.fresh config).transcript [frame] = .ok (⟨[frame], []⟩, [])
  refused : ∀ index bit, index < width → bit < 8 → ∀ seen,
    (SerialFrameParser.fresh config).transcript [frame.flipBit (start + index) bit] = .ok seen →
      frame.flipBit (start + index) bit ∉ seen.1.frames

/-- The last bytes of a frame are the checksum of all bytes before them. -/
def EndsInChecksum (checksum : Checksum) (frame : Bytes) : Prop :=
  checksum (frame.take (frame.length - (checksum []).length)) =
    frame.drop (frame.length - (checksum []).length)

instance (checksum : Checksum) (frame : Bytes) : Decidable (EndsInChecksum checksum frame) :=
  inferInstanceAs (Decidable (_ = _))

/-- A bit flipped before the last bytes is noticed by a common checksum. -/
theorem not_endsInChecksum_flipBit {checksum : Checksum} (isCommon : checksum ∈ Checksums.common)
    {frame : Bytes} (ends : EndsInChecksum checksum frame) {index bit : Nat}
    (inside : index < frame.length - (checksum []).length) (small : bit < 8) :
    ¬EndsInChecksum checksum (frame.flipBit index bit) := by
  -- The last bytes stay what they were, and what they are compared with changes.
  intro still
  unfold EndsInChecksum at ends still
  rw [Bytes.length_flipBit] at still
  obtain ⟨count, isCount⟩ : ∃ count, count = frame.length - (checksum []).length := ⟨_, rfl⟩
  rw [← isCount] at ends still inside
  have length : (frame.take count).length = count := by
    rw [List.length_take]
    omega
  have apart : frame.flipBit index bit =
      Bytes.flipBit (frame.take count) index bit ++ frame.drop count := by
    have cut := List.take_append_drop count frame
    rw [← Bytes.flipBit_append_left (by omega), cut]
  have flippedLength : (Bytes.flipBit (frame.take count) index bit).length = count := by
    rw [Bytes.length_flipBit, length]
  rw [apart, List.take_left' flippedLength, List.drop_left' flippedLength, ← ends] at still
  exact Checksums.common_flipBit isCommon (length.symm ▸ inside) small still

/-- Two frames of the same front up to the end of the length field declare the same length. -/
theorem declaredLength_eq {config : FrameConfig}
    (adjacent : config.lengthOffset = config.headerSize)
    {field : Bytes} (width : field.length = config.lengthSize.toNatClampNeg) (rest : Bytes) :
    config.declaredLength (config.header ++ field ++ rest) =
      Bytes.denoted config.lengthByteOrder field := by
  have offset : config.lengthOffset.toNatClampNeg = config.header.length := by
    rw [adjacent, ← Int32.toNat_toInt, config.headerSize_toInt, Int.toNat_natCast]
  rw [declaredLength, offset, ← width, List.append_assoc, List.drop_left, List.take_left]

/-- The parts of a footed frame behind its length field. -/
theorem footedFrame_eq (config : FrameConfig) (checksum : Checksum) (field payload : Bytes) :
    config.footedFrame checksum field payload = config.header ++ field ++
      (payload ++ (checksum (config.header ++ field ++ payload) ++ config.footer)) := by
  simp [footedFrame, Bytes.withChecksum]

/-- Whatever stands behind the length field of a fitting frame, the frame keeps its size. -/
theorem Fitting.sized {config : FrameConfig} {checksum : Checksum} {field payload rest : Bytes}
    (adjacent : config.lengthOffset = config.headerSize)
    (fitting : config.Fitting checksum field payload)
    (same : (config.header ++ field ++ rest).length =
      (config.footedFrame checksum field payload).length) :
    config.Sized (config.header ++ field ++ rest) := by
  have width := fitting.width
  have size := Int32.toNat_toInt config.lengthSize
  refine .of_declaredSize ?_ ?_ ?_ (same ▸ fitting.enough) (same ▸ fitting.bounded)
  · rw [List.append_assoc]
    exact List.prefix_append ..
  · rw [HoldsLength, adjacent, config.headerSize_toInt]
    simp only [List.length_append]
    omega
  · -- The declared size depends on the field alone.
    rw [same, ← fitting.declares, declaredSize, declaredSize, declaredLength_eq adjacent width,
      footedFrame_eq, declaredLength_eq adjacent width]

/-- A frame of the right size and footer is accepted exactly if it ends in its checksum. -/
theorem Footed.judge_eq {config : FrameConfig} {checksum : Checksum} {front : Bytes}
    (footed : config.Footed checksum) (sized : config.Sized (front ++ config.footer)) :
    config.judge (front ++ config.footer) =
      .ok (if EndsInChecksum checksum (front ++ config.footer) then
        .frame (front ++ config.footer) else .error .checksumMismatch) := by
  have limits := config.sizes
  have bounded := sized.bounded
  have complete := sized.complete
  obtain ⟨-, least, -⟩ := config.lengths
  rw [footed.adjacent, config.headerSize_toInt] at complete
  obtain ⟨positive, small, -⟩ := Checksums.common_length footed.isCommon []
  have matched : config.footerMatches (front ++ config.footer) = true := by
    rw [footerMatches, Bytes.takeLast, List.length_append, Nat.add_sub_cancel, List.drop_left]
    simp
  -- The test of the checksum does not know that the footer stands in its place.
  have tested : config.checksumMatches (front ++ config.footer) =
      .ok (decide (EndsInChecksum checksum (front ++ config.footer))) := by
    rw [checksumMatches, footed.configured]
    simp only
    rw [footed.defaultSize, footed.defaultPlace, hasChecksumAt_default checksum positive (by omega)
      (by omega), beq_eq_decide]
    rfl
  rw [judge, if_pos matched, tested]
  by_cases ends : EndsInChecksum checksum (front ++ config.footer) <;>
    simp [ends, Bind.bind, Except.bind, Pure.pure, Except.pure]

/-- What one call shows of a frame of the right size with the footer at its end. -/
theorem Footed.transcript_eq {config : FrameConfig} {checksum : Checksum} {frame front : Bytes}
    (footed : config.Footed checksum) (ends : frame = front ++ config.footer)
    (sized : config.Sized frame) :
    (SerialFrameParser.fresh config).transcript [frame] =
      .ok (if EndsInChecksum checksum frame then ⟨[frame], []⟩ else ⟨[], [.checksumMismatch]⟩,
        []) := by
  have judgement := footed.judge_eq (ends ▸ sized)
  rw [← ends] at judgement
  have fits := Int.le_trans sized.bounded config.bufferLimit.1
  -- A frame that fits the buffer and comes in one piece is cut and judged as a whole.
  have shown := @SerialFrameParser.transcript_judged config [(frame, _)] (by simpa using sized)
    (by simpa using judgement) (by simpa using fits)
  simp only [List.map_cons, List.map_nil, List.flatten_cons, List.flatten_nil, List.append_nil]
    at shown
  rw [shown]
  by_cases checked : EndsInChecksum checksum frame
  · rw [if_pos checked, if_pos checked]
    rfl
  · rw [if_neg checked, if_neg checked]
    rfl

/--
Footer and checksum: a fitting frame with both is delivered, and guarded against every flipped bit.

This is so exactly if its last bytes happen to be the checksum of all bytes before them.
-/
theorem guarded_iff {config : FrameConfig} {checksum : Checksum} {field payload : Bytes}
    (footed : config.Footed checksum) (fitting : config.Fitting checksum field payload) :
    config.Guarded (config.footedFrame checksum field payload)
        (config.header.length + field.length) payload.length ↔
      EndsInChecksum checksum (config.footedFrame checksum field payload) := by
  have parts := config.footedFrame_eq checksum field payload
  have sized := fitting.sized footed.adjacent (congrArg List.length parts.symm)
  rw [← parts] at sized
  have shown := @Footed.transcript_eq _ _ (config.footedFrame checksum field payload) _ footed rfl
    sized
  constructor
  · intro guarded
    by_contra unchecked
    rw [if_neg unchecked, guarded.delivered] at shown
    simp at shown
  · intro ends
    rw [if_pos ends] at shown
    refine ⟨shown, fun index bit inside small seen result => ?_⟩
    obtain ⟨positive, few, length⟩ := Checksums.common_length footed.isCommon
      (config.header ++ field ++ payload)
    obtain ⟨frame, isFrame⟩ : ∃ frame, frame = config.footedFrame checksum field payload := ⟨_, rfl⟩
    have footer := List.length_pos_iff.mpr footed.footed
    have total : frame.length = config.header.length + field.length + payload.length +
        ((checksum []).length + config.footer.length) := by
      rw [isFrame, parts]
      simp only [List.length_append, length]
      omega
    -- The damaged frame has the same field and the same footer, so it is cut and judged as well.
    have damaged : frame.flipBit (config.header.length + field.length + index) bit =
        config.header ++ field ++ (payload.flipBit index bit ++
          (checksum (config.header ++ field ++ payload) ++ config.footer)) := by
      rw [isFrame, parts, ← List.length_append, Bytes.flipBit_append_right,
        Bytes.flipBit_append_left inside]
    have resized :
        config.Sized (frame.flipBit (config.header.length + field.length + index) bit) := by
      rw [damaged]
      refine fitting.sized footed.adjacent ?_
      rw [parts]
      simp
    have sameEnd : frame.flipBit (config.header.length + field.length + index) bit =
        config.header ++ field ++ payload.flipBit index bit ++
          checksum (config.header ++ field ++ payload) ++ config.footer := by
      rw [damaged]
      simp only [List.append_assoc]
    have judged := footed.transcript_eq sameEnd resized
    rw [← isFrame] at ends result ⊢
    -- The flipped bit lies before the last bytes, which therefore no longer are the checksum.
    have unchecked := not_endsInChecksum_flipBit footed.isCommon ends
      (show config.header.length + field.length + index < frame.length - _ by omega) small
    rw [if_neg unchecked, result, Except.ok.injEq] at judged
    rw [judged]
    simp

/-- The documented configuration with the payload 01 02: the frame is rejected. -/
theorem guarded_fails_documented :
    let config : FrameConfig :=
      { header := [0x55, 0xAA]
        lengthOffset := 2
        lengthSize := 2
        lengthByteOrder := .littleEndian
        footer := [0x0D, 0x0A]
        checksum := some Checksums.Crc16Modbus
        maximumFrameSize := 2048 }
    config.Footed Checksums.Crc16Modbus ∧
      config.Fitting Checksums.Crc16Modbus [6, 0] [1, 2] ∧
      (SerialFrameParser.fresh config).transcript
          [config.footedFrame Checksums.Crc16Modbus [6, 0] [1, 2]] =
        .ok (⟨[], [.checksumMismatch]⟩, []) ∧
      ¬config.Guarded (config.footedFrame Checksums.Crc16Modbus [6, 0] [1, 2]) 4 2 := by
  intro config
  -- The two bytes taken for the checksum are the footer, which it does not match.
  have shown : (SerialFrameParser.fresh config).transcript
      [config.footedFrame Checksums.Crc16Modbus [6, 0] [1, 2]] =
        .ok (⟨[], [.checksumMismatch]⟩, []) := by decide +kernel
  refine ⟨⟨rfl, by decide, rfl, by simp [Checksums.common], rfl, rfl⟩, ⟨rfl, by decide +kernel,
    by decide +kernel, by decide +kernel⟩, shown, fun guarded => ?_⟩
  have delivered := guarded.delivered
  rw [shown] at delivered
  simp at delivered

/-- A footer whose bytes cancel in the exclusive or. -/
theorem guarded_cancelling :
    let config : FrameConfig :=
      { header := [0x55], lengthOffset := 1, footer := [7, 7], checksum := some Checksums.Xor8 }
    config.Guarded (config.footedFrame Checksums.Xor8 [5] [1, 2]) 2 2 := by
  intro config
  -- Two equal footer bytes cancel under XOR, and the frame passes.
  have footed : config.Footed Checksums.Xor8 :=
    ⟨rfl, by decide, rfl, by simp [Checksums.common], rfl, rfl⟩
  have fitting : config.Fitting Checksums.Xor8 [5] [1, 2] :=
    ⟨rfl, by decide +kernel, by decide +kernel, by decide +kernel⟩
  exact (guarded_iff footed fitting).mpr (by decide +kernel)

end FrameConfig

end SerialPort
