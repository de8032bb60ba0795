import SerialPort.Frame.Offer

/-! Streams of sized frames between noise: the parser finds every frame and judges each once. -/

namespace SerialPort

open Scanning Occurrence

namespace FrameConfig

/-- A frame that its own length field describes, whatever its footer and checksum. -/
structure Sized (config : FrameConfig) (frame : Bytes) : Prop where
  begins : config.header <+: frame
  complete : config.lengthOffset.toInt + config.lengthSize.toInt ≤ frame.length
  /-- The declared length denotes the size as mathematical integers, so nothing wrapped. -/
  declares : ∃ declared, frame.readUnsigned config.lengthOffset config.lengthSize
      config.lengthByteOrder = .ok declared ∧
    (frame.length : Int) =
      if config.lengthIncludesHeader then declared.toInt
      else declared.toInt + config.header.length + config.lengthSize.toInt
  enough : config.minimumFrameSize.toInt ≤ frame.length
  bounded : (frame.length : Int) ≤ config.maximumFrameSize.toInt

/-- Noise before a frame: the first header in it, followed by a header, is that header. -/
def Noise (config : FrameConfig) (noise : Bytes) : Prop :=
  First config.header (noise ++ config.header) noise.length

/-- The header is shorter than any 32-bit bound. -/
theorem headerSize_toInt (config : FrameConfig) :
    config.headerSize.toInt = config.header.length := by
  -- The minimum frame size is a 32-bit integer and at least the size of the header.
  have limits := config.sizes
  exact toInt_ofNat_of_fits (by omega)

/-- The frame size computed in wrapping arithmetic is the size of a sized frame. -/
theorem Sized.frameSize_eq {config : FrameConfig} {frame : Bytes} (sized : config.Sized frame) :
    ∃ declared, frame.readUnsigned config.lengthOffset config.lengthSize config.lengthByteOrder =
        .ok declared ∧ (config.frameSize declared).toInt = frame.length := by
  -- Adding the two sizes to the declared length stays below the maximum frame size.
  obtain ⟨declared, read, denotes⟩ := sized.declares
  refine ⟨declared, read, ?_⟩
  have limits := config.sizes
  have bounded := sized.bounded
  obtain ⟨-, width, -⟩ := config.lengths
  have lowest := Int32.le_toInt declared
  by_cases includes : config.lengthIncludesHeader
  · simp only [if_pos includes] at denotes
    rw [frameSize, if_pos includes, denotes]
  · simp only [if_neg includes] at denotes
    have header := config.headerSize_toInt
    have inner : (declared + config.headerSize).toInt = declared.toInt + config.header.length := by
      rw [toInt_add_of_fits (by omega) (by omega), header]
    rw [frameSize, if_neg includes, toInt_add_of_fits (by omega) (by omega), inner, denotes]

/-- A sized frame at the front of the buffer is cut out as a whole and judged. -/
theorem Sized.cut {config : FrameConfig} {frame : Bytes} (sized : config.Sized frame)
    {outcome : FrameOutcome} (judgement : config.judge frame = .ok outcome) (later : Bytes) :
    Cut config (frame ++ later) (.emit outcome later) := by
  -- Its length field is read from its own bytes, whatever follows it.
  obtain ⟨declared, read, size⟩ := sized.frameSize_eq
  have limits := config.sizes
  have bounded := sized.bounded
  have complete := sized.complete
  have field := @fieldEnd_toInt config (by omega)
  have found :
      Cut config (frame ++ later) (.emit outcome ((frame ++ later).drop frame.length)) := by
    refine .judged ?_ (Bytes.readUnsigned_append read later) size ?_ ?_ (by simp) (by simpa)
    · simp only [field, List.length_append]
      omega
    · exact Int32.le_iff_toInt_le.mpr (size ▸ sized.enough)
    · exact Int32.le_iff_toInt_le.mpr (size ▸ bounded)
  rwa [List.drop_left] at found

/-- Behind noise, the first turn that decides anything judges the frame. -/
theorem Sized.turn {config : FrameConfig} {noise frame : Bytes} (quiet : config.Noise noise)
    (sized : config.Sized frame) {outcome : FrameOutcome}
    (judgement : config.judge frame = .ok outcome) (later : Bytes) :
    config.scanner.scan (noise ++ frame ++ later) = .ok (.emit outcome later) := by
  -- The frame begins with the header, so the header behind the noise is its beginning.
  obtain ⟨body, rfl⟩ := sized.begins
  have first := quiet.append config.header_nonempty (body ++ later)
  have stream : noise ++ (config.header ++ body) ++ later =
      noise ++ config.header ++ (body ++ later) := by simp only [List.append_assoc]
  show config.turn _ = _
  rw [stream, turn_first first, ← stream, List.append_assoc, List.drop_left]
  exact (sized.cut judgement later).cut_eq
    (List.prefix_append_of_prefix (List.prefix_append ..))

/-- Whether the checksum test of a frame passes. -/
def checksumPasses (config : FrameConfig) (frame : Bytes) : Bool :=
  match config.checksumMatches frame with
  | .ok passed => passed
  | .error _ => false

/-- Whether a frame passes both tests. -/
def passes (config : FrameConfig) (frame : Bytes) : Bool :=
  config.footerMatches frame && config.checksumPasses frame

/-- The error of a frame that fails a test: the footer's before the checksum's. -/
def failure? (config : FrameConfig) (frame : Bytes) : Option FrameParseError :=
  if !config.footerMatches frame then some .footerMismatch
  else if !config.checksumPasses frame then some .checksumMismatch
  else none

/-- Judging a frame returns it when it passes both tests, and otherwise names the failed one. -/
theorem judge_eq {config : FrameConfig} {frame : Bytes} {outcome : FrameOutcome}
    (judgement : config.judge frame = .ok outcome) :
    outcome.frame? = (if config.passes frame then some frame else none) ∧
      outcome.error? = config.failure? frame := by
  -- The two tests are taken in the order of the source, footer first.
  unfold judge at judgement
  by_cases footer : config.footerMatches frame
  · rw [if_pos footer] at judgement
    cases tested : config.checksumMatches frame with
    | error fault => simp [tested, Bind.bind, Except.bind] at judgement
    | ok passed =>
      simp only [tested, Bind.bind, Except.bind, Pure.pure, Except.pure] at judgement
      cases passed with
      | false => cases judgement; simp [passes, failure?, checksumPasses, footer, tested,
          FrameOutcome.frame?, FrameOutcome.error?]
      | true => cases judgement; simp [passes, failure?, checksumPasses, footer, tested,
          FrameOutcome.frame?, FrameOutcome.error?]
  · rw [if_neg footer] at judgement
    cases judgement
    simp [passes, failure?, footer, FrameOutcome.frame?, FrameOutcome.error?]

/-- A stream of blocks, each some noise and the frame behind it. -/
def stream (blocks : List (Bytes × Bytes)) : Bytes :=
  blocks.flatMap fun block => block.1 ++ block.2

/-- Draining a stream of blocks judges each frame once, in order, and leaves nothing behind. -/
theorem drain_stream {config : FrameConfig} (inRange : config.ChecksumInRange)
    {blocks : List (Bytes × Bytes)} (quiet : ∀ block ∈ blocks, config.Noise block.1)
    (sized : ∀ block ∈ blocks, config.Sized block.2) :
    ∃ outcomes, config.scanner.drain (stream blocks) = .ok (outcomes, []) ∧
      FrameParseResult.ofOutcomes outcomes =
        ⟨(blocks.map Prod.snd).filter config.passes,
          (blocks.map Prod.snd).filterMap config.failure?⟩ := by
  -- Each block costs one turn, and the rest of the stream is again a stream of blocks.
  induction blocks with
  | nil => exact ⟨[], Scanner.drain_wait config.turn_nil, rfl⟩
  | cons block blocks ih =>
    obtain ⟨outcomes, rest, results⟩ := ih (fun other member => quiet other (by simp [member]))
      (fun other member => sized other (by simp [member]))
    have frame := sized block (by simp)
    have limits := config.sizes
    have bounded := frame.bounded
    obtain ⟨outcome, judgement⟩ := judge_total inRange
      (show block.2.length < 2 ^ 31 by omega)
    have looked := frame.turn (quiet block (by simp)) judgement (stream blocks)
    refine ⟨outcome :: outcomes, ?_, ?_⟩
    · rw [show stream (block :: blocks) = block.1 ++ block.2 ++ stream blocks by simp [stream],
        Scanner.drain_emit looked, rest]
      rfl
    · obtain ⟨framed, failed⟩ := judge_eq judgement
      simp only [FrameParseResult.ofOutcomes, FrameParseResult.mk.injEq] at results ⊢
      simp only [List.map_cons, List.filterMap_cons, List.filter_cons, framed, failed, results]
      constructor
      · by_cases passed : config.passes block.2 <;> simp [passed]
      · trivial

end FrameConfig

namespace SerialFrameParser

/--
Stream recovery: any stream of sized frames between noise may be cut in any way.

Exactly the frames that pass both tests are returned, in order.
Every other frame leaves one error, naming the footer when that is wrong and the checksum otherwise.
No byte is held back at the end.
-/
theorem transcript_stream {config : FrameConfig} (inRange : config.ChecksumInRange)
    {blocks : List (Bytes × Bytes)} (quiet : ∀ block ∈ blocks, config.Noise block.1)
    (sized : ∀ block ∈ blocks, config.Sized block.2) {chunks : List Bytes}
    (cutting : chunks.flatten = FrameConfig.stream blocks)
    (fits : (fresh config).untrimmed chunks) :
    (fresh config).transcript chunks =
      .ok (⟨(blocks.map Prod.snd).filter config.passes,
        (blocks.map Prod.snd).filterMap config.failure?⟩, []) := by
  cases blocks with
  | nil => exact transcript_nothing config cutting
  | cons block blocks =>
    -- A sized frame holds its length field, so the end of that field is in range.
    have frame := sized block (by simp)
    have limits := config.sizes
    have complete := frame.complete
    have bounded := frame.bounded
    have ends : config.InRange := ⟨by omega, inRange⟩
    -- The cuts do not matter, so the stream may be drained at once.
    obtain ⟨outcomes, drained, results⟩ := FrameConfig.drain_stream inRange quiet sized
    rw [transcript_eq_drain ends fits, cutting, drained, ← results]
    rfl

/-- A frame with a wrong checksum, noise with half a header in it, and a good frame behind. -/
theorem transcript_stream_damaged :
    (fresh { header := [0x55, 0xAA]
             lengthOffset := 2
             checksum := some Checksums.Xor8 }).transcript
      [[0x55, 0xAA, 0x01, 0x10], [0x55, 0x55, 0xAA], [0x02, 0x10, 0xED]] =
        .ok (⟨[[0x55, 0xAA, 0x02, 0x10, 0xED]], [.checksumMismatch]⟩, []) := by
  let config : FrameConfig :=
    { header := [0x55, 0xAA], lengthOffset := 2, checksum := some Checksums.Xor8 }
  -- Only its checksum is wrong: the sizes are those of a frame.
  have damaged : config.Sized [0x55, 0xAA, 0x01, 0x10] :=
    ⟨by decide, by decide, ⟨1, by decide, by decide⟩, by decide, by decide⟩
  have valid : config.Sized [0x55, 0xAA, 0x02, 0x10, 0xED] :=
    ⟨by decide, by decide, ⟨2, by decide, by decide⟩, by decide, by decide⟩
  -- A stray 55 between the two is noise, although it begins a header.
  have blocks :
      ∀ block ∈ [([], [0x55, 0xAA, 0x01, 0x10]), ([0x55], [0x55, 0xAA, 0x02, 0x10, 0xED])],
        config.Noise block.1 ∧ config.Sized block.2 := by
    intro block member
    simp only [List.mem_cons, List.not_mem_nil, or_false] at member
    rcases member with rfl | rfl
    · exact ⟨by unfold FrameConfig.Noise; decide, damaged⟩
    · exact ⟨by unfold FrameConfig.Noise; decide, valid⟩
  have recovered := @transcript_stream config (fun offset none => by cases none) _
    (fun block member => (blocks block member).1) (fun block member => (blocks block member).2)
    [[0x55, 0xAA, 0x01, 0x10], [0x55, 0x55, 0xAA], [0x02, 0x10, 0xED]] (by decide) (by decide)
  have judged : FrameParseResult.mk
      ([[0x55, 0xAA, 0x01, 0x10], [0x55, 0xAA, 0x02, 0x10, 0xED]].filter config.passes)
      ([[0x55, 0xAA, 0x01, 0x10], [0x55, 0xAA, 0x02, 0x10, 0xED]].filterMap config.failure?) =
        ⟨[[0x55, 0xAA, 0x02, 0x10, 0xED]], [.checksumMismatch]⟩ := by decide
  exact recovered.trans (congrArg (fun result => Except.ok (result, [])) judged)

end SerialFrameParser

end SerialPort
