import SerialPort.Frame.Turn

/-! Offering bytes to the parser, and why the cuts between the calls do not matter. -/

namespace SerialPort

open Scanning Occurrence

/-- The end of a checksum at a configured place is itself a 32-bit integer. -/
def FrameConfig.ChecksumInRange (config : FrameConfig) : Prop :=
  ∀ offset ∈ config.checksumOffset, offset.toInt + config.checksumSize.toInt < 2 ^ 31

/-- A configuration whose two field ends are themselves 32-bit integers. -/
structure FrameConfig.InRange (config : FrameConfig) : Prop where
  length : config.lengthOffset.toInt + config.lengthSize.toInt < 2 ^ 31
  checksum : config.ChecksumInRange

/-- The result of a call that added the given outcomes. -/
def FrameParseResult.ofOutcomes (outcomes : List FrameOutcome) : FrameParseResult where
  frames := outcomes.filterMap FrameOutcome.frame?
  errors := outcomes.filterMap FrameOutcome.error?

/-- Two results one after the other. -/
def FrameParseResult.append (first second : FrameParseResult) : FrameParseResult where
  frames := first.frames ++ second.frames
  errors := first.errors ++ second.errors

/-- The results of two runs of outcomes are appended like the outcomes. -/
theorem FrameParseResult.ofOutcomes_append (first second : List FrameOutcome) :
    ofOutcomes (first ++ second) = (ofOutcomes first).append (ofOutcomes second) := by
  simp [ofOutcomes, append]

/-- A parser: its configuration, the bytes it holds back, and the errors of its last call. -/
structure SerialFrameParser where
  config : FrameConfig
  pending : Bytes := []
  lastErrors : List FrameParseError := []

namespace SerialFrameParser

/-- Takes in the bytes, then parses until the buffer holds no more whole frame. -/
def offerDetailed (parser : SerialFrameParser) (bytes : Bytes) :
    Except Fault (SerialFrameParser × FrameParseResult) :=
  (parser.config.scanner.drain (parser.config.refill parser.pending bytes)).map fun drained =>
    let result := FrameParseResult.ofOutcomes drained.1
    ({ parser with pending := drained.2, lastErrors := result.errors }, result)

/-- The frames alone. -/
def offer (parser : SerialFrameParser) (bytes : Bytes) :
    Except Fault (SerialFrameParser × List Bytes) :=
  (parser.offerDetailed bytes).map fun offered => (offered.1, offered.2.frames)

/-- Forgets the pending bytes and the last errors. -/
def reset (parser : SerialFrameParser) : SerialFrameParser :=
  { parser with pending := [], lastErrors := [] }

/-- Successive calls, with their results concatenated. -/
def offerAll (parser : SerialFrameParser) : List Bytes →
    Except Fault (SerialFrameParser × FrameParseResult)
  | [] => .ok (parser, ⟨[], []⟩)
  | chunk :: chunks =>
    (parser.offerDetailed chunk).bind fun offered =>
      (offered.1.offerAll chunks).map fun more => (more.1, offered.2.append more.2)

/-- What a caller sees of successive calls: all results, and the bytes still held back. -/
def transcript (parser : SerialFrameParser) (chunks : List Bytes) :
    Except Fault (FrameParseResult × Bytes) :=
  (parser.offerAll chunks).map fun offered => (offered.2, offered.1.pending)

/-- No call makes the pending bytes and the new ones exceed the buffer. -/
def untrimmed (parser : SerialFrameParser) : List Bytes → Bool
  | [] => true
  | chunk :: chunks =>
    decide ((parser.pending ++ chunk).length ≤ parser.config.maximumBufferSize.toInt) &&
      (parser.offerDetailed chunk).toOption.all fun offered => offered.1.untrimmed chunks

end SerialFrameParser

namespace FrameConfig

/-- The checksum test of a frame of at most the 32-bit size does not fail. -/
theorem hasChecksumAt_total {frame : Bytes} (checksum : Checksum) {size : Int32}
    {offset : Option Int32} (small : frame.length < 2 ^ 31) (nonneg : 0 ≤ size)
    (fits : ∀ position ∈ offset, position.toInt + size.toInt < 2 ^ 31) :
    ∃ passed, frame.hasChecksumAt checksum size offset = .ok passed := by
  -- Past the two guards the checksum's window lies within the frame.
  unfold Bytes.hasChecksumAt
  by_cases guard : size = 0 ∨ (frame.length : Int) < size.toInt
  · exact ⟨false, by rw [if_pos guard]⟩
  rw [if_neg guard]
  rw [Int32.le_iff_toInt_le] at nonneg
  simp only [Int32.toInt_zero] at nonneg
  have long : size.toInt ≤ frame.length := by
    by_contra short
    exact guard (Or.inr (by omega))
  have length : (Int32.ofNat frame.length).toInt = frame.length := toInt_ofNat_of_fits small
  -- The default position counts back from the end, and a configured one adds up without wrapping.
  have sum : (offset.getD (Int32.ofNat frame.length - size)).toInt + size.toInt < 2 ^ 31 := by
    cases offset with
    | some position => exact fits position rfl
    | none =>
      have difference : (Int32.ofNat frame.length - size).toInt = frame.length - size.toInt := by
        rw [Int32.toInt_sub, length]
        exact Int.bmod_eq_of_le (by omega) (by omega)
      simp only [Option.getD_none, difference]
      omega
  generalize offset.getD (Int32.ofNat frame.length - size) = position at sum
  by_cases outside : position < 0 ∨ (frame.length : Int) < (position + size).toInt
  · exact ⟨false, by simp only; rw [if_pos outside]⟩
  simp only
  rw [if_neg outside]
  have start : 0 ≤ position.toInt := by
    by_contra negative
    exact outside (Or.inl (Int32.lt_iff_toInt_lt.mpr (by simpa using negative)))
  have stop : (position + size).toInt = position.toInt + size.toInt :=
    toInt_add_of_fits (by omega) (by omega)
  have within : position.toInt + size.toInt ≤ frame.length := by
    by_contra beyond
    exact outside (Or.inr (by omega))
  obtain ⟨first, firstIs⟩ := Int.eq_ofNat_of_zero_le start
  obtain ⟨width, widthIs⟩ := Int.eq_ofNat_of_zero_le nonneg
  have last : position.toInt + size.toInt = ((first + width : Nat) : Int) := by omega
  rw [stop, last, firstIs]
  -- All three copies are of windows inside the frame.
  have front : frame.copyOfRange (0 : Nat) first = .ok (frame.slice 0 first) :=
    Bytes.copyOfRange_inside (Nat.zero_le first) (by omega)
  have back : frame.copyOfRange (first + width : Nat) frame.length =
      .ok (frame.slice (first + width) frame.length) :=
    Bytes.copyOfRange_inside (by omega) le_rfl
  have stored : frame.copyOfRange first (first + width : Nat) =
      .ok (frame.slice first (first + width)) :=
    Bytes.copyOfRange_inside (Nat.le_add_right first width) (by omega)
  rw [Int.ofNat_zero] at front
  simp only [front, back, stored, Bind.bind, Except.bind, Pure.pure, Except.pure]
  exact ⟨_, rfl⟩

/-- With the default place, the checksum test looks at the last bytes of the frame. -/
theorem hasChecksumAt_default {frame : Bytes} (checksum : Checksum) {width : Nat}
    (positive : 0 < width) (fits : width ≤ frame.length) (small : frame.length < 2 ^ 31) :
    frame.hasChecksumAt checksum (Int32.ofNat width) none =
      .ok (checksum (frame.take (frame.length - width)) == frame.drop (frame.length - width)) := by
  -- The window ends where the frame does, so nothing is behind it.
  have size : (Int32.ofNat width).toInt = width := toInt_ofNat_of_fits (by omega)
  have length : (Int32.ofNat frame.length).toInt = frame.length := toInt_ofNat_of_fits small
  have start : (Int32.ofNat frame.length - Int32.ofNat width).toInt = frame.length - width := by
    rw [Int32.toInt_sub, size, length]
    exact Int.bmod_eq_of_le (by omega) (by omega)
  have stop : (Int32.ofNat frame.length - Int32.ofNat width + Int32.ofNat width).toInt =
      frame.length := by
    rw [toInt_add_of_fits (by omega) (by omega), size, start]
    omega
  have nonzero : Int32.ofNat width ≠ 0 := by
    intro zero
    rw [zero, Int32.toInt_zero] at size
    omega
  have nonneg : ¬Int32.ofNat frame.length - Int32.ofNat width < 0 :=
    not_negative_of_toInt (by omega)
  have front : frame.copyOfRange 0 (frame.length - width : Nat) =
      .ok (frame.slice 0 (frame.length - width)) :=
    Bytes.copyOfRange_inside (Nat.zero_le _) (by omega)
  have back : frame.copyOfRange frame.length frame.length = .ok (frame.slice _ _) :=
    Bytes.copyOfRange_inside le_rfl le_rfl
  have stored : frame.copyOfRange (frame.length - width : Nat) frame.length =
      .ok (frame.slice (frame.length - width) frame.length) :=
    Bytes.copyOfRange_inside (Nat.sub_le ..) le_rfl
  have place : ((frame.length : Int) - width) = ((frame.length - width : Nat) : Int) := by omega
  unfold Bytes.hasChecksumAt
  rw [if_neg (by simp only [nonzero, size, false_or]; omega)]
  simp only [Option.getD_none]
  rw [if_neg (by simp only [nonneg, stop, false_or]; omega), start, stop, place, front, back,
    stored, Bytes.slice_to_end, Bytes.slice_to_end, List.drop_length]
  simp [Bind.bind, Except.bind, Pure.pure, Except.pure, Bytes.slice]

/-- Judging a frame of at most the 32-bit size does not fail. -/
theorem judge_total {config : FrameConfig} (inRange : config.ChecksumInRange) {frame : Bytes}
    (small : frame.length < 2 ^ 31) : ∃ outcome, config.judge frame = .ok outcome := by
  -- Only the checksum test could fail.
  have tested : ∃ passed, config.checksumMatches frame = .ok passed := by
    unfold checksumMatches
    cases config.checksum with
    | none => exact ⟨true, rfl⟩
    | some checksum =>
      exact hasChecksumAt_total checksum small config.checksumSize_valid inRange
  obtain ⟨passed, matches_⟩ := tested
  simp only [judge, matches_, Bind.bind, Except.bind, Pure.pure, Except.pure]
  cases config.footerMatches frame
  · exact ⟨_, rfl⟩
  · cases passed <;> exact ⟨_, rfl⟩

/-- A look at a buffer that begins with the header does not fail. -/
theorem cut_total {config : FrameConfig} (inRange : config.InRange) {pending : Bytes}
    (begins : config.header <+: pending) : ∃ verdict, config.cut pending = .ok verdict := by
  -- The length field lies within the buffer whenever the first test lets the turn go on.
  have limits := config.sizes
  obtain ⟨nonneg, width, -⟩ := config.lengths
  have field := fieldEnd_toInt inRange.length
  by_cases missing : (pending.length : Int) < (config.lengthOffset + config.lengthSize).toInt
  · exact ⟨_, (Cut.short missing).cut_eq begins⟩
  have complete := Int.not_lt.mp missing
  obtain ⟨declared, read⟩ := Bytes.readUnsigned_inside config.lengthByteOrder nonneg (by omega)
    inRange.length (field ▸ complete)
  by_cases small : config.frameSize declared < config.minimumFrameSize
  · exact ⟨_, (Cut.invalid complete read small).cut_eq begins⟩
  have enough := Int32.not_lt.mp small
  by_cases large : config.maximumFrameSize < config.frameSize declared
  · exact ⟨_, (Cut.oversized complete read enough large).cut_eq begins⟩
  have bounded := Int32.not_lt.mp large
  by_cases lacking : (pending.length : Int) < (config.frameSize declared).toInt
  · exact ⟨_, (Cut.incomplete complete read enough bounded lacking).cut_eq begins⟩
  have atLeast := Int32.le_iff_toInt_le.mp enough
  have atMost := Int32.le_iff_toInt_le.mp bounded
  obtain ⟨size, sized⟩ := Int.eq_ofNat_of_zero_le (a := (config.frameSize declared).toInt)
    (by omega)
  have inside : size ≤ pending.length := by omega
  -- The frame is no larger than the maximum size, so judging it does not fail either.
  obtain ⟨outcome, judgement⟩ := judge_total inRange.checksum
    (show (pending.take size).length < 2 ^ 31 by simp only [List.length_take]; omega)
  exact ⟨_, (Cut.judged complete read sized enough bounded inside judgement).cut_eq begins⟩

/-- No turn of the loop fails when the field ends are in range. -/
theorem turn_total {config : FrameConfig} (inRange : config.InRange) (pending : Bytes) :
    ∃ verdict, config.scanner.scan pending = .ok verdict := by
  -- With a header the rest of the turn is a look at it, and without one the turn waits.
  rcases first_or_absent config.header pending with ⟨start, first⟩ | absent
  · obtain ⟨verdict, looked⟩ := cut_total inRange first.begins
    exact ⟨verdict, (turn_first first).trans looked⟩
  · exact ⟨_, turn_absent absent⟩

/-- An empty buffer is kept as it is. -/
theorem turn_nil (config : FrameConfig) : config.scanner.scan [] = .ok (.wait []) := by
  -- There is nothing in which a header could stand.
  have absent : Absent config.header [] := by
    intro position occurs
    rw [At, List.drop_nil, List.prefix_nil] at occurs
    exact config.header_nonempty occurs
  have waited := turn_absent absent
  rwa [List.drop_nil] at waited

end FrameConfig

namespace SerialFrameParser

/-- A call prepends its result to what the later calls return. -/
theorem transcript_cons {parser next : SerialFrameParser} {chunk : Bytes}
    {result : FrameParseResult} (offered : parser.offerDetailed chunk = .ok (next, result))
    (chunks : List Bytes) :
    parser.transcript (chunk :: chunks) =
      (next.transcript chunks).map fun more => (result.append more.1, more.2) := by
  simp only [transcript, offerAll, offered, Except.bind]
  cases next.offerAll chunks <;> rfl

/-- A call that fails ends the run. -/
theorem transcript_error {parser : SerialFrameParser} {chunk : Bytes} {fault : Fault}
    (failed : parser.offerDetailed chunk = .error fault) (chunks : List Bytes) :
    parser.transcript (chunk :: chunks) = .error fault := by
  simp only [transcript, offerAll, failed, Except.bind]
  rfl

/-- Without trimming, successive calls feed their chunks to the scanner. -/
theorem transcript_eq_feed {parser : SerialFrameParser} {chunks : List Bytes}
    (fits : parser.untrimmed chunks) :
    parser.transcript chunks =
      (parser.config.scanner.feed parser.pending chunks).map fun fed =>
        (FrameParseResult.ofOutcomes fed.1, fed.2) := by
  -- Each call drains the pending bytes with its chunk and hands the rest to the next call.
  induction chunks generalizing parser with
  | nil => rfl
  | cons chunk chunks ih =>
    simp only [untrimmed, Bool.and_eq_true, decide_eq_true_eq] at fits
    obtain ⟨bounded, later⟩ := fits
    have whole : parser.config.refill parser.pending chunk = parser.pending ++ chunk := by
      rw [FrameConfig.refill, if_neg (Int.not_lt.mpr bounded)]
    rw [Scanner.feed]
    cases drained : parser.config.scanner.drain (parser.pending ++ chunk) with
    | error fault =>
      have failed : parser.offerDetailed chunk = .error fault := by
        rw [offerDetailed, whole, drained]
        rfl
      rw [transcript_error failed]
      rfl
    | ok decided =>
      obtain ⟨outcomes, rest⟩ := decided
      have offered : parser.offerDetailed chunk =
          .ok ({ parser with
                  pending := rest
                  lastErrors := (FrameParseResult.ofOutcomes outcomes).errors },
            FrameParseResult.ofOutcomes outcomes) := by
        rw [offerDetailed, whole, drained]
        rfl
      rw [offered] at later
      rw [transcript_cons offered, ih later]
      -- The outcomes of this call come before those of the later calls, on both sides.
      simp only
      cases Scanner.feed parser.config.scanner rest chunks with
      | error fault => rfl
      | ok fed => simp [Except.map, FrameParseResult.ofOutcomes_append]

/-- A fresh parser for a configuration. -/
def fresh (config : FrameConfig) : SerialFrameParser where
  config := config

/-- Calls without any bytes do nothing to a fresh parser. -/
theorem transcript_nothing (config : FrameConfig) {chunks : List Bytes}
    (nothing : chunks.flatten = []) : (fresh config).transcript chunks = .ok (⟨[], []⟩, []) := by
  -- Each call sees an empty buffer, which the loop keeps.
  induction chunks with
  | nil => rfl
  | cons chunk chunks ih =>
    obtain ⟨rfl, rest⟩ := List.append_eq_nil_iff.mp (List.flatten_cons ▸ nothing)
    have offered : (fresh config).offerDetailed [] = .ok (fresh config, ⟨[], []⟩) := by
      have kept : config.refill [] [] = [] := by
        simp [FrameConfig.refill, Bytes.takeLast]
      rw [offerDetailed, fresh, kept, Scanner.drain_wait config.turn_nil]
      rfl
    rw [transcript_cons offered, ih rest]
    rfl

/-- Without trimming, a fresh parser reads a stream in pieces as it would read it at once. -/
theorem transcript_eq_drain {config : FrameConfig} (inRange : config.InRange)
    {chunks : List Bytes} (fits : (fresh config).untrimmed chunks) :
    (fresh config).transcript chunks =
      (config.scanner.drain chunks.flatten).map fun drained =>
        (FrameParseResult.ofOutcomes drained.1, drained.2) := by
  -- The parser's loop is a stable scanner, so the pieces can be joined.
  rw [transcript_eq_feed fits]
  have joined := config.scanner_stable.feed_eq_drain (FrameConfig.turn_total inRange)
    config.turn_nil chunks
  simp only [fresh, joined]

/--
Chunking does not matter: two ways of cutting a stream give the same frames, the same errors, and
the same pending bytes.

Both runs also return normally, which the equality of two failed runs would not say.
-/
theorem transcript_chunking {config : FrameConfig} (inRange : config.InRange)
    {left right : List Bytes} (same : left.flatten = right.flatten)
    (leftFits : (fresh config).untrimmed left) (rightFits : (fresh config).untrimmed right) :
    ∃ result pending, (fresh config).transcript left = .ok (result, pending) ∧
      (fresh config).transcript right = .ok (result, pending) := by
  -- Both runs read the same stream at once, and reading it does not fail.
  obtain ⟨drained, read⟩ := Scanner.drain_total (FrameConfig.turn_total inRange) left.flatten
  refine ⟨FrameParseResult.ofOutcomes drained.1, drained.2, ?_, ?_⟩
  · rw [transcript_eq_drain inRange leftFits, read]
    rfl
  · rw [transcript_eq_drain inRange rightFits, ← same, read]
    rfl

/-- The two calls of a stream with noise, one frame cut in two, and a second frame behind it. -/
theorem transcript_chunking_split :
    ∃ result pending,
      (fresh { header := [0x55, 0xAA], lengthOffset := 2 }).transcript
        [[0x00, 0x55, 0xAA, 0x02, 0x10], [0x20, 0x55, 0xAA, 0x01, 0x7F]] =
          .ok (result, pending) ∧
      (fresh { header := [0x55, 0xAA], lengthOffset := 2 }).transcript
        [[0x00, 0x55], [0xAA, 0x02, 0x10, 0x20, 0x55, 0xAA, 0x01, 0x7F]] =
          .ok (result, pending) := by
  have inRange : FrameConfig.InRange { header := [0x55, 0xAA], lengthOffset := 2 } :=
    ⟨by decide, fun offset none => by cases none⟩
  exact transcript_chunking inRange (by decide) (by decide) (by decide)

end SerialFrameParser

end SerialPort
