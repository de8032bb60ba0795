import SerialPort.Frame.Offer

/-! What one call costs and leaves behind: the loop ends, and the pending bytes stay bounded. -/

namespace SerialPort

open Scanning Occurrence

namespace FrameConfig

/-- What the pending bytes look like between two calls. -/
structure Settled (config : FrameConfig) (pending : Bytes) : Prop where
  /-- The bytes may be the beginning of a header, or they begin with one. -/
  shape : (pending.length < config.header.length ∧ Absent config.header pending) ∨
    config.header <+: pending
  /-- The bytes are fewer than a frame or the length field could need. -/
  bounded : (pending.length : Int) <
    max config.maximumFrameSize.toInt (config.lengthOffset.toInt + config.lengthSize.toInt)

/-- A look that waits at a header does so for lack of bytes. -/
theorem Cut.wait_bounded {config : FrameConfig} {pending : Bytes}
    (inRange : config.lengthOffset.toInt + config.lengthSize.toInt < 2 ^ 31)
    (decided : Cut config pending (.wait pending)) :
    (pending.length : Int) <
      max config.maximumFrameSize.toInt (config.lengthOffset.toInt + config.lengthSize.toInt) := by
  -- Either the length field is incomplete or a frame of an accepted size is.
  have field := fieldEnd_toInt inRange
  cases decided with
  | short missing => omega
  | incomplete complete read enough bounded missing =>
    have atMost := Int32.le_iff_toInt_le.mp bounded
    omega

/-- A decided outcome uses up at least the bytes of a header. -/
theorem Cut.emit_pays {config : FrameConfig} {pending rest : Bytes} {outcome : FrameOutcome}
    (begins : config.header <+: pending) (decided : Cut config pending (.emit outcome rest)) :
    config.header.length + rest.length ≤ pending.length := by
  -- Either the header is skipped or a frame at least as long as the header is cut.
  have limits := config.sizes
  have fits := List.IsPrefix.length_le begins
  cases decided with
  | invalid complete read small => simp only [List.length_drop]; omega
  | oversized complete read enough large => simp only [List.length_drop]; omega
  | judged complete read sized enough bounded inside judgement =>
    have atLeast := Int32.le_iff_toInt_le.mp enough
    simp only [List.length_drop]
    omega

/-- Every outcome of a turn uses up at least the bytes of a header. -/
theorem turn_pays {config : FrameConfig} {pending rest : Bytes} {outcome : FrameOutcome}
    (looked : config.scanner.scan pending = .ok (.emit outcome rest)) :
    config.header.length + rest.length ≤ pending.length := by
  rcases first_or_absent config.header pending with ⟨start, first⟩ | absent
  · -- Every outcome costs at least the header that it began with.
    have decided := Cut.of_cut first.begins ((turn_first first).symm.trans looked)
    have paid := decided.emit_pays first.begins
    simp only [List.length_drop] at paid
    omega
  · have waited := (turn_absent absent).symm.trans looked
    cases waited

/-- A waiting turn never lengthens the buffer. -/
theorem turn_waits {config : FrameConfig} {pending rest : Bytes}
    (looked : config.scanner.scan pending = .ok (.wait rest)) : rest.length ≤ pending.length := by
  rcases first_or_absent config.header pending with ⟨start, first⟩ | absent
  · have decided := Cut.of_cut first.begins ((turn_first first).symm.trans looked)
    rw [decided.wait_eq, List.length_drop]
    omega
  · -- Without a header only its longest possible start is kept.
    have waited := (turn_absent absent).symm.trans looked
    cases waited
    rw [List.length_drop]
    omega

/-- What a waiting turn keeps is settled. -/
theorem turn_settles {config : FrameConfig} (inRange : config.InRange) {pending rest : Bytes}
    (looked : config.scanner.scan pending = .ok (.wait rest)) : config.Settled rest := by
  have limits := config.sizes
  rcases first_or_absent config.header pending with ⟨start, first⟩ | absent
  · -- With a header in the buffer, the kept bytes begin with it.
    have decided := Cut.of_cut first.begins ((turn_first first).symm.trans looked)
    obtain rfl := decided.wait_eq
    exact ⟨Or.inr first.begins, decided.wait_bounded inRange.length⟩
  · -- Without one, too few bytes are kept to hold a header.
    have waited := (turn_absent absent).symm.trans looked
    cases waited
    have short : (pending.drop (spent config.header pending)).length < config.header.length := by
      rw [List.length_drop, spent]
      omega
    refine ⟨Or.inl ⟨short, ?_⟩, by omega⟩
    intro position occurs
    have inside := occurs.length_le config.header_nonempty
    omega

end FrameConfig

/-- Every outcome adds one frame or one error. -/
theorem FrameParseResult.ofOutcomes_length (outcomes : List FrameOutcome) :
    (ofOutcomes outcomes).frames.length + (ofOutcomes outcomes).errors.length =
      outcomes.length := by
  induction outcomes with
  | nil => rfl
  | cons outcome outcomes ih =>
    simp only [ofOutcomes] at ih ⊢
    -- Every outcome is a frame or an error and never both.
    cases outcome with
    | frame bytes =>
      simp only [List.filterMap_cons, FrameOutcome.frame?, FrameOutcome.error?, List.length_cons]
      omega
    | error reason =>
      simp only [List.filterMap_cons, FrameOutcome.frame?, FrameOutcome.error?, List.length_cons]
      omega

/-- Taking in bytes never makes the buffer longer than the old and the new bytes together. -/
theorem FrameConfig.refill_not_longer (config : FrameConfig) (pending bytes : Bytes) :
    (config.refill pending bytes).length ≤ (pending ++ bytes).length := by
  unfold refill
  split
  · rw [Bytes.takeLast, List.length_drop]
    omega
  · exact le_rfl

namespace SerialFrameParser

/--
The parsing loop ends without an exception and leaves settled bytes.

It pays the bytes of a header for each frame or error it adds.
The derivation of the loop has one rule for each turn.
So the loop itself ends, and not only a bounded form of it.
-/
theorem offerDetailed_bounded (parser : SerialFrameParser) (inRange : parser.config.InRange)
    (bytes : Bytes) :
    ∃ next outcomes,
      parser.offerDetailed bytes = .ok (next, FrameParseResult.ofOutcomes outcomes) ∧
      parser.config.scanner.Drains (parser.config.refill parser.pending bytes) outcomes
        next.pending ∧
      ((FrameParseResult.ofOutcomes outcomes).frames.length +
          (FrameParseResult.ofOutcomes outcomes).errors.length) * parser.config.header.length +
        next.pending.length ≤ (parser.pending ++ bytes).length ∧
      parser.config.Settled next.pending := by
  -- No turn fails, so the loop ends, and its last turn waits.
  obtain ⟨⟨outcomes, rest⟩, drained⟩ := Scanner.drain_total (FrameConfig.turn_total inRange)
    (parser.config.refill parser.pending bytes)
  have loop := Scanner.drains_iff.mpr drained
  obtain ⟨looked, waited⟩ := loop.last
  have paid := loop.pays FrameConfig.turn_waits FrameConfig.turn_pays
  have taken := parser.config.refill_not_longer parser.pending bytes
  refine ⟨{ parser with
      pending := rest
      lastErrors := (FrameParseResult.ofOutcomes outcomes).errors },
    outcomes, ?_, loop, ?_, FrameConfig.turn_settles inRange waited⟩
  · rw [offerDetailed, drained]
    rfl
  · rw [FrameParseResult.ofOutcomes_length]
    exact paid.trans taken

/-- A call with noise, an oversized frame and half of another, offered behind pending noise. -/
theorem offerDetailed_bounded_half :
    ∃ next outcomes,
      offerDetailed
        { config := { header := [0x55, 0xAA], lengthOffset := 2 }, pending := [0x07, 0x55] }
        [0xAA, 0xFF, 0x55, 0xAA, 0x02] = .ok (next, FrameParseResult.ofOutcomes outcomes) ∧
      Scanner.Drains (FrameConfig.scanner { header := [0x55, 0xAA], lengthOffset := 2 })
        (FrameConfig.refill { header := [0x55, 0xAA], lengthOffset := 2 } [0x07, 0x55]
          [0xAA, 0xFF, 0x55, 0xAA, 0x02]) outcomes next.pending ∧
      ((FrameParseResult.ofOutcomes outcomes).frames.length +
          (FrameParseResult.ofOutcomes outcomes).errors.length) * 2 + next.pending.length ≤ 7 ∧
      FrameConfig.Settled { header := [0x55, 0xAA], lengthOffset := 2 } next.pending := by
  -- Half a header is pending, and the chunk ends within a second frame.
  have inRange : FrameConfig.InRange { header := [0x55, 0xAA], lengthOffset := 2 } :=
    ⟨by decide, fun offset none => by cases none⟩
  exact offerDetailed_bounded
    { config := { header := [0x55, 0xAA], lengthOffset := 2 }, pending := [0x07, 0x55] } inRange
    [0xAA, 0xFF, 0x55, 0xAA, 0x02]

end SerialFrameParser

end SerialPort
