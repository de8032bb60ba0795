import SerialPort.Frame.Soundness

/-! Whole frames offered in one call, and what the limit of the buffer costs. -/

namespace SerialPort

open Scanning Occurrence Excerpts

namespace FrameConfig

/-- A frame that its length field describes and that passes both tests. -/
structure Valid (config : FrameConfig) (frame : Bytes) : Prop where
  sized : config.Sized frame
  passes : config.passes frame = true

/-- A frame that passes both tests is accepted. -/
theorem judge_of_passes {config : FrameConfig} {frame : Bytes}
    (passed : config.passes frame = true) :
    config.judge frame = .ok (.frame frame) := by
  -- It passes when both tests do, the footer's first.
  obtain ⟨footer, tested⟩ := Bool.and_eq_true _ _ ▸ passed
  rw [judge, if_pos footer]
  unfold checksumPasses at tested
  split at tested
  · rename_i found
    simp [found, tested, Bind.bind, Except.bind, Pure.pure, Except.pure]
  · cases tested

/-- The buffer's limit is at least that of a frame, which is at least the size of the header. -/
theorem bufferLimit (config : FrameConfig) :
    config.maximumFrameSize.toInt ≤ config.maximumBufferSize.toInt ∧
      (config.maximumBufferSize.toNatClampNeg : Int) = config.maximumBufferSize.toInt := by
  have limits := config.sizes
  have larger := Int32.le_iff_toInt_le.mp config.buffer_valid
  have clamped := Int32.toNat_toInt config.maximumBufferSize
  omega

/-- Whatever was held and whatever is offered, the buffer of a call respects the limit. -/
theorem refill_length_le (config : FrameConfig) (pending bytes : Bytes) :
    ((config.refill pending bytes).length : Int) ≤ config.maximumBufferSize.toInt := by
  -- Trimming keeps as many bytes as the limit says, and otherwise there were no more.
  obtain ⟨limit, clamped⟩ := config.bufferLimit
  rw [refill]
  split
  · rw [Bytes.takeLast, List.length_drop]
    omega
  · omega

/-- Draining sized frames one behind the other judges each of them once. -/
theorem drain_judged {config : FrameConfig} {judged : List (Bytes × FrameOutcome)}
    (sized : ∀ pair ∈ judged, config.Sized pair.1)
    (judgement : ∀ pair ∈ judged, config.judge pair.1 = .ok pair.2) :
    config.scanner.drain (judged.map Prod.fst).flatten = .ok (judged.map Prod.snd, []) := by
  -- Each frame costs one turn, and the other frames are the rest of the buffer.
  induction judged with
  | nil => exact Scanner.drain_wait config.turn_nil
  | cons pair judged ih =>
    have rest := ih (fun other member => sized other (List.mem_cons_of_mem _ member))
      (fun other member => judgement other (List.mem_cons_of_mem _ member))
    have quiet : config.Noise [] := first_zero List.prefix_rfl
    have looked := (sized pair List.mem_cons_self).turn quiet (judgement pair List.mem_cons_self)
      (judged.map Prod.fst).flatten
    rw [List.nil_append] at looked
    rw [List.map_cons, List.flatten_cons, Scanner.drain_emit looked, rest]
    rfl

end FrameConfig

namespace SerialFrameParser

/-- What one call on a fresh parser shows, from what the loop makes of its buffer. -/
theorem transcript_single {config : FrameConfig} {bytes rest : Bytes}
    {outcomes : List FrameOutcome}
    (drained : config.scanner.drain (config.refill [] bytes) = .ok (outcomes, rest)) :
    (fresh config).transcript [bytes] = .ok (FrameParseResult.ofOutcomes outcomes, rest) := by
  -- One chunk, so the transcript is the one call's result.
  have offered : (fresh config).offerDetailed bytes =
      .ok ({ fresh config with
          pending := rest
          lastErrors := (FrameParseResult.ofOutcomes outcomes).errors },
        FrameParseResult.ofOutcomes outcomes) := by
    simp only [offerDetailed, fresh, drained, Except.map]
  rw [transcript_cons offered]
  simp [transcript, offerAll, Except.map, FrameParseResult.append]

/-- Sized frames that fit the buffer together are each judged once, in order. -/
theorem transcript_judged {config : FrameConfig} {judged : List (Bytes × FrameOutcome)}
    (sized : ∀ pair ∈ judged, config.Sized pair.1)
    (judgement : ∀ pair ∈ judged, config.judge pair.1 = .ok pair.2)
    (fits : ((judged.map Prod.fst).flatten.length : Int) ≤ config.maximumBufferSize.toInt) :
    (fresh config).transcript [(judged.map Prod.fst).flatten] =
      .ok (FrameParseResult.ofOutcomes (judged.map Prod.snd), []) := by
  apply transcript_single
  rw [FrameConfig.refill, List.nil_append, if_neg (Int.not_lt.mpr fits)]
  exact FrameConfig.drain_judged sized judgement

/-- The frames of one call on a fresh parser are together no longer than the buffer. -/
theorem offerDetailed_length_le {config : FrameConfig} {bytes : Bytes} {result : FrameParseResult}
    (offered : ((fresh config).offerDetailed bytes).map Prod.snd = .ok result) :
    (result.frames.flatten.length : Int) ≤ config.maximumBufferSize.toInt := by
  -- They are disjoint slices of what was left of the bytes after trimming.
  have short := config.refill_length_le [] bytes
  obtain ⟨buffer, isBuffer⟩ : ∃ buffer, buffer = config.refill [] bytes := ⟨_, rfl⟩
  rw [← isBuffer] at short
  cases drained : config.scanner.drain (buffer.drop 0) with
  | error fault =>
    rw [List.drop_zero, isBuffer] at drained
    simp [offerDetailed, fresh, drained, Except.map] at offered
  | ok done =>
    obtain ⟨outcomes, rest⟩ := done
    obtain ⟨stop, excerpts, -, inside, -, pieces, placed, within, -⟩ :=
      FrameConfig.drain_placed (Nat.zero_le _) drained
    have sum := placed.sum_length_le within (by omega)
    rw [List.drop_zero, isBuffer] at drained
    simp only [offerDetailed, fresh, drained, Except.map, Except.ok.injEq] at offered
    have frames : result.frames = excerpts.map Excerpt.piece := by
      rw [pieces, ← offered]
      rfl
    rw [frames, List.length_flatten, List.map_map]
    simp only [Function.comp_def]
    omega

/--
Coalesced frames: one call takes valid frames that stand one behind the other.

It returns exactly these and no error, precisely when together they are no longer than the buffer.
-/
theorem offerDetailed_coalesced_iff {config : FrameConfig} {frames : List Bytes}
    (valid : ∀ frame ∈ frames, config.Valid frame) :
    ((fresh config).offerDetailed frames.flatten).map Prod.snd = .ok ⟨frames, []⟩ ↔
      (frames.flatten.length : Int) ≤ config.maximumBufferSize.toInt := by
  constructor
  · exact offerDetailed_length_le
  · intro fits
    -- Every frame is accepted, so the outcomes are the frames themselves.
    have drained : config.scanner.drain frames.flatten =
        .ok (frames.map FrameOutcome.frame, []) := by
      have judged : ∀ pair ∈ frames.map fun frame => (frame, FrameOutcome.frame frame),
          config.Sized pair.1 ∧ config.judge pair.1 = .ok pair.2 := by
        intro pair member
        obtain ⟨frame, inside, rfl⟩ := List.mem_map.mp member
        exact ⟨(valid frame inside).sized, FrameConfig.judge_of_passes (valid frame inside).passes⟩
      have all := FrameConfig.drain_judged (fun pair member => (judged pair member).1)
        (fun pair member => (judged pair member).2)
      simpa [Function.comp_def] using all
    have kept : config.refill [] frames.flatten = frames.flatten := by
      rw [FrameConfig.refill, List.nil_append, if_neg (Int.not_lt.mpr fits)]
    have results : FrameParseResult.ofOutcomes (frames.map FrameOutcome.frame) = ⟨frames, []⟩ := by
      simp [FrameParseResult.ofOutcomes, List.filterMap_map, Function.comp_def, FrameOutcome.frame?,
        FrameOutcome.error?]
    simp only [offerDetailed, fresh, kept, drained, Except.map, results]

/-- Three frames of three bytes exceed the default limit of two frames: the first is lost. -/
theorem offerDetailed_coalesced_fails_beyond_buffer :
    let config : FrameConfig := { header := [0x55], lengthOffset := 1, maximumFrameSize := 3 }
    let frames : List Bytes := [[0x55, 1, 0x0A], [0x55, 1, 0x0B], [0x55, 1, 0x0C]]
    (∀ frame ∈ frames, config.Valid frame) ∧
      ((fresh config).offerDetailed frames.flatten).map Prod.snd =
        .ok ⟨[[0x55, 1, 0x0B], [0x55, 1, 0x0C]], []⟩ ∧
      ((fresh config).offerDetailed frames.flatten).map Prod.snd ≠ .ok ⟨frames, []⟩ := by
  intro config frames
  -- The buffer keeps the last six of nine bytes, and the first frame is gone.
  refine ⟨fun frame member => ?_, by decide +kernel, by decide +kernel⟩
  simp only [frames, List.mem_cons, List.not_mem_nil, or_false] at member
  rcases member with rfl | rfl | rfl
  all_goals
    exact ⟨⟨by decide, by decide, ⟨1, by decide, by decide⟩, by decide, by decide⟩, by decide⟩

/-- Two of the frames fit. -/
theorem offerDetailed_coalesced_two :
    let config : FrameConfig := { header := [0x55], lengthOffset := 1, maximumFrameSize := 3 }
    ((fresh config).offerDetailed [0x55, 1, 0x0A, 0x55, 1, 0x0B]).map Prod.snd =
      .ok ⟨[[0x55, 1, 0x0A], [0x55, 1, 0x0B]], []⟩ := by
  intro config
  -- Two frames fill the buffer exactly.
  have valid : ∀ frame ∈ [[0x55, 1, 0x0A], [0x55, 1, 0x0B]], config.Valid frame := by
    intro frame member
    simp only [List.mem_cons, List.not_mem_nil, or_false] at member
    rcases member with rfl | rfl
    all_goals
      exact ⟨⟨by decide, by decide, ⟨1, by decide, by decide⟩, by decide, by decide⟩, by decide⟩
  exact (offerDetailed_coalesced_iff valid).mpr (by decide)

end SerialFrameParser
end SerialPort
