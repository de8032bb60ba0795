import SerialPort.Frame.Length
import SerialPort.Library.Excerpt

/-! Calls that may fail, and what every frame they return is and where it comes from. -/

namespace SerialPort

open Scanning Occurrence Excerpts

namespace FrameConfig

/-- The buffer that a failing turn leaves behind: the assignments made before the exception stay. -/
def abandoned (config : FrameConfig) (pending : Bytes) : Bytes :=
  let start := pending.indexOfHeader config.header
  let pending : Bytes := if start > 0 then pending.drop start.toNat else pending
  match pending.readUnsigned config.lengthOffset config.lengthSize config.lengthByteOrder with
  | .error _ => pending
  -- The frame is cut off before it is judged.
  | .ok declared => pending.drop (config.frameSize declared).toNatClampNeg

end FrameConfig

namespace SerialFrameParser

/-- One call as the parser object performs it: a failing one returns nothing but leaves its mark. -/
def call (parser : SerialFrameParser) (bytes : Bytes) :
    SerialFrameParser × Except Fault FrameParseResult :=
  match parser.offerDetailed bytes with
  | .ok (parser, result) => (parser, .ok result)
  | .error fault =>
    let buffer := parser.config.refill parser.pending bytes
    let pending := parser.config.scanner.remainder parser.config.abandoned buffer
    ({ parser with pending := pending }, .error fault)

/-- Successive calls, with what each of them returned or threw. -/
def calls (parser : SerialFrameParser) :
    List Bytes → SerialFrameParser × List (Except Fault FrameParseResult)
  | [] => (parser, [])
  | chunk :: chunks =>
    let called := parser.call chunk
    let more := called.1.calls chunks
    (more.1, called.2 :: more.2)

/-- The frames of the calls that returned, in order. -/
def returned (results : List (Except Fault FrameParseResult)) : List Bytes :=
  results.flatMap fun
    | .ok result => result.frames
    | .error _ => []

end SerialFrameParser

namespace Bytes

/-- A copy that was made lies within the array. -/
theorem copyOfRange_ok {bytes copied : Bytes} {fromIndex toIndex : Int}
    (done : bytes.copyOfRange fromIndex toIndex = .ok copied) :
    0 ≤ fromIndex ∧ fromIndex ≤ toIndex ∧ toIndex ≤ bytes.length ∧
      copied = bytes.slice fromIndex.toNat toIndex.toNat := by
  -- Each of the three checks would have thrown.
  unfold copyOfRange at done
  split at done
  · cases done
  · split at done
    · cases done
    · split at done
      · cases done
      · cases done
        refine ⟨by omega, by omega, by omega, rfl⟩

/-- A computation that returns has returned from its first part. -/
theorem bind_ok {α β : Type} {first : Except Fault α} {next : α → Except Fault β} {result : β}
    (done : first >>= next = .ok result) :
    ∃ value, first = .ok value ∧ next value = .ok result := by
  cases first with
  | error fault => cases done
  | ok value => exact ⟨value, rfl, done⟩

/-- The place of a checksum: the configured offset, or else the end of the frame. -/
def IsChecksumPlace (frame : Bytes) (offset : Option Int32) (position width : Nat) : Prop :=
  match offset with
  | some offset => (position : Int) = offset.toInt
  | none => position + width = frame.length

/-- The bytes at a place are the checksum of all the others. -/
def CarriesAt (frame : Bytes) (checksum : Checksum) (position width : Nat) : Prop :=
  position + width ≤ frame.length ∧
    checksum (frame.take position ++ frame.drop (position + width)) =
      frame.slice position (position + width)

/-- A checksum test that passes has found the checksum at its place. -/
theorem hasChecksumAt_carries {frame : Bytes} {checksum : Checksum} {size : Int32}
    {offset : Option Int32} (small : frame.length < 2 ^ 31) (nonneg : 0 ≤ size.toInt)
    (passed : frame.hasChecksumAt checksum size offset = .ok true) :
    ∃ position, frame.IsChecksumPlace offset position size.toNatClampNeg ∧
      frame.CarriesAt checksum position size.toNatClampNeg := by
  have width := Int32.toNat_toInt size
  unfold hasChecksumAt at passed
  by_cases guard : size = 0 ∨ (frame.length : Int) < size.toInt
  · rw [if_pos guard] at passed
    cases passed
  rw [if_neg guard] at passed
  simp only [not_or] at guard
  have positive : 0 < size.toInt := by
    rcases Int.lt_or_eq_of_le nonneg with positive | zero
    · exact positive
    · exact absurd (Int32.toInt_inj.mp (zero.symm.trans Int32.toInt_zero.symm)) guard.1
  obtain ⟨place, placed⟩ : ∃ place, place = offset.getD (Int32.ofNat frame.length - size) :=
    ⟨_, rfl⟩
  simp only [← placed] at passed
  by_cases outside : place < 0 ∨ (frame.length : Int) < (place + size).toInt
  · rw [if_pos outside] at passed
    cases passed
  rw [if_neg outside] at passed
  simp only [not_or] at outside
  have start : 0 ≤ place.toInt := by
    have notBelow := outside.1
    rw [Int32.lt_iff_toInt_lt, Int32.toInt_zero] at notBelow
    omega
  -- All three copies were made, so not even a wrapped end lies outside the frame.
  obtain ⟨front, copiedFront, passed⟩ := bind_ok passed
  obtain ⟨back, copiedBack, passed⟩ := bind_ok passed
  obtain ⟨stored, copiedStored, passed⟩ := bind_ok passed
  obtain ⟨-, -, frontInside, rfl⟩ := copyOfRange_ok copiedFront
  obtain ⟨backStart, backInside, -, rfl⟩ := copyOfRange_ok copiedBack
  obtain ⟨-, storedOrdered, -, rfl⟩ := copyOfRange_ok copiedStored
  have stop : (place + size).toInt = place.toInt + size.toInt := by
    rw [Int32.toInt_add, Int.bmod_def] at backStart ⊢
    have above := Int32.toInt_lt size
    omega
  have first := Int32.toNat_toInt place
  have last : (place + size).toInt.toNat = place.toNatClampNeg + size.toNatClampNeg := by omega
  have same : checksum (frame.take place.toNatClampNeg ++
      frame.drop (place.toNatClampNeg + size.toNatClampNeg)) =
        frame.slice place.toNatClampNeg (place.toNatClampNeg + size.toNatClampNeg) := by
    have equal := eq_of_beq (Except.ok.inj passed)
    rwa [last, first, Int.toNat_natCast, slice_to_end] at equal
  refine ⟨place.toNatClampNeg, ?_, by omega, same⟩
  unfold IsChecksumPlace
  cases offset with
  | some offset =>
    rw [Option.getD_some] at placed
    subst placed
    simp only
    omega
  | none =>
    have length : (Int32.ofNat frame.length).toInt = frame.length := toInt_ofNat_of_fits small
    have difference : place.toInt = frame.length - size.toInt := by
      rw [placed, Option.getD_none, Int32.toInt_sub, length]
      exact Int.bmod_eq_of_le (by omega) (by omega)
    simp only
    omega

end Bytes

namespace FrameConfig

/-- What is true of every frame that the parser returns. -/
structure Sound (config : FrameConfig) (frame : Bytes) : Prop where
  begins : config.header <+: frame
  enough : config.minimumFrameSize.toInt ≤ frame.length
  bounded : (frame.length : Int) ≤ config.maximumFrameSize.toInt
  ends : config.footer <:+ frame
  /-- The checksum stands at the configured place, or else in the last bytes. -/
  vouched : ∀ checksum ∈ config.checksum, ∃ position,
    frame.IsChecksumPlace config.checksumOffset position config.checksumSize.toNatClampNeg ∧
      frame.CarriesAt checksum position config.checksumSize.toNatClampNeg

/-- What is kept when a header is abandoned are the last of the bytes. -/
theorem abandoned_suffix (config : FrameConfig) (pending : Bytes) :
    config.abandoned pending <:+ pending := by
  -- At most two parts are dropped from its front.
  have noise : (if pending.indexOfHeader config.header > 0 then
      pending.drop (pending.indexOfHeader config.header).toNat else pending) <:+ pending := by
    split
    · exact List.drop_suffix ..
    · exact List.suffix_rfl
  unfold abandoned
  dsimp only
  split
  · exact noise
  · exact (List.drop_suffix ..).trans noise

/-- A frame of a size within the limits that begins with the header and is accepted is sound. -/
theorem Sound.of_judge {config : FrameConfig} {frame accepted : Bytes}
    (begins : config.header <+: frame) (enough : config.minimumFrameSize.toInt ≤ frame.length)
    (bounded : (frame.length : Int) ≤ config.maximumFrameSize.toInt)
    (judgement : config.judge frame = .ok (.frame accepted)) :
    accepted = frame ∧ config.Sound frame := by
  obtain ⟨rfl, passed⟩ := judge_frame judgement
  have limits := config.sizes
  have width := Int32.le_iff_toInt_le.mp config.checksumSize_valid
  rw [Int32.toInt_zero] at width
  simp only [passes, Bool.and_eq_true] at passed
  refine ⟨rfl, begins, enough, bounded, ?_, ?_⟩
  · -- The last bytes of the frame are a suffix of it, and they are the footer.
    have footer := passed.1
    unfold footerMatches at footer
    rcases Bool.or_eq_true _ _ ▸ footer with empty | equal
    · rw [List.isEmpty_iff.mp empty]
      exact List.nil_suffix
    · rw [← eq_of_beq equal]
      exact List.drop_suffix ..
  · intro checksum configured
    have tested := passed.2
    unfold checksumPasses checksumMatches at tested
    rw [Option.mem_def.mp configured] at tested
    simp only at tested
    split at tested
    · rename_i passed_ found
      rw [tested] at found
      exact Bytes.hasChecksumAt_carries (by omega) width found
    · cases tested

/-- Where an outcome's bytes were taken from the buffer. -/
theorem turn_emit {config : FrameConfig} {pending rest : Bytes} {outcome : FrameOutcome}
    (looked : config.turn pending = .ok (.emit outcome rest)) :
    ∃ start size, start + size ≤ pending.length ∧ rest = pending.drop (start + size) ∧
      ∀ frame, outcome = .frame frame →
        frame = (pending.drop start).take size ∧ config.Sound frame := by
  rcases first_or_absent config.header pending with ⟨start, first⟩ | absent
  · rw [turn_first first] at looked
    have inside := first.1.length_le config.header_nonempty
    have fits := List.IsPrefix.length_le first.begins
    rw [List.length_drop] at fits
    have decided := Cut.of_cut first.begins looked
    generalize verdictIs :
      (Verdict.emit outcome rest : Verdict UInt8 FrameOutcome) = verdict at decided
    cases decided with
    | short missing => cases verdictIs
    | incomplete complete read enough bounded missing => cases verdictIs
    | invalid complete read small =>
      obtain ⟨rfl, rfl⟩ := Verdict.emit.inj verdictIs
      refine ⟨start, config.header.length, by omega, List.drop_drop, fun frame is_ => by cases is_⟩
    | oversized complete read enough large =>
      obtain ⟨rfl, rfl⟩ := Verdict.emit.inj verdictIs
      refine ⟨start, config.header.length, by omega, List.drop_drop, fun frame is_ => by cases is_⟩
    | @judged declared size judged complete read sized enough bounded within judgement =>
      obtain ⟨rfl, rfl⟩ := Verdict.emit.inj verdictIs
      rw [List.length_drop] at within
      refine ⟨start, size, by omega, List.drop_drop, fun frame is_ => ?_⟩
      subst is_
      -- The frame is at least as long as the header it begins with.
      have atLeast := Int32.le_iff_toInt_le.mp enough
      have atMost := Int32.le_iff_toInt_le.mp bounded
      have limits := config.sizes
      have length : ((pending.drop start).take size).length = size := by
        rw [List.length_take, List.length_drop]
        omega
      have begins : config.header <+: (pending.drop start).take size :=
        List.prefix_of_prefix_length_le first.begins (List.take_prefix ..) (by omega)
      obtain ⟨rfl, sound⟩ := Sound.of_judge begins (by omega) (by omega) judgement
      exact ⟨rfl, sound⟩
  · rw [turn_absent absent] at looked
    cases looked

/-- A waiting turn keeps a suffix of the buffer. -/
theorem turn_wait {config : FrameConfig} {pending rest : Bytes}
    (looked : config.turn pending = .ok (.wait rest)) : rest <:+ pending := by
  rcases first_or_absent config.header pending with ⟨start, first⟩ | absent
  · -- From the header on, everything waits.
    rw [turn_first first] at looked
    rw [(Cut.of_cut first.begins looked).wait_eq]
    exact List.drop_suffix ..
  · -- Without a header the end that may begin one waits.
    rw [turn_absent absent] at looked
    cases looked
    exact List.drop_suffix ..

/-- Draining takes its frames out of the buffer in order, and keeps what is behind them. -/
theorem drain_placed {config : FrameConfig} {input rest : Bytes} {outcomes : List FrameOutcome}
    {start : Nat} (within : start ≤ input.length)
    (drained : config.scanner.drain (input.drop start) = .ok (outcomes, rest)) :
    ∃ stop excerpts, start ≤ stop ∧ stop ≤ input.length ∧ rest = input.drop stop ∧
      excerpts.map Excerpt.piece = outcomes.filterMap FrameOutcome.frame? ∧
      Placed input excerpts ∧ Within start stop excerpts ∧
      ∀ excerpt ∈ excerpts, config.Sound excerpt.piece := by
  -- The induction is on what is left of the input, which every outcome shortens.
  induction size : input.length - start using Nat.strongRecOn generalizing start outcomes with
  | _ left ih =>
    cases looked : config.scanner.scan (input.drop start) with
    | error fault =>
      rw [Scanner.drain_eq, looked] at drained
      cases drained
    | ok verdict =>
      cases verdict with
      | wait kept =>
        rw [Scanner.drain_wait looked, Except.ok.injEq, Prod.mk.injEq] at drained
        obtain ⟨rfl, rfl⟩ := drained
        have suffix := turn_wait looked
        have length := suffix.length_le
        rw [List.length_drop] at length
        have kept_ : kept = input.drop (input.length - kept.length) :=
          List.suffix_iff_eq_drop.mp (suffix.trans (List.drop_suffix ..))
        exact ⟨input.length - kept.length, [], by omega, by omega, kept_, rfl, Placed.nil input,
          Within.nil _ _, by simp⟩
      | emit outcome kept =>
        obtain ⟨skipped, width, inside, rfl, sound⟩ := turn_emit looked
        have shorter := config.scanner.shrinks looked
        simp only [List.length_drop] at inside shorter
        rw [Scanner.drain_emit looked, List.drop_drop] at drained
        cases tail : config.scanner.drain (input.drop (start + (skipped + width))) with
        | error fault => rw [tail] at drained; cases drained
        | ok done =>
          obtain ⟨more, last⟩ := done
          rw [tail] at drained
          simp only [Except.map, Except.ok.injEq, Prod.mk.injEq] at drained
          obtain ⟨rfl, rfl⟩ := drained
          obtain ⟨stop, excerpts, after, stopInside, rest_, pieces, placed, between, allSound⟩ :=
            ih _ (by omega) (by omega) tail rfl
          cases outcome with
          | error reason =>
            exact ⟨stop, excerpts, by omega, stopInside, rest_, by simpa [FrameOutcome.frame?],
              placed, between.mono (by omega) le_rfl, allSound⟩
          | frame frame =>
            -- The frame's own place is behind the noise, and everything else comes after it.
            obtain ⟨cut, good⟩ := sound frame rfl
            have length : frame.length = width := by
              rw [cut, List.length_take, List.length_drop, List.length_drop]
              omega
            have stands : At frame input (start + skipped) := by
              rw [cut, List.drop_drop]
              exact List.take_prefix ..
            have here : Within start (start + (skipped + width)) [⟨start + skipped, frame⟩] := by
              simp only [Within, Excerpt.stop, List.mem_singleton, forall_eq, length]
              omega
            refine ⟨stop, ⟨start + skipped, frame⟩ :: excerpts, by omega, stopInside, rest_,
              ?_, ?_, ?_, ?_⟩
            · simpa [FrameOutcome.frame?] using pieces
            · exact (Placed.singleton stands).append placed here between
            · exact (here.mono le_rfl after).append (between.mono (by omega) le_rfl)
            · simpa using ⟨good, allSound⟩

/-- Whatever ends the loop, a suffix of the buffer is left. -/
theorem remainder_suffix (config : FrameConfig) (buffer : Bytes) :
    config.scanner.remainder config.abandoned buffer <:+ buffer := by
  refine Scanner.remainder_suffix config.abandoned_suffix turn_wait ?_ buffer
  intro pending rest outcome looked
  obtain ⟨skipped, size, -, rfl, -⟩ := turn_emit looked
  exact List.drop_suffix ..

end FrameConfig

namespace SerialFrameParser

/-- The buffer of a call is a suffix of the pending bytes and the new ones. -/
theorem refill_eq_drop (config : FrameConfig) (pending bytes : Bytes) :
    ∃ trimmed ≤ (pending ++ bytes).length,
      config.refill pending bytes = (pending ++ bytes).drop trimmed := by
  -- Trimming keeps the last bytes, and otherwise all of them are kept.
  unfold FrameConfig.refill
  split
  · exact ⟨_, Nat.sub_le .., rfl⟩
  · exact ⟨0, Nat.zero_le _, rfl⟩

/-- The frames of the first call come before those of the later ones. -/
theorem returned_calls_cons (parser : SerialFrameParser) (chunk : Bytes) (chunks : List Bytes) :
    returned (parser.calls (chunk :: chunks)).2 =
      returned [(parser.call chunk).2] ++ returned ((parser.call chunk).1.calls chunks).2 := by
  have results : (parser.calls (chunk :: chunks)).2 =
      [(parser.call chunk).2] ++ ((parser.call chunk).1.calls chunks).2 := rfl
  rw [results]
  exact List.flatMap_append

/-- A call whose loop ends returns what the loop collected. -/
theorem call_done {parser : SerialFrameParser} {bytes rest : Bytes} {outcomes : List FrameOutcome}
    (drained : parser.config.scanner.drain (parser.config.refill parser.pending bytes) =
      .ok (outcomes, rest)) :
    parser.call bytes =
      let result := FrameParseResult.ofOutcomes outcomes
      ({ parser with pending := rest, lastErrors := result.errors }, .ok result) := by
  simp only [call, offerDetailed, drained, Except.map]

/-- A call whose loop throws leaves behind what the loop had not used up. -/
theorem call_failed {parser : SerialFrameParser} {bytes : Bytes} {fault : Fault}
    (thrown : parser.config.scanner.drain (parser.config.refill parser.pending bytes) =
      .error fault) :
    parser.call bytes =
      let buffer := parser.config.refill parser.pending bytes
      let pending := parser.config.scanner.remainder parser.config.abandoned buffer
      ({ parser with pending := pending }, .error fault) := by
  simp only [call, offerDetailed, thrown, Except.map]

/-- A call leaves the configuration alone. -/
theorem call_config (parser : SerialFrameParser) (bytes : Bytes) :
    (parser.call bytes).1.config = parser.config := by
  cases drained : parser.config.scanner.drain (parser.config.refill parser.pending bytes) with
  | error fault => rw [call_failed drained]
  | ok done => rw [call_done drained]

/-- One call places its frames behind what was used up before, and keeps a suffix of the input. -/
theorem call_placed {parser : SerialFrameParser} {before : Bytes} {start : Nat}
    (within : start ≤ before.length) (held : parser.pending = before.drop start) (bytes : Bytes) :
    ∃ stop excerpts, start ≤ stop ∧ stop ≤ (before ++ bytes).length ∧
      (parser.call bytes).1.config = parser.config ∧
      (parser.call bytes).1.pending = (before ++ bytes).drop stop ∧
      excerpts.map Excerpt.piece = returned [(parser.call bytes).2] ∧
      Placed (before ++ bytes) excerpts ∧ Within start stop excerpts ∧
      ∀ excerpt ∈ excerpts, parser.config.Sound excerpt.piece := by
  obtain ⟨trimmed, inside, buffer⟩ := refill_eq_drop parser.config parser.pending bytes
  rw [held, ← List.drop_append_of_le_length within] at inside buffer
  rw [List.drop_drop] at buffer
  rw [List.length_drop] at inside
  have fits : start + trimmed ≤ (before ++ bytes).length := by
    rw [List.length_append] at inside ⊢
    omega
  cases drained : parser.config.scanner.drain ((before ++ bytes).drop (start + trimmed)) with
  | error fault =>
    -- A failing call returns nothing, and what it leaves behind is a suffix of its buffer.
    have suffix := FrameConfig.remainder_suffix parser.config
      ((before ++ bytes).drop (start + trimmed))
    have shorter := suffix.length_le
    rw [List.length_drop] at shorter
    have left := List.suffix_iff_eq_drop.mp (suffix.trans (List.drop_suffix ..))
    rw [← buffer] at drained
    rw [call_failed (held ▸ drained), held, buffer]
    exact ⟨_, [], by omega, Nat.sub_le .., rfl, left, rfl, Placed.nil _, Within.nil _ _, by simp⟩
  | ok done =>
    obtain ⟨outcomes, rest⟩ := done
    obtain ⟨stop, excerpts, after, stopInside, rfl, pieces, placed, between, sound⟩ :=
      FrameConfig.drain_placed fits drained
    rw [← buffer, ← held] at drained
    rw [call_done drained]
    refine ⟨stop, excerpts, by omega, stopInside, rfl, rfl, ?_, placed,
      between.mono (by omega) le_rfl, sound⟩
    simpa [returned, FrameParseResult.ofOutcomes] using pieces

/-- Successive calls from a parser that holds the end of what was offered before. -/
theorem calls_placed {parser : SerialFrameParser} {before : Bytes} {start : Nat}
    (within : start ≤ before.length) (held : parser.pending = before.drop start)
    (chunks : List Bytes) :
    ∃ excerpts : List (Excerpt UInt8),
      excerpts.map Excerpt.piece = returned (parser.calls chunks).2 ∧
      Placed (before ++ chunks.flatten) excerpts ∧
      Within start (before ++ chunks.flatten).length excerpts ∧
      (∀ earlier later, chunks = earlier ++ later →
        ∃ boundary, start ≤ boundary ∧ boundary ≤ (before ++ earlier.flatten).length ∧
          (parser.calls earlier).1.pending = (before ++ earlier.flatten).drop boundary ∧
          ∃ front back, excerpts = front ++ back ∧
            front.map Excerpt.piece = returned (parser.calls earlier).2 ∧
            Within start boundary front ∧
            Within boundary (before ++ chunks.flatten).length back) ∧
      ∀ excerpt ∈ excerpts, parser.config.Sound excerpt.piece := by
  -- The induction is on the calls, each of which moves the position up to which the input is used.
  induction chunks generalizing parser before start with
  | nil =>
    refine ⟨[], rfl, Placed.nil _, Within.nil _ _, fun earlier later parts => ?_, by simp⟩
    obtain ⟨rfl, rfl⟩ := List.append_eq_nil_iff.mp parts.symm
    exact ⟨start, le_rfl, by simpa using within, by simpa [calls] using held, [], [], rfl, rfl,
      Within.nil _ _, Within.nil _ _⟩
  | cons chunk chunks ih =>
    obtain ⟨stop, first, after, stopInside, sameConfig, kept, firstPieces, firstPlaced, firstWithin,
      firstSound⟩ := call_placed within held chunk
    obtain ⟨more, morePieces, morePlaced, moreWithin, moreSplit, moreSound⟩ := ih stopInside kept
    have total : before ++ (chunk :: chunks).flatten = before ++ chunk ++ chunks.flatten := by simp
    rw [total]
    have firstWithinAll : Within start (before ++ chunk ++ chunks.flatten).length first :=
      firstWithin.mono le_rfl (by rw [List.length_append]; omega)
    refine ⟨first ++ more, ?_, ?_, ?_, ?_, ?_⟩
    · rw [List.map_append, firstPieces, morePieces, returned_calls_cons]
    · exact (firstPlaced.later (firstWithin.mono (Nat.zero_le _) stopInside) _).append morePlaced
        firstWithin moreWithin
    · exact firstWithinAll.append (moreWithin.mono after le_rfl)
    · intro earlier later parts
      cases earlier with
      | nil =>
        refine ⟨start, le_rfl, by simpa using within, by simpa [calls] using held, [],
          first ++ more, rfl, rfl, Within.nil _ _,
          firstWithinAll.append (moreWithin.mono after le_rfl)⟩
      | cons head earlier =>
        obtain ⟨rfl, rfl⟩ := List.cons.inj parts
        obtain ⟨boundary, low, high, pending, front, back, rfl, frontPieces, frontWithin,
          backWithin⟩ := moreSplit earlier later rfl
        have part : before ++ (chunk :: earlier).flatten = before ++ chunk ++ earlier.flatten := by
          simp
        rw [part]
        refine ⟨boundary, by omega, high, pending, first ++ front, back, by rw [List.append_assoc],
          ?_, (firstWithin.mono le_rfl low).append (frontWithin.mono after le_rfl), backWithin⟩
        rw [List.map_append, firstPieces, frontPieces, returned_calls_cons]
    · intro excerpt member
      rcases List.mem_append.mp member with early | late
      · exact firstSound excerpt early
      · exact sameConfig ▸ moreSound excerpt late

/--
Soundness: over any calls with any chunks, the frames returned stand in the input in order.

Each begins, ends and is as large as the configuration says, and carries its checksum.
Between any two calls the pending bytes are the end of the input so far.
They stand behind all frames returned before, and not behind any frame returned later.
-/
theorem calls_sound (config : FrameConfig) (chunks : List Bytes) :
    ∃ excerpts : List (Excerpt UInt8),
      excerpts.map Excerpt.piece = returned ((fresh config).calls chunks).2 ∧
      Placed chunks.flatten excerpts ∧
      (∀ earlier later, chunks = earlier ++ later →
        ((fresh config).calls earlier).1.pending <:+ earlier.flatten ∧
        ∃ front back, excerpts = front ++ back ∧
          front.map Excerpt.piece = returned ((fresh config).calls earlier).2 ∧
          Within 0
            (earlier.flatten.length - ((fresh config).calls earlier).1.pending.length) front ∧
          Within (earlier.flatten.length - ((fresh config).calls earlier).1.pending.length)
            chunks.flatten.length back) ∧
      ∀ frame ∈ returned ((fresh config).calls chunks).2, config.Sound frame := by
  obtain ⟨excerpts, pieces, placed, -, boundaries, sound⟩ :=
    calls_placed (Nat.le_refl ([] : Bytes).length) (show (fresh config).pending = _ from rfl) chunks
  refine ⟨excerpts, pieces, by simpa using placed, fun earlier later parts => ?_, ?_⟩
  · obtain ⟨boundary, -, high, pending, front, back, split_, frontPieces, frontWithin,
        backWithin⟩ :=
      boundaries earlier later parts
    rw [List.nil_append] at high pending backWithin
    -- How far the calls have come is what they were given less what is still pending.
    have length : earlier.flatten.length - ((fresh config).calls earlier).1.pending.length =
        boundary := by
      rw [pending, List.length_drop]
      omega
    rw [length]
    refine ⟨?_, front, back, split_, frontPieces, frontWithin, backWithin⟩
    rw [pending]
    exact List.drop_suffix ..
  · intro frame member
    rw [← pieces] at member
    obtain ⟨excerpt, inside, rfl⟩ := List.mem_map.mp member
    exact sound excerpt inside

end SerialFrameParser

end SerialPort
