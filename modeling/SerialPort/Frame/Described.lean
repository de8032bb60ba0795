import SerialPort.Frame.Coalesced

/-! Frames that hold their own length field, and the configurations under which all frames do. -/

namespace SerialPort

open Scanning Occurrence

namespace Bytes

/-- A byte that was read lies within the array. -/
theorem get_ok {bytes : Bytes} {index : Int32} {byte : UInt8} (read : bytes.get index = .ok byte) :
    0 ≤ index.toInt ∧ index.toInt < bytes.length := by
  have clamped := Int32.toNat_toInt index
  unfold get at read
  split at read
  · cases read
  · -- The index is not negative, and a byte is there.
    rename_i nonneg
    rw [Int32.lt_iff_toInt_lt, Int32.toInt_zero] at nonneg
    split at read
    · rename_i found
      have inside := (List.getElem?_eq_some_iff.mp found).1
      omega
    · cases read

/-- A length field that was read lies within the array, even if its end were to wrap. -/
theorem readUnsigned_holds {bytes : Bytes} {offset size declared : Int32} {order : ByteOrder}
    (nonneg : 0 ≤ offset.toInt) (positive : 0 < size.toInt)
    (read : bytes.readUnsigned offset size order = .ok declared) :
    offset.toInt + size.toInt ≤ bytes.length := by
  have clamped := Int32.toNat_toInt size
  obtain ⟨last, isLast⟩ : ∃ last, size.toNatClampNeg = last + 1 :=
    ⟨size.toNatClampNeg - 1, by omega⟩
  -- Its last byte was read, at an index that was not negative.
  have general : ∀ combine : Int32 → Nat → UInt8 → Int32,
      (List.range (last + 1)).foldlM (fun result index => do
        let byte ← bytes.get (offset + Int32.ofNat index)
        return combine result index byte) 0 = (.ok declared : Except Fault Int32) →
      ∃ byte, bytes.get (offset + Int32.ofNat last) = .ok byte := by
    intro combine folded
    rw [List.range_succ, List.foldlM_append] at folded
    obtain ⟨before, -, folded⟩ := bind_ok folded
    rw [List.foldlM_cons] at folded
    obtain ⟨after, folded, -⟩ := bind_ok folded
    obtain ⟨byte, got, -⟩ := bind_ok folded
    exact ⟨byte, got⟩
  have got : ∃ byte, bytes.get (offset + Int32.ofNat last) = .ok byte := by
    cases order with
    | bigEndian =>
      rw [readUnsigned, isLast] at read
      exact general (fun result _ byte => (result <<< 8) ||| unsigned byte) read
    | littleEndian =>
      rw [readUnsigned, isLast] at read
      exact general (fun result index byte =>
        result ||| (unsigned byte <<< (Int32.ofNat index * 8))) read
  obtain ⟨byte, got⟩ := got
  obtain ⟨low, high⟩ := get_ok got
  have value : (Int32.ofNat last).toInt = last :=
    toInt_ofNat_of_fits (by have below := Int32.toInt_lt size; omega)
  rw [Int32.toInt_add, value, Int.bmod_def] at low high
  have below := Int32.toInt_lt offset
  have narrow := Int32.toInt_lt size
  omega

end Bytes

namespace FrameConfig

/-- A frame that holds its whole length field, from which alone its size follows. -/
structure SelfDescribing (config : FrameConfig) (frame : Bytes) : Prop where
  holds : config.HoldsLength frame
  determines : config.declaredSize frame = frame.length

/-- Bytes up to the end of the length field declare, and pass as, a frame ending before that. -/
structure Truncates (config : FrameConfig) (bytes : Bytes) : Prop where
  exact_ : (bytes.length : Int) = config.lengthOffset.toInt + config.lengthSize.toInt
  buffered : (bytes.length : Int) ≤ config.maximumBufferSize.toInt
  begins : config.header <+: bytes
  enough : config.minimumFrameSize.toInt ≤ config.declaredSize bytes
  bounded : (config.declaredSize bytes : Int) ≤ config.maximumFrameSize.toInt
  early : config.declaredSize bytes < bytes.length
  passes : config.passes (bytes.take (config.declaredSize bytes)) = true

/-- A minimum size that covers the length field leaves no room for such bytes. -/
theorem not_truncates_of_minimum {config : FrameConfig}
    (covers : config.lengthOffset.toInt + config.lengthSize.toInt ≤ config.minimumFrameSize.toInt)
    (bytes : Bytes) : ¬config.Truncates bytes := by
  intro truncates
  have exact_ := truncates.exact_
  have enough := truncates.enough
  have early := truncates.early
  omega

/-- Neither does a length field within the header or right behind it, if both are counted on top. -/
theorem not_truncates_of_adjacent {config : FrameConfig}
    (excludes : config.lengthIncludesHeader = false)
    (adjacent : config.lengthOffset.toInt ≤ config.header.length)
    (bytes : Bytes) : ¬config.Truncates bytes := by
  intro truncates
  -- A length field inside or right behind the header ends before the frame can.
  have exact_ := truncates.exact_
  have early := truncates.early
  have width := Int32.toNat_toInt config.lengthSize
  rw [declaredSize, excludes] at early
  simp only [Bool.false_eq_true, if_false] at early
  omega

/-- The declared size depends only on the bytes up to the end of the field. -/
theorem declaredSize_take {config : FrameConfig} {pending : Bytes} {count : Nat}
    (covers : config.lengthOffset.toInt + config.lengthSize.toInt ≤ count) :
    config.declaredSize (pending.take count) = config.declaredSize pending := by
  have offset := Int32.toNat_toInt config.lengthOffset
  have width := Int32.toNat_toInt config.lengthSize
  obtain ⟨nonneg, positive, -⟩ := config.lengths
  -- The cut bytes still have the whole length field.
  have field : ((pending.take count).drop config.lengthOffset.toNatClampNeg).take
      config.lengthSize.toNatClampNeg =
        (pending.drop config.lengthOffset.toNatClampNeg).take config.lengthSize.toNatClampNeg := by
    rw [List.drop_take, List.take_take, Nat.min_eq_left (by omega)]
  rw [declaredSize, declaredSize, declaredLength, declaredLength, field]

end FrameConfig

namespace SerialFrameParser

open FrameConfig

/-- A returned frame was cut from the front of some buffer that began with the header. -/
theorem returned_cut {parser : SerialFrameParser} {chunks : List Bytes} {frame : Bytes}
    (member : frame ∈ returned (parser.calls chunks).2) :
    ∃ pending rest, parser.config.header <+: pending ∧
      (pending.length : Int) ≤ parser.config.maximumBufferSize.toInt ∧
      Cut parser.config pending (.emit (.frame frame) rest) := by
  -- The induction is on the calls; the frame was returned by the first one or by a later one.
  induction chunks generalizing parser with
  | nil => cases member
  | cons chunk chunks ih =>
    rw [returned_calls_cons] at member
    rcases List.mem_append.mp member with here | later
    · cases drained : parser.config.scanner.drain (parser.config.refill parser.pending chunk) with
      | error fault =>
        rw [call_failed drained] at here
        cases here
      | ok done =>
        rw [call_done drained] at here
        obtain ⟨outcome, decided, isFrame⟩ : ∃ outcome ∈ done.1, outcome.frame? = some frame := by
          simpa [returned, FrameParseResult.ofOutcomes] using here
        obtain ⟨looked, left, shorter, turned⟩ := Scanner.drain_mem drained decided
        have limit := parser.config.refill_length_le parser.pending chunk
        cases outcome with
        | error reason => cases isFrame
        | frame accepted =>
          obtain rfl : accepted = frame := Option.some.inj isFrame
          rcases first_or_absent parser.config.header looked with ⟨start, first⟩ | absent
          · refine ⟨looked.drop start, left, first.begins, ?_, ?_⟩
            · rw [List.length_drop]
              omega
            · exact Cut.of_cut first.begins ((turn_first first).symm.trans turned)
          · cases (turn_absent absent).symm.trans turned
    · obtain ⟨pending, rest, begins, buffered, cut⟩ := ih later
      rw [call_config] at begins buffered cut
      exact ⟨pending, rest, begins, buffered, cut⟩

/-- A buffer that is too short for a length field is kept. -/
theorem turn_short {config : FrameConfig} {pending : Bytes}
    (missing : (pending.length : Int) < (config.lengthOffset + config.lengthSize).toInt) :
    ∃ rest, config.turn pending = .ok (.wait rest) := by
  -- So is its suffix from the first header on.
  rcases first_or_absent config.header pending with ⟨start, first⟩ | absent
  · have shorter : ((pending.drop start).length : Int) <
        (config.lengthOffset + config.lengthSize).toInt := by
      rw [List.length_drop]
      omega
    exact ⟨_, (turn_first first).trans ((Cut.short shorter).cut_eq first.begins)⟩
  · exact ⟨_, turn_absent absent⟩

/-- A frame cut from a buffer has the size that the buffer's length field stands for. -/
theorem cut_declaredSize {config : FrameConfig} (narrow : config.lengthSize ≤ 3)
    {pending frame rest : Bytes}
    (buffered : (pending.length : Int) ≤ config.maximumBufferSize.toInt)
    (cut : Cut config pending (.emit (.frame frame) rest)) :
    config.HoldsLength pending ∧ config.declaredSize pending ≤ pending.length ∧
      frame = pending.take (config.declaredSize pending) ∧
      config.minimumFrameSize.toInt ≤ config.declaredSize pending ∧
      (config.declaredSize pending : Int) ≤ config.maximumFrameSize.toInt ∧
      config.passes frame = true := by
  have limits := config.sizes
  have largest := Int32.toInt_lt config.maximumBufferSize
  obtain ⟨nonneg, positive, -⟩ := config.lengths
  have bound := @declaredSize_lt config 3 (Int32.le_iff_toInt_le.mp narrow) pending
  generalize verdictIs :
    (Verdict.emit (.frame frame) rest : Verdict UInt8 FrameOutcome) = verdict at cut
  cases cut with
  | short missing => cases verdictIs
  | incomplete complete read enough bounded missing => cases verdictIs
  | invalid complete read small => cases verdictIs
  | oversized complete read enough large => cases verdictIs
  | @judged declared size outcome complete read sized enough bounded inside judgement =>
    obtain ⟨rfl, -⟩ := Verdict.emit.inj verdictIs
    obtain ⟨rfl, passed⟩ := judge_frame judgement
    have holds : config.HoldsLength pending :=
      Bytes.readUnsigned_holds nonneg (by omega) read
    -- Three bytes are too few for a size that wraps to one that is not negative.
    rw [readUnsigned_eq_declared holds (by omega), Except.ok.injEq] at read
    subst read
    have atLeast := Int32.le_iff_toInt_le.mp enough
    have atMost := Int32.le_iff_toInt_le.mp bounded
    rw [frameSize_eq_bmod] at sized atLeast atMost
    have small : (config.declaredSize pending : Int) < 2 ^ 32 := by omega
    have unwrapped : config.declaredSize pending = size := by
      clear bound
      rw [Int.bmod_def] at sized
      omega
    rw [sized] at atLeast atMost
    rw [unwrapped]
    exact ⟨holds, inside, rfl, atLeast, atMost, passed⟩

/-- Offered alone, truncating bytes are returned as a frame up to the size they declare. -/
theorem returned_of_truncates {config : FrameConfig} {bytes : Bytes}
    (truncates : config.Truncates bytes) :
    bytes.take (config.declaredSize bytes) ∈ returned ((fresh config).calls [bytes]).2 := by
  obtain ⟨exact_, buffered, begins, enough, bounded, early, passes⟩ := truncates
  have limits := config.sizes
  have largest := Int32.toInt_lt config.maximumBufferSize
  have holds : config.HoldsLength bytes := by rw [HoldsLength, exact_]
  have unwrapped : (config.declaredSize bytes : Int) =
      (config.declaredSize bytes : Int).bmod (2 ^ 32) := by
    rw [Int.bmod_def]
    omega
  -- The first turn cuts the frame, and behind it too few bytes are left for another one.
  have first : config.scanner.scan bytes =
      .ok (.emit (.frame (bytes.take (config.declaredSize bytes)))
        (bytes.drop (config.declaredSize bytes))) := by
    show config.turn bytes = _
    rw [turn_eq_size begins holds (by omega) unwrapped, if_neg (by omega), if_neg (by omega),
      if_neg (by omega), Int.toNat_natCast, judge_of_passes passes]
    rfl
  have field := @fieldEnd_toInt config (by omega)
  have left : ((bytes.drop (config.declaredSize bytes)).length : Int) <
      (config.lengthOffset + config.lengthSize).toInt := by
    rw [List.length_drop, field]
    omega
  obtain ⟨rest, waits⟩ := turn_short left
  have kept : config.refill [] bytes = bytes := by
    rw [refill, List.nil_append, if_neg (by omega)]
  have drained : config.scanner.drain (config.refill [] bytes) =
      .ok ([.frame (bytes.take (config.declaredSize bytes))], rest) := by
    rw [kept, Scanner.drain_emit first, Scanner.drain_wait waits]
    rfl
  rw [returned_calls_cons, call_done (show (fresh config).config.scanner.drain _ = _ from drained)]
  simp [returned, FrameParseResult.ofOutcomes, FrameOutcome.frame?]

/--
Self-description: every returned frame holds its length field, and its size follows from it.

This is so for whatever is offered in whatever pieces, exactly if no bytes up to the end of a length
field pass as a frame that ends before.
-/
theorem selfDescribing_iff {config : FrameConfig} (narrow : config.lengthSize ≤ 3) :
    (∀ chunks, ∀ frame ∈ returned ((fresh config).calls chunks).2, config.SelfDescribing frame) ↔
      ∀ bytes, ¬config.Truncates bytes := by
  constructor
  · intro described bytes truncates
    -- Offered alone, the bytes are returned as a frame that ends before its length field does.
    have returned_ := returned_of_truncates truncates
    have length : (bytes.take (config.declaredSize bytes)).length = config.declaredSize bytes := by
      have early := truncates.early
      rw [List.length_take]
      omega
    have holds := (described [bytes] _ returned_).holds
    have exact_ := truncates.exact_
    have early := truncates.early
    rw [HoldsLength, length] at holds
    omega
  · intro covered chunks frame member
    obtain ⟨pending, rest, begins, buffered, cut⟩ := returned_cut member
    simp only [fresh] at begins buffered cut
    obtain ⟨holds, inside, rfl, enough, bounded, passes⟩ := cut_declaredSize narrow buffered cut
    have limits := config.sizes
    obtain ⟨nonneg, positive, -⟩ := config.lengths
    unfold HoldsLength at holds
    obtain ⟨stop, isStop⟩ := Int.eq_ofNat_of_zero_le
      (a := config.lengthOffset.toInt + config.lengthSize.toInt) (by omega)
    have length : (pending.take (config.declaredSize pending)).length =
        config.declaredSize pending := by
      rw [List.length_take]
      omega
    by_cases early : config.declaredSize pending < stop
    · -- The bytes up to the end of the field would be such as there are none.
      refine absurd ?_ (covered (pending.take stop))
      have same : config.declaredSize (pending.take stop) = config.declaredSize pending :=
        declaredSize_take (by omega)
      have stopLength : (pending.take stop).length = stop := by
        rw [List.length_take]
        omega
      have front : (pending.take stop).take (config.declaredSize pending) =
          pending.take (config.declaredSize pending) := by
        rw [List.take_take, Nat.min_eq_left (by omega)]
      refine ⟨by omega, by omega, ?_, by omega, by omega, by omega,
        by rw [same, front]; exact passes⟩
      exact List.prefix_of_prefix_length_le begins (List.take_prefix ..) (by omega)
    · have same : config.declaredSize (pending.take (config.declaredSize pending)) =
          config.declaredSize pending := declaredSize_take (by omega)
      exact ⟨by rw [HoldsLength, length]; omega, by rw [same, length]⟩

/-- A length that counts the header may be too small for it: the frame ends before the field. -/
theorem selfDescribing_fails_included :
    let config : FrameConfig :=
      { header := [0x55], lengthOffset := 1, lengthIncludesHeader := true }
    [0x55] ∈ returned ((fresh config).calls [[0x55, 1]]).2 ∧ ¬config.SelfDescribing [0x55] := by
  intro config
  refine ⟨by decide +kernel, fun described => ?_⟩
  exact absurd described.holds (by unfold HoldsLength; decide)

/-- With a minimum size that covers the length field, nothing is cut before it. -/
theorem selfDescribing_covered :
    let config : FrameConfig :=
      { header := [0x55], lengthOffset := 1, lengthIncludesHeader := true, minimumFrameSize := 2 }
    ∀ chunks, ∀ frame ∈ returned ((fresh config).calls chunks).2, config.SelfDescribing frame := by
  intro config
  exact (selfDescribing_iff (by decide)).mpr fun bytes => not_truncates_of_minimum (by decide) bytes

end SerialFrameParser

end SerialPort
