import SerialPort.Frame.Coalesced

/-! Skipping a rejected header, and the headers that may be lost with it. -/

namespace SerialPort

open Scanning Occurrence

namespace FrameConfig

/-- The frames that one call on a fresh parser returns. -/
def framesOf (config : FrameConfig) (bytes : Bytes) : Except Fault (List Bytes) :=
  ((SerialFrameParser.fresh config).offer bytes).map Prod.snd

/-- Skipping the header of a rejected buffer is as good as skipping its first byte. -/
structure SkipsNothing (config : FrameConfig) (rejected later : Bytes) : Prop where
  /-- The frames returned are those that the first byte does not take part in. -/
  same : config.framesOf (rejected ++ later) = config.framesOf (rejected.drop 1 ++ later)
  /-- Every later header that starts in the rejected buffer is still there after the turn. -/
  kept : ∀ position, 0 < position → position < rejected.length →
    At config.header (rejected ++ later) position → ∀ outcome rest,
      config.turn (rejected ++ later) = .ok (.emit outcome rest) →
        (rejected ++ later).length ≤ position + rest.length

/-- Between two starts with no header in between, turns are the same, or find nothing. -/
theorem turn_drop_eq {config : FrameConfig} {text : Bytes} {low high : Nat} (ordered : low ≤ high)
    (between : ∀ position, low ≤ position → position < high → ¬At config.header text position) :
    config.turn (text.drop low) = config.turn (text.drop high) ∨
      ∃ one other, config.turn (text.drop low) = .ok (.wait one) ∧
        config.turn (text.drop high) = .ok (.wait other) := by
  rcases first_or_absent config.header (text.drop high) with ⟨start, first⟩ | absent
  · -- The first header behind the later start is the first one behind the earlier start, too.
    refine Or.inl ?_
    have earlier : First config.header (text.drop low) (high - low + start) := by
      refine ⟨?_, fun position before occurs => ?_⟩
      · rw [at_drop, show low + (high - low + start) = high + start by omega]
        exact at_drop.mp first.1
      · rw [at_drop] at occurs
        by_cases inside : low + position < high
        · exact between _ (by omega) inside occurs
        · refine first.2 (low + position - high) (by omega) (at_drop.mpr ?_)
          rwa [show high + (low + position - high) = low + position by omega]
    rw [turn_first first, turn_first earlier, List.drop_drop, List.drop_drop,
      show low + (high - low + start) = high + start by omega]
  · -- Without a header behind the later start there is none behind the earlier start either.
    refine Or.inr ⟨_, _, turn_absent fun position occurs => ?_, turn_absent absent⟩
    rw [at_drop] at occurs
    by_cases inside : low + position < high
    · exact between _ (by omega) inside occurs
    · refine absent (low + position - high) (at_drop.mpr ?_)
      rwa [show high + (low + position - high) = low + position by omega]

/-- The frames of one call are those that the loop collects. -/
theorem framesOf_eq {config : FrameConfig} {bytes : Bytes}
    (fits : (bytes.length : Int) ≤ config.maximumBufferSize.toInt) :
    config.framesOf bytes =
      (config.scanner.drain bytes).map fun drained => drained.1.filterMap FrameOutcome.frame? := by
  have kept : config.refill [] bytes = bytes := by
    rw [refill, List.nil_append, if_neg (Int.not_lt.mpr fits)]
  simp only [framesOf, SerialFrameParser.offer, SerialFrameParser.offerDetailed,
    SerialFrameParser.fresh, kept]
  cases config.scanner.drain bytes <;> rfl

/-- A header that is refused for its length is skipped, and nothing else. -/
theorem refused_rest {config : FrameConfig} {pending rest : Bytes} {reason : FrameParseError}
    (begins : config.header <+: pending)
    (refused : config.turn pending = .ok (.emit (.error reason) rest))
    (length : reason = .invalidLength ∨ reason = .oversized) :
    rest = pending.drop config.header.length := by
  rw [turn_first (first_zero begins), List.drop_zero] at refused
  have cut := Cut.of_cut begins refused
  generalize verdictIs : (Verdict.emit (.error reason) rest : Verdict UInt8 FrameOutcome) = verdict
    at cut
  cases cut with
  | short missing => cases verdictIs
  | incomplete complete read enough bounded missing => cases verdictIs
  | invalid complete read small => exact (Verdict.emit.inj verdictIs).2
  | oversized complete read enough large => exact (Verdict.emit.inj verdictIs).2
  | judged complete read sized enough bounded inside judgement =>
    -- Judging a frame finds no fault with its length.
    obtain ⟨rfl, -⟩ := Verdict.emit.inj verdictIs
    have other := judge_ne_length judgement
    rcases length with rfl | rfl
    · exact absurd rfl other.1
    · exact absurd rfl other.2

/--
Resynchronisation: skipping a header that is refused for its length loses nothing, exactly if the
header does not occur again at a position inside the skipped bytes.
-/
theorem skipsNothing_iff {config : FrameConfig} {rejected later rest : Bytes}
    {reason : FrameParseError} (begins : config.header <+: rejected)
    (refused : config.turn rejected = .ok (.emit (.error reason) rest))
    (length : reason = .invalidLength ∨ reason = .oversized)
    (untrimmed : ((rejected ++ later).length : Int) ≤ config.maximumBufferSize.toInt) :
    config.SkipsNothing rejected later ↔
      ∀ position, 0 < position → position < config.header.length →
        ¬At config.header (rejected ++ later) position := by
  have fits := List.IsPrefix.length_le begins
  have positive := config.sizes.1
  obtain rfl := refused_rest begins refused length
  -- Bytes behind the rejected buffer do not change what is decided about it.
  have turned : config.turn (rejected ++ later) =
      .ok (.emit (.error reason) ((rejected ++ later).drop config.header.length)) := by
    rw [List.drop_append_of_le_length fits]
    exact config.scanner_stable.emit_append refused later
  constructor
  · intro skips position after inside occurs
    have kept := skips.kept position after (by omega) occurs _ _ turned
    rw [List.length_drop, List.length_append] at kept
    omega
  · intro unbordered
    refine ⟨?_, fun position after inside occurs outcome rest looked => ?_⟩
    · have shorter :
          ((rejected.drop 1 ++ later).length : Int) ≤ config.maximumBufferSize.toInt := by
        rw [List.length_append, List.length_drop]
        rw [List.length_append] at untrimmed
        omega
      rw [framesOf_eq untrimmed, framesOf_eq shorter, Scanner.drain_emit turned,
        ← List.drop_append_of_le_length (by omega)]
      have same : (config.scanner.drain ((rejected ++ later).drop 1)).map
          (fun drained => drained.1.filterMap FrameOutcome.frame?) =
            (config.scanner.drain ((rejected ++ later).drop config.header.length)).map
              fun drained => drained.1.filterMap FrameOutcome.frame? := by
        rcases turn_drop_eq positive unbordered with equal | ⟨one, other, first, second⟩
        · exact congrArg _ (Scanner.drain_congr equal)
        · rw [Scanner.drain_wait first, Scanner.drain_wait second]
          rfl
      rw [same]
      cases config.scanner.drain ((rejected ++ later).drop config.header.length) <;> rfl
    · have behind : config.header.length ≤ position := by
        by_contra early
        exact unbordered position after (by omega) occurs
      rw [turned, Except.ok.injEq, Verdict.emit.injEq] at looked
      rw [← looked.2, List.length_drop, List.length_append]
      omega

/-- A header without a border cannot occur again inside its own first occurrence. -/
theorem not_at_of_unbordered {config : FrameConfig} {text : Bytes}
    (unbordered : ∀ shift < config.header.length, 0 < shift →
      ¬config.header.drop shift <+: config.header)
    (begins : config.header <+: text) {position : Nat} (after : 0 < position)
    (inside : position < config.header.length) : ¬At config.header text position := by
  -- Both occurrences overlap in what would be a border.
  intro occurs
  obtain ⟨rest, rfl⟩ := begins
  rw [At, List.drop_append_of_le_length (by omega)] at occurs
  exact unbordered position inside after
    (List.prefix_of_prefix_length_le (List.prefix_append ..) occurs
      (by rw [List.length_drop]; omega))

/-- A header AA AA behind another AA: the frame that starts one byte later is lost. -/
theorem skipsNothing_fails_bordered :
    let config : FrameConfig :=
      { header := [0xAA, 0xAA], lengthOffset := 2, maximumFrameSize := 100 }
    config.turn [0xAA, 0xAA, 0xAA] = .ok (.emit (.error .oversized) [0xAA]) ∧
      config.framesOf [0xAA, 0xAA, 0xAA, 0x02, 0x01, 0x02] = .ok [] ∧
      config.framesOf [0xAA, 0xAA, 0x02, 0x01, 0x02] = .ok [[0xAA, 0xAA, 0x02, 0x01, 0x02]] ∧
      ¬config.SkipsNothing [0xAA, 0xAA, 0xAA] [0x02, 0x01, 0x02] := by
  intro config
  have lost : config.framesOf [0xAA, 0xAA, 0xAA, 0x02, 0x01, 0x02] = .ok [] := by decide +kernel
  have found : config.framesOf [0xAA, 0xAA, 0x02, 0x01, 0x02] =
      .ok [[0xAA, 0xAA, 0x02, 0x01, 0x02]] := by decide +kernel
  refine ⟨by decide +kernel, lost, found, fun skips => ?_⟩
  -- Skipping nothing would find the frame that begins inside the refused header.
  have same : config.framesOf [0xAA, 0xAA, 0xAA, 0x02, 0x01, 0x02] =
      config.framesOf [0xAA, 0xAA, 0x02, 0x01, 0x02] := skips.same
  rw [lost, found] at same
  cases same

/-- With the header 55 AA nothing is lost. -/
theorem skipsNothing_unbordered :
    let config : FrameConfig :=
      { header := [0x55, 0xAA], lengthOffset := 2, maximumFrameSize := 100 }
    config.SkipsNothing [0x55, 0xAA, 0xFF] [0x55, 0xAA, 0x01, 0x02] := by
  intro config
  have refused : config.turn [0x55, 0xAA, 0xFF] = .ok (.emit (.error .oversized) [0xFF]) := by
    decide +kernel
  -- 55 AA has no border, so no header begins inside a refused one.
  exact (skipsNothing_iff (by decide) refused (Or.inr rfl) (by decide)).mpr
    fun position after inside => not_at_of_unbordered (by decide) (by decide) after inside

end FrameConfig

end SerialPort
