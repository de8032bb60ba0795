import Mathlib.Data.List.Basic

/-! Incremental scanners: reading one buffer to its end, and reading it in pieces. -/

namespace Scanning

/-- What one look at the buffer decides. -/
inductive Verdict (α β : Type*) where
  /-- Nothing more can be decided, and only the rest of the buffer is kept. -/
  | wait (rest : List α)
  /-- One output is decided, and scanning goes on in the rest of the buffer. -/
  | emit (output : β) (rest : List α)
  deriving DecidableEq

/-- A scanner looks at a buffer of symbols, and every output it decides uses some of them up. -/
structure Scanner (α β ε : Type*) where
  /-- The look at the buffer, which may fail. -/
  scan : List α → Except ε (Verdict α β)
  /-- An output leaves a strictly shorter buffer. -/
  shrinks : ∀ {buffer rest : List α} {output : β},
    scan buffer = .ok (.emit output rest) → rest.length < buffer.length

namespace Scanner

variable {α β ε : Type*}

/-- Scans until the scanner waits, for at most the given number of looks. -/
def drainWithin (scanner : Scanner α β ε) : Nat → List α → Except ε (List β × List α)
  | 0, buffer => .ok ([], buffer)
  | looks + 1, buffer =>
    match scanner.scan buffer with
    | .error failure => .error failure
    | .ok (.wait rest) => .ok ([], rest)
    | .ok (.emit output rest) =>
      (drainWithin scanner looks rest).map fun drained => (output :: drained.1, drained.2)

/-- Scans the buffer until the scanner waits, collecting the outputs in order. -/
def drain (scanner : Scanner α β ε) (buffer : List α) : Except ε (List β × List α) :=
  -- Every look but the last shortens the buffer, so its length bounds their number.
  drainWithin scanner (buffer.length + 1) buffer

/-- Any number of looks above the length of the buffer gives the same result. -/
theorem drainWithin_eq (scanner : Scanner α β ε) {looks more : Nat} {buffer : List α}
    (enough : buffer.length < looks) (alsoEnough : buffer.length < more) :
    drainWithin scanner looks buffer = drainWithin scanner more buffer := by
  -- Both runs take the same look, and an output leaves a buffer that is still covered.
  induction looks generalizing more buffer with
  | zero => omega
  | succ looks ih =>
    obtain ⟨more, rfl⟩ : ∃ fewer, more = fewer + 1 := ⟨more - 1, by omega⟩
    simp only [drainWithin]
    cases looked : scanner.scan buffer with
    | error failure => rfl
    | ok verdict =>
      cases verdict with
      | wait rest => rfl
      | emit output rest =>
        have shorter := scanner.shrinks looked
        have same : drainWithin scanner looks rest = drainWithin scanner more rest :=
          ih (by omega) (by omega)
        simp only [same]

/-- Draining is the loop that looks, collects an output, and starts over on the rest. -/
theorem drain_eq (scanner : Scanner α β ε) (buffer : List α) :
    scanner.drain buffer =
      match scanner.scan buffer with
      | .error failure => .error failure
      | .ok (.wait rest) => .ok ([], rest)
      | .ok (.emit output rest) =>
        (scanner.drain rest).map fun drained => (output :: drained.1, drained.2) := by
  -- The bound on the number of looks never shows, since outputs shorten the buffer.
  rw [drain, drainWithin]
  cases looked : scanner.scan buffer with
  | error failure => rfl
  | ok verdict =>
    cases verdict with
    | wait rest => rfl
    | emit output rest =>
      have shorter := scanner.shrinks looked
      simp only [drain]
      rw [drainWithin_eq scanner shorter (Nat.lt_succ_self rest.length)]

/-- Buffers that look the same are drained alike. -/
theorem drain_congr {scanner : Scanner α β ε} {one other : List α}
    (same : scanner.scan one = scanner.scan other) : scanner.drain one = scanner.drain other := by
  rw [drain_eq, same, ← drain_eq]

/-- A waiting look ends the loop. -/
theorem drain_wait {scanner : Scanner α β ε} {buffer rest : List α}
    (looked : scanner.scan buffer = .ok (.wait rest)) : scanner.drain buffer = .ok ([], rest) := by
  rw [drain_eq, looked]

/-- An output is the head of what the loop collects. -/
theorem drain_emit {scanner : Scanner α β ε} {buffer rest : List α} {output : β}
    (looked : scanner.scan buffer = .ok (.emit output rest)) :
    scanner.drain buffer =
      (scanner.drain rest).map fun drained => (output :: drained.1, drained.2) := by
  rw [drain_eq, looked]

/-- Every output of the loop was decided by a look at a buffer no longer than the first. -/
theorem drain_mem {scanner : Scanner α β ε} {buffer rest : List α} {outputs : List β} {output : β}
    (drained : scanner.drain buffer = .ok (outputs, rest)) (member : output ∈ outputs) :
    ∃ looked left, looked.length ≤ buffer.length ∧
      scanner.scan looked = .ok (.emit output left) := by
  -- The induction is on the length of the buffer, which every output shortens.
  induction size : buffer.length using Nat.strongRecOn generalizing buffer outputs with
  | _ length ih =>
    cases looked : scanner.scan buffer with
    | error failure =>
      rw [drain_eq, looked] at drained
      cases drained
    | ok verdict =>
      cases verdict with
      | wait kept =>
        rw [drain_wait looked, Except.ok.injEq, Prod.mk.injEq] at drained
        obtain ⟨rfl, -⟩ := drained
        cases member
      | emit first kept =>
        have shorter := scanner.shrinks looked
        rw [drain_emit looked] at drained
        cases tail : scanner.drain kept with
        | error failure => rw [tail] at drained; cases drained
        | ok done =>
          rw [tail] at drained
          simp only [Except.map, Except.ok.injEq, Prod.mk.injEq] at drained
          obtain ⟨rfl, rfl⟩ := drained
          rcases List.mem_cons.mp member with rfl | later
          · exact ⟨buffer, kept, by omega, looked⟩
          · obtain ⟨seen, left, fits, decided⟩ := ih kept.length (by omega) tail later rfl
            exact ⟨seen, left, by omega, decided⟩

/-- A scanner none of whose looks fails can drain every buffer. -/
theorem drain_total {scanner : Scanner α β ε}
    (total : ∀ buffer, ∃ verdict, scanner.scan buffer = .ok verdict) (buffer : List α) :
    ∃ drained, scanner.drain buffer = .ok drained := by
  -- The induction is on the length of the buffer, which every output shortens.
  induction size : buffer.length using Nat.strongRecOn generalizing buffer with
  | _ length ih =>
    obtain ⟨verdict, looked⟩ := total buffer
    cases verdict with
    | wait rest => exact ⟨_, drain_wait looked⟩
    | emit output rest =>
      have shorter := scanner.shrinks looked
      obtain ⟨drained, tail⟩ := ih rest.length (by omega) rest rfl
      exact ⟨_, by rw [drain_emit looked, tail]; rfl⟩

/-- The loop as a derivation, without any bound on the looks: it ends where the scanner waits. -/
inductive Drains (scanner : Scanner α β ε) : List α → List β → List α → Prop where
  /-- A waiting look ends the loop. -/
  | wait {buffer rest : List α} (looked : scanner.scan buffer = .ok (.wait rest)) :
      Drains scanner buffer [] rest
  /-- An output is collected, and the loop goes on in the rest of the buffer. -/
  | emit {buffer kept rest : List α} {output : β} {outputs : List β}
      (looked : scanner.scan buffer = .ok (.emit output kept))
      (goesOn : Drains scanner kept outputs rest) :
      Drains scanner buffer (output :: outputs) rest

/-- Draining finds the derivation of the loop, and there is no other. -/
theorem drains_iff {scanner : Scanner α β ε} {buffer rest : List α} {outputs : List β} :
    scanner.Drains buffer outputs rest ↔ scanner.drain buffer = .ok (outputs, rest) := by
  constructor
  · -- The induction is on the derivation, one look for each of its rules.
    intro loop
    induction loop with
    | wait looked => exact drain_wait looked
    | emit looked goesOn ih => rw [drain_emit looked, ih]; rfl
  · -- The induction is on the length of the buffer, which every output shortens.
    intro drained
    induction size : buffer.length using Nat.strongRecOn generalizing buffer outputs with
    | _ length ih =>
      cases looked : scanner.scan buffer with
      | error failure =>
        rw [drain_eq, looked] at drained
        cases drained
      | ok verdict =>
        cases verdict with
        | wait kept =>
          rw [drain_wait looked, Except.ok.injEq, Prod.mk.injEq] at drained
          obtain ⟨rfl, rfl⟩ := drained
          exact .wait looked
        | emit output kept =>
          have shorter := scanner.shrinks looked
          rw [drain_emit looked] at drained
          cases tail : scanner.drain kept with
          | error failure => rw [tail] at drained; cases drained
          | ok done =>
            rw [tail] at drained
            simp only [Except.map, Except.ok.injEq, Prod.mk.injEq] at drained
            obtain ⟨rfl, rfl⟩ := drained
            exact .emit looked (ih kept.length (by omega) tail rfl)

/-- The loop leaves what its last look waited with. -/
theorem Drains.last {scanner : Scanner α β ε} {buffer rest : List α} {outputs : List β}
    (loop : scanner.Drains buffer outputs rest) :
    ∃ looked, scanner.scan looked = .ok (.wait rest) := by
  induction loop with
  | wait looked => exact ⟨_, looked⟩
  | emit looked goesOn ih => exact ih

/-- Where every output uses up a fixed number of symbols, the buffer pays for all the outputs. -/
theorem Drains.pays {scanner : Scanner α β ε} {cost : Nat}
    (waits : ∀ {buffer rest : List α}, scanner.scan buffer = .ok (.wait rest) →
      rest.length ≤ buffer.length)
    (emits : ∀ {buffer rest : List α} {output : β},
      scanner.scan buffer = .ok (.emit output rest) → cost + rest.length ≤ buffer.length)
    {buffer rest : List α} {outputs : List β} (loop : scanner.Drains buffer outputs rest) :
    outputs.length * cost + rest.length ≤ buffer.length := by
  -- Each rule of the derivation pays for its own output, and the rest pays for the others.
  induction loop with
  | wait looked => simpa using waits looked
  | emit looked goesOn ih =>
    have paid := emits looked
    rw [List.length_cons, Nat.succ_mul]
    omega

/-- What is left when scanning ends after at most the given number of looks, or fails before. -/
def remainderWithin (scanner : Scanner α β ε) (abandon : List α → List α) : Nat → List α → List α
  | 0, buffer => buffer
  | looks + 1, buffer =>
    match scanner.scan buffer with
    | .error _ => abandon buffer
    | .ok (.wait rest) => rest
    | .ok (.emit _ rest) => remainderWithin scanner abandon looks rest

/-- The buffer left when scanning ends, where a failing look leaves what it abandons. -/
def remainder (scanner : Scanner α β ε) (abandon : List α → List α) (buffer : List α) : List α :=
  remainderWithin scanner abandon (buffer.length + 1) buffer

/-- A scanner that only ever drops symbols from the front leaves a suffix of its buffer. -/
theorem remainder_suffix {scanner : Scanner α β ε} {abandon : List α → List α}
    (abandons : ∀ buffer, abandon buffer <:+ buffer)
    (waits : ∀ {buffer rest : List α}, scanner.scan buffer = .ok (.wait rest) → rest <:+ buffer)
    (emits : ∀ {buffer rest : List α} {output : β},
      scanner.scan buffer = .ok (.emit output rest) → rest <:+ buffer) (buffer : List α) :
    scanner.remainder abandon buffer <:+ buffer := by
  -- Suffixes of suffixes are suffixes, for any number of looks.
  have within :
      ∀ looks (buffer : List α), remainderWithin scanner abandon looks buffer <:+ buffer := by
    intro looks
    induction looks with
    | zero => exact fun buffer => List.suffix_rfl
    | succ looks ih =>
      intro buffer
      rw [remainderWithin]
      cases looked : scanner.scan buffer with
      | error failure => exact abandons buffer
      | ok verdict =>
        cases verdict with
        | wait rest => exact waits looked
        | emit output rest => exact (ih rest).trans (emits looked)
  exact within (buffer.length + 1) buffer

/-- What a scanner decides is not changed by symbols that arrive later. -/
structure Stable (scanner : Scanner α β ε) : Prop where
  /-- A decided output stays decided, and the later symbols follow the rest. -/
  emit_append :
    ∀ {buffer rest : List α} {output : β}, scanner.scan buffer = .ok (.emit output rest) →
    ∀ later, scanner.scan (buffer ++ later) = .ok (.emit output (rest ++ later))
  /-- What a waiting look throws away makes no difference to any later look. -/
  wait_append : ∀ {buffer rest : List α}, scanner.scan buffer = .ok (.wait rest) →
    ∀ later, scanner.scan (buffer ++ later) = scanner.scan (rest ++ later)

/-- Draining a buffer and then its rest with the later symbols is draining everything at once. -/
theorem Stable.drain_append {scanner : Scanner α β ε} (stable : Stable scanner)
    {buffer rest : List α} {outputs : List β} (drained : scanner.drain buffer = .ok (outputs, rest))
    (later : List α) :
    scanner.drain (buffer ++ later) =
      (scanner.drain (rest ++ later)).map fun more => (outputs ++ more.1, more.2) := by
  -- Outputs are repeated one by one, and the final wait hands over to the later symbols.
  induction size : buffer.length using Nat.strongRecOn
    generalizing buffer outputs with
  | _ length ih =>
    cases looked : scanner.scan buffer with
    | error failure =>
      rw [drain_eq, looked] at drained
      cases drained
    | ok verdict =>
      cases verdict with
      | wait kept =>
        rw [drain_wait looked, Except.ok.injEq, Prod.mk.injEq] at drained
        obtain ⟨rfl, rfl⟩ := drained
        rw [drain_eq, stable.wait_append looked later, ← drain_eq]
        cases scanner.drain (kept ++ later) <;> rfl
      | emit output kept =>
        have shorter := scanner.shrinks looked
        rw [drain_emit looked] at drained
        cases tail : scanner.drain kept with
        | error failure => rw [tail] at drained; cases drained
        | ok done =>
          rw [tail] at drained
          obtain ⟨rfl, rfl⟩ : output :: done.1 = outputs ∧ done.2 = rest := by
            simpa [Except.map] using drained
          rw [drain_emit (stable.emit_append looked later), ih kept.length (by omega) tail rfl]
          cases scanner.drain (done.2 ++ later) <;> rfl

/-- Offers the pieces one after another, each behind what the scanner kept so far. -/
def feed (scanner : Scanner α β ε) : List α → List (List α) → Except ε (List β × List α)
  | kept, [] => .ok ([], kept)
  | kept, piece :: pieces =>
    match scanner.drain (kept ++ piece) with
    | .error failure => .error failure
    | .ok (outputs, rest) =>
      (feed scanner rest pieces).map fun more => (outputs ++ more.1, more.2)

/-- Pieces offered after a drained buffer continue it as if all had been there at once. -/
theorem Stable.feed_after {scanner : Scanner α β ε} (stable : Stable scanner)
    (total : ∀ buffer, ∃ verdict, scanner.scan buffer = .ok verdict)
    {buffer kept : List α} {outputs : List β} (drained : scanner.drain buffer = .ok (outputs, kept))
    (pieces : List (List α)) :
    (feed scanner kept pieces).map (fun more => (outputs ++ more.1, more.2)) =
      scanner.drain (buffer ++ pieces.flatten) := by
  -- Each piece extends the drained buffer, so the induction carries the outputs along.
  induction pieces generalizing buffer kept outputs with
  | nil => simpa [feed, Except.map] using drained.symm
  | cons piece pieces ih =>
    obtain ⟨⟨more, rest⟩, next⟩ := drain_total total (kept ++ piece)
    have extended : scanner.drain (buffer ++ piece) = .ok (outputs ++ more, rest) := by
      rw [stable.drain_append drained piece, next]
      rfl
    rw [List.flatten_cons, ← List.append_assoc, ← ih extended, feed, next]
    simp only [List.append_assoc]
    cases feed scanner rest pieces <;> rfl

/-- However a stream is cut, a stable scanner reads it as it reads the whole stream at once. -/
theorem Stable.feed_eq_drain {scanner : Scanner α β ε} (stable : Stable scanner)
    (total : ∀ buffer, ∃ verdict, scanner.scan buffer = .ok verdict)
    (idle : scanner.scan [] = .ok (.wait [])) (pieces : List (List α)) :
    feed scanner [] pieces = scanner.drain pieces.flatten := by
  -- An empty buffer is drained with no output, and the pieces follow it.
  have whole := stable.feed_after total (drain_wait idle) pieces
  rw [List.nil_append] at whole
  rw [← whole]
  cases feed scanner [] pieces <;> rfl

end Scanner

end Scanning
