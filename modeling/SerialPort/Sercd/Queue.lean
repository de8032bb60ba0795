import SerialPort.Library.BoundedQueue
import SerialPort.Sercd.Outgoing

/-! A ring buffer is a bounded queue, in whatever order it is used. -/

namespace SerialPort.Sercd

/-- What the program does with a buffer. -/
inductive BufferCall where
  | addToBuffer (c : UInt8)
  | getFromBuffer
  -- `GetBufferString`, a write that takes so many bytes of it, and `BufferPopBytes` for these.
  | write (count : Nat)
  deriving DecidableEq

/-- A buffer, and the bytes that were added to it and removed from it. -/
structure Usage where
  buffer : BufferType
  added : Bytes := []
  removed : Bytes := []

namespace Usage

/-- One call, unless its assertion fails. -/
def step (usage : Usage) : BufferCall → Option Usage
  | .addToBuffer c =>
    match usage.buffer.addToBuffer c with
    | .ok buffer => some { usage with buffer := buffer, added := usage.added ++ [c] }
    | .error _ => none
  | .getFromBuffer =>
    let (c, buffer) := usage.buffer.getFromBuffer
    some { usage with buffer := buffer, removed := usage.removed ++ [c] }
  | .write count =>
    -- The write takes a first part of the string, or all of it.
    let data := usage.buffer.getBufferString.take count
    some { usage with
      buffer := usage.buffer.bufferPopBytes (UInt32.ofInt data.length)
      removed := usage.removed ++ data }

/-- A byte is only got from a buffer that is not empty. -/
def Allowed (usage : Usage) (call : BufferCall) : Prop :=
  call = .getFromBuffer → usage.buffer.isBufferEmpty = false

instance : ∀ usage call, Decidable (Allowed usage call) :=
  fun _ _ => inferInstanceAs (Decidable (_ → _))

/-- The queue that a buffer stands for. -/
def Stands (usage : Usage) (queue : BoundedQueue UInt8 (bufferSize - 1)) : Prop :=
  queue.accepted = usage.added ∧ queue.taken = usage.removed ∧
    queue.waiting = usage.buffer.contents

/-- Whether a buffer stands for any queue. -/
def Queues (usage : Usage) : Prop :=
  ∃ queue : BoundedQueue UInt8 (bufferSize - 1), usage.Stands queue

variable {usage next : Usage} {queue : BoundedQueue UInt8 (bufferSize - 1)}

/-- The assertion fails when the queue is full, and at no other time. -/
theorem Stands.full (stands : usage.Stands queue) (c : UInt8) :
    usage.step (.addToBuffer c) = none ↔ queue.waiting.length = bufferSize - 1 := by
  have whole := usage.buffer.room_add_length
  rw [stands.2.2, BufferType.contents_length]
  -- Room and content add up to the size less one, so no room is a full queue.
  by_cases room : 1 ≤ usage.buffer.bufferRoomLeft
  · rw [step, BufferType.addToBuffer_ok _ _ room]
    refine iff_of_false (by simp) (by omega)
  · rw [step, BufferType.addToBuffer_full _ _ (by omega)]
    exact iff_of_true rfl (by omega)

/-- Each call does to the queue what it does to the buffer. -/
theorem Stands.step {call : BufferCall} (stands : usage.Stands queue)
    (permitted : Allowed usage call) (stepped : usage.step call = some next) :
    next.Queues := by
  obtain ⟨accepted, taken, waiting⟩ := stands
  cases call with
  | addToBuffer c =>
    have room : 1 ≤ usage.buffer.bufferRoomLeft := by
      by_contra full
      rw [Usage.step, BufferType.addToBuffer_full _ _ (by omega)] at stepped
      cases stepped
    have whole := usage.buffer.room_add_length
    rw [Usage.step, BufferType.addToBuffer_ok _ _ room] at stepped
    cases stepped
    -- The room in the buffer is the room in the queue.
    refine ⟨queue.accept c ?_, congrArg (· ++ [c]) accepted, taken, ?_⟩
    · rw [waiting, BufferType.contents_length]
      omega
    · exact (congrArg (· ++ [c]) waiting).trans (BufferType.store_contents _ _ room).symm
  | getFromBuffer =>
    -- Without the guard the byte would be one that was removed long ago.
    have some_ : usage.buffer.contents ≠ [] := fun none_ => by
      have empty := permitted rfl
      rw [(BufferType.isEmpty_iff _).mpr none_] at empty
      cases empty
    obtain ⟨first, rest, whole⟩ := List.exists_cons_of_ne_nil some_
    obtain ⟨got, left⟩ := BufferType.getFromBuffer_contents _ whole
    cases stepped
    refine ⟨queue.take (waiting.trans whole), accepted, ?_, left.symm⟩
    change queue.taken ++ [first] = usage.removed ++ [usage.buffer.getFromBuffer.1]
    rw [taken, got]
  | write count =>
    -- A short write removes exactly what it has taken.
    have first := write_prefix usage.buffer count
    have rest := BufferType.popBytes_taken first
    cases stepped
    exact ⟨queue.takeAll (waiting.trans rest.symm), accepted, congrArg (· ++ _) taken, rfl⟩

/-- However a buffer is used, it is a queue of at most 2047 bytes: what was removed and what waits
is what was added, the assertion fails for a full queue and no other, and a write finds something
as long as anything waits. -/
theorem refines_queue {b : BufferType}
    (run : Transition.Run Usage.step Allowed { buffer := b.initBuffer } usage) :
    ∃ queue : BoundedQueue UInt8 (bufferSize - 1), usage.Stands queue ∧
      (∀ c, usage.step (.addToBuffer c) = none ↔ queue.waiting.length = bufferSize - 1) ∧
      (usage.buffer.getBufferString = [] ↔ queue.waiting = []) := by
  -- The invariant is that there is a queue: an empty one at first, and then what each call makes of
  -- it.
  have first : Queues { buffer := b.initBuffer } :=
    ⟨.empty, rfl, rfl, (BufferType.initBuffer_contents b).symm⟩
  have queues : usage.Queues := run.invariant first fun _ permitted stepped queues => by
    obtain ⟨queue, stands⟩ := queues
    exact stands.step permitted stepped
  obtain ⟨queue, stands⟩ := queues
  refine ⟨queue, stands, stands.full, ?_⟩
  rw [stands.2.2]
  exact BufferType.getBufferString_eq_nil _

/-- Two of three bytes are removed, one of them by a write. -/
theorem removed_refines_queue : ∃ usage : Usage, usage.removed = [1, 2] ∧
    ∃ queue : BoundedQueue UInt8 (bufferSize - 1), usage.Stands queue ∧
      (∀ c, usage.step (.addToBuffer c) = none ↔ queue.waiting.length = bufferSize - 1) ∧
      (usage.buffer.getBufferString = [] ↔ queue.waiting = []) := by
  obtain ⟨usage, run, test⟩ := Transition.Run.of_test (fun usage : Usage => usage.removed == [1, 2])
    (show (Transition.execute step Allowed { buffer := blankBuffer.initBuffer }
      [.addToBuffer 1, .addToBuffer 2, .write 1, .addToBuffer 3, .getFromBuffer]).any _ = true by
        decide +kernel)
  exact ⟨usage, beq_iff_eq.mp test, refines_queue run⟩

end Usage

end SerialPort.Sercd
