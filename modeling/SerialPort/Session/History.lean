import SerialPort.Session.Entries

/-! What a step never undoes: commands, results, and chunks stay, and nobody is uncancelled. -/

namespace SerialPort

/-- A command and its result stay what they are. -/
structure QueuedCommand.Evolves (before after : QueuedCommand) : Prop where
  command : after.command = before.command
  settled :
    before.result.isSome → after.result = before.result ∧ after.answeredBy = before.answeredBy

namespace QueuedCommand

variable {before after : QueuedCommand}

/-- What stays the same evolves. -/
theorem Evolves.refl : Evolves before before :=
  ⟨rfl, fun _ => ⟨rfl, rfl⟩⟩

/-- What evolves twice evolves. -/
theorem Evolves.trans {middle : QueuedCommand} (former : Evolves before middle)
    (latter : Evolves middle after) : Evolves before after where
  command := latter.command.trans former.command
  settled settled := by
    -- What was complete before is complete in the middle.
    obtain ⟨result, answeredBy⟩ := former.settled settled
    obtain ⟨result', answeredBy'⟩ := latter.settled (result ▸ settled)
    exact ⟨result'.trans result, answeredBy'.trans answeredBy⟩

/-- A result is one step of an entry's history. -/
theorem Evolves.complete (result : CommandResult) : Evolves before (before.complete result) := by
  unfold QueuedCommand.complete
  split
  · next waits =>
    refine ⟨rfl, fun complete => ?_⟩
    simp_all
  · exact .refl

/-- So is an answer. -/
theorem Evolves.answer (data : Bytes) (chunk : Nat) :
    Evolves before (before.answer data chunk) := by
  unfold QueuedCommand.answer
  split
  · next waits =>
    refine ⟨rfl, fun complete => ?_⟩
    simp_all
  · exact .refl

end QueuedCommand

namespace Session

/-- Every command of the one session is in the other, and has evolved. -/
def Evolves (session next : Session) : Prop :=
  ∀ (queued : Nat) (before : QueuedCommand), session.queue[queued]? = some before →
    ∃ after, next.queue[queued]? = some after ∧ QueuedCommand.Evolves before after

variable {session next : Session} {queued : Nat}

/-- An entry that moves evolves. -/
theorem EntryMoves.evolves {before after : QueuedCommand}
    (moved : EntryMoves session next queued before after) : QueuedCommand.Evolves before after := by
  cases moved with
  | reported found at_ => exact .complete _
  | failed found at_ => exact .complete _
  | timedOut timeout => exact .complete _
  | answered found at_ waits chunk => exact .answer _ _
  | _ => exact ⟨rfl, fun _ => ⟨rfl, rfl⟩⟩

namespace Evolves

theorem of_queue (queue : next.queue = session.queue) : Evolves session next := by
  intro queued before entered
  exact ⟨before, queue ▸ entered, .refl⟩

/-- Every step lets the commands evolve. -/
theorem of_moves {action : Action} (moved : Moves session action next) :
    Evolves session next := by
  intro queued before entered
  obtain ⟨after, entered, moved⟩ := (EntriesMove.of_moves moved).old queued before entered
  exact ⟨after, entered, moved.evolves⟩

/-- The commands evolve throughout a run. -/
theorem of_run {allowed : Session → Action → Prop}
    (run : Transition.Run Session.step allowed session next) : Evolves session next := by
  induction run with
  | refl => exact of_queue rfl
  | tail _ stepped evolves =>
    obtain ⟨action, -, stepped⟩ := stepped
    intro queued before entered
    -- What an entry became on the way goes on to become what the last step makes of it.
    obtain ⟨middle, entered, former⟩ := evolves queued before entered
    obtain ⟨after, entered, latter⟩ := of_moves (.of_step stepped) queued middle entered
    exact ⟨after, entered, former.trans latter⟩

end Evolves

/-- Chunks are only ever added. -/
theorem Moves.chunks {action : Action} (moved : Moves session action next) :
    session.chunks <+: next.chunks := by
  have same (chunks : next.chunks = session.chunks) : session.chunks <+: next.chunks :=
    chunks ▸ List.prefix_refl _
  rcases moved.untouched_or_custodial with untouched | custodial
  · exact same untouched.chunks
  cases custodial with
  | send command =>
    obtain ⟨queue, channels, shape⟩ := session.send_shape command
    exact same (by rw [shape])
  | @disconnectStrike index disconnect found at_ =>
    obtain ⟨queue, channels, shape⟩ := session.cancelWorkers.poll_shape
    refine same ?_
    simp only [disconnectStrike, shape]
    rfl
  -- The one move that appends; the list of chunks is never cut.
  | @chunk index reader link length buffer found at_ positive =>
    rcases session.handleChunk_cases index reader (receivedData length buffer) link with
      shape | ⟨queued, -, -, -, -, shape⟩ <;> rw [shape] <;> exact List.prefix_append _ _
  | inWriter found moved => exact same moved.besides.chunks
  | inTimer found moved =>
    cases moved with
    | fired at_ live fits =>
      obtain ⟨queue, slot, shape⟩ := session.timerFired_shape _ _
      exact same (by rw [shape])
    | overflowed at_ live beyond => exact same rfl
    | cancelled at_ cancelled => exact same rfl
  | _ => exact same rfl

end Session

end SerialPort
