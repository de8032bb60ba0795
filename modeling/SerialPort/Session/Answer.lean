import SerialPort.Session.Served

/-! Only a received chunk completes a command with a response, and only one command. -/

namespace SerialPort

namespace Session

/-- The chunk has completed the command, whose matcher accepts it. -/
def AnsweredBy (session : Session) (entry : QueuedCommand) (index : Nat) : Prop :=
  ∃ chunk, session.chunks[index]? = some chunk ∧ entry.command.accepts chunk.data = true ∧
    entry.result = some (.response chunk.data)

/-- A response comes from a chunk that the matcher accepts, and from a chunk of its own. -/
structure Answers (session : Session) : Prop where
  sound : ∀ (queued index : Nat) (entry : QueuedCommand), session.queue[queued]? = some entry →
    entry.answeredBy = some index → session.AnsweredBy entry index
  only : ∀ (queued : Nat) (entry : QueuedCommand) (data : Bytes),
    session.queue[queued]? = some entry → entry.result = some (.response data) →
    entry.answeredBy.isSome
  once : ∀ (queued other index : Nat) (entry entry' : QueuedCommand),
    session.queue[queued]? = some entry → session.queue[other]? = some entry' →
    entry.answeredBy = some index → entry'.answeredBy = some index → queued = other

end Session

/-- The command is not completed with a response. -/
structure QueuedCommand.Quiet (before after : QueuedCommand) : Prop where
  command : after.command = before.command
  answeredBy : after.answeredBy = before.answeredBy
  result : after.result = before.result ∨
    before.result = none ∧ ∀ data, after.result ≠ some (.response data)

namespace QueuedCommand

variable {before : QueuedCommand}

/-- What stays the same stays quiet. -/
theorem Quiet.refl : Quiet before before :=
  ⟨rfl, rfl, .inl rfl⟩

/-- A result that is no answer leaves the entry unanswered. -/
theorem Quiet.complete {result : CommandResult} (other : ∀ data, result ≠ .response data) :
    Quiet before (before.complete result) := by
  unfold QueuedCommand.complete
  split
  · next waits =>
    exact ⟨rfl, rfl, .inr ⟨by simpa using waits, fun data same => other data (by simpa using same)⟩⟩
  · exact .refl

end QueuedCommand

namespace Session

/-- No command is completed with a response, and a new one is not answered yet. -/
def Quiet (session next : Session) : Prop :=
  ∀ (queued : Nat) (after : QueuedCommand), next.queue[queued]? = some after →
    (∃ before, session.queue[queued]? = some before ∧ QueuedCommand.Quiet before after) ∨
      after.answeredBy = none ∧ ∀ data, after.result ≠ some (.response data)

variable {session next : Session} {index queued : Nat} {writer : Writer}

/-- A command is completed with a response only where a chunk is handled. -/
theorem EntryMoves.quiet (served : AllServed session) {before after : QueuedCommand}
    (moved : EntryMoves session next queued before after) :
    QueuedCommand.Quiet before after ∨
      ∃ index reader link data, session.readers[index]? = some reader ∧
        reader.point = .reading link ∧ next = session.handleChunk index reader data link := by
  cases moved with
  | @reported index writer result found at_ =>
    refine .inl (.complete fun data response => ?_)
    -- A writer reports the outcome of an attempt, which is no response.
    subst response
    exact ((served index writer found).orderly.reported at_).1
  | failed found at_ => exact .inl (.complete nofun)
  | timedOut timeout => exact .inl (.complete nofun)
  | answered found at_ waits chunk => exact .inr ⟨_, _, _, _, found, at_, chunk⟩
  | _ => exact .inl ⟨rfl, rfl, .inl rfl⟩

namespace Quiet

/-- Where the queue stays, every entry stays quiet. -/
theorem of_queue (queue : next.queue = session.queue) : Quiet session next := by
  intro queued after entered
  exact .inl ⟨after, queue ▸ entered, .refl⟩

/-- Every step but the one that handles a chunk. -/
theorem of_moves (served : AllServed session) {action : Action}
    (moved : Moves session action next) :
    Quiet session next ∨
      ∃ index reader link data, session.readers[index]? = some reader ∧
        reader.point = .reading link ∧ next = session.handleChunk index reader data link := by
  by_cases chunk : ∃ index reader link data, session.readers[index]? = some reader ∧
      reader.point = .reading link ∧ next = session.handleChunk index reader data link
  · exact .inr chunk
  · refine .inl fun queued after entered => ?_
    -- A fresh command is waiting or refused, and has no response.
    rcases (EntriesMove.of_moves moved).back entered with ⟨before, there, moved⟩ | fresh
    · exact .inl ⟨before, there, (moved.quiet served).resolve_right chunk⟩
    · refine .inr ⟨fresh.answeredBy, fun data response => ?_⟩
      rcases fresh.result with waits | ⟨error, refused⟩
      · simp [waits] at response
      · simp [refused] at response

/-- A step that handles no chunk. -/
theorem of_chunks (served : AllServed session) {action : Action}
    (moved : Moves session action next) (chunks : next.chunks = session.chunks) :
    Quiet session next := by
  rcases of_moves served moved with quiet | ⟨index, reader, link, data, -, -, rfl⟩
  · exact quiet
  · -- Handling a chunk notes it, so the number of chunks would have changed.
    have longer : (session.handleChunk index reader data link).chunks.length =
        session.chunks.length + 1 := by
      rcases session.handleChunk_cases index reader data link with
        shape | ⟨queued, -, -, -, -, shape⟩ <;> rw [shape] <;> simp [pass]
    rw [chunks] at longer
    omega

end Quiet

namespace Answers

/-- Steps that answer nothing. -/
theorem quiet (answers : Answers session) (quiet : Quiet session next)
    (chunks : session.chunks <+: next.chunks) : Answers next where
  sound := by
    intro queued index after entered answered
    -- A quiet step answers nothing: what is answered was answered before.
    rcases quiet queued after entered with ⟨before, there, quiet⟩ | ⟨unanswered, -⟩
    · obtain ⟨chunk, handled, accepts, result⟩ :=
        answers.sound queued index before there (quiet.answeredBy ▸ answered)
      refine ⟨chunk, ?_, quiet.command ▸ accepts, ?_⟩
      · obtain ⟨more, chunks⟩ := chunks
        rw [← chunks, List.getElem?_append_left (List.getElem?_eq_some_iff.mp handled).1, handled]
      · rcases quiet.result with kept | ⟨waits, -⟩
        · rw [kept, result]
        · rw [waits] at result
          cases result
    · rw [unanswered] at answered
      cases answered
  only := by
    intro queued after data entered response
    rcases quiet queued after entered with ⟨before, there, quiet⟩ | ⟨-, other⟩
    · rw [quiet.answeredBy]
      -- A response was there before, for the step gives none.
      rcases quiet.result with kept | ⟨-, other⟩
      · exact answers.only queued before data there (kept ▸ response)
      · exact absurd response (other data)
    · exact absurd response (other data)
  once := by
    intro queued other index after after' entered entered' answered answered'
    rcases quiet queued after entered with ⟨before, there, quiet'⟩ | ⟨unanswered, -⟩
    · rcases quiet other after' entered' with ⟨before', there', quiet''⟩ | ⟨unanswered, -⟩
      · exact answers.once queued other index before before' there there'
          (quiet'.answeredBy ▸ answered) (quiet''.answeredBy ▸ answered')
      · rw [unanswered] at answered'
        cases answered'
    · rw [unanswered] at answered
      cases answered

/-- An answer came with one of the chunks that were handled. -/
theorem handled (answers : Answers session) (index : Nat) (entry : QueuedCommand)
    (entered : session.queue[queued]? = some entry) (answered : entry.answeredBy = some index) :
    index < session.chunks.length := by
  obtain ⟨chunk, there, -⟩ := answers.sound queued index entry entered answered
  exact (List.getElem?_eq_some_iff.mp there).1

/-- The chunk that is handled answers the command in the slot, and no other. -/
theorem answer (answers : Answers session) {entry : QueuedCommand} (chunk : Chunk)
    (entered : session.queue[queued]? = some entry) (waits : entry.result = none)
    (accepts : entry.command.accepts chunk.data = true)
    (queue : next.queue = session.queue.modify queued fun entry =>
      entry.answer chunk.data session.chunks.length)
    (chunks : next.chunks = session.chunks ++ [chunk]) : Answers next := by
  -- Only the command in the slot has changed, and it has got its response.
  have changed (other : Nat) (after : QueuedCommand) (there : next.queue[other]? = some after) :
      session.queue[other]? = some after ∨ other = queued ∧
        after = { entry with
          result := some (.response chunk.data)
          answeredBy := some session.chunks.length } := by
    rw [queue, List.getElem?_modify] at there
    obtain ⟨before, found, rfl⟩ := Option.map_eq_some_iff.mp there
    by_cases same : queued = other
    · subst same
      obtain rfl : entry = before := Option.some.inj (entered.symm.trans found)
      exact .inr ⟨rfl, by simp [QueuedCommand.answer, waits]⟩
    · rw [if_neg same]
      exact .inl found
  constructor
  case sound =>
    intro other index after there answered
    rcases changed other after there with there | ⟨rfl, rfl⟩
    · obtain ⟨earlier, handled, accepts, result⟩ := answers.sound other index after there answered
      refine ⟨earlier, ?_, accepts, result⟩
      rw [chunks, List.getElem?_append_left (List.getElem?_eq_some_iff.mp handled).1, handled]
    · obtain rfl := Option.some.inj answered
      exact ⟨chunk, by simp [chunks], accepts, rfl⟩
  case only =>
    intro other after data there response
    rcases changed other after there with there | ⟨rfl, rfl⟩
    · exact answers.only other after data there response
    · rfl
  case once =>
    -- A command that was answered before was answered by an earlier chunk.
    intro first second index before after there there' answered answered'
    -- The chunk is a new one, so nothing was answered by it before.
    rcases changed first before there with there | ⟨rfl, rfl⟩ <;>
      rcases changed second after there' with there' | ⟨rfl, rfl⟩
    · exact answers.once first second index before after there there' answered answered'
    · obtain rfl := Option.some.inj answered'
      exact absurd (answers.handled _ before there answered) (Nat.lt_irrefl _)
    · obtain rfl := Option.some.inj answered
      exact absurd (answers.handled _ after there' answered') (Nat.lt_irrefl _)
    · rfl

/-- Every move keeps the answers to the chunks that were handled. -/
theorem step (answers : Answers session) (custody : Custody session) (served : AllServed session)
    {action : Action} (moved : Moves session action next) : Answers next := by
  rcases Quiet.of_moves served moved with quiet | ⟨index, reader, link, data, found, at_, rfl⟩
  · -- What is not quiet handles a chunk.
    exact answers.quiet quiet moved.chunks
  · have chunks := moved.chunks
    rcases session.handleChunk_cases index reader data link with
      shape | ⟨queued, entry, waits, entered, accepts, shape⟩
    · exact answers.quiet (.of_queue (by rw [shape]; rfl)) chunks
    · obtain ⟨entry', entered', result, -⟩ :=
        custodian_eq_some (custody.sound .response queued waits)
      obtain rfl : entry' = entry := Option.some.inj (entered'.symm.trans entered)
      rw [shape]
      exact answers.answer (session.chunkFrom index data link) entered result accepts rfl rfl

/-- In every reachable state the responses are sound. -/
theorem of_run {allowed : Session → Action → Prop}
    (run : Transition.Run Session.step allowed {} session) : Answers session :=
  run.invariant ⟨by simp, by simp, by simp⟩ fun earlier _ stepped answers =>
    answers.step (.of_run earlier) (.of_run earlier) (.of_step stepped)

end Answers

end Session

end SerialPort
