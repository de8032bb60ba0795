import SerialPort.Session.Answer
import SerialPort.Session.Hauling
import SerialPort.Session.Heeded
import SerialPort.Session.Retries

/-! Whether the first answer to a command is heard, when it may come as soon as it is written. -/

namespace SerialPort

open Transition

/-- Whether the turn is one of this writer, if it is one of a writer, and does not end it early. -/
def Action.isOf (index : Nat) : Action → Bool
  | .resume (.writer other) outcome => other == index && outcome != .cancels
  | _ => true

/-- Whether the writer has a write to come back from, or to announce. -/
def WriterPoint.hasWritten : WriterPoint → Bool
  | .resuming _ _ _ => true
  | .reporting _ result => result.isSent
  | _ => false

/-- Without the value of a write the writer has none to come back from, or to announce. -/
theorem Writer.Unwritten.hasWritten {link : Option Nat} {point : WriterPoint}
    (unwritten : Writer.Unwritten link point) : point.hasWritten = false := by
  cases at_ : point with
  | resuming queued attempt bytes => exact absurd at_ (unwritten.resumes _ _ _)
  | reporting queued result => exact unwritten.reports _ _ at_
  | _ => rfl

namespace Session

/-- Whether a chunk is handled in the step that answers the command. -/
def answersBy (session : Session) (queued : Nat) : Action → Bool
  | .resume (.reader _) (.returns length buffer) =>
    0 < length && (session.queue[queued]?).any fun entry =>
      entry.command.accepts (receivedData length buffer)
  | _ => false

/-- Whether the response timeout of the command ends in the step. -/
def expiresBy (session : Session) (queued : Nat) : Action → Bool
  | .resume (.timer index) .resumes =>
    -- The timer of a command resumes when its delay has passed.
    (session.timers[index]?).any fun timer => timer.queued == queued
  | _ => false

/-- A step after the command has been written, and before it is answered or its time is over. -/
structure Attends (index queued : Nat) (session : Session) (action : Action) : Prop where
  /-- The session has one writer, which goes on. -/
  alone : action.isOf index = true
  /-- No further command is written. -/
  unwritten : session.writesBy action = none
  inTime : session.expiresBy queued action = false
  unanswered : session.answersBy queued action = false

instance (index queued : Nat) (session : Session) (action : Action) :
    Decidable (Attends index queued session action) :=
  decidable_of_iff (action.isOf index = true ∧ session.writesBy action = none ∧
      session.expiresBy queued action = false ∧ session.answersBy queued action = false)
    ⟨fun ⟨alone, unwritten, inTime, unanswered⟩ => ⟨alone, unwritten, inTime, unanswered⟩,
      fun attends =>
        ⟨attends.alone, attends.unwritten, attends.inTime, attends.unanswered⟩⟩

/-- The writer has counted the write of the command as a success, and has let go of the command. -/
def LetsGo (session : Session) (index queued : Nat) : Prop :=
  ∃ writer bytes, session.writers[index]? = some writer ∧
    (queued, .sent bytes) ∈ writer.attempts ∧ writer.point.held ≠ some queued

/-- The command is complete with the data of this chunk. -/
def CompleteWith (session : Session) (queued : Nat) (data : Bytes) (chunk : Nat) : Prop :=
  ∃ entry, session.queue[queued]? = some entry ∧ entry.result = some (.response data) ∧
    entry.answeredBy = some chunk

/-- What has become of a write that has completed, while the session has no other one. -/
inductive Course (session : Session) (index queued : Nat) (writer : Writer) : Prop where
  /-- The writer has still to be resumed with the value. -/
  | resumes {attempt : Nat} {bytes : Int} (at_ : writer.point = .resuming queued attempt bytes)
      (unlogged : ∀ bytes, (queued, .sent bytes) ∉ writer.attempts)
  /-- The writer has still to come back from announcing the write. -/
  | reports {bytes : Int} (at_ : writer.point = .reporting queued (.sent bytes))
      (logged : (queued, .sent bytes) ∈ writer.attempts)
  /-- The command is in the slot, and no other one is about to take its place. -/
  | listens {bytes : Int} (waits : session.pendingResponse = some queued)
      (idle : writer.point.hasWritten = false) (logged : (queued, .sent bytes) ∈ writer.attempts)
  /-- The value has been thrown away, and the command does not get into the slot. -/
  | misses (slot : session.pendingResponse ≠ some queued)
      (idle : writer.point.hasWritten = false)
      (unlogged : ∀ bytes, (queued, .sent bytes) ∉ writer.attempts)

variable {session next : Session} {action : Action} {index queued : Nat} {writer turned : Writer}
  {outcome : Outcome}

/-! The slot after a step. -/

/-- The slot is emptied by an answer or by the end of the time, and filled by a writer. -/
inductive SlotMoves (session : Session) (action : Action) (next : Session) : Prop where
  | same (slot : next.pendingResponse = session.pendingResponse) : SlotMoves session action next
  | answered {queued : Nat} (waits : session.pendingResponse = some queued)
      (answers : session.answersBy queued action = true) (emptied : next.pendingResponse = none) :
      SlotMoves session action next
  | expired {queued : Nat} (waits : session.pendingResponse = some queued)
      (expires : session.expiresBy queued action = true) (emptied : next.pendingResponse = none) :
      SlotMoves session action next
  | armed {index queued : Nat} {bytes : Int} {writer : Writer}
      (turn : action = .resume (.writer index) .resumes)
      (found : session.writers[index]? = some writer)
      (at_ : writer.point = .reporting queued (.sent bytes)) : SlotMoves session action next

/-- A writer fills the slot in `report` alone, behind the event of the write. -/
theorem SlotMoves.inWriter (found : session.writers[index]? = some writer)
    (moved : WriterMoves session index writer outcome next) :
    SlotMoves session (.resume (.writer index) outcome) next := by
  cases moved with
  | begin at_ entered live => exact .same beginWriting_turned.pendingResponse
  | resumed at_ entered live => exact .same (Turned.pendingResponse (attemptEnded_turned _))
  | attempted at_ entered missed ended =>
    exact .same (Turned.pendingResponse (attemptEnded_turned _))
  | retry at_ entered live => exact .same beginAttempt_turned.pendingResponse
  | @reported queued entry result at_ entered =>
    cases result with
    | sent bytes => exact .armed rfl found at_
    -- Whatever else is reported is completed at once.
    | _ => exact .same rfl
  | failSettled at_ =>
    refine .same ?_
    show session.failSettle.pendingResponse = _
    rw [Untouched.failSettle.pendingResponse]
  | _ => exact .same rfl

/-- Most steps do not touch the slot, and the others are those that move a command. -/
theorem Moves.slot (moved : Moves session action next) : SlotMoves session action next := by
  rcases moved.untouched_or_custodial with untouched | custodial
  · exact .same untouched.pendingResponse
  cases custodial with
  | send command =>
    obtain ⟨queue, channels, shape⟩ := session.send_shape command
    exact .same (by rw [shape])
  | disconnectStrike found at_ =>
    obtain ⟨queue, channels, shape⟩ := session.cancelWorkers.poll_shape
    exact .same (by simp only [disconnectStrike, shape]; rfl)
  | @chunk number reader link length buffer found at_ positive =>
    rcases session.handleChunk_cases number reader (receivedData length buffer) link with
      shape | ⟨queued, entry, waits, entered, accepts, shape⟩
    · exact .same (by rw [shape]; rfl)
    · exact .answered waits (by simp [answersBy, positive, entered, accepts]) (by rw [shape])
  -- A writer arms the slot, a chunk answers it, and the timer of what it holds clears it.
  | inWriter found moved => exact .inWriter found moved
  | @inTimer number timer outcome next found moved =>
    cases moved with
    | fired at_ live fits =>
      by_cases waits : session.pendingResponse = some timer.queued
      · exact .expired waits (by simp [expiresBy, found])
          (by simp [timerFired, waits, complete, setTimer])
      · exact .same (by simp [timerFired, waits, setTimer])
    | _ => exact .same rfl
  | _ => exact .same rfl

/-- The slot does not get the command from anybody but a writer that announces it. -/
theorem Moves.slot_avoids (moved : Moves session action next)
    (avoids : session.pendingResponse ≠ some queued) (found : session.writers[index]? = some writer)
    (alone : action.isOf index = true) (idle : writer.point.hasWritten = false) :
    next.pendingResponse ≠ some queued := by
  cases moved.slot with
  | same slot => rwa [slot]
  | answered waits answers emptied => rw [emptied]; nofun
  | expired waits expires emptied => rw [emptied]; nofun
  | @armed other token bytes writer' turn found' at_ =>
    -- The writer has nothing to announce, and there is no other one.
    simp [turn, Action.isOf] at alone
    subst alone
    obtain rfl := Option.some.inj (found.symm.trans found')
    rw [at_] at idle
    cases idle

/-- A writer that has nothing to come back from gets nothing, unless a write returns to it. -/
theorem WriterMoves.idle (found : session.writers[index]? = some writer)
    (moved : WriterMoves session index writer outcome next)
    (idle : writer.point.hasWritten = false)
    (unwritten : session.writesBy (.resume (.writer index) outcome) = none) :
    ∃ turned, next.writers = session.writers.set index turned ∧
      turned.point.hasWritten = false ∧
      ∀ bytes, (queued, .sent bytes) ∈ turned.attempts ↔
        (queued, .sent bytes) ∈ writer.attempts := by
  -- An attempt that returns nothing logs no success, and leads to no announcement of one.
  have failed {result : CommandResult} {token : Nat} (missed : result.isSent = false)
      (bytes : Int) :
      (queued, .sent bytes) ∈ writer.attempts ++ [(token, result)] ↔
        (queued, .sent bytes) ∈ writer.attempts := by
    constructor
    · intro listed
      rcases List.mem_append.mp listed with earlier | last
      · exact earlier
      · obtain ⟨-, rfl⟩ := Prod.mk.inj (List.mem_singleton.mp last)
        cases missed
    · exact List.mem_append_left _
  have tried {turned : Writer} (turns : Turned session index turned next)
      (unwritten : Writer.Unwritten session.link turned.point)
      (attempts : turned.attempts = writer.attempts ∨ ∃ token error,
        turned.attempts = writer.attempts ++ [(token, .failed error)]) :
      ∃ turned, next.writers = session.writers.set index turned ∧
        turned.point.hasWritten = false ∧ ∀ bytes, (queued, .sent bytes) ∈ turned.attempts ↔
          (queued, .sent bytes) ∈ writer.attempts := by
    refine ⟨turned, turns.writers, unwritten.hasWritten, fun bytes => ?_⟩
    rcases attempts with same | ⟨token, error, added⟩
    · rw [same]
    · rw [added]
      exact failed rfl bytes
  cases moved with
  | take at_ bound there buffered entered =>
    refine ⟨_, rfl, ?_, fun bytes => .rfl⟩
    unfold Writer.pausing
    split <;> rfl
  | begin at_ entered live =>
    exact tried beginWriting_turned Writer.began_unwritten
      (Writer.began_attempts.imp_right fun failed => ⟨_, failed⟩)
  | written at_ entered live => simp [writesBy, found, at_] at unwritten
  | resumed at_ entered live => rw [at_] at idle; cases idle
  | @attempted token attempt entry outcome result tries entered miss ended =>
    have unwritten : Writer.Unwritten none
        (writer.attempted token entry.command attempt result).point :=
      Writer.attempted_unwritten miss
    refine ⟨_, (attemptEnded_turned _).writers, unwritten.hasWritten, fun bytes => ?_⟩
    rw [Writer.attempted_attempts]
    exact failed miss bytes
  | retry at_ entered live =>
    exact tried beginAttempt_turned Writer.attempting_unwritten
      (Writer.attempting_attempts.imp_right fun failed => ⟨_, failed⟩)
  | reported at_ entered => exact ⟨_, report_writers _, rfl, fun bytes => .rfl⟩
  | failSettled at_ => exact ⟨_, writerFailed_writers _, rfl, fun bytes => .rfl⟩
  | _ => exact ⟨_, rfl, rfl, fun bytes => .rfl⟩

/-! From the write to the first answer. -/

/-- A writer stays at its point while it takes no turn, also if it is cancelled. -/
theorem Moves.writerStays (moved : Moves session action next)
    (found : session.writers[index]? = some writer) :
    ∃ after, next.writers[index]? = some after ∧
      (after.point = writer.point ∧ after.attempts = writer.attempts ∨
        ∃ outcome, action = .resume (.writer index) outcome ∧
          WriterMoves session index writer outcome next) := by
  obtain ⟨after, there, same | turns⟩ := moved.writerLater found
  · refine ⟨after, there, .inl ?_⟩
    rcases same with rfl | rfl <;> exact ⟨rfl, rfl⟩
  · exact ⟨after, there, .inr turns⟩

/-- A command in the hands of a writer is not in the slot. -/
theorem Custody.slot_avoids (custody : Custody session)
    (found : session.writers[index]? = some writer) (held : writer.point.held = some queued) :
    session.pendingResponse ≠ some queued := by
  intro waits
  have slot : session.Holds .response queued := waits
  cases custody.sound.unique (holds_of_hand found held) slot

namespace Course

/-- The writer is resumed with the value, or gets an exception or the end of the time instead. -/
theorem resumed {attempt : Nat} {bytes : Int} (custody : Custody session)
    (found : session.writers[index]? = some writer)
    (at_ : writer.point = .resuming queued attempt bytes)
    (unlogged : ∀ bytes, (queued, .sent bytes) ∉ writer.attempts)
    (moved : WriterMoves session index writer outcome next) (goes : outcome ≠ .cancels)
    (there : next.writers[index]? = some turned) : Course next index queued turned := by
  cases moved with
  | resumed at_' entered live =>
    obtain ⟨rfl, rfl, rfl⟩ := WriterPoint.resuming.inj (at_.symm.trans at_')
    obtain rfl := eq_of_set (attemptEnded_turned _).writers there
    rw [Writer.attempted_sent]
    exact .reports rfl (by simp)
  | @attempted token attempt' entry outcome result tries entered missed ended =>
    have turns : Turned session index (writer.attempted token entry.command attempt' result)
        (session.attemptEnded index writer token entry.command attempt' result) :=
      attemptEnded_turned _
    obtain rfl := eq_of_set turns.writers there
    have unwritten : Writer.Unwritten none
        (writer.attempted token entry.command attempt' result).point :=
      Writer.attempted_unwritten missed
    refine .misses ?_ unwritten.hasWritten fun bytes listed => ?_
    · rw [turns.pendingResponse]
      exact custody.slot_avoids found (by rw [at_]; rfl)
    · rw [Writer.attempted_attempts] at listed
      rcases List.mem_append.mp listed with earlier | last
      · exact unlogged bytes earlier
      · obtain ⟨-, rfl⟩ := Prod.mk.inj (List.mem_singleton.mp last)
        cases missed
  | cancelled open_ cancelled => exact absurd rfl goes
  -- Every other turn is one from another point.
  | _ at_' => rw [at_] at at_'; cases at_'

/-- When the announcement is over, the command takes the slot. -/
theorem reported {bytes : Int} (at_ : writer.point = .reporting queued (.sent bytes))
    (logged : (queued, .sent bytes) ∈ writer.attempts)
    (request : ∀ entry, session.queue[queued]? = some entry →
      entry.command.responseMatcher.isSome)
    (moved : WriterMoves session index writer outcome next) (goes : outcome ≠ .cancels)
    (there : next.writers[index]? = some turned) : Course next index queued turned := by
  cases moved with
  | @reported token entry result at_' entered =>
    obtain ⟨rfl, rfl⟩ := WriterPoint.reporting.inj (at_.symm.trans at_')
    -- The report of a sent request arms the slot, and the writer goes back to listen.
    have armed : ((CommandResult.sent bytes).isSent && entry.command.responseMatcher.isSome) =
        true := request entry entered
    obtain rfl := eq_of_set (report_writers _) there
    exact .listens (by simp [report, armed, setWriter, arm, own]) rfl logged
  | attempted tries =>
    rcases Writer.tries_cases tries with ⟨link, at_'⟩ | ⟨bytes, at_'⟩ <;> rw [at_] at at_' <;>
      cases at_'
  | cancelled open_ cancelled => exact absurd rfl goes
  | _ at_' => rw [at_] at at_'; cases at_'

/-- A step before the answer takes the write further on its course, or leaves it where it is. -/
theorem step (course : Course session index queued writer) (custody : Custody session)
    (found : session.writers[index]? = some writer) (moved : Moves session action next)
    (attends : Attends index queued session action)
    (request : ∀ entry, session.queue[queued]? = some entry →
      entry.command.responseMatcher.isSome) :
    ∃ after, next.writers[index]? = some after ∧ Course next index queued after := by
  obtain ⟨after, there, turn⟩ := moved.writerStays found
  have goes {outcome : Outcome} (turn : action = .resume (.writer index) outcome) :
      outcome ≠ .cancels := by
    rintro rfl
    have alone := attends.alone
    simp [turn, Action.isOf] at alone
  -- What the writer has logged stays, and it gets nothing new to come back from.
  have stays (idle : writer.point.hasWritten = false) : after.point.hasWritten = false ∧
      ∀ bytes, (queued, .sent bytes) ∈ after.attempts ↔
        (queued, .sent bytes) ∈ writer.attempts := by
    rcases turn with ⟨point, attempts⟩ | ⟨outcome, rfl, turns⟩
    · exact ⟨point ▸ idle, fun bytes => by rw [attempts]⟩
    · obtain ⟨turned, writers, idle, logs⟩ := turns.idle found idle attends.unwritten
      obtain rfl := eq_of_set writers there
      exact ⟨idle, logs⟩
  refine ⟨after, there, ?_⟩
  cases course with
  | resumes at_ unlogged =>
    rcases turn with ⟨point, attempts⟩ | ⟨outcome, same, turns⟩
    · exact .resumes (point.trans at_) (attempts ▸ unlogged)
    · exact resumed custody found at_ unlogged turns (goes same) there
  | reports at_ logged =>
    rcases turn with ⟨point, attempts⟩ | ⟨outcome, same, turns⟩
    · exact .reports (point.trans at_) (attempts ▸ logged)
    · exact reported at_ logged request turns (goes same) there
  | listens waits idle logged =>
    refine .listens ?_ (stays idle).1 (((stays idle).2 _).mpr logged)
    cases moved.slot with
    | same slot => rw [slot, waits]
    | answered waits' answers emptied =>
      obtain rfl := Option.some.inj (waits.symm.trans waits')
      cases attends.unanswered.symm.trans answers
    | expired waits' expires emptied =>
      obtain rfl := Option.some.inj (waits.symm.trans waits')
      cases attends.inTime.symm.trans expires
    | @armed other token bytes writer' turn found' at_ =>
      have alone := attends.alone
      simp [turn, Action.isOf] at alone
      subst alone
      obtain rfl := Option.some.inj (found.symm.trans found')
      rw [at_] at idle
      cases idle
  | misses slot idle unlogged =>
    exact .misses (moved.slot_avoids slot found attends.alone idle) (stays idle).1
      fun bytes listed => unlogged bytes (((stays idle).2 bytes).mp listed)

/-- A write that completes is the beginning of its course. -/
theorem of_written {start written : Session} {attempt : Nat} {link : Option Nat} {length : Int}
    {buffer : Bytes} (reached : Run Session.step (fun _ _ => True) {} start)
    (found : start.writers[index]? = some writer)
    (at_ : writer.point = .writing queued attempt link)
    (returns : start.step (.resume (.writer index) (.returns length buffer)) = some written) :
    ∃ writer, written.writers[index]? = some writer ∧ Course written index queued writer := by
  cases Moves.of_step returns with
  | inWriter found' moved =>
    obtain rfl := Option.some.inj (found.symm.trans found')
    cases moved with
    | @written token attempt' link' entry length buffer at_' entered live =>
      obtain ⟨rfl, rfl, rfl⟩ := WriterPoint.writing.inj (at_.symm.trans at_')
      refine ⟨_, List.getElem?_set_self (List.getElem?_eq_some_iff.mp found).1,
        .resumes rfl fun bytes listed => ?_⟩
      -- A success would have ended the attempts for the command.
      have served : AllServed start := .of_run reached
      have taken : queued ∈ writer.taken := List.mem_of_getLast?
        ((served index writer found).orderly.last queued (by rw [at_]; rfl))
      have stage := AllStaged.of_run reached index writer found live queued taken entry entered
      have missed := (stage.of_tries (by rw [at_]; rfl)).1.continues.missed (.sent bytes)
      have result : CommandResult.sent bytes ∈ writer.results queued :=
        List.mem_map.mpr ⟨_, List.mem_filter.mpr ⟨listed, by simp⟩, rfl⟩
      cases missed result
    | attempted at_' entered missed ended =>
      rcases ended with ⟨message, other, -⟩ | ⟨other, -⟩ <;> cases other

/-- Until its first answer a command that has been written is on its course. -/
theorem of_run {written : Session} (reached : Run Session.step (fun _ _ => True) {} written)
    (found : written.writers[index]? = some writer) (course : Course written index queued writer)
    {entry : QueuedCommand} (entered : written.queue[queued]? = some entry)
    (request : entry.command.responseMatcher.isSome)
    (run : Run Session.step (Attends index queued) written session) :
    ∃ writer, session.writers[index]? = some writer ∧ Course session index queued writer := by
  -- The induction is on the run, and the command itself is the same all along.
  induction run with
  | refl => exact ⟨writer, found, course⟩
  | tail earlier stepped held =>
    obtain ⟨action, attends, stepped⟩ := stepped
    obtain ⟨writer, found, course⟩ := held
    have before : Run Session.step (Attends index queued) written _ := earlier
    have whole := reached.trans (before.weaken fun _ => trivial)
    refine course.step (.of_run whole) found (.of_step stepped) attends fun entry' entered' => ?_
    obtain ⟨after, there, evolved⟩ := Evolves.of_run earlier queued entry entered
    obtain rfl := Option.some.inj (there.symm.trans entered')
    rw [evolved.command]
    exact request

end Course

/-- The answer is heard if the command has the slot. -/
theorem complete_of_waits (waits : session.pendingResponse = some queued)
    (custody : Custody session) {number : Nat} {length : Int} {buffer : Bytes}
    (moved : Moves session (.resume (.reader number) (.returns length buffer)) next)
    (answers :
      session.answersBy queued (.resume (.reader number) (.returns length buffer)) = true) :
    next.CompleteWith queued (receivedData length buffer) session.chunks.length := by
  -- Whatever waits in the slot has no result yet.
  have holds : session.Holds .response queued := waits
  obtain ⟨entry, entered, waiting, -⟩ := custodian_eq_some (custody.sound _ _ holds)
  simp only [answersBy, Bool.and_eq_true, decide_eq_true_eq, entered, Option.any_some] at answers
  cases moved with
  | @inReader _ reader _ _ found moved =>
    cases moved with
    | nothing at_ empty => exact absurd answers.1 (Int.not_lt.mpr empty)
    | failed at_ threw => cases threw
    | chunk at_ positive =>
      refine ⟨entry.answer (receivedData length buffer) session.chunks.length, ?_, ?_, ?_⟩
      · simp [handleChunk, matchResponse, waits, entered, answers.2, emit, setReader]
      · simp [QueuedCommand.answer, waiting]
      · simp [QueuedCommand.answer, waiting]

/-! An answer that comes too early. -/

/-- A command is answered by the latest chunk, and only out of the slot. -/
theorem EntryMoves.answeredBy {before after : QueuedCommand}
    (moved : EntryMoves session next queued before after) :
    after.answeredBy = before.answeredBy ∨
      session.pendingResponse = some queued ∧ after.answeredBy = some session.chunks.length := by
  -- A result that is no response names no chunk.
  have complete (result : CommandResult) :
      (before.complete result).answeredBy = before.answeredBy := by
    unfold QueuedCommand.complete
    split <;> rfl
  cases moved with
  | reported found at_ => exact .inl (complete _)
  | failed found at_ => exact .inl (complete _)
  | timedOut timeout => exact .inl (complete _)
  | answered found at_ waits chunk =>
    unfold QueuedCommand.answer
    split
    · exact .inr ⟨waits, rfl⟩
    · exact .inl rfl
  | _ => exact .inl rfl

/-- The chunk has been handled, and was not taken for the command. -/
structure Unheard (session : Session) (queued chunk : Nat) : Prop where
  handled : chunk < session.chunks.length
  unanswered : ∀ entry, session.queue[queued]? = some entry → entry.answeredBy ≠ some chunk

/-- An answer that was not heard is not heard later. -/
theorem Unheard.step {chunk : Nat} (unheard : session.Unheard queued chunk)
    (moved : Moves session action next) : next.Unheard queued chunk where
  handled := Nat.lt_of_lt_of_le unheard.handled moved.chunks.length_le
  unanswered after entered := by
    -- Chunks are numbered by their place, so an answer to come has a later number.
    have earlier := unheard.handled
    rcases (EntriesMove.of_moves moved).back entered with ⟨before, there, moved⟩ | fresh
    · rcases moved.answeredBy with same | ⟨-, latest⟩
      · rw [same]
        exact unheard.unanswered before there
      · -- A later answer is another chunk.
        rw [latest]
        intro same
        exact Nat.lt_irrefl _ (Option.some.inj same ▸ earlier)
    · rw [fresh.answeredBy]
      nofun

/-- What comes while the command is not in the slot is not heard. -/
theorem unheard_of_avoids (avoids : session.pendingResponse ≠ some queued)
    (answers : Answers session) {number : Nat} {length : Int} {buffer : Bytes}
    (moved : Moves session (.resume (.reader number) (.returns length buffer)) next)
    (positive : 0 < length) : next.Unheard queued session.chunks.length where
  handled := by
    cases moved with
    | @inReader _ reader _ _ found moved =>
      cases moved with
      | nothing at_ empty => exact absurd positive (Int.not_lt.mpr empty)
      | failed at_ threw => cases threw
      | @chunk _ _ link at_ positive =>
        rcases session.handleChunk_cases number reader (receivedData length buffer) link with
          shape | ⟨queued, -, -, -, -, shape⟩ <;> rw [shape] <;> simp [pass]
  unanswered after entered := by
    -- No command names a chunk that has not been handled yet.
    have unanswered (before : QueuedCommand) (there : session.queue[queued]? = some before) :
        before.answeredBy ≠ some session.chunks.length := by
      intro answered
      obtain ⟨chunk, handled, -⟩ := answers.sound queued _ before there answered
      exact Nat.lt_irrefl _ (List.getElem?_eq_some_iff.mp handled).1
    rcases (EntriesMove.of_moves moved).back entered with ⟨before, there, moved⟩ | fresh
    · rcases moved.answeredBy with same | ⟨waits, -⟩
      · rw [same]
        exact unanswered before there
      · exact absurd waits avoids
    · rw [fresh.answeredBy]
      simp

/--
The first answer to a command that has been written completes it, whatever else is going on.

This is so exactly when, before the answer is handled, the writer has counted the write as a success
and has let go of the command: it has been resumed with the value of the write, in time and without
an exception of the logger, and has come back from announcing it.
-/
theorem answer_heard_iff {start written before after finish : Session} {attempt number : Nat}
    {link : Option Nat} {length count : Int} {buffer bytes : Bytes} {entry : QueuedCommand}
    (reached : Run Session.step (fun _ _ => True) {} start)
    (found : start.writers[index]? = some writer)
    (at_ : writer.point = .writing queued attempt link)
    (entered : start.queue[queued]? = some entry) (request : entry.command.responseMatcher.isSome)
    (returns : start.step (.resume (.writer index) (.returns length buffer)) = some written)
    (run : Run Session.step (Attends index queued) written before)
    (answers : before.answersBy queued (.resume (.reader number) (.returns count bytes)) = true)
    (handled : before.step (.resume (.reader number) (.returns count bytes)) = some after)
    (later : Run Session.step (fun _ _ => True) after finish) :
    finish.CompleteWith queued (receivedData count bytes) before.chunks.length ↔
      before.LetsGo index queued := by
  have opening := reached.snoc trivial returns
  have whole := opening.trans (run.weaken fun _ => trivial)
  have custody : Custody before := .of_run whole
  obtain ⟨entry', entered', evolved⟩ := Evolves.of_moves (.of_step returns) queued entry entered
  obtain ⟨began, there, begins⟩ := Course.of_written reached found at_ returns
  obtain ⟨last, found, course⟩ :=
    Course.of_run opening there begins entered' (evolved.command ▸ request) run
  -- Where the command is not in the slot the chunk is lost for it.
  have unheard (avoids : before.pendingResponse ≠ some queued) :
      ¬finish.CompleteWith queued (receivedData count bytes) before.chunks.length := by
    rintro ⟨entry, entered, -, answered⟩
    have positive : 0 < count := by
      simp only [answersBy, Bool.and_eq_true, decide_eq_true_eq] at answers
      exact answers.1
    have unheard : finish.Unheard queued before.chunks.length := by
      refine later.invariant ?_ fun _ _ stepped held => Unheard.step held (.of_step stepped)
      exact unheard_of_avoids avoids (.of_run whole) (.of_step handled) positive
    exact unheard.unanswered entry entered answered
  have same {writer : Writer} (found' : before.writers[index]? = some writer) : writer = last :=
    Option.some.inj (found'.symm.trans found)
  cases course with
  | resumes at_ unlogged =>
    have held : last.point.held = some queued := by rw [at_]; rfl
    exact iff_of_false (unheard (custody.slot_avoids found held))
      fun ⟨_, _, found', _, gone⟩ => gone (same found' ▸ held)
  | reports at_ logged =>
    have held : last.point.held = some queued := by rw [at_]; rfl
    exact iff_of_false (unheard (custody.slot_avoids found held))
      fun ⟨_, _, found', _, gone⟩ => gone (same found' ▸ held)
  | misses avoids idle unlogged =>
    exact iff_of_false (unheard avoids)
      fun ⟨_, bytes, found', logged, _⟩ => unlogged bytes (same found' ▸ logged)
  | listens waits idle logged =>
    -- What has been answered once stays so.
    refine iff_of_true ?_ ⟨last, _, found, logged, fun held => custody.slot_avoids found held waits⟩
    obtain ⟨entry, there, result, chunk⟩ :=
      complete_of_waits waits custody (.of_step handled) answers
    obtain ⟨final, there', evolved⟩ := Evolves.of_run later queued entry there
    obtain ⟨same, same'⟩ := evolved.settled (by rw [result]; rfl)
    exact ⟨final, there', same.trans result, same'.trans chunk⟩

end Session

/-! A request that is answered before and after the writer has come back from announcing it. -/

namespace Sample

/-- A call of `connect`, and the first turns of the workers up to the write of a request. -/
def requesting : List Action :=
  connecting 0 ++ [.resume (.reader 0) .resumes, .resume (.writer 0) .resumes, .send (request 1),
    .resume (.writer 0) .resumes, .resume (.writer 0) .resumes]

end Sample

namespace Session

variable {start : Session} {middle last : List Action} {holds : Session → Session → Bool}

/-- The write returns, an answer follows after some steps, and this holds before it and at last. -/
def exchanges (start : Session) (middle last : List Action) (holds : Session → Session → Bool) :
    Bool :=
  (start.writers[0]?).any (fun writer => writer.point == .writing 0 0 (some 1)) &&
    (start.queue[0]?).any (fun entry => entry.command.responseMatcher.isSome) &&
    (start.step (.resume (.writer 0) (.returns 1 []))).any fun written =>
      (execute Session.step (Attends 0 0) written middle).any fun before =>
        before.answersBy 0 (.resume (.reader 0) (.returns 1 [9])) &&
          (before.step (.resume (.reader 0) (.returns 1 [9]))).any fun after =>
            (execute Session.step (fun _ _ => True) after last).any fun finish =>
              holds before finish

theorem exchanges_iff (test : start.exchanges middle last holds = true) :
    ∃ writer entry written before after finish, start.writers[0]? = some writer ∧
      writer.point = .writing 0 0 (some 1) ∧ start.queue[0]? = some entry ∧
      entry.command.responseMatcher.isSome ∧
      start.step (.resume (.writer 0) (.returns 1 [])) = some written ∧
      Run Session.step (Attends 0 0) written before ∧
      before.answersBy 0 (.resume (.reader 0) (.returns 1 [9])) = true ∧
      before.step (.resume (.reader 0) (.returns 1 [9])) = some after ∧
      Run Session.step (fun _ _ => True) after finish ∧ holds before finish = true := by
  -- The test asks for the conditions one after another.
  simp only [exchanges, Bool.and_eq_true] at test
  obtain ⟨⟨writes, requests⟩, test⟩ := test
  obtain ⟨writer, found, at_⟩ := (Option.any_eq_true _ _).mp writes
  obtain ⟨entry, entered, request⟩ := (Option.any_eq_true _ _).mp requests
  obtain ⟨written, returns, test⟩ := (Option.any_eq_true _ _).mp test
  obtain ⟨before, run, test⟩ := (Option.any_eq_true _ _).mp test
  simp only [Bool.and_eq_true] at test
  obtain ⟨answers, test⟩ := test
  obtain ⟨after, handled, test⟩ := (Option.any_eq_true _ _).mp test
  obtain ⟨finish, later, holds⟩ := (Option.any_eq_true _ _).mp test
  exact ⟨writer, entry, written, before, after, finish, found, beq_iff_eq.mp at_, entered, request,
    returns, .of_execute run, answers, handled, .of_execute later, holds⟩

/-- A request that is answered before its writer has come back times out. -/
theorem early_answer_missed :
    ¬∀ (start written before after finish : Session) (index queued attempt number : Nat)
      (writer : Writer) (entry : QueuedCommand) (link : Option Nat) (length count : Int)
      (buffer bytes : Bytes), Run Session.step (fun _ _ => True) {} start →
      start.writers[index]? = some writer → writer.point = .writing queued attempt link →
      start.queue[queued]? = some entry → entry.command.responseMatcher.isSome →
      start.step (.resume (.writer index) (.returns length buffer)) = some written →
      Run Session.step (Attends index queued) written before →
      before.answersBy queued (.resume (.reader number) (.returns count bytes)) = true →
      before.step (.resume (.reader number) (.returns count bytes)) = some after →
      Run Session.step (fun _ _ => True) after finish →
      (∃ entry, finish.queue[queued]? = some entry ∧ entry.result.isSome) →
      finish.CompleteWith queued (receivedData count bytes) before.chunks.length := by
  intro always
  obtain ⟨start, reached, test⟩ := Run.of_test
    (fun start => start.exchanges []
      [.resume (.writer 0) .resumes, .resume (.writer 0) .resumes, .resume (.timer 0) .resumes]
      fun _ finish => (finish.queue[0]?).any fun entry => entry.result == some (.timedOut 500))
    (show (execute Session.step (fun _ _ => True) {} Sample.requesting).any _ = true by
      decide +kernel)
  obtain ⟨writer, entry, written, before, after, finish, found, at_, entered, request, returns, run,
    answers, handled, later, test⟩ := exchanges_iff test
  obtain ⟨last, there, timedOut⟩ := (Option.any_eq_true _ _).mp test
  have timedOut := beq_iff_eq.mp timedOut
  obtain ⟨last', there', response, -⟩ :=
    always start written before after finish 0 0 0 0 writer entry
    _ 1 1 [] [9] reached found at_ entered request returns run answers handled later
    ⟨last, there, by rw [timedOut]; rfl⟩
  -- The one result is the end of the time, and not the response.
  obtain rfl := Option.some.inj (there.symm.trans there')
  cases timedOut.symm.trans response

/-- A request that is answered after its writer has come back is complete with the answer. -/
theorem late_answer_heard :
    ∃ finish, Run Session.step (fun _ _ => True) {} finish ∧ finish.CompleteWith 0 [9] 0 := by
  obtain ⟨start, reached, test⟩ := Run.of_test
    (fun start => start.exchanges [.resume (.writer 0) .resumes, .resume (.writer 0) .resumes]
      [.resume (.timer 0) .resumes] fun before _ => before.chunks.length == 0 &&
        (before.writers[0]?).any fun writer =>
          writer.point == .receiving && writer.attempts == [(0, .sent 1)])
    (show (execute Session.step (fun _ _ => True) {} Sample.requesting).any _ = true by
      decide +kernel)
  obtain ⟨writer, entry, written, before, after, finish, found, at_, entered, request, returns, run,
    answers, handled, later, test⟩ := exchanges_iff test
  simp only [Bool.and_eq_true, beq_iff_eq] at test
  obtain ⟨none_, back⟩ := test
  obtain ⟨idle, there, receiving⟩ := (Option.any_eq_true _ _).mp back
  simp only [Bool.and_eq_true, beq_iff_eq] at receiving
  -- Both turns of the writer are done before the answer is handled, so it is heard.
  have heard := (answer_heard_iff reached found at_ entered request returns run answers handled
    later).mpr ⟨idle, 1, there, by rw [receiving.2]; simp, by rw [receiving.1]; nofun⟩
  refine ⟨finish, ?_, none_ ▸ heard⟩
  exact ((reached.snoc trivial returns).trans (run.weaken fun _ => trivial)).trans
    (.cons trivial handled later)

end Session

end SerialPort
