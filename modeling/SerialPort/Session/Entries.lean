import SerialPort.Session.Custody

/-! What a step makes of one queued command. -/

namespace SerialPort

namespace Session

/-- The steps of a queued command; most steps of the session leave it alone. -/
inductive EntryMoves (session next : Session) (queued : Nat) (before : QueuedCommand) :
    QueuedCommand → Prop where
  | same : EntryMoves session next queued before before
  | discarded (held : queued ∈ session.bufferOf session.commands) :
      EntryMoves session next queued before { before with owner := .nobody }
  | taken {index channel : Nat} {writer : Writer} (found : session.writers[index]? = some writer)
      (bound : writer.channel = some channel) (held : queued ∈ session.bufferOf channel) :
      EntryMoves session next queued before { before with owner := .writer index }
  | written {index attempt : Nat} {writer : Writer} {link : Option Nat}
      (found : session.writers[index]? = some writer)
      (at_ : writer.point = .writing queued attempt link) :
      EntryMoves session next queued before
        { before with writtenOn := if link = session.link then link else none }
  | reported {index : Nat} {writer : Writer} {result : CommandResult}
      (found : session.writers[index]? = some writer)
      (at_ : writer.point = .reporting queued result) :
      EntryMoves session next queued before (before.complete result)
  | armed {index : Nat} {writer : Writer} {result : CommandResult}
      (found : session.writers[index]? = some writer)
      (at_ : writer.point = .reporting queued result) :
      EntryMoves session next queued before { before with owner := .response }
  | failed {index : Nat} {writer : Writer} {error : SerialError}
      (found : session.writers[index]? = some writer)
      (at_ : writer.point = .failing queued error .changed) :
      EntryMoves session next queued before (before.complete (.failed error))
  | timedOut (timeout : Duration) :
      EntryMoves session next queued before (before.complete (.timedOut timeout))
  | answered {index : Nat} {reader : Reader} {link : Option Nat} {data : Bytes}
      (found : session.readers[index]? = some reader) (at_ : reader.point = .reading link)
      (waits : session.pendingResponse = some queued)
      (chunk : next = session.handleChunk index reader data link) :
      EntryMoves session next queued before (before.answer data session.chunks.length)

/-- What is known of a command that has just been queued, or refused. -/
structure Fresh (session : Session) (entry : QueuedCommand) : Prop where
  result : entry.result = none ∨ ∃ error, entry.result = some (.failed error)
  owner : entry.owner = .caller ∨ entry.owner = .nobody ∨
    entry.owner = .channel session.commands ∧ entry.acceptedOn = session.opens
  writtenOn : entry.writtenOn = none
  answeredBy : entry.answeredBy = none

/-- Every command of the one session is in the other, after a step of its own. -/
structure EntriesMove (session next : Session) : Prop where
  old : ∀ (queued : Nat) (before : QueuedCommand), session.queue[queued]? = some before →
    ∃ after, next.queue[queued]? = some after ∧ EntryMoves session next queued before after
  new : ∀ (queued : Nat) (after : QueuedCommand), next.queue[queued]? = some after →
    session.queue.length ≤ queued → Fresh session after

variable {session next : Session} {index queued : Nat} {writer : Writer}

/-- Every command is fresh, or was there before. -/
theorem EntriesMove.back (moved : EntriesMove session next) {after : QueuedCommand}
    (entered : next.queue[queued]? = some after) :
    (∃ before, session.queue[queued]? = some before ∧ EntryMoves session next queued before after) ∨
      Fresh session after := by
  -- A command that was in the queue is still there, and any other one is fresh.
  rcases Nat.lt_or_ge queued session.queue.length with inside | outside
  · obtain ⟨after', entered', moved⟩ := moved.old queued _ (List.getElem?_eq_getElem inside)
    obtain rfl : after' = after := Option.some.inj (entered'.symm.trans entered)
    exact .inl ⟨_, List.getElem?_eq_getElem inside, moved⟩
  · exact .inr (moved.new queued after entered outside)

/-- No command is forgotten. -/
theorem EntriesMove.grows (moved : EntriesMove session next) :
    session.queue.length ≤ next.queue.length := by
  -- The last command of the old queue would have no entry any more.
  refine Nat.le_of_not_lt fun shorter => ?_
  obtain ⟨after, entered, -⟩ := moved.old _ _ (List.getElem?_eq_getElem shorter)
  exact Nat.lt_irrefl _ (List.getElem?_eq_some_iff.mp entered).1

/-- A command that is discarded was the oldest one of the current channel. -/
theorem poll_entry (token : Nat) :
    session.poll.queue[token]? = session.queue[token]? ∨
      token ∈ session.bufferOf session.commands ∧
        session.poll.queue[token]? =
          (session.queue[token]?).map fun entry => { entry with owner := .nobody } := by
  unfold poll
  cases oldest : session.oldest with
  | none => exact .inl rfl
  | some queued =>
    -- The command polled is the first of the buffer.
    obtain ⟨from_, found, head⟩ := Option.bind_eq_some_iff.mp oldest
    simp only [own, List.getElem?_modify]
    by_cases same : queued = token
    · subst same
      exact .inr ⟨by simp [bufferOf, found, List.mem_of_head? head], by simp⟩
    · exact .inl (by simp [same])

namespace EntriesMove

/-- Where the queue stays, no entry moves. -/
theorem of_queue (queue : next.queue = session.queue) : EntriesMove session next where
  old queued before entered := ⟨before, queue ▸ entered, .same⟩
  new queued after entered outside := by
    have inside := (List.getElem?_eq_some_iff.mp entered).1
    rw [queue] at inside
    omega

/-- Where one entry is changed, only that one moves. -/
theorem of_modify {change : QueuedCommand → QueuedCommand}
    (queue : next.queue = session.queue.modify queued change)
    (moved : ∀ before, session.queue[queued]? = some before →
      EntryMoves session next queued before (change before)) : EntriesMove session next where
  old := by
    intro other before entered
    rw [queue, List.getElem?_modify, entered]
    -- Only the command that is changed has moved.
    by_cases same : queued = other
    · subst same
      exact ⟨change before, by simp, moved before entered⟩
    · exact ⟨before, by simp [same], .same⟩
  new := by
    intro other after entered outside
    have inside := (List.getElem?_eq_some_iff.mp entered).1
    rw [queue, List.length_modify] at inside
    omega

/-- In the middle of `send` the new command is nobody's, and an old one may have been discarded. -/
structure Admitting (session middle : Session) : Prop where
  old : ∀ token, token < session.queue.length → middle.queue[token]? = session.queue[token]? ∨
    token ∈ session.bufferOf session.commands ∧ middle.queue[token]? =
      (session.queue[token]?).map fun entry => { entry with owner := .nobody }
  new : ∃ entry, middle.queue[session.queue.length]? = some entry ∧ entry.result = none ∧
    (entry.owner = .caller ∨ entry.owner = .nobody) ∧ entry.writtenOn = none ∧
    entry.answeredBy = none
  length : middle.queue.length = session.queue.length + 1
  commands : middle.commands = session.commands
  opens : middle.opens = session.opens

namespace Admitting

variable {middle : Session}

/-- A new command is admitted at the end of the queue. -/
theorem appended (command : SerialCommand) :
    Admitting session { session with queue := session.queue ++ [{ command := command }] } where
  old token inside := .inl (List.getElem?_append_left inside)
  new := ⟨_, List.getElem?_concat_length, rfl, .inl rfl, rfl, rfl⟩
  length := by simp
  commands := rfl
  opens := rfl

/-- It is also admitted if the oldest command is refused for it. -/
theorem polled (command : SerialCommand) :
    Admitting session
      (Session.poll { session with queue := session.queue ++ [{ command := command }] }) := by
  obtain ⟨queue, channels, shape⟩ :=
    Session.poll_shape { session with queue := session.queue ++ [{ command := command }] }
  have polled (token : Nat) :=
    @poll_entry { session with queue := session.queue ++ [{ command := command }] } token
  -- Polling may discard an old command, or the new one itself.
  constructor
  case old =>
    intro token inside
    have appended : (session.queue ++ [{ command := command }])[token]? = session.queue[token]? :=
      List.getElem?_append_left inside
    rw [← appended]
    exact polled token
  case new =>
    rcases polled session.queue.length with same | ⟨-, discarded⟩
    · exact ⟨_, same.trans List.getElem?_concat_length, rfl, .inl rfl, rfl, rfl⟩
    · have new : (session.queue ++ [{ command := command }])[session.queue.length]? =
          some { command := command } := List.getElem?_concat_length
      exact ⟨_, discarded.trans (by rw [new]; rfl), rfl, .inr rfl, rfl, rfl⟩
  case length => simp [length_poll]
  case commands => rw [shape]
  case opens => rw [shape]

/-- The new command may be changed in the step that admits it. -/
theorem after (admitting : Admitting session middle) {change : QueuedCommand → QueuedCommand}
    (queue : next.queue = middle.queue.modify session.queue.length change)
    (fresh : ∀ entry, entry.result = none → (entry.owner = .caller ∨ entry.owner = .nobody) →
      entry.writtenOn = none → entry.answeredBy = none → Fresh session (change entry)) :
    EntriesMove session next where
  old := by
    intro token before entered
    have inside := (List.getElem?_eq_some_iff.mp entered).1
    -- The new command is another one than any old one.
    have different : session.queue.length ≠ token := by omega
    simp only [queue, List.getElem?_modify, different, if_false]
    rcases admitting.old token inside with same | ⟨held, discarded⟩
    · exact ⟨before, by simp [same, entered], .same⟩
    · exact ⟨_, by simp [discarded, entered], .discarded held⟩
  new := by
    intro token after entered outside
    have inside := (List.getElem?_eq_some_iff.mp entered).1
    rw [queue, List.length_modify, admitting.length] at inside
    -- There is one new command only.
    obtain rfl : token = session.queue.length := by omega
    obtain ⟨entry, there, result, owner, writtenOn, answeredBy⟩ := admitting.new
    rw [queue, List.getElem?_modify, there] at entered
    obtain rfl : change entry = after := by simpa using entered
    exact fresh entry result owner writtenOn answeredBy

/-- The new command may be refused in the step that admits it. -/
theorem refused (admitting : Admitting session middle) (error : SerialError) :
    EntriesMove session (middle.complete session.queue.length (.failed error)) := by
  refine admitting.after rfl fun entry result owner writtenOn answeredBy => ?_
  -- The new command has no result yet, and gets this one.
  unfold QueuedCommand.complete
  rw [result]
  refine ⟨.inr ⟨error, rfl⟩, ?_, writtenOn, answeredBy⟩
  exact owner.imp_right .inl

/-- The new command may be put into the buffer in the step that admits it. -/
theorem enqueued (admitting : Admitting session middle) :
    EntriesMove session (middle.enqueue session.queue.length) := by
  refine admitting.after rfl fun entry result owner writtenOn answeredBy => ?_
  refine ⟨.inl result, .inr (.inr ⟨?_, admitting.opens⟩), writtenOn, answeredBy⟩
  rw [admitting.commands]

end Admitting

/-- A new command changes at most the one that is thrown away for it. -/
theorem send (command : SerialCommand) : EntriesMove session (session.send command) := by
  have appended : Admitting session _ := .appended command
  unfold Session.send
  simp only
  -- In the order of `send`: terminal, not connected, room, drop the oldest, refuse.
  split
  · exact appended.refused _
  split
  · exact appended.refused _
  split
  · exact appended.enqueued
  split
  · split
    · exact (Admitting.polled command).enqueued
    · exact (Admitting.polled command).refused _
  · exact appended.refused _

/-- Every move of a writer moves the entries as they may be moved. -/
theorem inWriter {outcome : Outcome} (found : session.writers[index]? = some writer)
    (moved : WriterMoves session index writer outcome next) : EntriesMove session next := by
  cases moved with
  | @take channel queued from_ rest entry at_ bound there buffered entered =>
    have held : queued ∈ session.bufferOf channel := by simp [bufferOf, there, buffered]
    exact of_modify rfl fun _ _ => .taken found bound held
  | begin at_ entered live => exact of_queue (Turned.queue beginWriting_turned)
  | written at_ entered live => exact of_modify rfl fun _ _ => .written found at_
  | resumed at_ entered live => exact of_queue (Turned.queue (attemptEnded_turned _))
  | attempted at_ entered missed ended => exact of_queue (Turned.queue (attemptEnded_turned _))
  | retry at_ entered live => exact of_queue (Turned.queue beginAttempt_turned)
  | reported at_ entered =>
    unfold report
    simp only
    split
    · exact of_modify rfl fun _ _ => .armed found at_
    · exact of_modify rfl fun _ _ => .reported found at_
  | @failSettled queued error at_ =>
    -- What fails launches a loop at most, and then the command is completed.
    have completed : (session.writerFailed index writer queued error).queue =
        session.queue.modify queued fun entry => entry.complete (.failed error) := by
      show session.failSettle.queue.modify queued _ = _
      rw [Untouched.failSettle.queue]
    exact of_modify completed fun _ _ => .failed found at_
  | _ => exact of_queue rfl

/-- Every step of the session is a step of each of its commands. -/
theorem of_moves {action : Action} (moved : Moves session action next) :
    EntriesMove session next := by
  rcases moved.untouched_or_custodial with untouched | custodial
  · exact of_queue untouched.queue
  cases custodial with
  | send command => exact send command
  | disconnectStrike found at_ =>
    -- Disconnecting polls the channel as `send` does.
    have polled (token : Nat) := @poll_entry session.cancelWorkers token
    refine ⟨fun queued before entered => ?_, fun queued after entered outside => ?_⟩
    · rcases polled queued with same | ⟨held, discarded⟩
      · exact ⟨before, same.trans entered, .same⟩
      · refine ⟨_, discarded.trans ?_, .discarded held⟩
        show (session.queue[queued]?).map _ = _
        rw [entered]
        rfl
    · have inside := (List.getElem?_eq_some_iff.mp entered).1
      have length : session.cancelWorkers.poll.queue.length = session.queue.length := length_poll
      have inside : queued < session.cancelWorkers.poll.queue.length := inside
      omega
  | @chunk index reader link length buffer found at_ positive =>
    rcases session.handleChunk_cases index reader (receivedData length buffer) link with
      shape | ⟨queued, entry, waits, entered, accepts, shape⟩
    · exact of_queue (by rw [shape]; rfl)
    · exact of_modify (by rw [shape]) fun _ _ => .answered found at_ waits rfl
  | inWriter found moved => exact inWriter found moved
  | @inTimer index timer outcome next found moved =>
    cases moved with
    | fired at_ live fits =>
      unfold timerFired
      split
      · exact of_modify rfl fun _ _ => .timedOut timer.timeout
      · exact of_queue rfl
    | overflowed at_ live beyond => exact of_queue rfl
    | cancelled at_ cancelled => exact of_queue rfl
  | _ => exact of_queue rfl

end EntriesMove

end Session

end SerialPort
