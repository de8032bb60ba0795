import SerialPort.Session.Coroutines

/-! What a step announces: plain events, the data of a chunk, or how a reconnect loop gets on. -/

namespace SerialPort

/-- Whether an event tells neither of data nor of a reconnect loop. -/
def SerialEvent.isPlain : SerialEvent → Bool
  -- The other events are those of chunks and of reconnect loops.
  | .stateChanged _ => true
  | .commandSent _ _ => true
  | .commandTimedOut _ _ _ => true
  | .errorRaised _ => true
  | _ => false

namespace Session

/-- Nothing but plain events is announced, no chunk is handled, and the flag is not released. -/
structure Plain (session next : Session) : Prop where
  events : ∃ events, next.events = session.events ++ events ∧
    ∀ event ∈ events, event.isPlain = true
  chunks : next.chunks = session.chunks
  flag : session.reconnecting = true → next.reconnecting = true

variable {session middle next : Session} {index queued : Nat} {action : Action}

namespace Plain

/-- A step without events is plain. -/
theorem of_same (events : next.events = session.events) (chunks : next.chunks = session.chunks)
    (flag : next.reconnecting = session.reconnecting) : Plain session next :=
  ⟨⟨[], by rw [events, List.append_nil], nofun⟩, chunks, fun taken => flag.trans taken⟩

/-- A single plain event makes a plain step. -/
theorem of_event {event : SerialEvent} (plain : event.isPlain = true)
    (events : next.events = session.events ++ [event]) (chunks : next.chunks = session.chunks)
    (flag : next.reconnecting = session.reconnecting) : Plain session next := by
  refine ⟨⟨[event], events, fun other listed => ?_⟩, chunks, fun taken => flag.trans taken⟩
  rwa [List.mem_singleton.mp listed]

/-- The end of a failure is plain. -/
theorem failSettle : Plain session session.failSettle := by
  unfold Session.failSettle
  cases session.config with
  | none => exact .of_same rfl rfl rfl
  | some config =>
    simp only
    -- The flag is left as it is, unless it is free.
    split
    · split <;> exact ⟨⟨[], (List.append_nil _).symm, nofun⟩, rfl, fun _ => rfl⟩
    · exact .of_same rfl rfl rfl

/-- The beginning of a connection is plain. -/
theorem connectBegin {connect : Connect} : Plain session (session.connectBegin index connect) := by
  unfold Session.connectBegin
  -- Only a call that begins to connect announces it.
  split
  · exact .of_same rfl rfl rfl
  split
  · exact .of_same rfl rfl rfl
  · exact .of_event rfl rfl rfl rfl

/-- A call of `disconnect` is plain. -/
theorem disconnectCall : Plain session session.disconnectCall := by
  unfold Session.disconnectCall
  split
  · exact .of_same rfl rfl rfl
  · exact .of_event rfl rfl rfl rfl

/-- The end of the attempts for a command is announced, unless nothing has been sent. -/
theorem conclude {writer : Writer} {command : SerialCommand} (result : CommandResult) :
    Plain session (session.conclude index writer queued command result) := by
  cases result with
  | sent bytes => exact .of_event rfl rfl rfl rfl
  | timedOut timeout => exact .of_event rfl rfl rfl rfl
  | failed error => exact .of_event rfl rfl rfl rfl
  | _ => exact .of_same rfl rfl rfl

/-- The end of an attempt is plain. -/
theorem attemptEnded {writer : Writer} {command : SerialCommand} {attempt : Nat}
    (result : CommandResult) :
    Plain session (session.attemptEnded index writer queued command attempt result) := by
  unfold Session.attemptEnded
  split
  · -- The pause that follows, or the end of the writer, is no event.
    cases command.retryDelay.toMillis with
    | some millis => exact .of_same rfl rfl rfl
    | none => exact .of_same rfl rfl rfl
  · exact conclude result

/-- The beginning of an attempt is plain. -/
theorem beginAttempt {writer : Writer} {command : SerialCommand} {attempt : Nat} :
    Plain session (session.beginAttempt index writer queued command attempt) := by
  unfold Session.beginAttempt
  cases (writer.timeoutFor command).toMillis with
  | some millis => exact .of_same rfl rfl rfl
  | none => exact attemptEnded _

/-- The beginning of the first attempt is plain. -/
theorem beginWriting {writer : Writer} {command : SerialCommand} :
    Plain session (session.beginWriting index writer queued command) := by
  unfold Session.beginWriting
  -- Where there is no attempt at all, the failure is announced at once.
  split
  · exact conclude _
  · exact beginAttempt

/-- Every move of a writer is plain. -/
theorem inWriter {writer : Writer} {outcome : Outcome}
    (moved : WriterMoves session index writer outcome next) : Plain session next := by
  -- Every event of a writer is about its command or about a failure.
  cases moved with
  | begin at_ entered live => exact beginWriting
  | resumed at_ entered live => exact attemptEnded _
  | attempted at_ entered missed ended => exact attemptEnded _
  | retry at_ entered live => exact beginAttempt
  | reported at_ entered =>
    unfold report
    simp only
    split <;> exact .of_same rfl rfl rfl
  | failChanged at_ => exact .of_event rfl rfl rfl rfl
  | failSettled at_ =>
    obtain ⟨events, chunks, flag⟩ : Plain session session.failSettle := failSettle
    exact ⟨events, chunks, flag⟩
  | _ => exact .of_same rfl rfl rfl

end Plain

/-- A chunk is announced in the step in which it is handled. -/
theorem handleChunk_announces (index : Nat) (reader : Reader) (data : Bytes) (link : Option Nat) :
    (session.handleChunk index reader data link).events =
        session.events ++ [.dataReceived data] ∧
      (session.handleChunk index reader data link).chunks = session.chunks ++
        [{ data := data
           reader := index
           readOn := if link = session.link then link else none }] := by
  -- Whether the chunk answers a command or not, it is announced.
  rcases session.handleChunk_cases index reader data link with
    shape | ⟨queued, -, -, -, -, shape⟩ <;> rw [shape] <;> exact ⟨rfl, rfl⟩

/-- What a step announces. -/
inductive Announces (session : Session) : Action → Session → Prop where
  | plain {action : Action} {next : Session} (plain : Plain session next) :
      Announces session action next
  | chunk {index : Nat} {reader : Reader} {length : Int} {buffer : Bytes} {link : Option Nat}
      (found : session.readers[index]? = some reader) (at_ : reader.point = .reading link)
      (positive : 0 < length) :
      Announces session (.resume (.reader index) (.returns length buffer))
        (session.handleChunk index reader (receivedData length buffer) link)
  | inLoop {index : Nat} {loop : Loop} {outcome : Outcome} {next : Session}
      (found : session.loops[index]? = some loop)
      (moved : LoopMoves session index loop outcome next) :
      Announces session (.resume (.loop index) outcome) next

/-- Data is announced by readers, and the progress of reconnecting by loops. -/
theorem Moves.announces (moved : Moves session action next) : Announces session action next := by
  -- What is left are the chunks and the loops, which have rules of their own.
  cases moved with
  | @send command =>
    obtain ⟨queue, channels, shape⟩ := session.send_shape command
    exact .plain (.of_same (by rw [shape]) (by rw [shape]) (by rw [shape]))
  | disconnect => exact .plain .disconnectCall
  | close =>
    obtain ⟨shutdown, shape⟩ := session.closeCall_shape
    exact .plain (.of_same (by rw [shape]) (by rw [shape]) (by rw [shape]))
  | inConnect found moved =>
    cases moved with
    | begin at_ live => exact .plain .connectBegin
    | opened at_ => exact .plain (.of_event rfl rfl rfl rfl)
    | failed at_ => exact .plain (.of_event rfl rfl rfl rfl)
    | caught at_ cancelled => exact .plain (.of_event rfl rfl rfl rfl)
    | failChanged at_ => exact .plain (.of_event rfl rfl rfl rfl)
    | failSettled at_ =>
      obtain ⟨events, chunks, flag⟩ : Plain session session.failSettle := .failSettle
      exact .plain ⟨events, chunks, flag⟩
    | _ => exact .plain (.of_same rfl rfl rfl)
  | inDisconnect found moved =>
    cases moved with
    | strike at_ =>
      -- Striking the workers down is silent.
      obtain ⟨queue, channels, shape⟩ := session.cancelWorkers.poll_shape
      refine .plain (.of_same ?_ ?_ ?_) <;> simp only [disconnectStrike, shape] <;> rfl
    | closed at_ => exact .plain (.of_event rfl rfl rfl rfl)
    | _ => exact .plain (.of_same rfl rfl rfl)
  | inShutdown found moved =>
    cases moved with
    | closed => exact .plain (.of_event rfl rfl rfl rfl)
    | _ => exact .plain (.of_same rfl rfl rfl)
  | inReader found moved =>
    cases moved with
    | chunk at_ positive => exact .chunk found at_ positive
    | failed at_ => exact .plain (.of_event rfl rfl rfl rfl)
    | failChanged at_ => exact .plain (.of_event rfl rfl rfl rfl)
    | failSettled at_ =>
      obtain ⟨events, chunks, flag⟩ : Plain session session.failSettle := .failSettle
      exact .plain ⟨events, chunks, flag⟩
    | _ => exact .plain (.of_same rfl rfl rfl)
  | inWriter found moved => exact .plain (.inWriter moved)
  | inTimer found moved =>
    cases moved with
    | fired at_ live fits =>
      obtain ⟨queue, slot, shape⟩ := session.timerFired_shape _ _
      exact .plain (.of_same (by rw [shape]) (by rw [shape]) (by rw [shape]))
    | _ => exact .plain (.of_same rfl rfl rfl)
  | inLoop found moved => exact .inLoop found moved
  | _ => exact .plain (.of_same rfl rfl rfl)

/-- Nobody but the loop that has finished releases the flag. -/
theorem Moves.flag (moved : Moves session action next) (taken : session.reconnecting = true) :
    next.reconnecting = true ∨ ∃ index loop outcome, action = .resume (.loop index) outcome ∧
      session.loops[index]? = some loop ∧ LoopMoves session index loop outcome next := by
  -- Only a loop that finishes sets the flag back, so the others leave it.
  cases moved.announces with
  | plain plain => exact .inl (plain.flag taken)
  | @chunk index reader length buffer link found at_ positive =>
    rcases session.handleChunk_cases index reader (receivedData length buffer) link with
      shape | ⟨queued, -, -, -, -, shape⟩ <;> exact .inl (by rw [shape]; exact taken)
  | inLoop found moved => exact .inr ⟨_, _, _, rfl, found, moved⟩

end Session

end SerialPort
