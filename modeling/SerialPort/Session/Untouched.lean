import SerialPort.Session.Moves

/-! Which steps leave the commands, and everything that refers to them, as they are. -/

namespace SerialPort

/-- The errors with which `send` refuses a command. -/
def SerialError.isRefusal : SerialError → Bool
  | .alreadyClosed => true
  | .notConnected => true
  | .queueFull => true
  | _ => false

namespace Session

/-- No command moves: only states, events, calls, readers, and loops may differ. -/
structure Untouched (session next : Session) : Prop where
  queue : next.queue = session.queue
  channels : next.channels = session.channels
  commands : next.commands = session.commands
  writers : next.writers = session.writers
  writer : next.writer = session.writer
  timers : next.timers = session.timers
  pendingResponse : next.pendingResponse = session.pendingResponse
  chunks : next.chunks = session.chunks
  config : next.config = session.config
  scopeActive : next.scopeActive = session.scopeActive
  opens : next.opens = session.opens
  link : next.link = session.link ∨ next.link = none

namespace Untouched

variable {session middle next : Session}

/-- What two steps in a row leave untouched each, they leave untouched together. -/
theorem trans (former : Untouched session middle) (latter : Untouched middle next) :
    Untouched session next where
  queue := latter.queue.trans former.queue
  channels := latter.channels.trans former.channels
  commands := latter.commands.trans former.commands
  writers := latter.writers.trans former.writers
  writer := latter.writer.trans former.writer
  timers := latter.timers.trans former.timers
  pendingResponse := latter.pendingResponse.trans former.pendingResponse
  chunks := latter.chunks.trans former.chunks
  config := latter.config.trans former.config
  scopeActive := latter.scopeActive.trans former.scopeActive
  opens := latter.opens.trans former.opens
  -- The link is the only field that may change, and only to none.
  link := by
    rcases latter.link with kept | closed
    · rw [kept]
      exact former.link
    · exact .inr closed

/-- A connecting coroutine has no command. -/
theorem setConnect (index : Nat) (connect : Connect) :
    Untouched session (session.setConnect index connect) := by
  constructor <;> first | rfl | exact .inl rfl

/-- A disconnecting coroutine has no command. -/
theorem setDisconnect (index : Nat) (disconnect : Disconnect) :
    Untouched session (session.setDisconnect index disconnect) := by
  constructor <;> first | rfl | exact .inl rfl

/-- A reader has no command. -/
theorem setReader (index : Nat) (reader : Reader) :
    Untouched session (session.setReader index reader) := by
  constructor <;> first | rfl | exact .inl rfl

/-- A reconnecting loop has no command. -/
theorem setLoop (index : Nat) (loop : Loop) : Untouched session (session.setLoop index loop) := by
  constructor <;> first | rfl | exact .inl rfl

/-- Opening the transport touches no command. -/
theorem callOpen : Untouched session session.callOpen := by
  constructor <;> first | rfl | exact .inl rfl

/-- Closing the transport touches no command. -/
theorem callClose : Untouched session session.callClose := by
  constructor <;> first | rfl | exact .inr rfl

/-- A failure that is announced touches no command. -/
theorem failRaise (error : SerialError) : Untouched session (session.failRaise error) := by
  constructor <;> first | rfl | exact .inl rfl

/-- Neither does the state that it changes. -/
theorem failChange : Untouched session session.failChange := by
  constructor <;> first | rfl | exact .inl rfl

/-- Neither does the loop that it may start. -/
theorem failSettle : Untouched session session.failSettle := by
  unfold Session.failSettle
  repeat' split
  all_goals constructor <;> first | rfl | exact .inl rfl

/-- The beginning of a connection touches no command. -/
theorem connectBegin (index : Nat) (connect : Connect) :
    Untouched session (session.connectBegin index connect) := by
  unfold Session.connectBegin
  repeat' split
  all_goals constructor <;> first | rfl | exact .inl rfl

/-- A connection that fails touches no command. -/
theorem connectFailed (index : Nat) (connect : Connect) (cause : Throwable) :
    Untouched session (session.connectFailed index connect cause) :=
  (failRaise _).trans (setConnect _ _)

/-- A call of `disconnect` touches no command. -/
theorem disconnectCall : Untouched session session.disconnectCall := by
  unfold Session.disconnectCall
  split
  all_goals constructor <;> first | rfl | exact .inl rfl

/-- The end of the transport's closing touches no command. -/
theorem disconnectClosed (index : Nat) (disconnect : Disconnect) :
    Untouched session (session.disconnectClosed index disconnect) := by
  constructor <;> first | rfl | exact .inl rfl

/-- A call of `close` touches no command yet. -/
theorem closeCall : Untouched session session.closeCall := by
  unfold Session.closeCall
  split
  all_goals constructor <;> first | rfl | exact .inl rfl

/-- The end of a loop touches no command. -/
theorem loopFinished (index : Nat) (loop : Loop) :
    Untouched session (session.loopFinished index loop) := by
  constructor <;> first | rfl | exact .inl rfl

/-- An attempt of a loop touches no command. -/
theorem loopAttempt (index : Nat) (loop : Loop) (attempt : Nat) :
    Untouched session (session.loopAttempt index loop attempt) := by
  unfold Session.loopAttempt
  repeat' split
  all_goals constructor <;> first | rfl | exact .inl rfl

/-- A loop that opens the transport touches no command. -/
theorem loopConnecting (index : Nat) (loop : Loop) (attempt : Nat) :
    Untouched session (session.loopConnecting index loop attempt) := by
  constructor <;> first | rfl | exact .inl rfl

/-- An attempt of a loop that fails touches no command. -/
theorem loopFailed (index : Nat) (loop : Loop) (attempt : Nat) (cause : Throwable) :
    Untouched session (session.loopFailed index loop attempt cause) := by
  constructor <;> first | rfl | exact .inl rfl

/-- An attempt of a loop that succeeds touches no command. -/
theorem loopSucceeded (index : Nat) (loop : Loop) :
    Untouched session (session.loopSucceeded index loop) := by
  constructor <;> first | rfl | exact .inl rfl

end Untouched

/-- The steps that may move a command. -/
inductive Custodial (session : Session) : Action → Session → Prop where
  | send (command : SerialCommand) : Custodial session (.send command) (session.send command)
  | disconnectStrike {index : Nat} {disconnect : Disconnect}
      (found : session.disconnects[index]? = some disconnect)
      (at_ : disconnect.point = .emitClosing) :
      Custodial session (.resume (.disconnect index) .resumes)
        (session.disconnectStrike index disconnect)
  | shutdownStrike (at_ : session.shutdown = some .dispatch) :
      Custodial session (.resume .shutdown .resumes) session.shutdownStrike
  | shutdownClosed (at_ : session.shutdown = some .closing) :
      Custodial session (.resume .shutdown .resumes) session.shutdownClosed
  | shutdownFinished (at_ : session.shutdown = some .emitClosed) :
      Custodial session (.resume .shutdown .resumes) session.shutdownFinished
  | connectOpened {index : Nat} {connect : Connect}
      (found : session.connects[index]? = some connect) (at_ : connect.point = .opening) :
      Custodial session (.resume (.connect index) .resumes) (session.connectOpened index connect)
  | loopStrike {index : Nat} {loop : Loop} (found : session.loops[index]? = some loop)
      (at_ : loop.point = .dispatch) (live : loop.cancelled = false) :
      Custodial session (.resume (.loop index) .resumes) (session.loopStrike index loop)
  | loopOpened {index attempt : Nat} {loop : Loop} (found : session.loops[index]? = some loop)
      (at_ : loop.point = .opening attempt) :
      Custodial session (.resume (.loop index) .resumes) (session.loopOpened index loop attempt)
  | chunk {index : Nat} {reader : Reader} {link : Option Nat} {length : Int} {buffer : Bytes}
      (found : session.readers[index]? = some reader) (at_ : reader.point = .reading link)
      (positive : 0 < length) :
      Custodial session (.resume (.reader index) (.returns length buffer))
        (session.handleChunk index reader (receivedData length buffer) link)
  | inWriter {index : Nat} {writer : Writer} {outcome : Outcome} {next : Session}
      (found : session.writers[index]? = some writer)
      (moved : WriterMoves session index writer outcome next) :
      Custodial session (.resume (.writer index) outcome) next
  | inTimer {index : Nat} {timer : Timer} {outcome : Outcome} {next : Session}
      (found : session.timers[index]? = some timer)
      (moved : TimerMoves session index timer outcome next) :
      Custodial session (.resume (.timer index) outcome) next

/-- A step either leaves the commands alone or is one of the custodial steps. -/
theorem Moves.untouched_or_custodial {session next : Session} {action : Action}
    (moved : Moves session action next) :
    Untouched session next ∨ Custodial session action next := by
  cases moved with
  | connect => exact .inl (by constructor <;> first | rfl | exact .inl rfl)
  | send => exact .inr (.send _)
  | disconnect => exact .inl .disconnectCall
  | close => exact .inl .closeCall
  | cancelConnect found => exact .inl (.setConnect _ _)
  | cancelDisconnect found => exact .inl (.setDisconnect _ _)
  | inConnect found moved =>
    cases moved with
    | begin at_ live => exact .inl (.connectBegin _ _)
    | callOpen at_ => exact .inl (.trans .callOpen (.setConnect _ _))
    | opened at_ => exact .inr (.connectOpened found at_)
    | failed at_ => exact .inl (.connectFailed _ _ _)
    | caught at_ cancelled => exact .inl (.connectFailed _ _ _)
    | returned at_ => exact .inl (.setConnect _ _)
    | failChanged at_ => exact .inl (.trans .failChange (.setConnect _ _))
    | failSettled at_ => exact .inl (.trans .failSettle (.setConnect _ _))
    | thrown open_ outside cancelled => exact .inl (.setConnect _ _)
  | inDisconnect found moved =>
    cases moved with
    | strike at_ => exact .inr (.disconnectStrike found at_)
    | closed at_ => exact .inl (.disconnectClosed _ _)
    | returned at_ => exact .inl (.setDisconnect _ _)
    | thrown open_ ends => exact .inl (.setDisconnect _ _)
  | inShutdown found moved =>
    cases moved with
    | strike => exact .inr (.shutdownStrike found)
    | closed => exact .inr (.shutdownClosed found)
    | thrown => exact .inl (by constructor <;> first | rfl | exact .inl rfl)
    | finished => exact .inr (.shutdownFinished found)
  -- A reader touches the commands only with a chunk that it has read.
  | inReader found moved =>
    cases moved with
    | callRead at_ live => exact .inl (.setReader _ _)
    | chunk at_ positive => exact .inr (.chunk found at_ positive)
    | nothing at_ empty => exact .inl (.setReader _ _)
    | failed at_ => exact .inl (.trans (.failRaise _) (.setReader _ _))
    | interrupted at_ => exact .inl (.setReader _ _)
    | failChanged at_ => exact .inl (.trans .failChange (.setReader _ _))
    | failSettled at_ => exact .inl (.trans .failSettle (.setReader _ _))
    | cancelled open_ cancelled => exact .inl (.setReader _ _)
  | inWriter found moved => exact .inr (.inWriter found moved)
  | inTimer found moved => exact .inr (.inTimer found moved)
  -- A loop's strikes and its open are the moves that start or end workers.
  | inLoop found moved =>
    cases moved with
    | strike at_ live => exact .inr (.loopStrike found at_ live)
    | first at_ => exact .inl (.loopAttempt _ _ _)
    | next at_ => exact .inl (.loopAttempt _ _ _)
    | announced at_ => exact .inl (.setLoop _ _)
    | connecting at_ live => exact .inl (.loopConnecting _ _ _)
    | callOpen at_ => exact .inl (.trans .callOpen (.setLoop _ _))
    | opened at_ => exact .inr (.loopOpened found at_)
    | failed at_ => exact .inl (.loopFailed _ _ _ _)
    | caught at_ cancelled => exact .inl (.loopFailed _ _ _ _)
    | succeeded at_ => exact .inl (.loopSucceeded _ _)
    | finished at_ => exact .inl (.loopFinished _ _)
    | closeThrew at_ => exact .inl (.loopFinished _ _)
    | never at_ cancelled => exact .inl (.setLoop _ _)
    | cancelled open_ begun outside cancelled => exact .inl (.loopFinished _ _)

/-! What the custodial steps change at most. -/

/-- Cancelling the workers changes no writer otherwise. -/
theorem cancelWorkers_writers {session : Session} (index : Nat) (writer : Writer)
    (found : session.cancelWorkers.writers[index]? = some writer) :
    ∃ before, session.writers[index]? = some before ∧
      (writer = before ∨ writer = before.cancel) := by
  simp only [cancelWorkers, cancelJob] at found
  cases job : session.writer with
  -- Without a writer in use nothing is cancelled.
  | none =>
    simp only [job] at found
    exact ⟨writer, found, .inl rfl⟩
  | some other =>
    simp only [job, List.getElem?_modify] at found
    obtain ⟨before, there, rfl⟩ := Option.map_eq_some_iff.mp found
    refine ⟨before, there, ?_⟩
    split
    · exact .inr rfl
    · exact .inl rfl

/-- Refusing the oldest command changes the queue and the channels. -/
theorem poll_shape (session : Session) :
    ∃ queue channels, session.poll = { session with queue := queue, channels := channels } := by
  unfold poll
  split <;> exact ⟨_, _, rfl⟩

/-- Sending changes the queue and the channels. -/
theorem send_shape (session : Session) (command : SerialCommand) :
    ∃ queue channels,
      session.send command = { session with queue := queue, channels := channels } := by
  unfold send
  simp only
  split
  · exact ⟨_, _, rfl⟩
  split
  · exact ⟨_, _, rfl⟩
  split
  · exact ⟨_, _, rfl⟩
  split
  · -- Full and dropping the oldest: the poll changes a channel and an entry.
    obtain ⟨queue, channels, polled⟩ :=
      poll_shape { session with queue := session.queue ++ [{ command := command }] }
    rw [polled]
    split <;> exact ⟨_, _, rfl⟩
  · exact ⟨_, _, rfl⟩

/-- Whether the step throws away the oldest command of a full channel. -/
def evictsBy (session : Session) : Action → Bool
  | .send _ =>
    !session.terminal && session.state.isConnected && !session.hasRoom &&
      session.config.any (fun config => config.queue.overflow == .dropOldest) &&
      session.oldest.isSome
  | _ => false

/-- Refusing a command takes no entry out of the queue. -/
theorem length_poll {session : Session} : session.poll.queue.length = session.queue.length := by
  unfold poll
  split
  · exact List.length_modify _ _ _
  · rfl

/-- Without a command in the buffer there is nothing to refuse. -/
theorem poll_nothing {session : Session} (oldest : session.oldest = none) :
    session.poll = session := by
  unfold poll
  rw [oldest]

/-- Unless it evicts another one, a command is refused at once or enters the channel. -/
theorem send_cases {session : Session} {command : SerialCommand}
    (keeps : session.evictsBy (.send command) = false) :
    (∃ error, error.isRefusal = true ∧ session.send command =
      Session.complete { session with queue := session.queue ++ [{ command := command }] }
        session.queue.length (.failed error)) ∨
      (session.terminal = false ∧ session.state.isConnected = true ∧ session.hasRoom = true ∧
        session.send command =
          Session.enqueue { session with queue := session.queue ++ [{ command := command }] }
            session.queue.length) := by
  unfold send
  simp only
  split
  · -- A closed session refuses the command, and then one that is not connected.
    exact .inl ⟨_, rfl, rfl⟩
  split
  · exact .inl ⟨_, rfl, rfl⟩
  next terminal connected =>
  split
  · next room => exact .inr ⟨by simpa using terminal, by simpa using connected, room, rfl⟩
  next full =>
  have full : session.hasRoom = false := by simpa [hasRoom] using full
  split
  · next drops =>
    -- There is no oldest command, so nothing is thrown away.
    have oldest : session.oldest = none := by
      simp_all [evictsBy]
    have oldest : Session.oldest { session with
        queue := session.queue ++ [{ command := command }] } = none := oldest
    have polled := poll_nothing oldest
    rw [polled]
    refine .inl ⟨.queueFull, rfl, ?_⟩
    rw [if_neg]
    simpa [hasRoom] using full
  · -- Under `Reject` a full channel refuses the command.
    exact .inl ⟨_, rfl, rfl⟩

/-- The chunk that a read has returned, with the connection it was read on. -/
def chunkFrom (session : Session) (index : Nat) (data : Bytes) (link : Option Nat) : Chunk :=
  { data := data, reader := index, readOn := if link = session.link then link else none }

/-- A chunk that answers nothing is only recorded and published. -/
def pass (session : Session) (index : Nat) (reader : Reader) (data : Bytes) (link : Option Nat) :
    Session :=
  { session with
    chunks := session.chunks ++ [session.chunkFrom index data link]
    events := session.events ++ [.dataReceived data]
    readers := session.readers.set index { reader with point := .emitReceived } }

/-- The chunk answers the command in the slot, or no command. -/
theorem handleChunk_cases (session : Session) (index : Nat) (reader : Reader) (data : Bytes)
    (link : Option Nat) :
    session.handleChunk index reader data link = session.pass index reader data link ∨
      ∃ queued entry, session.pendingResponse = some queued ∧
        session.queue[queued]? = some entry ∧ entry.command.accepts data = true ∧
        session.handleChunk index reader data link =
          { session.pass index reader data link with
            queue := session.queue.modify queued fun entry =>
              entry.answer data session.chunks.length
            pendingResponse := none } := by
  unfold handleChunk matchResponse
  cases waits : session.pendingResponse with
  -- Nobody waits for a response.
  | none => exact .inl (by simp [pass, chunkFrom, emit, setReader, waits])
  | some queued =>
    simp only
    split
    · next accepts =>
      -- The slot is emptied in the same stretch, and the command gets the chunk.
      obtain ⟨entry, entered, accepts⟩ := (Option.any_eq_true _ _).mp accepts
      exact .inr ⟨queued, entry, rfl, entered, accepts, rfl⟩
    · exact .inl (by simp [pass, chunkFrom, emit, setReader, waits])

/-- A timer changes the queue and the slot, and itself. -/
theorem timerFired_shape (session : Session) (index : Nat) (timer : Timer) :
    ∃ queue slot, session.timerFired index timer =
      { session with
        queue := queue
        pendingResponse := slot
        timers := session.timers.set index { timer with point := .fired } } := by
  unfold timerFired
  split <;> exact ⟨_, _, rfl⟩

end Session

end SerialPort
