import SerialPort.Session.Untouched

/-! What the attempts to write a command make of the writer, apart from the rest of the session. -/

namespace SerialPort

namespace Writer

/-- The writer once its command has a result. -/
def concluded (writer : Writer) (queued : Nat) (result : CommandResult) : Writer :=
  match result with
  | .failed error => { writer with point := .failing queued error .raised }
  | _ => { writer with point := .reporting queued result }

/-- The writer once an attempt has ended. -/
def attempted (writer : Writer) (queued : Nat) (command : SerialCommand) (attempt : Nat)
    (result : CommandResult) : Writer :=
  let writer := { writer with attempts := writer.attempts ++ [(queued, result)] }
  if !result.isSent && attempt + 1 < command.attempts then
    match command.retryDelay.toMillis with
    | some _ => { writer with point := .retrying queued (attempt + 1) }
    | none => { writer with point := .finished }
  else writer.concluded queued result

/-- The writer once an attempt has begun. -/
def attempting (writer : Writer) (queued : Nat) (command : SerialCommand) (attempt : Nat)
    (link : Option Nat) : Writer :=
  match (writer.timeoutFor command).toMillis with
  | some _ => { writer with point := .writing queued attempt link }
  | none =>
    writer.attempted queued command attempt (.failed (.writeFailed (some .arithmeticException)))

/-- The writer once the pause before the first attempt is over. -/
def began (writer : Writer) (queued : Nat) (command : SerialCommand) (link : Option Nat) :
    Writer :=
  if command.attempts = 0 then writer.concluded queued (.failed (.writeFailed none))
  else writer.attempting queued command 0 link

/-- Nothing but the point and the attempts has changed. -/
structure Kept (writer turned : Writer) : Prop where
  config : turned.config = writer.config
  cancelled : turned.cancelled = writer.cancelled
  channel : turned.channel = writer.channel
  connection : turned.connection = writer.connection
  taken : turned.taken = writer.taken

/-! The attempts are about the command in the writer's hands, which may only lose it. -/

/-- An attempt is in progress in the call of the transport, or when that has completed. -/
theorem tries_cases {point : WriterPoint} {queued attempt : Nat}
    (tries : point.tries = some (queued, attempt)) :
    (∃ link, point = .writing queued attempt link) ∨
      ∃ bytes, point = .resuming queued attempt bytes := by
  cases point <;> simp_all [WriterPoint.tries]

/-- An attempt is made at the command in the writer's hands. -/
theorem held_of_tries {point : WriterPoint} {queued attempt : Nat}
    (tries : point.tries = some (queued, attempt)) : point.held = some queued := by
  rcases tries_cases tries with ⟨link, rfl⟩ | ⟨bytes, rfl⟩ <;> rfl

variable {writer : Writer} {queued token attempt : Nat} {command : SerialCommand}
  {link : Option Nat}

/-- A command that has a result is still in the hands. -/
theorem concluded_held (result : CommandResult) :
    (writer.concluded queued result).point.held = some queued := by
  cases result <;> rfl

/-- The end of an attempt takes no other command into the hands. -/
theorem attempted_held (result : CommandResult)
    (held : (writer.attempted queued command attempt result).point.held = some token) :
    queued = token := by
  unfold attempted at held
  split at held
  · -- With attempts left the command stays in hand, if the pause between them can be measured.
    cases millis : command.retryDelay.toMillis with
    | some millis =>
      simp only [millis] at held
      exact Option.some.inj held
    | none => simp [millis, WriterPoint.held] at held
  · rw [concluded_held] at held
    exact Option.some.inj held

/-- The beginning of an attempt takes no other command into the hands. -/
theorem attempting_held
    (held : (writer.attempting queued command attempt link).point.held = some token) :
    queued = token := by
  unfold attempting at held
  -- A timeout that cannot be measured ends the attempt at once.
  cases millis : (writer.timeoutFor command).toMillis with
  | some millis =>
    simp only [millis] at held
    exact Option.some.inj held
  | none =>
    simp only [millis] at held
    exact attempted_held _ held

/-- The first attempt takes no other command into the hands. -/
theorem began_held (held : (writer.began queued command link).point.held = some token) :
    queued = token := by
  unfold began at held
  -- Without a single attempt the command has failed already.
  split at held
  · rw [concluded_held] at held
    exact Option.some.inj held
  · exact attempting_held held

/-- With a pause that can be measured the command stays in the hands behind an attempt. -/
theorem attempted_holds (measured : command.retryDelay.toMillis.isSome) (result : CommandResult) :
    (writer.attempted queued command attempt result).point.held = some queued := by
  obtain ⟨millis, measured⟩ := Option.isSome_iff_exists.mp measured
  unfold attempted
  split
  · simp only [measured]
    rfl
  · exact concluded_held _

/-- With a pause that can be measured the command stays in the hands while an attempt begins. -/
theorem attempting_holds (measured : command.retryDelay.toMillis.isSome) :
    (writer.attempting queued command attempt link).point.held = some queued := by
  unfold attempting
  cases (writer.timeoutFor command).toMillis with
  | some millis => rfl
  | none => exact attempted_holds measured _

/-- With a pause that can be measured the command stays in the hands when the attempts begin. -/
theorem began_holds (measured : command.retryDelay.toMillis.isSome) :
    (writer.began queued command link).point.held = some queued := by
  unfold began
  split
  · exact concluded_held _
  · exact attempting_holds measured

/-- What has been sent ends the loop, whatever attempts are left. -/
theorem attempted_sent {bytes : Int} :
    writer.attempted queued command attempt (.sent bytes) =
      { writer with
        point := .reporting queued (.sent bytes)
        attempts := writer.attempts ++ [(queued, .sent bytes)] } := by
  simp [attempted, concluded, CommandResult.isSent]

/-- A result only changes the point. -/
theorem concluded_kept (result : CommandResult) : Kept writer (writer.concluded queued result) := by
  cases result <;> constructor <;> rfl

/-- The end of an attempt only changes the point, and logs the attempt. -/
theorem attempted_kept (result : CommandResult) :
    Kept writer (writer.attempted queued command attempt result) := by
  unfold attempted
  split
  · cases command.retryDelay.toMillis <;> constructor <;> rfl
  · cases result <;> constructor <;> rfl

/-- The beginning of an attempt only changes the point, and logs an attempt that cannot be timed. -/
theorem attempting_kept : Kept writer (writer.attempting queued command attempt link) := by
  unfold attempting
  cases (writer.timeoutFor command).toMillis with
  | some millis => constructor <;> rfl
  | none => exact attempted_kept _

/-- The first attempt changes no more than any other. -/
theorem began_kept : Kept writer (writer.began queued command link) := by
  unfold began
  split
  · exact concluded_kept _
  · exact attempting_kept

/-- A result is not logged once more when the command is concluded. -/
theorem concluded_attempts (result : CommandResult) :
    (writer.concluded queued result).attempts = writer.attempts := by
  cases result <;> rfl

/-- The end of an attempt logs its result. -/
theorem attempted_attempts (result : CommandResult) :
    (writer.attempted queued command attempt result).attempts =
      writer.attempts ++ [(queued, result)] := by
  unfold attempted
  split
  · cases command.retryDelay.toMillis <;> rfl
  · cases result <;> rfl

/-- The beginning of an attempt logs nothing, or that it has failed. -/
theorem attempting_attempts :
    (writer.attempting queued command attempt link).attempts = writer.attempts ∨
      ∃ error, (writer.attempting queued command attempt link).attempts =
        writer.attempts ++ [(queued, .failed error)] := by
  unfold attempting
  cases (writer.timeoutFor command).toMillis with
  | some millis => exact .inl rfl
  | none => exact .inr ⟨_, attempted_attempts _⟩

/-- So does the beginning of the first attempt. -/
theorem began_attempts :
    (writer.began queued command link).attempts = writer.attempts ∨
      ∃ error, (writer.began queued command link).attempts =
        writer.attempts ++ [(queued, .failed error)] := by
  unfold began
  split
  · exact .inl (concluded_attempts _)
  · exact attempting_attempts

/-! A command in the hands stays there until the attempts for it have come to an end. -/

/-- A writer with a result is busy with the command. -/
theorem concluded_engaged (result : CommandResult) :
    (writer.concluded queued result).point ≠ .dispatch ∧
      (writer.concluded queued result).point ≠ .receiving := by
  cases result <;> exact ⟨nofun, nofun⟩

/-- A writer is busy with the command behind an attempt. -/
theorem attempted_engaged (result : CommandResult) :
    (writer.attempted queued command attempt result).point ≠ .dispatch ∧
      (writer.attempted queued command attempt result).point ≠ .receiving := by
  unfold attempted
  split
  · cases command.retryDelay.toMillis <;> exact ⟨nofun, nofun⟩
  · exact concluded_engaged _

/-- A writer is busy with the command while an attempt begins. -/
theorem attempting_engaged :
    (writer.attempting queued command attempt link).point ≠ .dispatch ∧
      (writer.attempting queued command attempt link).point ≠ .receiving := by
  unfold attempting
  cases (writer.timeoutFor command).toMillis with
  | some millis => exact ⟨nofun, nofun⟩
  | none => exact attempted_engaged _

/-- A writer is busy with the command from the first attempt on. -/
theorem began_engaged :
    (writer.began queued command link).point ≠ .dispatch ∧
      (writer.began queued command link).point ≠ .receiving := by
  unfold began
  split
  · exact concluded_engaged _
  · exact attempting_engaged

/-- The writer has no result of a write, and any write it has begun goes to this connection. -/
structure Unwritten (link : Option Nat) (point : WriterPoint) : Prop where
  writes : ∀ queued attempt link', point = .writing queued attempt link' → link' = link
  reports : ∀ queued result, point = .reporting queued result → result.isSent = false
  resumes : ∀ queued attempt bytes, point ≠ .resuming queued attempt bytes

/-- A result that is no success is none of a write. -/
theorem concluded_unwritten {result : CommandResult} (missed : result.isSent = false) :
    Unwritten link (writer.concluded queued result).point := by
  cases result with
  -- A failure is not reported, and anything else only with the result there is.
  | failed error => exact ⟨nofun, nofun, nofun⟩
  | _ =>
    refine ⟨nofun, fun token result' at_ => ?_, nofun⟩
    cases at_
    exact missed

/-- Behind an attempt that has missed there is no result of a write. -/
theorem attempted_unwritten {result : CommandResult} (missed : result.isSent = false) :
    Unwritten link (writer.attempted queued command attempt result).point := by
  unfold attempted
  split
  · -- Between two attempts nothing is being written or reported.
    cases command.retryDelay.toMillis <;> exact ⟨nofun, nofun, nofun⟩
  · exact concluded_unwritten missed

/-- An attempt that has ended is no longer being written. -/
theorem attempted_ended (result : CommandResult) (token attempt' : Nat) (link : Option Nat) :
    (writer.attempted queued command attempt result).point ≠ .writing token attempt' link := by
  unfold attempted
  split
  · cases command.retryDelay.toMillis <;> exact nofun
  · cases result <;> exact nofun

/-- An attempt that begins calls the transport on the given link, if it calls it at all. -/
theorem attempting_unwritten :
    Unwritten link (writer.attempting queued command attempt link).point := by
  unfold attempting
  cases (writer.timeoutFor command).toMillis with
  | some millis =>
    -- The attempt writes to the connection of the moment.
    refine ⟨fun token attempt' link' at_ => ?_, nofun, nofun⟩
    cases at_
    rfl
  | none => exact attempted_unwritten rfl

/-- The first attempt does not differ in that. -/
theorem began_unwritten : Unwritten link (writer.began queued command link).point := by
  unfold began
  split
  · exact concluded_unwritten rfl
  · exact attempting_unwritten

end Writer

namespace Session

/-- A turn of a writer that at most raises a failure besides. -/
structure Turned (session : Session) (index : Nat) (writer : Writer) (next : Session) : Prop where
  shape : ∃ state events, next =
    { session with state := state, events := events }.setWriter index writer
  state : next.state = session.state ∨
    ∃ queued error, next.state = .failed error true ∧ writer.point = .failing queued error .raised

variable {session : Session} {index queued attempt : Nat} {writer : Writer}
  {command : SerialCommand}

/-- A turn leaves the writer as the record says. -/
theorem Turned.writers {next : Session} (turned : Turned session index writer next) :
    next.writers = session.writers.set index writer := by
  obtain ⟨⟨state, events, rfl⟩, -⟩ := turned
  rfl

/-- A turn leaves the queue alone. -/
theorem Turned.queue {next : Session} (turned : Turned session index writer next) :
    next.queue = session.queue := by
  obtain ⟨⟨state, events, rfl⟩, -⟩ := turned
  rfl

/-- A turn leaves the channels alone. -/
theorem Turned.channels {next : Session} (turned : Turned session index writer next) :
    next.channels = session.channels := by
  obtain ⟨⟨state, events, rfl⟩, -⟩ := turned
  rfl

/-- A turn leaves the timers alone. -/
theorem Turned.timers {next : Session} (turned : Turned session index writer next) :
    next.timers = session.timers := by
  obtain ⟨⟨state, events, rfl⟩, -⟩ := turned
  rfl

/-- A turn leaves the slot for the answer alone. -/
theorem Turned.pendingResponse {next : Session} (turned : Turned session index writer next) :
    next.pendingResponse = session.pendingResponse := by
  obtain ⟨⟨state, events, rfl⟩, -⟩ := turned
  rfl

/-- The conclusion of a command is a turn of the writer. -/
theorem conclude_turned (result : CommandResult) :
    Turned session index (writer.concluded queued result)
      (session.conclude index writer queued command result) := by
  cases result with
  -- Only a failure changes the state of the session.
  | failed error => exact ⟨⟨_, _, rfl⟩, .inr ⟨queued, error, rfl, rfl⟩⟩
  | _ => exact ⟨⟨session.state, _, rfl⟩, .inl rfl⟩

/-- The end of an attempt is a turn of the writer. -/
theorem attemptEnded_turned (result : CommandResult) :
    Turned session index (writer.attempted queued command attempt result)
      (session.attemptEnded index writer queued command attempt result) := by
  unfold attemptEnded Writer.attempted
  split
  · cases command.retryDelay.toMillis with
    -- The pause that follows, or the end of the writer, is no event.
    | some millis => exact ⟨⟨session.state, _, rfl⟩, .inl rfl⟩
    | none => exact ⟨⟨session.state, _, rfl⟩, .inl rfl⟩
  · exact conclude_turned result

/-- The beginning of an attempt is a turn of the writer. -/
theorem beginAttempt_turned :
    Turned session index (writer.attempting queued command attempt session.link)
      (session.beginAttempt index writer queued command attempt) := by
  unfold beginAttempt Writer.attempting
  cases (writer.timeoutFor command).toMillis with
  | some millis => exact ⟨⟨session.state, _, rfl⟩, .inl rfl⟩
  | none => exact attemptEnded_turned _

/-- The beginning of the first attempt is a turn of the writer. -/
theorem beginWriting_turned :
    Turned session index (writer.began queued command session.link)
      (session.beginWriting index writer queued command) := by
  unfold beginWriting Writer.began
  split
  · exact conclude_turned _
  · exact beginAttempt_turned

/-- A writer whose failure has settled waits for the next command. -/
theorem writerFailed_writers (error : SerialError) :
    (session.writerFailed index writer queued error).writers =
      session.writers.set index { writer with point := .receiving } := by
  show session.failSettle.writers.set index _ = _
  rw [Untouched.failSettle.writers]

/-- A writer that has reported a result waits for the next command. -/
theorem report_writers (result : CommandResult) :
    (session.report index writer queued command result).writers =
      session.writers.set index { writer with point := .receiving } := by
  unfold report
  simp only
  split <;> rfl

/-- What a writer has nothing to do with. -/
structure Besides (session next : Session) : Prop where
  config : next.config = session.config
  commands : next.commands = session.commands
  reader : next.reader = session.reader
  writer : next.writer = session.writer
  terminal : next.terminal = session.terminal
  scopeActive : next.scopeActive = session.scopeActive
  connects : next.connects = session.connects
  disconnects : next.disconnects = session.disconnects
  shutdown : next.shutdown = session.shutdown
  readers : next.readers = session.readers
  openCalls : next.openCalls = session.openCalls
  opens : next.opens = session.opens
  link : next.link = session.link
  chunks : next.chunks = session.chunks
  exhausted : next.exhausted = session.exhausted

/-- A turn of a writer leaves the rest of the session as it is. -/
theorem Turned.besides {next : Session} (turned : Turned session index writer next) :
    Besides session next := by
  obtain ⟨⟨state, events, rfl⟩, -⟩ := turned
  constructor <;> rfl

/-- So does every move of a writer. -/
theorem WriterMoves.besides {next : Session} {outcome : Outcome}
    (moved : WriterMoves session index writer outcome next) : Besides session next := by
  cases moved with
  | begin at_ entered live => exact beginWriting_turned.besides
  | resumed at_ entered live => exact (attemptEnded_turned _).besides
  | attempted at_ entered missed ended => exact (attemptEnded_turned _).besides
  | retry at_ entered live => exact beginAttempt_turned.besides
  | reported at_ entered =>
    unfold report
    simp only
    split <;> constructor <;> rfl
  | failSettled at_ =>
    -- `failSettle` launches a loop at most.
    unfold writerFailed failSettle
    repeat' split
    all_goals constructor <;> rfl
  | _ => constructor <;> rfl

/-- A writer leaves the channels alone, unless it takes the first command of its own. -/
theorem WriterMoves.channels {next : Session} {outcome : Outcome}
    (moved : WriterMoves session index writer outcome next) :
    next.channels = session.channels ∨ ∃ channel from_,
      writer.point = .receiving ∧ writer.channel = some channel ∧
      session.channels[channel]? = some from_ ∧ from_.buffer ≠ [] ∧
      next.channels = session.channels.modify channel fun from_ =>
        { from_ with buffer := from_.buffer.tail } := by
  cases moved with
  -- Taking a command is the one move of a writer that touches a channel.
  | take at_ bound found buffered entered =>
    exact .inr ⟨_, _, at_, bound, found, by simp [buffered], rfl⟩
  | begin at_ entered live => exact .inl beginWriting_turned.channels
  | resumed at_ entered live => exact .inl (attemptEnded_turned _).channels
  | attempted at_ entered missed ended => exact .inl (attemptEnded_turned _).channels
  | retry at_ entered live => exact .inl beginAttempt_turned.channels
  | reported at_ entered =>
    unfold report
    simp only
    split <;> exact .inl rfl
  | failSettled at_ => exact .inl Untouched.failSettle.channels
  | _ => exact .inl rfl

end Session

end SerialPort
