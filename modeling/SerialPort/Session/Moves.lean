import SerialPort.Session.Step

/-! Every way a session can take a step, with the point it leaves and the code it runs. -/

namespace SerialPort

namespace Session

/-- The steps of a `connect` call. -/
inductive ConnectMoves (session : Session) (index : Nat) (connect : Connect) :
    Outcome → Session → Prop where
  | begin (at_ : connect.point = .dispatch) (live : connect.cancelled = false) :
      ConnectMoves session index connect .resumes (session.connectBegin index connect)
  | callOpen (at_ : connect.point = .emitConnecting) :
      ConnectMoves session index connect .resumes
        (session.callOpen.setConnect index { connect with point := .opening })
  | opened (at_ : connect.point = .opening) :
      ConnectMoves session index connect .resumes (session.connectOpened index connect)
  | failed {message : String} (at_ : connect.point = .opening) :
      ConnectMoves session index connect (.throws message)
        (session.connectFailed index connect (.exception message))
  | caught (at_ : connect.point = .opening ∨ connect.point = .emitConnected)
      (cancelled : connect.cancelled = true) :
      ConnectMoves session index connect .cancels
        (session.connectFailed index connect .cancellationException)
  | returned (at_ : connect.point = .emitConnected) :
      ConnectMoves session index connect .resumes
        (session.setConnect index { connect with point := .returned .success })
  | failChanged {cause : Throwable} (at_ : connect.point = .failing cause .raised) :
      ConnectMoves session index connect .resumes
        (session.failChange.setConnect index { connect with point := .failing cause .changed })
  | failSettled {cause : Throwable} (at_ : connect.point = .failing cause .changed) :
      ConnectMoves session index connect .resumes
        (session.failSettle.setConnect index { connect with point := .returned (.failure cause) })
  | thrown (open_ : ∀ result, connect.point ≠ .returned result)
      (outside : connect.point ≠ .opening ∧ connect.point ≠ .emitConnected)
      (cancelled : connect.cancelled = true) :
      ConnectMoves session index connect .cancels
        (session.setConnect index { connect with point := .returned .thrown })

/-- The steps of a `disconnect` call that found the session connected. -/
inductive DisconnectMoves (session : Session) (index : Nat) (disconnect : Disconnect) :
    Outcome → Session → Prop where
  | strike (at_ : disconnect.point = .emitClosing) :
      DisconnectMoves session index disconnect .resumes (session.disconnectStrike index disconnect)
  | closed (at_ : disconnect.point = .closing) :
      DisconnectMoves session index disconnect .resumes (session.disconnectClosed index disconnect)
  | returned (at_ : disconnect.point = .emitIdle) :
      DisconnectMoves session index disconnect .resumes
        (session.setDisconnect index { disconnect with point := .returned })
  | thrown {outcome : Outcome}
      (open_ : disconnect.point = .emitClosing ∨ disconnect.point = .closing ∨
        disconnect.point = .emitIdle)
      (ends : outcome ≠ .resumes) :
      DisconnectMoves session index disconnect outcome
        (session.setDisconnect index { disconnect with point := .thrown })

/-- The steps of the coroutine that `close` launches. -/
inductive ShutdownMoves (session : Session) : ShutdownPoint → Outcome → Session → Prop where
  | strike : ShutdownMoves session .dispatch .resumes session.shutdownStrike
  | closed : ShutdownMoves session .closing .resumes session.shutdownClosed
  | thrown {message : String} :
      ShutdownMoves session .closing (.throws message) { session with shutdown := some .finished }
  | finished : ShutdownMoves session .emitClosed .resumes session.shutdownFinished

/-- The steps of a reader. -/
inductive ReaderMoves (session : Session) (index : Nat) (reader : Reader) :
    Outcome → Session → Prop where
  | callRead (at_ : reader.point = .dispatch ∨ reader.point = .emitReceived)
      (live : reader.point = .dispatch → reader.cancelled = false) :
      ReaderMoves session index reader .resumes
        (session.setReader index { reader with point := .reading session.link })
  | chunk {length : Int} {buffer : Bytes} {link : Option Nat} (at_ : reader.point = .reading link)
      (positive : 0 < length) :
      ReaderMoves session index reader (.returns length buffer)
        (session.handleChunk index reader (receivedData length buffer) link)
  | nothing {length : Int} {buffer : Bytes} {link : Option Nat}
      (at_ : reader.point = .reading link) (empty : length ≤ 0) :
      ReaderMoves session index reader (.returns length buffer)
        (session.setReader index { reader with point := .reading session.link })
  | failed {outcome : Outcome} {message : String} {link : Option Nat}
      (at_ : reader.point = .reading link) (threw : outcome.failure = some message) :
      ReaderMoves session index reader outcome (session.readerFailed index reader message)
  | interrupted {link : Option Nat} (at_ : reader.point = .reading link) :
      ReaderMoves session index reader .interrupts
        (session.setReader index { reader with point := .finished })
  | failChanged (at_ : reader.point = .failing .raised) :
      ReaderMoves session index reader .resumes
        (session.failChange.setReader index { reader with point := .failing .changed })
  | failSettled (at_ : reader.point = .failing .changed) :
      ReaderMoves session index reader .resumes
        (session.failSettle.setReader index { reader with point := .finished })
  | cancelled (open_ : reader.point ≠ .finished) (cancelled : reader.cancelled = true) :
      ReaderMoves session index reader .cancels
        (session.setReader index { reader with point := .finished })

/-- The steps of a writer. -/
inductive WriterMoves (session : Session) (index : Nat) (writer : Writer) :
    Outcome → Session → Prop where
  | start (at_ : writer.point = .dispatch) (live : writer.cancelled = false) :
      WriterMoves session index writer .resumes
        (session.setWriter index
          { writer with point := .receiving, channel := some session.commands })
  | take {channel queued : Nat} {from_ : Channel} {rest : List Nat} {entry : QueuedCommand}
      (at_ : writer.point = .receiving) (bound : writer.channel = some channel)
      (found : session.channels[channel]? = some from_) (buffered : from_.buffer = queued :: rest)
      (entered : session.queue[queued]? = some entry) :
      WriterMoves session index writer .resumes
        (session.take index writer channel queued entry.command)
  | drained {channel : Nat} {from_ : Channel}
      (at_ : writer.point = .receiving) (bound : writer.channel = some channel)
      (found : session.channels[channel]? = some from_) (buffered : from_.buffer = [])
      (closed : from_.closed = true) :
      WriterMoves session index writer .resumes
        (session.setWriter index { writer with point := .finished })
  | begin {queued : Nat} {entry : QueuedCommand} (at_ : writer.point = .delaying queued)
      (entered : session.queue[queued]? = some entry)
      (live : writer.cancelled = false ∨ writer.delayFor entry.command ≤ 0) :
      WriterMoves session index writer .resumes
        (session.beginWriting index writer queued entry.command)
  | written {queued attempt : Nat} {link : Option Nat} {entry : QueuedCommand} {length : Int}
      {buffer : Bytes} (at_ : writer.point = .writing queued attempt link)
      (entered : session.queue[queued]? = some entry) (live : writer.cancelled = false) :
      WriterMoves session index writer (.returns length buffer)
        (session.written index writer queued attempt link length)
  | resumed {queued attempt : Nat} {bytes : Int} {entry : QueuedCommand}
      (at_ : writer.point = .resuming queued attempt bytes)
      (entered : session.queue[queued]? = some entry) (live : writer.cancelled = false) :
      WriterMoves session index writer .resumes
        (session.attemptEnded index writer queued entry.command attempt (.sent bytes))
  | attempted {queued attempt : Nat} {entry : QueuedCommand} {outcome : Outcome}
      {result : CommandResult} (at_ : writer.point.tries = some (queued, attempt))
      (entered : session.queue[queued]? = some entry) (missed : result.isSent = false)
      (ended : (∃ message, outcome = .throws message ∧
          result = .failed (.writeFailed (some (.exception message)))) ∨
        (outcome = .timesOut ∧ result = .timedOut (writer.timeoutFor entry.command))) :
      WriterMoves session index writer outcome
        (session.attemptEnded index writer queued entry.command attempt result)
  | retry {queued attempt : Nat} {entry : QueuedCommand}
      (at_ : writer.point = .retrying queued attempt)
      (entered : session.queue[queued]? = some entry)
      (live : writer.cancelled = false ∨ entry.command.retryDelay ≤ 0) :
      WriterMoves session index writer .resumes
        (session.beginAttempt index writer queued entry.command attempt)
  | reported {queued : Nat} {entry : QueuedCommand} {result : CommandResult}
      (at_ : writer.point = .reporting queued result)
      (entered : session.queue[queued]? = some entry) :
      WriterMoves session index writer .resumes
        (session.report index writer queued entry.command result)
  | failChanged {queued : Nat} {error : SerialError}
      (at_ : writer.point = .failing queued error .raised) :
      WriterMoves session index writer .resumes
        (session.failChange.setWriter index
          { writer with point := .failing queued error .changed })
  | failSettled {queued : Nat} {error : SerialError}
      (at_ : writer.point = .failing queued error .changed) :
      WriterMoves session index writer .resumes
        (session.writerFailed index writer queued error)
  | cancelled (open_ : writer.point ≠ .finished) (cancelled : writer.cancelled = true) :
      WriterMoves session index writer .cancels
        (session.setWriter index { writer with point := .finished })

/-- The steps of a response timer. -/
inductive TimerMoves (session : Session) (index : Nat) (timer : Timer) :
    Outcome → Session → Prop where
  | fired {millis : Int} (at_ : timer.point = .waiting) (live : timer.cancelled = false)
      (fits : timer.timeout.toMillis = some millis) :
      TimerMoves session index timer .resumes (session.timerFired index timer)
  | overflowed (at_ : timer.point = .waiting) (live : timer.cancelled = false)
      (beyond : timer.timeout.toMillis = none) :
      TimerMoves session index timer .resumes
        (session.setTimer index { timer with point := .finished })
  | cancelled (at_ : timer.point = .waiting) (cancelled : timer.cancelled = true) :
      TimerMoves session index timer .cancels
        (session.setTimer index { timer with point := .finished })

/-- The steps of a reconnect loop. -/
inductive LoopMoves (session : Session) (index : Nat) (loop : Loop) :
    Outcome → Session → Prop where
  | strike (at_ : loop.point = .dispatch) (live : loop.cancelled = false) :
      LoopMoves session index loop .resumes (session.loopStrike index loop)
  | first (at_ : loop.point = .closing) :
      LoopMoves session index loop .resumes (session.loopAttempt index loop 0)
  | next {attempt : Nat} (at_ : loop.point = .emitFailed attempt) :
      LoopMoves session index loop .resumes (session.loopAttempt index loop (attempt + 1))
  | announced {attempt : Nat} {delayMillis : Int}
      (at_ : loop.point = .emitReconnecting attempt delayMillis) :
      LoopMoves session index loop .resumes
        (session.setLoop index { loop with point := .delaying attempt delayMillis })
  | connecting {attempt : Nat} {delayMillis : Int}
      (at_ : loop.point = .delaying attempt delayMillis)
      (live : loop.cancelled = false ∨ delayMillis ≤ 0) :
      LoopMoves session index loop .resumes (session.loopConnecting index loop attempt)
  | callOpen {attempt : Nat} (at_ : loop.point = .emitConnecting attempt) :
      LoopMoves session index loop .resumes
        (session.callOpen.setLoop index { loop with point := .opening attempt })
  | opened {attempt : Nat} (at_ : loop.point = .opening attempt) :
      LoopMoves session index loop .resumes (session.loopOpened index loop attempt)
  | failed {attempt : Nat} {message : String} (at_ : loop.point = .opening attempt) :
      LoopMoves session index loop (.throws message)
        (session.loopFailed index loop attempt (.exception message))
  | caught {attempt : Nat}
      (at_ : loop.point = .opening attempt ∨ loop.point = .emitConnected attempt)
      (cancelled : loop.cancelled = true) :
      LoopMoves session index loop .cancels
        (session.loopFailed index loop attempt .cancellationException)
  | succeeded {attempt : Nat} (at_ : loop.point = .emitConnected attempt) :
      LoopMoves session index loop .resumes (session.loopSucceeded index loop)
  | finished (at_ : loop.point = .emitSucceeded ∨ loop.point = .emitExhausted) :
      LoopMoves session index loop .resumes (session.loopFinished index loop)
  | closeThrew {message : String} (at_ : loop.point = .closing) :
      LoopMoves session index loop (.throws message) (session.loopFinished index loop)
  | never (at_ : loop.point = .dispatch) (cancelled : loop.cancelled = true) :
      LoopMoves session index loop .cancels
        (session.setLoop index { loop with point := .finished })
  | cancelled (open_ : loop.point ≠ .finished) (begun : loop.point ≠ .dispatch)
      (outside : ∀ attempt, loop.point ≠ .opening attempt ∧ loop.point ≠ .emitConnected attempt)
      (cancelled : loop.cancelled = true) :
      LoopMoves session index loop .cancels (session.loopFinished index loop)

/-- The steps of a session. -/
inductive Moves (session : Session) : Action → Session → Prop where
  | connect {config : SerialConfig} :
      Moves session (.connect config)
        { session with connects := session.connects ++ [{ config := config }] }
  | send {command : SerialCommand} : Moves session (.send command) (session.send command)
  | disconnect : Moves session .disconnect session.disconnectCall
  | close : Moves session .close session.closeCall
  | cancelConnect {index : Nat} {connect : Connect}
      (found : session.connects[index]? = some connect) :
      Moves session (.cancelConnect index)
        (session.setConnect index { connect with cancelled := true })
  | cancelDisconnect {index : Nat} {disconnect : Disconnect}
      (found : session.disconnects[index]? = some disconnect) :
      Moves session (.cancelDisconnect index)
        (session.setDisconnect index { disconnect with cancelled := true })
  | inConnect {index : Nat} {connect : Connect} {outcome : Outcome} {next : Session}
      (found : session.connects[index]? = some connect)
      (moved : ConnectMoves session index connect outcome next) :
      Moves session (.resume (.connect index) outcome) next
  | inDisconnect {index : Nat} {disconnect : Disconnect} {outcome : Outcome} {next : Session}
      (found : session.disconnects[index]? = some disconnect)
      (moved : DisconnectMoves session index disconnect outcome next) :
      Moves session (.resume (.disconnect index) outcome) next
  | inShutdown {point : ShutdownPoint} {outcome : Outcome} {next : Session}
      (found : session.shutdown = some point) (moved : ShutdownMoves session point outcome next) :
      Moves session (.resume .shutdown outcome) next
  | inReader {index : Nat} {reader : Reader} {outcome : Outcome} {next : Session}
      (found : session.readers[index]? = some reader)
      (moved : ReaderMoves session index reader outcome next) :
      Moves session (.resume (.reader index) outcome) next
  | inWriter {index : Nat} {writer : Writer} {outcome : Outcome} {next : Session}
      (found : session.writers[index]? = some writer)
      (moved : WriterMoves session index writer outcome next) :
      Moves session (.resume (.writer index) outcome) next
  | inTimer {index : Nat} {timer : Timer} {outcome : Outcome} {next : Session}
      (found : session.timers[index]? = some timer)
      (moved : TimerMoves session index timer outcome next) :
      Moves session (.resume (.timer index) outcome) next
  | inLoop {index : Nat} {loop : Loop} {outcome : Outcome} {next : Session}
      (found : session.loops[index]? = some loop)
      (moved : LoopMoves session index loop outcome next) :
      Moves session (.resume (.loop index) outcome) next

/-! Every step is one of the moves. -/

/-- Resuming a connecting coroutine is one of its moves. -/
theorem ConnectMoves.of_resume {session next : Session} {index : Nat} {connect : Connect}
    {outcome : Outcome} (resumed : session.resumeConnect index connect outcome = some next) :
    ConnectMoves session index connect outcome next := by
  cases outcome with
  | resumes =>
    cases at_ : connect.point with
    | dispatch =>
      simp only [resumeConnect, at_] at resumed
      split at resumed
      · cases resumed
      · -- A coroutine that is cancelled before it is dispatched never runs.
        next live => cases resumed; exact .begin at_ (by simpa using live)
    | emitConnecting =>
      simp only [resumeConnect, at_] at resumed
      cases resumed
      exact .callOpen at_
    | opening => simp only [resumeConnect, at_] at resumed; cases resumed; exact .opened at_
    | emitConnected => simp only [resumeConnect, at_] at resumed; cases resumed; exact .returned at_
    | failing cause point =>
      cases point with
      | raised => simp only [resumeConnect, at_] at resumed; cases resumed; exact .failChanged at_
      | changed => simp only [resumeConnect, at_] at resumed; cases resumed; exact .failSettled at_
    | returned result => simp [resumeConnect, at_] at resumed
  | returns length buffer => simp [resumeConnect] at resumed
  | rejects length buffer message => simp [resumeConnect] at resumed
  | interrupts => simp [resumeConnect] at resumed
  | throws message =>
    cases at_ : connect.point with
    | opening => simp only [resumeConnect, at_] at resumed; cases resumed; exact .failed at_
    | _ => simp [resumeConnect, at_] at resumed
  | timesOut => simp [resumeConnect] at resumed
  | cancels =>
    simp only [resumeConnect] at resumed
    split at resumed
    · next cancelled =>
      cases at_ : connect.point with
      -- `runCatching` catches the cancellation too, and the call fails with it.
      | opening => simp only [at_] at resumed; cases resumed; exact .caught (.inl at_) cancelled
      | emitConnected =>
        simp only [at_] at resumed
        cases resumed
        exact .caught (.inr at_) cancelled
      | returned result => simp [at_] at resumed
      | _ =>
        simp only [at_] at resumed
        cases resumed
        -- At any other suspension point the cancellation ends the call.
        exact .thrown (by simp [at_]) (by simp [at_]) cancelled
    · cases resumed

/-- Resuming a disconnecting coroutine is one of its moves. -/
theorem DisconnectMoves.of_resume {session next : Session} {index : Nat} {disconnect : Disconnect}
    {outcome : Outcome} (resumed : session.resumeDisconnect index disconnect outcome = some next) :
    DisconnectMoves session index disconnect outcome next := by
  cases outcome with
  | resumes =>
    cases at_ : disconnect.point with
    | emitClosing => simp only [resumeDisconnect, at_] at resumed; cases resumed; exact .strike at_
    | closing => simp only [resumeDisconnect, at_] at resumed; cases resumed; exact .closed at_
    | emitIdle => simp only [resumeDisconnect, at_] at resumed; cases resumed; exact .returned at_
    | _ => simp [resumeDisconnect, at_] at resumed
  | returns length buffer => simp [resumeDisconnect] at resumed
  | rejects length buffer message => simp [resumeDisconnect] at resumed
  | interrupts => simp [resumeDisconnect] at resumed
  | throws message =>
    cases at_ : disconnect.point with
    | closing =>
      simp only [resumeDisconnect, at_] at resumed
      cases resumed
      -- Nobody catches what `transport.close` throws.
      exact .thrown (by simp [at_]) (by simp)
    | _ => simp [resumeDisconnect, at_] at resumed
  | timesOut => simp [resumeDisconnect] at resumed
  | cancels =>
    simp only [resumeDisconnect] at resumed
    split at resumed
    · cases at_ : disconnect.point <;> simp only [at_] at resumed <;> cases resumed
      all_goals exact .thrown (by simp [at_]) (by simp)
    · cases resumed

/-- Resuming the shutdown is one of its moves. -/
theorem ShutdownMoves.of_resume {session next : Session} {point : ShutdownPoint}
    {outcome : Outcome} (resumed : session.resumeShutdown point outcome = some next) :
    ShutdownMoves session point outcome next := by
  unfold resumeShutdown at resumed
  split at resumed <;> cases resumed
  · exact .strike
  · exact .closed
  · exact .thrown
  · exact .finished

/-- Resuming a reader is one of its moves. -/
theorem ReaderMoves.of_resume {session next : Session} {index : Nat} {reader : Reader}
    {outcome : Outcome} (resumed : session.resumeReader index reader outcome = some next) :
    ReaderMoves session index reader outcome next := by
  cases outcome with
  | resumes =>
    cases at_ : reader.point with
    | dispatch =>
      simp only [resumeReader, at_] at resumed
      split at resumed
      · cases resumed
      · next live => cases resumed; exact .callRead (.inl at_) fun _ => by simpa using live
    | reading link => simp [resumeReader, at_] at resumed
    -- There is no suspension point that would notice a cancellation before the next read.
    | emitReceived =>
      simp only [resumeReader, at_] at resumed
      cases resumed
      exact .callRead (.inr at_) (by simp [at_])
    | failing point =>
      cases point with
      | raised => simp only [resumeReader, at_] at resumed; cases resumed; exact .failChanged at_
      | changed => simp only [resumeReader, at_] at resumed; cases resumed; exact .failSettled at_
    | finished => simp [resumeReader, at_] at resumed
  | returns length buffer =>
    cases at_ : reader.point with
    | reading link =>
      simp only [resumeReader, at_] at resumed
      split at resumed
      · next positive => cases resumed; exact .chunk at_ positive
      · -- An empty read, or a negative length, leads to the next read at once.
        next empty => cases resumed; exact .nothing at_ (by omega)
    | _ => simp [resumeReader, at_] at resumed
  | throws message =>
    cases at_ : reader.point with
    | reading link => simp only [resumeReader, at_] at resumed; cases resumed; exact .failed at_ rfl
    | _ => simp [resumeReader, at_] at resumed
  | rejects length buffer message =>
    cases at_ : reader.point with
    | reading link =>
      simp only [resumeReader, at_] at resumed
      split at resumed
      · -- Bytes that are refused end the reader like a read that throws.
        next positive => cases resumed; exact .failed at_ (by simp [Outcome.failure, positive])
      · cases resumed
    | _ => simp [resumeReader, at_] at resumed
  | interrupts =>
    cases at_ : reader.point with
    | reading link =>
      simp only [resumeReader, at_] at resumed
      cases resumed
      exact .interrupted at_
    | _ => simp [resumeReader, at_] at resumed
  | timesOut => simp [resumeReader] at resumed
  | cancels =>
    simp only [resumeReader, Bool.and_eq_true, bne_iff_ne, ne_eq] at resumed
    split at resumed
    · -- A reader may be cancelled wherever it is suspended.
      next cancelled => cases resumed; exact .cancelled cancelled.2 cancelled.1
    · cases resumed

/-- Resuming a writer in its call of the transport is one of its moves. -/
theorem WriterMoves.of_resumeWrite {session next : Session} {index queued attempt : Nat}
    {writer : Writer} {link : Option Nat} {entry : QueuedCommand} {outcome : Outcome}
    (at_ : writer.point = .writing queued attempt link)
    (entered : session.queue[queued]? = some entry)
    (resumed : session.resumeWrite index writer queued attempt link entry.command outcome =
      some next) :
    WriterMoves session index writer outcome next := by
  cases outcome with
  | returns length buffer =>
    simp only [resumeWrite] at resumed
    split at resumed
    · cases resumed
    · -- A cancelled attempt ends with the cancellation, whatever the transport has returned.
      next live => cases resumed; exact .written at_ entered (by simpa using live)
  | throws message =>
    simp only [resumeWrite] at resumed
    cases resumed
    exact .attempted (by rw [at_]; rfl) entered rfl (.inl ⟨message, rfl, rfl⟩)
  | timesOut =>
    simp only [resumeWrite] at resumed
    cases resumed
    exact .attempted (by rw [at_]; rfl) entered rfl (.inr ⟨rfl, rfl⟩)
  | _ => simp [resumeWrite] at resumed

/-- Resuming a writer behind its call of the transport is one of its moves. -/
theorem WriterMoves.of_resumeWritten {session next : Session} {index queued attempt : Nat}
    {writer : Writer} {bytes : Int} {entry : QueuedCommand} {outcome : Outcome}
    (at_ : writer.point = .resuming queued attempt bytes)
    (entered : session.queue[queued]? = some entry)
    (resumed : session.resumeWritten index writer queued attempt bytes entry.command outcome =
      some next) :
    WriterMoves session index writer outcome next := by
  cases outcome with
  | resumes =>
    simp only [resumeWritten] at resumed
    split at resumed
    · cases resumed
    · next live => cases resumed; exact .resumed at_ entered (by simpa using live)
  | throws message =>
    simp only [resumeWritten] at resumed
    split at resumed
    · cases resumed
    · -- The exception of the logger is caught like one of the transport.
      cases resumed
      exact .attempted (by rw [at_]; rfl) entered rfl (.inl ⟨message, rfl, rfl⟩)
  | timesOut =>
    simp only [resumeWritten] at resumed
    cases resumed
    exact .attempted (by rw [at_]; rfl) entered rfl (.inr ⟨rfl, rfl⟩)
  | _ => simp [resumeWritten] at resumed

/-- Resuming a writer is one of its moves. -/
theorem WriterMoves.of_resume {session next : Session} {index : Nat} {writer : Writer}
    {outcome : Outcome} (resumed : session.resumeWriter index writer outcome = some next) :
    WriterMoves session index writer outcome next := by
  by_cases cancels : outcome = .cancels
  · -- A writer may be cancelled wherever it is suspended.
    subst cancels
    simp only [resumeWriter, Bool.and_eq_true, bne_iff_ne, ne_eq] at resumed
    split at resumed
    · next cancelled => cases resumed; exact .cancelled cancelled.2 cancelled.1
    · cases resumed
  · cases at_ : writer.point with
    | dispatch =>
      simp only [resumeWriter, at_] at resumed
      split at resumed
      · next live => cases resumed; obtain ⟨rfl, live⟩ := live; exact .start at_ live
      · cases resumed
    | receiving =>
      simp only [resumeWriter, at_, Option.bind_eq_bind, Option.bind_eq_some_iff] at resumed
      obtain ⟨channel, bound, from_, found, resumed⟩ := resumed
      split at resumed
      · next queued rest buffered =>
        simp only [Option.bind_eq_some_iff] at resumed
        obtain ⟨entry, entered, resumed⟩ := resumed
        split at resumed
        · next resumes =>
          cases resumed
          cases resumes
          exact .take at_ bound found buffered entered
        · cases resumed
      · -- Only a closed channel ends the loop over the commands.
        next buffered =>
        split at resumed
        · next closed =>
          cases resumed
          obtain ⟨rfl, closed⟩ := closed
          exact .drained at_ bound found buffered closed
        · cases resumed
    | delaying queued =>
      simp only [resumeWriter, at_, Option.bind_eq_bind, Option.bind_eq_some_iff] at resumed
      obtain ⟨entry, entered, resumed⟩ := resumed
      split at resumed
      · -- A pause that is not positive does not suspend, and so does not notice a cancellation.
        next live => cases resumed; obtain ⟨rfl, live⟩ := live; exact .begin at_ entered live
      · cases resumed
    | writing queued attempt link =>
      simp only [resumeWriter, at_, Option.bind_eq_bind, Option.bind_eq_some_iff] at resumed
      obtain ⟨entry, entered, resumed⟩ := resumed
      exact .of_resumeWrite at_ entered resumed
    | resuming queued attempt bytes =>
      simp only [resumeWriter, at_, Option.bind_eq_bind, Option.bind_eq_some_iff] at resumed
      obtain ⟨entry, entered, resumed⟩ := resumed
      exact .of_resumeWritten at_ entered resumed
    | retrying queued attempt =>
      simp only [resumeWriter, at_, Option.bind_eq_bind, Option.bind_eq_some_iff] at resumed
      obtain ⟨entry, entered, resumed⟩ := resumed
      split at resumed
      · next live => cases resumed; obtain ⟨rfl, live⟩ := live; exact .retry at_ entered live
      · cases resumed
    | reporting queued result =>
      simp only [resumeWriter, at_, Option.bind_eq_bind, Option.bind_eq_some_iff] at resumed
      obtain ⟨entry, entered, resumed⟩ := resumed
      split at resumed
      · next resumes => cases resumed; cases resumes; exact .reported at_ entered
      · cases resumed
    | failing queued error point =>
      cases point with
      | raised =>
        simp only [resumeWriter, at_] at resumed
        split at resumed
        · next resumes => cases resumed; cases resumes; exact .failChanged at_
        · cases resumed
      | changed =>
        simp only [resumeWriter, at_] at resumed
        split at resumed
        · next resumes => cases resumed; cases resumes; exact .failSettled at_
        · cases resumed
    | finished => simp [resumeWriter, at_] at resumed

/-- Resuming a timer is one of its moves. -/
theorem TimerMoves.of_resume {session next : Session} {index : Nat} {timer : Timer}
    {outcome : Outcome} (resumed : session.resumeTimer index timer outcome = some next) :
    TimerMoves session index timer outcome next := by
  cases outcome with
  | resumes =>
    simp only [resumeTimer] at resumed
    split at resumed
    · next waiting =>
      cases fits : timer.timeout.toMillis with
      | some millis =>
        simp only [fits] at resumed
        cases resumed
        exact .fired waiting.1 waiting.2 fits
      -- The delay that cannot be measured throws in the coroutine of the timer.
      | none =>
        simp only [fits] at resumed
        cases resumed
        exact .overflowed waiting.1 waiting.2 fits
    · cases resumed
  | cancels =>
    simp only [resumeTimer] at resumed
    split at resumed
    · next waiting => cases resumed; exact .cancelled waiting.1 waiting.2
    · cases resumed
  | _ => simp [resumeTimer] at resumed

/-- Resuming a reconnecting loop is one of its moves. -/
theorem LoopMoves.of_resume {session next : Session} {index : Nat} {loop : Loop}
    {outcome : Outcome} (resumed : session.resumeLoop index loop outcome = some next) :
    LoopMoves session index loop outcome next := by
  cases outcome with
  | resumes =>
    cases at_ : loop.point with
    | dispatch =>
      simp only [resumeLoop, at_] at resumed
      split at resumed
      · cases resumed
      · next live => cases resumed; exact .strike at_ (by simpa using live)
    | closing => simp only [resumeLoop, at_] at resumed; cases resumed; exact .first at_
    | emitReconnecting attempt delayMillis =>
      simp only [resumeLoop, at_] at resumed
      cases resumed
      exact .announced at_
    | delaying attempt delayMillis =>
      simp only [resumeLoop, at_] at resumed
      split at resumed
      · -- As for the writer, a pause that is not positive does not suspend.
        next live => cases resumed; exact .connecting at_ live
      · cases resumed
    | emitConnecting attempt =>
      simp only [resumeLoop, at_] at resumed
      cases resumed
      exact .callOpen at_
    | opening attempt => simp only [resumeLoop, at_] at resumed; cases resumed; exact .opened at_
    | emitConnected attempt =>
      simp only [resumeLoop, at_] at resumed
      cases resumed
      exact .succeeded at_
    | emitFailed attempt => simp only [resumeLoop, at_] at resumed; cases resumed; exact .next at_
    | emitSucceeded =>
      simp only [resumeLoop, at_] at resumed
      cases resumed
      exact .finished (.inl at_)
    | emitExhausted =>
      simp only [resumeLoop, at_] at resumed
      cases resumed
      exact .finished (.inr at_)
    | finished => simp [resumeLoop, at_] at resumed
  | throws message =>
    cases at_ : loop.point with
    | closing => simp only [resumeLoop, at_] at resumed; cases resumed; exact .closeThrew at_
    | opening attempt => simp only [resumeLoop, at_] at resumed; cases resumed; exact .failed at_
    | _ => simp [resumeLoop, at_] at resumed
  | cancels =>
    simp only [resumeLoop] at resumed
    split at resumed
    · next cancelled =>
      cases at_ : loop.point with
      -- A loop that never runs does not release the flag either.
      | dispatch => simp only [at_] at resumed; cases resumed; exact .never at_ cancelled
      | opening attempt =>
        simp only [at_] at resumed
        cases resumed
        -- Here, too, `runCatching` catches the cancellation, and the loop goes on.
        exact .caught (.inl at_) cancelled
      | emitConnected attempt =>
        simp only [at_] at resumed
        cases resumed
        exact .caught (.inr at_) cancelled
      | finished => simp [at_] at resumed
      | _ =>
        simp only [at_] at resumed
        cases resumed
        -- The `finally` block releases the flag.
        exact .cancelled (by simp [at_]) (by simp [at_]) (by simp [at_]) cancelled
    · cases resumed
  | _ => simp [resumeLoop] at resumed

/-- Whatever step a session takes is one of the moves. -/
theorem Moves.of_step {session next : Session} {action : Action}
    (stepped : session.step action = some next) : Moves session action next := by
  cases action with
  | connect config => cases stepped; exact .connect
  | send command => cases stepped; exact .send
  | disconnect => cases stepped; exact .disconnect
  | close => cases stepped; exact .close
  | cancelConnect index =>
    obtain ⟨connect, found, stepped⟩ := Option.bind_eq_some_iff.mp stepped
    cases stepped
    exact .cancelConnect found
  | cancelDisconnect index =>
    obtain ⟨disconnect, found, stepped⟩ := Option.bind_eq_some_iff.mp stepped
    cases stepped
    exact .cancelDisconnect found
  -- A resumption is the move of its coroutine; the calls are moves of their own.
  | resume job outcome =>
    cases job with
    | connect index =>
      obtain ⟨connect, found, resumed⟩ := Option.bind_eq_some_iff.mp stepped
      exact .inConnect found (.of_resume resumed)
    | disconnect index =>
      obtain ⟨disconnect, found, resumed⟩ := Option.bind_eq_some_iff.mp stepped
      exact .inDisconnect found (.of_resume resumed)
    | shutdown =>
      obtain ⟨point, found, resumed⟩ := Option.bind_eq_some_iff.mp stepped
      exact .inShutdown found (.of_resume resumed)
    | reader index =>
      obtain ⟨reader, found, resumed⟩ := Option.bind_eq_some_iff.mp stepped
      exact .inReader found (.of_resume resumed)
    | writer index =>
      obtain ⟨writer, found, resumed⟩ := Option.bind_eq_some_iff.mp stepped
      exact .inWriter found (.of_resume resumed)
    | timer index =>
      obtain ⟨timer, found, resumed⟩ := Option.bind_eq_some_iff.mp stepped
      exact .inTimer found (.of_resume resumed)
    | loop index =>
      obtain ⟨loop, found, resumed⟩ := Option.bind_eq_some_iff.mp stepped
      exact .inLoop found (.of_resume resumed)

end Session

end SerialPort
