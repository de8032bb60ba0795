import SerialPort.Session.Blocks

/-! One step of a session: a call from outside, or one coroutine running to its next suspension. -/

namespace SerialPort

/-- A coroutine of a session. -/
inductive Job where
  | connect (index : Nat)
  | disconnect (index : Nat)
  | shutdown
  | reader (index : Nat)
  | writer (index : Nat)
  | timer (index : Nat)
  | loop (index : Nat)
  deriving DecidableEq, Repr

/-- How a suspension ends; but for a read, a call of the transport throws cancellation only when
cancelled. A read that returned bytes is rejected when the logger or the matcher throws an exception
at them; it is interrupted when they, or the read itself, throw a cancellation unasked. -/
inductive Outcome where
  | resumes
  | returns (length : Int) (buffer : Bytes)
  | rejects (length : Int) (buffer : Bytes) (message : String)
  | interrupts
  | throws (message : String)
  | timesOut
  | cancels
  deriving DecidableEq, Repr

/-- The exception that a reader catches: of the read, or of what is done with the bytes of it. -/
def Outcome.failure : Outcome → Option String
  | .throws message => some message
  -- The logger and the matcher see positive reads only.
  | .rejects length _ message => if 0 < length then some message else none
  | _ => none

/-- The callers of `connect` and `disconnect` may cancel their calls as well. -/
inductive Action where
  | connect (config : SerialConfig)
  | send (command : SerialCommand)
  | disconnect
  | close
  | cancelConnect (index : Nat)
  | cancelDisconnect (index : Nat)
  | resume (job : Job) (outcome : Outcome)

/-- The bytes a read of positive length leaves in the buffer, `buffer.copyOf(length)`. -/
def receivedData (length : Int) (buffer : Bytes) : Bytes :=
  buffer.take length.toNat ++ List.replicate (length.toNat - buffer.length) 0

namespace Session

def resumeConnect (session : Session) (index : Nat) (connect : Connect) :
    Outcome → Option Session
  | .resumes =>
    match connect.point with
    -- `withContext` looks for a cancellation before it runs its block.
    | .dispatch => if connect.cancelled then none else some (session.connectBegin index connect)
    | .emitConnecting => some (session.callOpen.setConnect index { connect with point := .opening })
    | .opening => some (session.connectOpened index connect)
    | .emitConnected => some (session.setConnect index { connect with point := .returned .success })
    -- `fail` announces the error first, and then the state.
    | .failing cause .raised =>
      some (session.failChange.setConnect index { connect with point := .failing cause .changed })
    | .failing cause .changed =>
      some (session.failSettle.setConnect index
        { connect with point := .returned (.failure cause) })
    | .returned _ => none
  | .throws message =>
    match connect.point with
    | .opening => some (session.connectFailed index connect (.exception message))
    | _ => none
  | .cancels =>
    if connect.cancelled then
      match connect.point with
      -- Inside `runCatching` the cancellation is a failure like any other.
      | .opening => some (session.connectFailed index connect .cancellationException)
      | .emitConnected => some (session.connectFailed index connect .cancellationException)
      | .returned _ => none
      -- Outside of it the caller gets the cancellation.
      | _ => some (session.setConnect index { connect with point := .returned .thrown })
    else none
  | _ => none

def resumeDisconnect (session : Session) (index : Nat) (disconnect : Disconnect) :
    Outcome → Option Session
  | .resumes =>
    match disconnect.point with
    | .emitClosing => some (session.disconnectStrike index disconnect)
    | .closing => some (session.disconnectClosed index disconnect)
    | .emitIdle => some (session.setDisconnect index { disconnect with point := .returned })
    | _ => none
  | .throws _ =>
    match disconnect.point with
    -- The session stays in the state of closing.
    | .closing => some (session.setDisconnect index { disconnect with point := .thrown })
    | _ => none
  | .cancels =>
    if disconnect.cancelled then
      match disconnect.point with
      | .returned => none
      | .refused => none
      | .thrown => none
      | _ => some (session.setDisconnect index { disconnect with point := .thrown })
    else none
  | _ => none

def resumeShutdown (session : Session) : ShutdownPoint → Outcome → Option Session
  | .dispatch, .resumes => some session.shutdownStrike
  | .closing, .resumes => some session.shutdownClosed
  -- The exception ends the coroutine, and the scope stays active.
  | .closing, .throws _ => some { session with shutdown := some .finished }
  | .emitClosed, .resumes => some session.shutdownFinished
  | _, _ => none

def resumeReader (session : Session) (index : Nat) (reader : Reader) : Outcome → Option Session
  | .resumes =>
    match reader.point with
    | .dispatch =>
      if reader.cancelled then none
      else some (session.setReader index { reader with point := .reading session.link })
    -- Nothing looks for a cancellation before the next read is called.
    | .emitReceived =>
      some (session.setReader index { reader with point := .reading session.link })
    | .failing .raised =>
      some (session.failChange.setReader index { reader with point := .failing .changed })
    | .failing .changed =>
      some (session.failSettle.setReader index { reader with point := .finished })
    | _ => none
  | .returns length buffer =>
    match reader.point with
    | .reading link =>
      -- A negative count, the end of the stream, is treated like nothing read.
      if 0 < length then
        some (session.handleChunk index reader (receivedData length buffer) link)
      else some (session.setReader index { reader with point := .reading session.link })
    | _ => none
  | .throws message =>
    match reader.point with
    | .reading _ => some (session.readerFailed index reader message)
    | _ => none
  | .rejects length _ message =>
    match reader.point with
    -- The chunk is lost: it is neither matched nor published.
    | .reading _ => if 0 < length then some (session.readerFailed index reader message) else none
    | _ => none
  | .interrupts =>
    match reader.point with
    -- The handler takes it for a cancellation of the reader, and throws it on.
    | .reading _ => some (session.setReader index { reader with point := .finished })
    | _ => none
  | .cancels =>
    -- The handler of a cancellation throws it on, and so `fail` is not called.
    if reader.cancelled && reader.point != .finished then
      some (session.setReader index { reader with point := .finished })
    else none
  | _ => none

/-- The outcome of a write, as a result of the attempt. -/
def resumeWrite (session : Session) (index : Nat) (writer : Writer) (queued attempt : Nat)
    (link : Option Nat) (command : SerialCommand) : Outcome → Option Session
  | .returns length _ =>
    -- In a cancelled writer `withTimeoutOrNull` throws away the value of its block.
    if writer.cancelled then none
    else some (session.written index writer queued attempt link length)
  | .throws message =>
    some (session.attemptEnded index writer queued command attempt
      (.failed (.writeFailed (some (.exception message)))))
  | .timesOut =>
    some (session.attemptEnded index writer queued command attempt
      (.timedOut (writer.timeoutFor command)))
  | _ => none

/-- What becomes of a write that has completed, when its writer is resumed. -/
def resumeWritten (session : Session) (index : Nat) (writer : Writer) (queued attempt : Nat)
    (bytes : Int) (command : SerialCommand) : Outcome → Option Session
  | .resumes =>
    if writer.cancelled then none
    else some (session.attemptEnded index writer queued command attempt (.sent bytes))
  | .throws message =>
    -- The logger has thrown, and the attempt counts as failed.
    if writer.cancelled then none
    else some (session.attemptEnded index writer queued command attempt
      (.failed (.writeFailed (some (.exception message)))))
  | .timesOut =>
    -- The time was over before the writer was resumed, and the value is thrown away.
    some (session.attemptEnded index writer queued command attempt
      (.timedOut (writer.timeoutFor command)))
  | _ => none

def resumeWriter (session : Session) (index : Nat) (writer : Writer) :
    Outcome → Option Session
  | .cancels =>
    if writer.cancelled && writer.point != .finished then
      some (session.setWriter index { writer with point := .finished })
    else none
  | outcome =>
    match writer.point with
    | .dispatch =>
      if outcome = .resumes ∧ writer.cancelled = false then
        some (session.setWriter index
          { writer with point := .receiving, channel := some session.commands })
      else none
    | .receiving => do
      let channel ← writer.channel
      let from_ ← session.channels[channel]?
      match from_.buffer with
      | queued :: _ =>
        let entry ← session.queue[queued]?
        if outcome = .resumes then
          some (session.take index writer channel queued entry.command)
        else none
      | [] =>
        -- The iteration ends with a closed channel, once nothing is left in it.
        if outcome = .resumes ∧ from_.closed then
          some (session.setWriter index { writer with point := .finished })
        else none
    | .delaying queued => do
      let entry ← session.queue[queued]?
      -- A delay that is not positive does not suspend, and does not notice a cancellation.
      if outcome = .resumes ∧ (writer.cancelled = false ∨ writer.delayFor entry.command ≤ 0) then
        some (session.beginWriting index writer queued entry.command)
      else none
    | .writing queued attempt link => do
      let entry ← session.queue[queued]?
      session.resumeWrite index writer queued attempt link entry.command outcome
    | .resuming queued attempt bytes => do
      let entry ← session.queue[queued]?
      session.resumeWritten index writer queued attempt bytes entry.command outcome
    | .retrying queued attempt => do
      let entry ← session.queue[queued]?
      -- The same holds of the pause between two attempts.
      if outcome = .resumes ∧ (writer.cancelled = false ∨ entry.command.retryDelay ≤ 0) then
        some (session.beginAttempt index writer queued entry.command attempt)
      else none
    | .reporting queued result => do
      let entry ← session.queue[queued]?
      if outcome = .resumes then some (session.report index writer queued entry.command result)
      else none
    | .failing queued error .raised =>
      if outcome = .resumes then
        some (session.failChange.setWriter index
          { writer with point := .failing queued error .changed })
      else none
    | .failing queued error .changed =>
      if outcome = .resumes then some (session.writerFailed index writer queued error) else none
    | .finished => none

def resumeTimer (session : Session) (index : Nat) (timer : Timer) : Outcome → Option Session
  | .resumes =>
    if timer.point = .waiting ∧ timer.cancelled = false then
      match timer.timeout.toMillis with
      | some _ => some (session.timerFired index timer)
      -- `toMillis` has thrown, and the job is over without a pause.
      | none => some (session.setTimer index { timer with point := .finished })
    else none
  | .cancels =>
    if timer.point = .waiting ∧ timer.cancelled then
      some (session.setTimer index { timer with point := .finished })
    else none
  | _ => none

def resumeLoop (session : Session) (index : Nat) (loop : Loop) : Outcome → Option Session
  | .resumes =>
    match loop.point with
    | .dispatch => if loop.cancelled then none else some (session.loopStrike index loop)
    | .closing => some (session.loopAttempt index loop 0)
    | .emitReconnecting attempt delayMillis =>
      some (session.setLoop index { loop with point := .delaying attempt delayMillis })
    | .delaying attempt delayMillis =>
      if loop.cancelled = false ∨ delayMillis ≤ 0 then
        some (session.loopConnecting index loop attempt)
      else none
    | .emitConnecting attempt =>
      some (session.callOpen.setLoop index { loop with point := .opening attempt })
    | .opening attempt => some (session.loopOpened index loop attempt)
    | .emitConnected _ => some (session.loopSucceeded index loop)
    | .emitFailed attempt => some (session.loopAttempt index loop (attempt + 1))
    | .emitSucceeded => some (session.loopFinished index loop)
    | .emitExhausted => some (session.loopFinished index loop)
    | .finished => none
  | .throws message =>
    match loop.point with
    -- The exception leaves the loop by way of its `finally`.
    | .closing => some (session.loopFinished index loop)
    | .opening attempt => some (session.loopFailed index loop attempt (.exception message))
    | _ => none
  | .cancels =>
    if loop.cancelled then
      match loop.point with
      -- A coroutine that has not begun has no `finally` to run.
      | .dispatch => some (session.setLoop index { loop with point := .finished })
      -- Inside `runCatching` the cancellation is a failure like any other.
      | .opening attempt => some (session.loopFailed index loop attempt .cancellationException)
      | .emitConnected attempt =>
        some (session.loopFailed index loop attempt .cancellationException)
      | .finished => none
      | _ => some (session.loopFinished index loop)
    else none
  | _ => none

/-- The coroutine runs from its suspension point to the next one. -/
def resume (session : Session) (job : Job) (outcome : Outcome) : Option Session :=
  match job with
  | .connect index => do session.resumeConnect index (← session.connects[index]?) outcome
  | .disconnect index => do session.resumeDisconnect index (← session.disconnects[index]?) outcome
  | .shutdown => do session.resumeShutdown (← session.shutdown) outcome
  | .reader index => do session.resumeReader index (← session.readers[index]?) outcome
  | .writer index => do session.resumeWriter index (← session.writers[index]?) outcome
  | .timer index => do session.resumeTimer index (← session.timers[index]?) outcome
  | .loop index => do session.resumeLoop index (← session.loops[index]?) outcome

/-- One step of the session, if the action is possible. -/
def step (session : Session) : Action → Option Session
  | .connect config =>
    let call : Connect := { config := config }
    some { session with connects := session.connects ++ [call] }
  | .send command => some (session.send command)
  | .disconnect => some session.disconnectCall
  | .close => some session.closeCall
  | .cancelConnect index => do
    let connect ← session.connects[index]?
    some (session.setConnect index { connect with cancelled := true })
  | .cancelDisconnect index => do
    let disconnect ← session.disconnects[index]?
    some (session.setDisconnect index { disconnect with cancelled := true })
  | .resume job outcome => session.resume job outcome

end Session

/-! Configurations, commands, calls, and turns that runs are made of. -/

namespace Sample

def config : SerialConfig := { path := "/dev/ttyS0", baudRate := 9600 }

/-- Another device, which is not to be opened again. -/
def other : SerialConfig := { path := "/dev/ttyS1", baudRate := 9600 }

/-- A configuration with room for two commands. -/
def narrow : SerialConfig :=
  { path := "/dev/ttyS0", baudRate := 9600
    queue := { capacity := 2, capacity_valid := by decide } }

/-- A configuration with room for one command, which a later one displaces. -/
def dropping : SerialConfig :=
  { path := "/dev/ttyS0", baudRate := 9600
    queue := { capacity := 1, overflow := .dropOldest, capacity_valid := by decide } }

/-- A configuration with a reconnect policy, which is otherwise the default one. -/
def reconnecting : SerialConfig :=
  { path := "/dev/ttyS0", baudRate := 9600, reconnect := { enabled := true } }

/-- A configuration that is opened again with one attempt. -/
def retrying : SerialConfig :=
  { path := "/dev/ttyS0", baudRate := 9600, reconnect := { enabled := true, maxAttempts := 1 } }

def command (byte : UInt8) : SerialCommand := .ofPayload [byte] (by simp)

/-- A request that any chunk answers. -/
def request (byte : UInt8) : SerialCommand :=
  { command byte with responseMatcher := some ResponseMatchers.Any }

/-- A command with so many retries. -/
def insistent (retries : Int32) (valid : 0 ≤ retries) : SerialCommand :=
  { command 7 with maxRetries := retries, retries_valid := valid }

/-- A command that is written once more if need be. -/
def repeated : SerialCommand := insistent 1 (by decide)

/-- A call of `connect` that opens the transport, up to its return. -/
def connecting (index : Nat) : List Action :=
  .connect config :: List.replicate 4 (.resume (.connect index) .resumes)

/-- A writer takes a command, waits for its delay, writes it in one attempt, and reports it. -/
def writing (writer : Nat) : List Action :=
  [.resume (.writer writer) .resumes, .resume (.writer writer) .resumes,
    .resume (.writer writer) (.returns 1 []), .resume (.writer writer) .resumes,
    .resume (.writer writer) .resumes]

/-- A call of `disconnect`, up to its return. -/
def disconnecting (index : Nat) : List Action :=
  .disconnect :: List.replicate 2 (.resume (.disconnect index) .resumes)

end Sample

end SerialPort
