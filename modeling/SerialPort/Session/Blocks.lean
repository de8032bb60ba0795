import SerialPort.Session.State

/-! The code of a session between two suspension points, one function for each stretch. -/

namespace SerialPort

/-- Completes the deferred result, unless it is complete already. -/
def QueuedCommand.complete (entry : QueuedCommand) (result : CommandResult) : QueuedCommand :=
  -- Only the first call of `complete` has an effect.
  if entry.result.isNone then { entry with result := some result } else entry

/-- Completes the deferred result with a chunk. -/
def QueuedCommand.answer (entry : QueuedCommand) (data : Bytes) (chunk : Nat) : QueuedCommand :=
  if entry.result.isNone then
    { entry with result := some (.response data), answeredBy := some chunk }
  else entry

/-- Whether the received chunk answers the command. -/
def SerialCommand.accepts (command : SerialCommand) (data : Bytes) : Bool :=
  -- Without a matcher no chunk is an answer.
  command.responseMatcher.any fun accepts => accepts command.payload data

/-- The number of iterations of the retry loop, with 32-bit arithmetic. -/
def SerialCommand.attempts (command : SerialCommand) : Nat :=
  -- `repeat` makes no iteration where the sum has wrapped around.
  (command.maxRetries + 1).toNatClampNeg

/-- Whether another command fits the channel. -/
def Channel.hasRoom (channel : Channel) : Bool :=
  -- A closed channel accepts nothing, however empty it is.
  !channel.closed && channel.buffer.length < channel.capacity

/-- Cancels the coroutine a job variable refers to. -/
def cancelJob {α : Type} (job : Option Nat) (coroutines : List α) (cancel : α → α) : List α :=
  match job with
  | some index => coroutines.modify index cancel
  -- The variable has not been set yet.
  | none => coroutines

def Reader.cancel (reader : Reader) : Reader := { reader with cancelled := true }

def Writer.cancel (writer : Writer) : Writer := { writer with cancelled := true }

def Timer.cancel (timer : Timer) : Timer := { timer with cancelled := true }

def Loop.cancel (loop : Loop) : Loop := { loop with cancelled := true }

/-- The time an attempt may take. -/
def Writer.timeoutFor (writer : Writer) (command : SerialCommand) : Duration :=
  command.timeout.getD writer.config.queue.defaultTimeout

/-- The pause before the first attempt. -/
def Writer.delayFor (writer : Writer) (command : SerialCommand) : Duration :=
  command.delay.getD writer.config.queue.defaultWriteDelay

/-- The pause before the attempts; an exception outside the loop over them ends the writer. -/
def Writer.pausing (writer : Writer) (queued : Nat) (command : SerialCommand) : WriterPoint :=
  -- The duration is converted before the coroutine is suspended.
  match (writer.delayFor command).toMillis with
  | some _ => .delaying queued
  | none => .finished

namespace Session

def emit (session : Session) (event : SerialEvent) : Session :=
  { session with events := session.events ++ [event] }

def complete (session : Session) (queued : Nat) (result : CommandResult) : Session :=
  { session with queue := session.queue.modify queued fun entry => entry.complete result }

def own (session : Session) (queued : Nat) (owner : Owner) : Session :=
  { session with queue := session.queue.modify queued fun entry => { entry with owner := owner } }

def setConnect (session : Session) (index : Nat) (connect : Connect) : Session :=
  { session with connects := session.connects.set index connect }

def setDisconnect (session : Session) (index : Nat) (disconnect : Disconnect) : Session :=
  { session with disconnects := session.disconnects.set index disconnect }

def setReader (session : Session) (index : Nat) (reader : Reader) : Session :=
  { session with readers := session.readers.set index reader }

def setWriter (session : Session) (index : Nat) (writer : Writer) : Session :=
  { session with writers := session.writers.set index writer }

def setTimer (session : Session) (index : Nat) (timer : Timer) : Session :=
  { session with timers := session.timers.set index timer }

def setLoop (session : Session) (index : Nat) (loop : Loop) : Session :=
  { session with loops := session.loops.set index loop }

/-! The channel of the current connection. -/

/-- `commands.trySend`, once there is room. -/
def enqueue (session : Session) (queued : Nat) : Session :=
  { session with
    channels := session.channels.modify session.commands fun channel =>
      { channel with
        buffer := channel.buffer ++ [queued]
        accepted := channel.accepted ++ [queued] }
    queue := session.queue.modify queued fun entry =>
      { entry with owner := .channel session.commands, acceptedOn := session.opens } }

/-- Whether `commands.trySend` succeeds. -/
def hasRoom (session : Session) : Bool :=
  (session.channels[session.commands]?).any Channel.hasRoom

/-- The command that `commands.tryReceive` would take. -/
def oldest (session : Session) : Option Nat :=
  (session.channels[session.commands]?).bind fun channel => channel.buffer.head?

/-- `commands.tryReceive`, whose result nobody uses. -/
def poll (session : Session) : Session :=
  match session.oldest with
  | some queued =>
    { session with
      channels := session.channels.modify session.commands fun channel =>
        { channel with buffer := channel.buffer.tail } }.own queued .nobody
  | none => session

/-- `send`: the new command is accepted, or its result is completed at once. -/
def send (session : Session) (command : SerialCommand) : Session :=
  let queued := session.queue.length
  let entry : QueuedCommand := { command := command }
  let session := { session with queue := session.queue ++ [entry] }
  -- The three refusals are tested in the order of the source.
  if session.terminal then session.complete queued (.failed .alreadyClosed)
  else if !session.state.isConnected then session.complete queued (.failed .notConnected)
  else if session.hasRoom then session.enqueue queued
  else if session.config.any (fun config => config.queue.overflow == .dropOldest) then
    -- Nobody completes the result of the command that is received here.
    let session := session.poll
    if session.hasRoom then session.enqueue queued
    else session.complete queued (.failed .queueFull)
  else session.complete queued (.failed .queueFull)

/-! Opening, closing, and failing, which several coroutines do. -/

/-- `startWorkers`: a cancelled scope launches coroutines that never run. -/
def startWorkers (session : Session) (config : SerialConfig) : Session :=
  -- The variables refer to the new jobs only, so the old ones cannot be cancelled any more.
  let reader : Reader := { cancelled := !session.scopeActive, connection := session.opens }
  let writer : Writer :=
    { config := config, cancelled := !session.scopeActive, connection := session.opens }
  { session with
    reader := some session.readers.length
    readers := session.readers ++ [reader]
    writer := some session.writers.length
    writers := session.writers ++ [writer] }

/-- What follows a successful `transport.open`, up to the next event. -/
def opened (session : Session) (config : SerialConfig) : Session :=
  let session := { session with
    opens := session.opens + 1
    link := some (session.opens + 1)
    exhausted := false }
  -- The channel is replaced before the workers are launched, and the state is set behind.
  let channel : Channel := { capacity := config.queue.capacity.toNatClampNeg }
  let session := { session with
    commands := session.channels.length
    channels := session.channels ++ [channel] }
  let session := session.startWorkers config
  { session with state := .connected config }.emit (.stateChanged (.connected config))

/-- A call of `transport.open`. -/
def callOpen (session : Session) : Session :=
  { session with openCalls := session.openCalls + 1 }

/-- A call of `transport.close`, which ends the current connection. -/
def callClose (session : Session) : Session :=
  { session with link := none }

/-- `reader?.cancel(); writer?.cancel()`. -/
def cancelWorkers (session : Session) : Session :=
  { session with
    readers := cancelJob session.reader session.readers Reader.cancel
    writers := cancelJob session.writer session.writers Writer.cancel }

/-- The first part of `fail`, up to its first event. -/
def failRaise (session : Session) (error : SerialError) : Session :=
  -- The state is set whatever it was, also when the session has been closed.
  { session with state := .failed error true }.emit (.errorRaised error)

/-- The second part of `fail`, which announces whatever the state is by then. -/
def failChange (session : Session) : Session :=
  session.emit (.stateChanged session.state)

/-- The last part of `fail`: a loop is launched by whoever wins the flag. -/
def failSettle (session : Session) : Session :=
  match session.config with
  | some config =>
    if config.reconnect.enabled && !session.reconnecting then
      -- The flag is taken before the terminal flag is tested.
      if session.terminal then { session with reconnecting := true }
      else
        let loop : Loop := { config := config, cancelled := !session.scopeActive }
        { session with reconnecting := true, loops := session.loops ++ [loop] }
    else session
  | none => session

/-! The calls of `connect`, `disconnect`, and `close`. -/

/-- The tests of `connect`, and its first event. -/
def connectBegin (session : Session) (index : Nat) (connect : Connect) : Session :=
  -- The state is tested and set without a suspension in between.
  if session.terminal then
    session.setConnect index { connect with point := .returned .alreadyClosed }
  else if session.state.isConnected then
    session.setConnect index { connect with point := .returned .success }
  else
    ({ session with state := .connecting }.emit (.stateChanged .connecting)).setConnect index
      { connect with point := .emitConnecting }

def connectOpened (session : Session) (index : Nat) (connect : Connect) : Session :=
  ({ session with config := some connect.config }.opened connect.config).setConnect index
    { connect with point := .emitConnected }

def connectFailed (session : Session) (index : Nat) (connect : Connect) (cause : Throwable) :
    Session :=
  (session.failRaise (.openFailed (some cause))).setConnect index
    { connect with point := .failing cause .raised }

/-- `disconnect` up to its first event; it returns at once unless the session is connected. -/
def disconnectCall (session : Session) : Session :=
  if session.terminal || !session.state.isConnected then
    -- The call does nothing, also while a connection is being opened or a loop reconnects.
    let call : Disconnect := { point := .refused }
    { session with disconnects := session.disconnects ++ [call] }
  else
    let call : Disconnect := { point := .emitClosing }
    { session with
      state := .closing .requested
      disconnects := session.disconnects ++ [call] }.emit (.stateChanged (.closing .requested))

/-- The workers are cancelled, one queued command is thrown away, and the transport is closed. -/
def disconnectStrike (session : Session) (index : Nat) (disconnect : Disconnect) : Session :=
  -- The workers are cancelled without waiting for them to end.
  session.cancelWorkers.poll.callClose.setDisconnect index { disconnect with point := .closing }

def disconnectClosed (session : Session) (index : Nat) (disconnect : Disconnect) : Session :=
  ({ session with state := .idle }.emit (.stateChanged .idle)).setDisconnect index
    { disconnect with point := .emitIdle }

/-- `close`: only the first call launches the coroutine that shuts the session down. -/
def closeCall (session : Session) : Session :=
  -- `compareAndSet` lets one call through.
  if session.terminal then session
  else { session with terminal := true, shutdown := some .dispatch }

def shutdownStrike (session : Session) : Session :=
  { session.cancelWorkers.callClose with shutdown := some .closing }

def shutdownClosed (session : Session) : Session :=
  -- Whatever is left in the channel stays there.
  { session with
    channels := session.channels.modify session.commands fun channel =>
      { channel with closed := true }
    state := .closed
    shutdown := some .emitClosed }.emit (.stateChanged .closed)

/-- The scope is cancelled, and every coroutine launched in it. -/
def shutdownFinished (session : Session) : Session :=
  { session with
    scopeActive := false
    readers := session.readers.map Reader.cancel
    writers := session.writers.map Writer.cancel
    timers := session.timers.map Timer.cancel
    loops := session.loops.map Loop.cancel
    shutdown := some .finished }

/-! The reader. -/

/-- The chunk completes the pending command if it answers it. -/
def matchResponse (session : Session) (data : Bytes) (chunk : Nat) : Session :=
  match session.pendingResponse with
  | none => session
  | some queued =>
    if (session.queue[queued]?).any fun waiting => waiting.command.accepts data then
      { session with
        queue := session.queue.modify queued fun entry => entry.answer data chunk
        pendingResponse := none }
    else session

/-- A read that returned bytes: they are matched and then published. -/
def handleChunk (session : Session) (index : Nat) (reader : Reader) (data : Bytes)
    (link : Option Nat) : Session :=
  -- A chunk that was read from a connection that is gone belongs to none.
  let chunk : Chunk :=
    { data := data, reader := index, readOn := if link = session.link then link else none }
  let matched := { session with chunks := session.chunks ++ [chunk] }.matchResponse data
    session.chunks.length
  (matched.emit (.dataReceived data)).setReader index { reader with point := .emitReceived }

/-- An exception inside the loop over the reads ends the reader by way of `fail`. -/
def readerFailed (session : Session) (index : Nat) (reader : Reader) (message : String) : Session :=
  (session.failRaise (.readFailed (some (.exception message)))).setReader index
    { reader with point := .failing .raised }

/-! The writer. -/

/-- A command leaves the channel; its delay is what the writer waits for next. -/
def take (session : Session) (index : Nat) (writer : Writer) (channel queued : Nat)
    (command : SerialCommand) : Session :=
  let session := { session with
    channels := session.channels.modify channel fun from_ =>
      { from_ with buffer := from_.buffer.tail } }.own queued (.writer index)
  session.setWriter index
    { writer with point := writer.pausing queued command, taken := writer.taken ++ [queued] }

/-- The loop over the attempts is over, and its result is announced. -/
def conclude (session : Session) (index : Nat) (writer : Writer) (queued : Nat)
    (command : SerialCommand) (result : CommandResult) : Session :=
  match result with
  | .sent bytes =>
    (session.emit (.commandSent command.id bytes)).setWriter index
      { writer with point := .reporting queued result }
  | .timedOut timeout =>
    (session.emit (.commandTimedOut command.id command.tag timeout)).setWriter index
      { writer with point := .reporting queued result }
  | .failed error =>
    -- `fail` is called before the result of the command is completed.
    (session.failRaise error).setWriter index { writer with point := .failing queued error .raised }
  -- An attempt ends with nothing else.
  | _ => session.setWriter index { writer with point := .reporting queued result }

/-- An attempt has ended: another one follows a failure while there are attempts left. -/
def attemptEnded (session : Session) (index : Nat) (writer : Writer) (queued : Nat)
    (command : SerialCommand) (attempt : Nat) (result : CommandResult) : Session :=
  let writer := { writer with attempts := writer.attempts ++ [(queued, result)] }
  if !result.isSent && attempt + 1 < command.attempts then
    match command.retryDelay.toMillis with
    | some _ => session.setWriter index { writer with point := .retrying queued (attempt + 1) }
    -- A delay that cannot be measured throws outside of the attempt, and ends the writer.
    | none => session.setWriter index { writer with point := .finished }
  else session.conclude index writer queued command result

/-- An attempt begins with the call of `transport.write`, unless its timeout does not fit. -/
def beginAttempt (session : Session) (index : Nat) (writer : Writer) (queued : Nat)
    (command : SerialCommand) (attempt : Nat) : Session :=
  match (writer.timeoutFor command).toMillis with
  | some _ => session.setWriter index { writer with point := .writing queued attempt session.link }
  | none => session.attemptEnded index writer queued command attempt
      (.failed (.writeFailed (some .arithmeticException)))

/-- The loop over the attempts is entered, and left at once when its count is not positive. -/
def beginWriting (session : Session) (index : Nat) (writer : Writer) (queued : Nat)
    (command : SerialCommand) : Session :=
  if command.attempts = 0 then
    session.conclude index writer queued command (.failed (.writeFailed none))
  else session.beginAttempt index writer queued command 0

/-- The write has completed, and the writer is to be resumed with its value. -/
def written (session : Session) (index : Nat) (writer : Writer) (queued attempt : Nat)
    (link : Option Nat) (bytes : Int) : Session :=
  { session with
    queue := session.queue.modify queued fun entry =>
      { entry with writtenOn := if link = session.link then link else none } }.setWriter index
    { writer with point := .resuming queued attempt bytes }

/-- The command waits for its response, and a timer is launched to end the wait. -/
def arm (session : Session) (queued : Nat) (timeout : Duration) : Session :=
  let timer : Timer :=
    { queued := queued, timeout := timeout, cancelled := !session.scopeActive }
  { session with
    pendingResponse := some queued
    timers := session.timers ++ [timer] }.own queued .response

/-- After the announcement a request starts to wait, and any other command is completed. -/
def report (session : Session) (index : Nat) (writer : Writer) (queued : Nat)
    (command : SerialCommand) (result : CommandResult) : Session :=
  let next := { writer with point := .receiving }
  -- The result is completed here, or when the response comes or its time is over.
  if result.isSent && command.responseMatcher.isSome then
    (session.arm queued
      (command.responseTimeout.getD (writer.timeoutFor command))).setWriter index next
  else (session.complete queued result).setWriter index next

/-- `fail` has returned to the writer, which completes the command and goes on. -/
def writerFailed (session : Session) (index : Nat) (writer : Writer) (queued : Nat)
    (error : SerialError) : Session :=
  (session.failSettle.complete queued (.failed error)).setWriter index
    { writer with point := .receiving }

/-! The response timer. -/

def timerFired (session : Session) (index : Nat) (timer : Timer) : Session :=
  -- The slot may have been emptied, or taken by another request, in the meantime.
  if session.pendingResponse = some timer.queued then
    ({ session with pendingResponse := none }.complete timer.queued
      (.timedOut timer.timeout)).setTimer index { timer with point := .fired }
  else session.setTimer index { timer with point := .fired }

/-! The reconnect loop. -/

/-- Whatever ends the loop, the flag is released. -/
def loopFinished (session : Session) (index : Nat) (loop : Loop) : Session :=
  { session with reconnecting := false }.setLoop index { loop with point := .finished }

def loopStrike (session : Session) (index : Nat) (loop : Loop) : Session :=
  -- The loop runs in the scope itself, and so it does not cancel itself.
  session.cancelWorkers.callClose.setLoop index { loop with point := .closing }

/-- The next attempt, or the end of the loop when the session is closed or the attempts are used. -/
def loopAttempt (session : Session) (index : Nat) (loop : Loop) (attempt : Nat) : Session :=
  if attempt < loop.config.reconnect.maxAttempts.toNatClampNeg then
    if session.terminal then session.loopFinished index loop
    else
      match loop.config.reconnect.delayFor attempt with
      -- The conversion of the delay throws, and the `finally` releases the flag.
      | none => session.loopFinished index loop
      | some delayMillis =>
        (session.emit (.reconnecting (attempt + 1) delayMillis)).setLoop index
          { loop with point := .emitReconnecting attempt delayMillis }
  else
    ({ session with exhausted := true }.emit .reconnectExhausted).setLoop index
      { loop with point := .emitExhausted }

def loopConnecting (session : Session) (index : Nat) (loop : Loop) (attempt : Nat) : Session :=
  ({ session with state := .connecting }.emit (.stateChanged .connecting)).setLoop index
    { loop with point := .emitConnecting attempt }

def loopOpened (session : Session) (index : Nat) (loop : Loop) (attempt : Nat) : Session :=
  (session.opened loop.config).setLoop index { loop with point := .emitConnected attempt }

def loopFailed (session : Session) (index : Nat) (loop : Loop) (attempt : Nat)
    (cause : Throwable) : Session :=
  (session.emit (.errorRaised (.openFailed (some cause)))).setLoop index
    { loop with point := .emitFailed attempt }

def loopSucceeded (session : Session) (index : Nat) (loop : Loop) : Session :=
  (session.emit .reconnectSucceeded).setLoop index { loop with point := .emitSucceeded }

end Session

end SerialPort
