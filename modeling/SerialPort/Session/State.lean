import SerialPort.Session.Types

/-! The state of a session: its fields, the objects they refer to, and its coroutines. -/

namespace SerialPort

/-- Who is going to complete a command, kept as history. -/
inductive Owner where
  | caller
  | channel (channel : Nat)
  | writer (writer : Nat)
  | response
  | nobody
  deriving DecidableEq, Repr

/-- A queued command with its deferred result, referred to by its place in the list of all. -/
structure QueuedCommand where
  command : SerialCommand
  result : Option CommandResult := none
  -- History: the owner, the connections it was accepted and written on, and the chunk it took.
  owner : Owner := .caller
  acceptedOn : Nat := 0
  writtenOn : Option Nat := none
  answeredBy : Option Nat := none

/-- A bounded buffer of commands, first in first out. -/
structure Channel where
  capacity : Nat
  buffer : List Nat := []
  closed : Bool := false
  -- History: every command the channel ever accepted.
  accepted : List Nat := []

/-- A chunk a reader handled, with the connection it was read on, kept as history. -/
structure Chunk where
  data : Bytes
  reader : Nat
  readOn : Option Nat
  deriving DecidableEq, Repr

/-- Where `fail` is suspended: at its first or at its second event. -/
inductive FailPoint where
  | raised
  | changed
  deriving DecidableEq, Repr

inductive ConnectResult where
  | success
  | alreadyClosed
  | failure (cause : Throwable)
  | thrown
  deriving DecidableEq, Repr

/-- Where a `connect` call is suspended, each point named after what it waits for. -/
inductive ConnectPoint where
  | dispatch
  | emitConnecting
  | opening
  | emitConnected
  | failing (cause : Throwable) (point : FailPoint)
  | returned (result : ConnectResult)
  deriving DecidableEq, Repr

structure Connect where
  config : SerialConfig
  point : ConnectPoint := .dispatch
  cancelled : Bool := false

inductive DisconnectPoint where
  | emitClosing
  | closing
  | emitIdle
  | returned
  | refused
  | thrown
  deriving DecidableEq, Repr

structure Disconnect where
  point : DisconnectPoint
  cancelled : Bool := false
  deriving DecidableEq, Repr

/-- Where the coroutine that `close` launches is suspended. -/
inductive ShutdownPoint where
  | dispatch
  | closing
  | emitClosed
  | finished
  deriving DecidableEq, Repr

/-- Where a reader is suspended; a read remembers the connection it was called on. -/
inductive ReaderPoint where
  | dispatch
  | reading (link : Option Nat)
  | emitReceived
  | failing (point : FailPoint)
  | finished
  deriving DecidableEq, Repr

structure Reader where
  point : ReaderPoint := .dispatch
  cancelled : Bool := false
  -- History: the connection that started the reader.
  connection : Nat
  deriving DecidableEq, Repr

/-- Where a writer is suspended, with the command in its hands and the number of its attempt. The
value of a write that has completed reaches the writer only when that is resumed. -/
inductive WriterPoint where
  | dispatch
  | receiving
  | delaying (queued : Nat)
  | writing (queued attempt : Nat) (link : Option Nat)
  | resuming (queued attempt : Nat) (bytes : Int)
  | retrying (queued attempt : Nat)
  | reporting (queued : Nat) (result : CommandResult)
  | failing (queued : Nat) (error : SerialError) (point : FailPoint)
  | finished
  deriving DecidableEq, Repr

/-- The command in the writer's hands. -/
def WriterPoint.held : WriterPoint → Option Nat
  | .delaying queued => some queued
  | .writing queued _ _ => some queued
  | .resuming queued _ _ => some queued
  | .retrying queued _ => some queued
  | .reporting queued _ => some queued
  | .failing queued _ _ => some queued
  | _ => none

/-- The attempt that is in progress: the call of the transport, or what follows it. -/
def WriterPoint.tries : WriterPoint → Option (Nat × Nat)
  | .writing queued attempt _ => some (queued, attempt)
  | .resuming queued attempt _ => some (queued, attempt)
  | _ => none

structure Writer where
  config : SerialConfig
  point : WriterPoint := .dispatch
  cancelled : Bool := false
  -- The channel it receives from, fixed when it starts to run.
  channel : Option Nat := none
  -- History: the connection that started it, the commands it took, and the outcomes of attempts.
  connection : Nat
  taken : List Nat := []
  attempts : List (Nat × CommandResult) := []

inductive TimerPoint where
  | waiting
  | fired
  | finished
  deriving DecidableEq, Repr

/-- The coroutine that ends the wait for a response. -/
structure Timer where
  queued : Nat
  timeout : Duration
  point : TimerPoint := .waiting
  cancelled : Bool := false
  deriving DecidableEq, Repr

/-- Where a reconnect loop is suspended, with the number of its attempt. -/
inductive LoopPoint where
  | dispatch
  | closing
  | emitReconnecting (attempt : Nat) (delayMillis : Int)
  | delaying (attempt : Nat) (delayMillis : Int)
  | emitConnecting (attempt : Nat)
  | opening (attempt : Nat)
  | emitConnected (attempt : Nat)
  | emitFailed (attempt : Nat)
  | emitSucceeded
  | emitExhausted
  | finished
  deriving DecidableEq, Repr

structure Loop where
  config : SerialConfig
  point : LoopPoint := .dispatch
  cancelled : Bool := false

/-- A session with everything it refers to; coroutines are numbered in the order of their launch. -/
structure Session where
  state : SerialState := .idle
  config : Option SerialConfig := none
  commands : Nat := 0
  reader : Option Nat := none
  writer : Option Nat := none
  terminal : Bool := false
  pendingResponse : Option Nat := none
  reconnecting : Bool := false
  events : List SerialEvent := []
  queue : List QueuedCommand := []
  channels : List Channel := [{ capacity := 2147483647 }]
  scopeActive : Bool := true
  connects : List Connect := []
  disconnects : List Disconnect := []
  shutdown : Option ShutdownPoint := none
  readers : List Reader := []
  writers : List Writer := []
  timers : List Timer := []
  loops : List Loop := []
  -- History of the transport: calls of `open`, successful ones, and the one not yet closed again.
  openCalls : Nat := 0
  opens : Nat := 0
  link : Option Nat := none
  -- History: the chunks handled, and whether the attempts ran out since the last successful `open`.
  chunks : List Chunk := []
  exhausted : Bool := false

end SerialPort
