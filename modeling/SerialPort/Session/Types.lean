import SerialPort.Bytes

/-! The values a session works with: configurations, commands, results, events, and states. -/

namespace SerialPort

/-- A span of time, in whole milliseconds. -/
abbrev Duration := Int

/-- The milliseconds as a 64-bit integer; an exception is thrown when they do not fit. -/
def Duration.toMillis (duration : Duration) : Option Int :=
  if -2 ^ 63 ≤ duration ∧ duration < 2 ^ 63 then some duration else none

/-- What a suspended call can throw. -/
inductive Throwable where
  | cancellationException
  | arithmeticException
  | exception (message : String)
  deriving DecidableEq, Repr

inductive SerialError where
  | deviceNotFound
  | permissionDenied
  | unsupportedAbi
  | openFailed (cause : Option Throwable)
  | readFailed (cause : Option Throwable)
  | writeFailed (cause : Option Throwable)
  | alreadyClosed
  | notConnected
  | queueFull
  | cancelled
  deriving DecidableEq, Repr

/-- How often and how fast a failed session is opened again. -/
structure ReconnectPolicy where
  enabled : Bool := false
  maxAttempts : Int32 := 3
  initialDelay : Duration := 500
  maxDelay : Duration := 10000
  multiplier : Float := 2.0
  attempts_valid : 0 ≤ maxAttempts := by decide
  delays_valid : 0 ≤ initialDelay ∧ 0 ≤ maxDelay ∧ initialDelay ≤ maxDelay := by decide

/-- The pause before an attempt, in milliseconds, unless a duration does not fit. -/
def ReconnectPolicy.delayFor (policy : ReconnectPolicy) (attempt : Nat) : Option Int := do
  let initial ← policy.initialDelay.toMillis
  let millis := (Float.ofInt initial * Float.pow policy.multiplier (Float.ofNat attempt)).toInt64
  let longest ← policy.maxDelay.toMillis
  return min millis.toInt longest

inductive QueueOverflow where
  | reject
  | dropOldest
  deriving DecidableEq, Repr

structure QueueConfig where
  capacity : Int32 := 256
  overflow : QueueOverflow := .reject
  defaultWriteDelay : Duration := 0
  defaultTimeout : Duration := 500
  capacity_valid : 0 < capacity := by decide
  durations_valid : 0 ≤ defaultWriteDelay ∧ 0 ≤ defaultTimeout := by decide

inductive SerialMode where
  | readOnly
  | writeOnly
  | readWrite
  deriving DecidableEq, Repr

structure SerialConfig where
  path : String
  baudRate : Int32
  mode : SerialMode := .readWrite
  readBufferSize : Int32 := 512
  queue : QueueConfig := {}
  reconnect : ReconnectPolicy := {}
  path_valid : path.toList.any (fun character => !character.isWhitespace) := by decide
  baudRate_valid : 0 < baudRate := by decide
  readBufferSize_valid : 0 < readBufferSize := by decide

/-- Decides whether a received chunk answers a request, unless it throws (`Outcome.rejects`). -/
abbrev ResponseMatcher := Bytes → Bytes → Bool

/-- Every chunk answers the request. -/
def ResponseMatchers.Any : ResponseMatcher := fun _ _ => true

structure SerialCommand where
  payload : Bytes
  timeout : Option Duration := none
  delay : Option Duration := none
  maxRetries : Int32 := 0
  retryDelay : Duration := 0
  responseMatcher : Option ResponseMatcher := none
  responseTimeout : Option Duration := none
  tag : Option String := none
  id : String := ""
  payload_valid : payload ≠ [] := by decide
  retries_valid : 0 ≤ maxRetries := by decide
  retryDelay_valid : 0 ≤ retryDelay := by decide

/-- A command that has its defaults for everything but the payload. -/
def SerialCommand.ofPayload (payload : Bytes) (valid : payload ≠ []) : SerialCommand :=
  { payload := payload, payload_valid := valid }

inductive CommandResult where
  | sent (bytes : Int)
  | response (data : Bytes)
  | timedOut (timeout : Duration)
  | failed (error : SerialError)
  | cancelled
  deriving DecidableEq, Repr

/-- Whether an attempt ended the retry loop. -/
def CommandResult.isSent : CommandResult → Bool
  | .sent _ => true
  | _ => false

inductive CloseReason where
  | requested
  | failed
  deriving DecidableEq, Repr

inductive SerialState where
  | idle
  | connecting
  | connected (config : SerialConfig)
  | closing (reason : CloseReason)
  | failed (error : SerialError) (recoverable : Bool)
  | closed

/-- Whether commands are accepted in this state. -/
def SerialState.isConnected : SerialState → Bool
  | .connected _ => true
  | _ => false

inductive SerialEvent where
  | stateChanged (state : SerialState)
  | dataReceived (data : Bytes)
  | commandSent (id : String) (bytes : Int)
  | commandTimedOut (id : String) (tag : Option String) (timeoutMillis : Int)
  | errorRaised (error : SerialError)
  | reconnecting (attempt : Nat) (delayMillis : Int)
  | reconnectSucceeded
  | reconnectExhausted

end SerialPort
