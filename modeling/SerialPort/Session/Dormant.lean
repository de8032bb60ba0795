import SerialPort.Session.Changes
import SerialPort.Session.History

/-! Sessions in which nobody is going to change the state or to open the transport any more. -/

namespace SerialPort

namespace Session

/-- A reconnect loop gives up here, without a further attempt. -/
def Stalls (session : Session) (config : SerialConfig) (attempt : Nat) : Prop :=
  session.terminal = true ∨ config.reconnect.maxAttempts.toNatClampNeg ≤ attempt ∨
    (config.reconnect.delayFor attempt).isNone = true

/-- A failure launches no reconnect loop, or one that gives up at once. -/
def Relents (session : Session) : Prop :=
  ∀ config ∈ session.config, config.reconnect.enabled = true → session.Stalls config 0

/-- Nothing is waiting in the channel that the writer receives from. -/
def Starves (session : Session) (writer : Writer) : Prop :=
  ∀ channel ∈ writer.channel, session.bufferOf channel = []

instance (session : Session) (config : SerialConfig) (attempt : Nat) :
    Decidable (session.Stalls config attempt) :=
  inferInstanceAs (Decidable (_ ∨ _))

instance (session : Session) : Decidable session.Relents :=
  inferInstanceAs (Decidable (∀ config ∈ session.config, _))

instance (session : Session) (writer : Writer) : Decidable (session.Starves writer) :=
  inferInstanceAs (Decidable (∀ channel ∈ writer.channel, _))

/-- The call returns without changing the state or opening the transport. -/
def DormantConnect (session : Session) (connect : Connect) : Prop :=
  match connect.point with
  | .dispatch => session.terminal = true ∨ connect.cancelled = true
  | .failing _ _ => session.Relents
  | .returned _ => True
  | _ => False

/-- The reader does not read any more. -/
def DormantReader (session : Session) (reader : Reader) : Prop :=
  match reader.point with
  | .dispatch => reader.cancelled = true
  | .failing _ => session.Relents
  | .finished => True
  | _ => False

/-- The writer does not write any more. -/
def DormantWriter (session : Session) (writer : Writer) : Prop :=
  match writer.point with
  | .dispatch => writer.cancelled = true ∨ session.bufferOf session.commands = []
  | .receiving => session.Starves writer
  | .delaying queued => writer.cancelled = true ∧
    (session.queue[queued]?).any (fun entry => 0 < writer.delayFor entry.command) = true
  | .writing _ _ _ => False
  | .resuming _ _ _ => False
  | .retrying queued _ => writer.cancelled = true ∧
    (session.queue[queued]?).any (fun entry => 0 < entry.command.retryDelay) = true
  | .reporting _ _ => session.Starves writer
  | .failing _ _ _ => session.Starves writer ∧ session.Relents
  | .finished => True

/-- The loop makes no attempt any more. -/
def DormantLoop (session : Session) (loop : Loop) : Prop :=
  match loop.point with
  | .dispatch => loop.cancelled = true ∨ session.Stalls loop.config 0
  | .closing => session.Stalls loop.config 0
  | .emitReconnecting _ delayMillis => loop.cancelled = true ∧ 0 < delayMillis
  | .delaying _ delayMillis => loop.cancelled = true ∧ 0 < delayMillis
  | .emitConnecting _ => False
  | .opening _ => False
  | .emitConnected attempt => loop.cancelled = true → session.Stalls loop.config (attempt + 1)
  | .emitFailed attempt => session.Stalls loop.config (attempt + 1)
  | _ => True

/-- Nobody is on the way to a connection or to a failure. -/
structure Dormant (session : Session) : Prop where
  refuses : session.terminal = true ∨ session.state.isConnected = false
  connects : ∀ connect ∈ session.connects, session.DormantConnect connect
  readers : ∀ reader ∈ session.readers, session.DormantReader reader
  writers : ∀ writer ∈ session.writers, session.DormantWriter writer
  loops : ∀ loop ∈ session.loops, session.DormantLoop loop

section

variable (session : Session)

instance (connect : Connect) : Decidable (session.DormantConnect connect) := by
  delta DormantConnect
  rcases connect.point with _ | _ <;> infer_instance

instance (reader : Reader) : Decidable (session.DormantReader reader) := by
  delta DormantReader
  rcases reader.point with _ | _ <;> infer_instance

instance (writer : Writer) : Decidable (session.DormantWriter writer) := by
  delta DormantWriter
  rcases writer.point with _ | _ <;> infer_instance

instance (loop : Loop) : Decidable (session.DormantLoop loop) := by
  delta DormantLoop
  rcases loop.point with _ | _ <;> infer_instance

instance : Decidable session.Dormant :=
  decidable_of_iff ((session.terminal = true ∨ session.state.isConnected = false) ∧
      (∀ connect ∈ session.connects, session.DormantConnect connect) ∧
      (∀ reader ∈ session.readers, session.DormantReader reader) ∧
      (∀ writer ∈ session.writers, session.DormantWriter writer) ∧
      ∀ loop ∈ session.loops, session.DormantLoop loop)
    ⟨fun ⟨refuses, connects, readers, writers, loops⟩ =>
      ⟨refuses, connects, readers, writers, loops⟩,
      fun dormant => ⟨dormant.refuses, dormant.connects, dormant.readers, dormant.writers,
        dormant.loops⟩⟩

end

/-- Nobody calls `connect`, unless the session is closed. -/
def Unprompted (session : Session) : Action → Prop
  | .connect _ => session.terminal = true
  | _ => True

variable {session next : Session} {action : Action} {index : Nat}

/-- What a step of a dormant session keeps. -/
structure Settles (session next : Session) : Prop where
  terminal : session.terminal = true → next.terminal = true
  config : next.config = session.config
  commands : next.commands = session.commands
  buffers : ∀ channel, session.bufferOf channel = [] → next.bufferOf channel = []
  evolves : Evolves session next

/-- A closed session stays closed. -/
theorem Moves.terminal (moved : Moves session action next) (closed : session.terminal = true) :
    next.terminal = true := by
  -- The flag is set by `close` and reset by nobody.
  rcases moved.aside_or_calling with aside | calling
  · rw [aside.terminal, closed]
  cases calling with
  | disconnect =>
    obtain ⟨state, events, point, shape⟩ := session.disconnectCall_shape
    rw [shape]
    exact closed
  | close =>
    obtain ⟨shutdown, shape⟩ := session.closeCall_shape
    rw [shape]
  | inDisconnect found moved =>
    cases moved with
    | strike at_ =>
      obtain ⟨queue, channels, shape⟩ := session.cancelWorkers.poll_shape
      unfold disconnectStrike
      rw [shape]
      exact closed
    | _ => exact closed
  | inShutdown found moved => cases moved <;> exact closed
  | _ => exact closed

namespace Dormant

/-- Nobody is inside `transport.open`. -/
theorem opensBy (dormant : Dormant session) : session.opensBy action = false := by
  refine Bool.eq_false_iff.mpr fun opens => ?_
  rcases opensBy_cases opens with
    ⟨index, connect, -, found, at_⟩ | ⟨index, attempt, loop, -, found, at_⟩
  · -- Neither a call nor a loop inside `transport.open` is dormant.
    have asleep := dormant.connects connect (List.mem_of_getElem? found)
    simp [DormantConnect, at_] at asleep
  · have asleep := dormant.loops loop (List.mem_of_getElem? found)
    simp [DormantLoop, at_] at asleep

/-- Whoever is about to settle a failure relents. -/
theorem relents (dormant : Dormant session) (settles : session.SettlesBy action) :
    session.Relents := by
  -- A dormant coroutine at the end of `fail` is one whose failure launches nothing.
  cases settles with
  | connect found at_ =>
    have asleep := dormant.connects _ (List.mem_of_getElem? found)
    simpa [DormantConnect, at_] using asleep
  | reader found at_ =>
    have asleep := dormant.readers _ (List.mem_of_getElem? found)
    simpa [DormantReader, at_] using asleep
  | writer found at_ =>
    have asleep := dormant.writers _ (List.mem_of_getElem? found)
    simp only [DormantWriter, at_] at asleep
    exact asleep.2

/-- No writer is about to begin or to end an attempt. -/
theorem tries (dormant : Dormant session) {writer : Writer} (listed : writer ∈ session.writers) :
    ¬session.Tries writer := by
  intro tries
  have asleep := dormant.writers writer listed
  cases tries with
  | begins at_ entered live =>
    -- A positive pause of a cancelled writer ends with its cancellation only.
    simp only [DormantWriter, at_, entered, Option.any_some, decide_eq_true_eq] at asleep
    rcases live with live | short
    · simp [live] at asleep
    · exact absurd asleep.2 (Int.not_lt.mpr short)
  | ends at_ =>
    -- An attempt in progress is not asleep, wherever it has got to.
    rcases Writer.tries_cases at_ with ⟨link, at_⟩ | ⟨bytes, at_⟩ <;>
      simp [DormantWriter, at_] at asleep
  | retries at_ entered live =>
    -- A positive pause of a cancelled writer ends with its cancellation only.
    simp only [DormantWriter, at_, entered, Option.any_some, decide_eq_true_eq] at asleep
    rcases live with live | short
    · simp [live] at asleep
    · exact absurd asleep.2 (Int.not_lt.mpr short)

/-- A command that is sent is refused. -/
theorem send_channels (dormant : Dormant session) (command : SerialCommand) :
    (session.send command).channels = session.channels := by
  unfold Session.send
  -- Either test of `send` refuses the command before it gets to the channel.
  rcases dormant.refuses with terminal | unconnected
  · simp [terminal, complete]
  · cases terminal : session.terminal <;> simp [unconnected, complete]

/-- A dormant session settles down with every move. -/
theorem settles (dormant : Dormant session) (moved : Moves session action next) :
    Settles session next := by
  have evolves := Evolves.of_moves moved
  have terminal := moved.terminal
  have same (config : next.config = session.config) (commands : next.commands = session.commands)
      (channels : next.channels = session.channels) : Settles session next := by
    refine ⟨terminal, config, commands, fun channel empty => ?_, evolves⟩
    -- Whatever leaves the channels alone keeps the empty ones empty.
    rw [bufferOf_congr channels]
    exact empty
  rcases moved.untouched_or_custodial with untouched | custodial
  · exact same untouched.config untouched.commands untouched.channels
  cases custodial with
  | send command =>
    have channels := dormant.send_channels command
    obtain ⟨queue, channels', shape⟩ := session.send_shape command
    exact same (by rw [shape]) (by rw [shape]) channels
  | disconnectStrike found at_ =>
    -- Receiving a command takes it out of a channel, and puts none into one.
    have fewer := @Custody.poll_holds session.cancelWorkers
    refine ⟨terminal, ?_, ?_, fun channel empty => ?_, evolves⟩
    · obtain ⟨queue, channels, shape⟩ := session.cancelWorkers.poll_shape
      simp only [disconnectStrike, shape]
      rfl
    · obtain ⟨queue, channels, shape⟩ := session.cancelWorkers.poll_shape
      simp only [disconnectStrike, shape]
      rfl
    · refine List.eq_nil_iff_forall_not_mem.mpr fun token waits => ?_
      have waited : token ∈ session.bufferOf channel := fewer (.channel channel) token waits
      simp [empty] at waited
  | shutdownStrike at_ => exact same rfl rfl rfl
  | shutdownClosed at_ =>
    refine ⟨terminal, rfl, rfl, fun channel empty => ?_, evolves⟩
    -- Closing the channel leaves its commands where they are.
    rw [bufferOf_shutdownClosed]
    exact empty
  | shutdownFinished at_ => exact same rfl rfl rfl
  | connectOpened found at_ =>
    have asleep := dormant.connects _ (List.mem_of_getElem? found)
    simp [DormantConnect, at_] at asleep
  | loopStrike found at_ live => exact same rfl rfl rfl
  | loopOpened found at_ =>
    have asleep := dormant.loops _ (List.mem_of_getElem? found)
    simp [DormantLoop, at_] at asleep
  | @chunk index reader link length buffer found at_ positive =>
    have asleep := dormant.readers _ (List.mem_of_getElem? found)
    simp [DormantReader, at_] at asleep
  | @inWriter index writer outcome next found moved =>
    have besides := moved.besides
    refine same besides.config besides.commands ?_
    rcases moved.channels with kept | ⟨channel, from_, at_, bound, there, filled, -⟩
    · exact kept
    · -- A dormant writer finds nothing to take.
      have asleep := dormant.writers _ (List.mem_of_getElem? found)
      simp only [DormantWriter, at_, Starves, Option.mem_def] at asleep
      have empty := asleep _ bound
      simp [bufferOf, there] at empty
      exact absurd empty filled
  | inTimer found moved =>
    cases moved with
    | fired at_ live fits =>
      obtain ⟨queue, slot, shape⟩ := session.timerFired_shape _ _
      exact same (by rw [shape]) (by rw [shape]) (by rw [shape])
    | _ => exact same rfl rfl rfl

end Dormant

/-! A loop that makes no further attempt. -/

/-- The loop makes no attempt after the one it is in. -/
def Quits (session : Session) (loop : Loop) : Prop :=
  match loop.point with
  | .opening attempt => session.Stalls loop.config (attempt + 1)
  | _ => session.DormantLoop loop

instance (session : Session) (loop : Loop) : Decidable (session.Quits loop) := by
  unfold Quits
  split <;> infer_instance

section

variable {loop : Loop} (terminal : session.terminal = true → next.terminal = true)
include terminal

/-- A loop that stalls stalls later as well. -/
theorem Stalls.later {config : SerialConfig} {attempt : Nat}
    (stalls : session.Stalls config attempt) : next.Stalls config attempt :=
  stalls.imp_left terminal

/-- A loop that makes no further attempt makes none later. -/
theorem DormantLoop.later (dormant : session.DormantLoop loop) : next.DormantLoop loop := by
  unfold DormantLoop at dormant ⊢
  -- The points at which a loop may be dormant, each with what it is going to give up for.
  cases at_ : loop.point <;> simp only [at_] at dormant ⊢
  case dispatch => exact dormant.imp_right (Stalls.later terminal)
  case closing => exact dormant.later terminal
  case emitReconnecting => exact dormant
  case delaying => exact dormant
  case emitConnected => exact fun cancelled => (dormant cancelled).later terminal
  case emitFailed => exact dormant.later terminal

/-- A loop that has quit has quit later as well. -/
theorem Quits.later (quits : session.Quits loop) : next.Quits loop := by
  unfold Quits at quits ⊢
  split at quits
  · exact quits.later terminal
  · exact DormantLoop.later terminal quits

end

/-- Cancelling a loop of a closed session does not give it another attempt. -/
theorem DormantLoop.cancel {loop : Loop} (closed : session.terminal = true)
    (dormant : session.DormantLoop loop) : session.DormantLoop loop.cancel := by
  unfold DormantLoop at dormant ⊢
  -- A cancelled loop gets past none of its pauses, and a closed session ends it elsewhere.
  cases at_ : loop.point <;> simp only [Loop.cancel, at_] at dormant ⊢
  case dispatch => exact .inl trivial
  case closing => exact dormant
  case emitReconnecting => exact ⟨trivial, dormant.2⟩
  case delaying => exact ⟨trivial, dormant.2⟩
  case emitConnected => exact fun _ => .inl closed
  case emitFailed => exact dormant

/-- A loop that is cancelled in a closed session has quit. -/
theorem Quits.cancel {loop : Loop} (closed : session.terminal = true)
    (quits : session.Quits loop) : session.Quits loop.cancel := by
  unfold Quits at quits ⊢
  have point : loop.cancel.point = loop.point := rfl
  rw [point]
  split at quits
  · exact quits
  · exact DormantLoop.cancel closed quits

/-- A dormant loop is not inside an attempt, and so it makes none after it. -/
theorem DormantLoop.quits {loop : Loop} (dormant : session.DormantLoop loop) :
    session.Quits loop := by
  unfold Quits
  split
  · -- A loop inside an attempt is not dormant, whatever follows the attempt.
    next attempt at_ => simp [DormantLoop, at_] at dormant
  · exact dormant

/-- A loop that gives up has nothing more to do than to release its flag. -/
theorem loopAttempt_finishes {loop : Loop} {attempt : Nat}
    (stalls : session.Stalls loop.config attempt) : ∃ point,
      (session.loopAttempt index loop attempt).loops =
        session.loops.set index { loop with point := point } ∧
      (point = .finished ∨ point = .emitExhausted) := by
  unfold loopAttempt
  split
  · -- An attempt remains, but the session is closed or the delay does not fit.
    next remains =>
    split
    · exact ⟨_, rfl, .inl rfl⟩
    · next open_ =>
      -- Neither the flag nor the number of attempts ends the loop, so its pause does.
      rcases stalls with terminal | exhausted | beyond
      · exact absurd terminal open_
      · omega
      · simp only [Option.isNone_iff_eq_none] at beyond
        rw [beyond]
        exact ⟨_, rfl, .inl rfl⟩
  · -- There is no attempt left, which the loop is going to announce.
    exact ⟨_, rfl, .inr rfl⟩

/-- A loop that makes no further attempt is dormant once it has left the one it is in. -/
theorem LoopMoves.quits {before after : Loop} {outcome : Outcome}
    (moved : LoopMoves session index before outcome next) (quits : session.Quits before)
    (terminal : session.terminal = true → next.terminal = true)
    (there : next.loops[index]? = some after) : next.DormantLoop after := by
  unfold Quits at quits
  -- The loop gives up at its next attempt, whichever it is.
  have finishes {attempt : Nat} (stalls : session.Stalls before.config attempt)
      (next_ : next = session.loopAttempt index before attempt) : next.DormantLoop after := by
    obtain ⟨point, loops, finishes⟩ := loopAttempt_finishes stalls
    obtain rfl := eq_of_set (next_ ▸ loops) there
    rcases finishes with rfl | rfl <;> trivial
  cases moved with
  | strike at_ live =>
    -- A loop that was cancelled before it began would not have run.
    simp only [at_, DormantLoop, live, Bool.false_eq_true, false_or] at quits
    obtain rfl := eq_of_set rfl there
    exact quits.later terminal
  | first at_ =>
    simp only [at_, DormantLoop] at quits
    exact finishes quits rfl
  | next at_ =>
    simp only [at_, DormantLoop] at quits
    exact finishes quits rfl
  -- A loop that announces an attempt is cancelled, and its pause is a positive one.
  | announced at_ =>
    simp only [at_, DormantLoop] at quits
    obtain rfl := eq_of_set rfl there
    exact quits
  | connecting at_ live =>
    -- A positive pause of a cancelled loop ends with its cancellation only.
    simp only [at_, DormantLoop] at quits
    rcases live with live | short
    · simp [live] at quits
    · omega
  -- A loop between the pause and the attempt is not one that has given up.
  | callOpen at_ => simp [at_, DormantLoop] at quits
  -- The attempt succeeds, and a loop that is cancelled afterwards finds no further one.
  | opened at_ =>
    simp only [at_] at quits
    obtain rfl := eq_of_set rfl there
    exact fun _ => quits.later terminal
  -- The attempt fails, and the loop is to give up before the next one.
  | failed at_ =>
    simp only [at_] at quits
    obtain rfl := eq_of_set rfl there
    exact quits.later terminal
  | caught at_ cancelled =>
    obtain rfl := eq_of_set rfl there
    rcases at_ with at_ | at_
    · simp only [at_] at quits
      exact quits.later terminal
    · simp only [at_, DormantLoop] at quits
      exact (quits cancelled).later terminal
  -- The remaining steps end the loop.
  | _ =>
    obtain rfl := eq_of_set rfl there
    trivial

/-! Each coroutine stays dormant while it is left alone. -/

namespace Settles

variable (settles : Settles session next)
include settles

/-- A loop that stalls still does so when the session has settled. -/
theorem stalls {config : SerialConfig} {attempt : Nat} (stalls : session.Stalls config attempt) :
    next.Stalls config attempt :=
  stalls.later settles.terminal

/-- A session that relents still does so when it has settled. -/
theorem relents (relents : session.Relents) : next.Relents := by
  intro config configured enabled
  exact settles.stalls (relents config (settles.config ▸ configured) enabled)

/-- A writer that starves still does so when the session has settled. -/
theorem starves {writer : Writer} (starves : session.Starves writer) : next.Starves writer :=
  fun channel bound => settles.buffers channel (starves channel bound)

/-- A command that pauses still does so when the session has settled. -/
theorem pauses {queued : Nat} {pause : SerialCommand → Duration}
    (long : (session.queue[queued]?).any (fun entry => 0 < pause entry.command) = true) :
    (next.queue[queued]?).any (fun entry => 0 < pause entry.command) = true := by
  -- Commands do not change, and so neither do the pauses that they ask for.
  obtain ⟨before, entered, positive⟩ := (Option.any_eq_true _ _).mp long
  obtain ⟨after, entered', evolved⟩ := settles.evolves queued before entered
  exact (Option.any_eq_true _ _).mpr ⟨after, entered', by rw [evolved.command]; exact positive⟩

/-- A dormant call of `connect` stays dormant when the session settles. -/
theorem connect {connect : Connect} (dormant : session.DormantConnect connect) :
    next.DormantConnect connect := by
  -- What keeps a call dormant is the flag, or a failure that launches nothing.
  unfold DormantConnect at dormant ⊢
  cases at_ : connect.point <;> simp only [at_] at dormant ⊢
  case dispatch => exact dormant.imp_left settles.terminal
  case failing => exact settles.relents dormant

/-- A dormant reader stays dormant when the session settles. -/
theorem reader {reader : Reader} (dormant : session.DormantReader reader) :
    next.DormantReader reader := by
  unfold DormantReader at dormant ⊢
  cases at_ : reader.point <;> simp only [at_] at dormant ⊢
  case dispatch => exact dormant
  case failing => exact settles.relents dormant

/-- A dormant writer stays dormant when the session settles. -/
theorem writer {writer : Writer} (dormant : session.DormantWriter writer) :
    next.DormantWriter writer := by
  -- What keeps a writer dormant is its cancellation, an empty channel, or a failure that relents.
  unfold DormantWriter at dormant ⊢
  cases at_ : writer.point <;> simp only [at_] at dormant ⊢
  case dispatch =>
    rw [settles.commands]
    exact dormant.imp_right (settles.buffers _)
  case receiving => exact settles.starves dormant
  case delaying => exact ⟨dormant.1, settles.pauses dormant.2⟩
  case retrying => exact ⟨dormant.1, settles.pauses dormant.2⟩
  case reporting => exact settles.starves dormant
  case failing => exact ⟨settles.starves dormant.1, settles.relents dormant.2⟩

/-- A dormant loop stays dormant when the session settles. -/
theorem loop {loop : Loop} (dormant : session.DormantLoop loop) : next.DormantLoop loop :=
  dormant.later settles.terminal

end Settles

namespace Dormant

/-- Without a prompt every call of `connect` is dormant behind every move. -/
theorem connects_step (dormant : Dormant session) (unprompted : session.Unprompted action)
    (moved : Moves session action next) :
    ∀ connect ∈ next.connects, next.DormantConnect connect := by
  intro after listed
  have settles := dormant.settles moved
  obtain ⟨index, there⟩ := List.getElem?_of_mem listed
  rcases moved.connectCall there with
    ⟨before, found, rfl | rfl⟩ | ⟨before, outcome, found, -, moved⟩ | ⟨config, rfl, -, rfl⟩
  · -- A call that is left alone stays dormant with the session.
    exact settles.connect (dormant.connects after (List.mem_of_getElem? found))
  · -- A cancelled call does not begin, and one inside `fail` goes on as before.
    have asleep := settles.connect (dormant.connects before (List.mem_of_getElem? found))
    unfold DormantConnect at asleep ⊢
    cases at_ : before.point <;> simp only [at_] at asleep ⊢
    case dispatch => exact .inr trivial
    case failing => exact asleep
  · have asleep := dormant.connects before (List.mem_of_getElem? found)
    unfold DormantConnect at asleep
    cases moved with
    | begin at_ live =>
      -- The session has been closed: the call is refused when it begins.
      simp only [at_, live, Bool.false_eq_true, or_false] at asleep
      have refused : (session.connectBegin index before).connects =
          session.connects.set index { before with point := .returned .alreadyClosed } := by
        simp [connectBegin, asleep, setConnect]
      obtain rfl := eq_of_set refused there
      trivial
    | callOpen at_ => simp [at_] at asleep
    | opened at_ => simp [at_] at asleep
    | failed at_ => simp [at_] at asleep
    | caught at_ cancelled => rcases at_ with at_ | at_ <;> simp [at_] at asleep
    | returned at_ => simp [at_] at asleep
    -- Inside `fail` a call goes on to its end, which launches nothing.
    | failChanged at_ =>
      simp only [at_] at asleep
      obtain rfl := eq_of_set rfl there
      exact settles.relents asleep
    | failSettled at_ =>
      obtain ⟨_, _, shape⟩ := session.failSettle_shape
      obtain rfl := eq_of_set (by rw [shape]; rfl) there
      trivial
    | thrown open_ outside cancelled =>
      obtain rfl := eq_of_set rfl there
      trivial
  · -- Nobody calls `connect` unless the session has been closed.
    exact .inl (settles.terminal unprompted)

/-- Every reader is dormant behind every move. -/
theorem readers_step (dormant : Dormant session) (moved : Moves session action next) :
    ∀ reader ∈ next.readers, next.DormantReader reader := by
  intro after listed
  have settles := dormant.settles moved
  obtain ⟨index, there⟩ := List.getElem?_of_mem listed
  rcases moved.reader there with
    ⟨before, found, rfl | rfl⟩ | ⟨before, outcome, found, -, moved⟩ | ⟨opens, -, -⟩
  · exact settles.reader (dormant.readers after (List.mem_of_getElem? found))
  · have asleep := settles.reader (dormant.readers before (List.mem_of_getElem? found))
    unfold DormantReader at asleep ⊢
    cases at_ : before.point <;> simp only [Reader.cancel, at_] at asleep ⊢
    case failing => exact asleep
  · have asleep := dormant.readers before (List.mem_of_getElem? found)
    unfold DormantReader at asleep
    cases moved with
    | callRead at_ live =>
      -- Only a reader that has not begun could be dormant here, and it is cancelled.
      rcases at_ with at_ | at_
      · simp [at_, live at_] at asleep
      · simp [at_] at asleep
    | chunk at_ positive => simp [at_] at asleep
    | nothing at_ empty => simp [at_] at asleep
    | failed at_ => simp [at_] at asleep
    | interrupted at_ => simp [at_] at asleep
    | failChanged at_ =>
      simp only [at_] at asleep
      obtain rfl := eq_of_set rfl there
      exact settles.relents asleep
    | failSettled at_ =>
      obtain ⟨_, _, shape⟩ := session.failSettle_shape
      obtain rfl := eq_of_set (by rw [shape]; rfl) there
      trivial
    | cancelled open_ cancelled =>
      obtain rfl := eq_of_set rfl there
      trivial
  · -- Only an open starts a reader, and nobody opens the transport.
    rw [dormant.opensBy] at opens
    cases opens

/-- Every writer is dormant behind every move. -/
theorem writers_step (dormant : Dormant session) (moved : Moves session action next) :
    ∀ writer ∈ next.writers, next.DormantWriter writer := by
  intro after listed
  have settles := dormant.settles moved
  obtain ⟨index, there⟩ := List.getElem?_of_mem listed
  rcases moved.writer there with
    ⟨before, found, rfl | rfl⟩ | ⟨before, outcome, found, -, moved⟩ | ⟨opens, -, -⟩
  · exact settles.writer (dormant.writers after (List.mem_of_getElem? found))
  · have asleep := settles.writer (dormant.writers before (List.mem_of_getElem? found))
    unfold DormantWriter at asleep ⊢
    cases at_ : before.point <;> simp only [Writer.cancel, at_] at asleep ⊢
    -- A cancelled writer does not begin.
    case dispatch => exact .inl trivial
    case receiving => exact asleep
    case delaying => exact ⟨trivial, asleep.2⟩
    case retrying => exact ⟨trivial, asleep.2⟩
    case reporting => exact asleep
    case failing => exact asleep
  · have asleep := dormant.writers before (List.mem_of_getElem? found)
    unfold DormantWriter at asleep
    cases moved with
    | start at_ live =>
      -- A writer that begins finds its channel empty, and nobody sends to it any more.
      simp only [at_, live, Bool.false_eq_true, false_or] at asleep
      obtain rfl := eq_of_set rfl there
      intro channel bound
      obtain rfl := Option.some.inj bound
      exact settles.buffers _ asleep
    | @take channel queued from_ rest entry at_ bound opened buffered entered =>
      simp only [at_] at asleep
      have empty : session.bufferOf channel = [] := asleep channel bound
      simp [bufferOf, opened, buffered] at empty
    | drained at_ bound there buffered closed =>
      obtain rfl := eq_of_set rfl there
      trivial
    | begin at_ entered live =>
      exact absurd (.begins at_ entered live) (dormant.tries (List.mem_of_getElem? found))
    | written at_ entered live =>
      exact absurd (.ends (by rw [at_]; rfl)) (dormant.tries (List.mem_of_getElem? found))
    | resumed at_ entered live =>
      exact absurd (.ends (by rw [at_]; rfl)) (dormant.tries (List.mem_of_getElem? found))
    | attempted tries entered missed ended =>
      exact absurd (.ends tries) (dormant.tries (List.mem_of_getElem? found))
    | retry at_ entered live =>
      exact absurd (.retries at_ entered live) (dormant.tries (List.mem_of_getElem? found))
    | reported at_ entered =>
      -- After its report the writer goes back to a channel that is empty.
      simp only [at_] at asleep
      obtain rfl := eq_of_set (report_writers _) there
      exact settles.starves asleep
    | failChanged at_ =>
      simp only [at_] at asleep
      obtain rfl := eq_of_set rfl there
      exact ⟨settles.starves asleep.1, settles.relents asleep.2⟩
    | failSettled at_ =>
      simp only [at_] at asleep
      obtain rfl := eq_of_set (writerFailed_writers _) there
      exact settles.starves asleep.1
    | cancelled open_ cancelled =>
      obtain rfl := eq_of_set rfl there
      trivial
  · -- Only an open starts a writer, and nobody opens the transport.
    rw [dormant.opensBy] at opens
    cases opens

/-- Every loop is dormant behind every move. -/
theorem loops_step (dormant : Dormant session) (last : ShutsLast session)
    (moved : Moves session action next) : ∀ loop ∈ next.loops, next.DormantLoop loop := by
  intro after listed
  have settles := dormant.settles moved
  obtain ⟨index, there⟩ := List.getElem?_of_mem listed
  rcases moved.loop there with
    ⟨before, found, rfl | ⟨rfl, closed⟩⟩ | ⟨before, outcome, found, -, moved⟩ |
      ⟨config, settled, relaunches, rfl⟩
  · exact settles.loop (dormant.loops after (List.mem_of_getElem? found))
  · -- A loop is cancelled only at the end of a shutdown, which has closed the session.
    have asleep := dormant.loops before (List.mem_of_getElem? found)
    exact settles.loop (asleep.cancel (last.closing (by simp [closed])))
  · have asleep := dormant.loops before (List.mem_of_getElem? found)
    exact moved.quits asleep.quits settles.terminal there
  · -- The configuration for which a failure launches a loop has it give up at once.
    obtain ⟨configured, enabled, -⟩ := relaunches
    exact .inr (settles.stalls (dormant.relents settled config configured enabled))

/-- Only `disconnect` and `close` change the state, and nobody opens the transport. -/
theorem changes (dormant : Dormant session) (moved : Moves session action next) :
    next.openCalls = session.openCalls ∧
      (next.state = session.state ∨
        (next.state = .idle ∧ ∃ disconnect ∈ session.disconnects, disconnect.point = .closing) ∨
        next.state = .closed) := by
  -- Every change of the state but two is made by somebody who is not dormant.
  cases moved.changes with
  | same state calls => exact ⟨calls, .inl state⟩
  | begins found at_ live open_ state =>
    have asleep := dormant.connects _ (List.mem_of_getElem? found)
    simp [DormantConnect, at_, live, open_] at asleep
  | connectCalls found at_ state =>
    have asleep := dormant.connects _ (List.mem_of_getElem? found)
    simp [DormantConnect, at_] at asleep
  | connects found at_ =>
    have asleep := dormant.connects _ (List.mem_of_getElem? found)
    simp [DormantConnect, at_] at asleep
  | connectFails found at_ =>
    have asleep := dormant.connects _ (List.mem_of_getElem? found)
    rcases at_ with at_ | at_ <;> simp [DormantConnect, at_] at asleep
  | disconnects open_ connected =>
    -- A dormant session is connected only when it is closed.
    rcases dormant.refuses with terminal | unconnected
    · simp [terminal] at open_
    · simp [unconnected] at connected
  | idles found at_ => exact ⟨rfl, .inr (.inl ⟨rfl, _, List.mem_of_getElem? found, at_⟩)⟩
  | closes at_ => exact ⟨rfl, .inr (.inr rfl)⟩
  | readFails found at_ =>
    have asleep := dormant.readers _ (List.mem_of_getElem? found)
    simp [DormantReader, at_] at asleep
  | writeFails found tries writers at_ state =>
    exact absurd tries (dormant.tries (List.mem_of_getElem? found))
  | loopBegins found at_ live =>
    have asleep := dormant.loops _ (List.mem_of_getElem? found)
    simp only [DormantLoop, at_] at asleep
    rcases live with live | short
    · simp [live] at asleep
    · omega
  | loopCalls found at_ state =>
    have asleep := dormant.loops _ (List.mem_of_getElem? found)
    simp [DormantLoop, at_] at asleep
  | loopConnects found at_ =>
    have asleep := dormant.loops _ (List.mem_of_getElem? found)
    simp [DormantLoop, at_] at asleep

/-- The state stays, or becomes a calm one. -/
theorem calms (dormant : Dormant session) (moved : Moves session action next) :
    next.state = session.state ∨ next.state.isCalm = true := by
  rcases (dormant.changes moved).2 with same | ⟨idle, -⟩ | closed
  · exact .inl same
  · exact .inr (by rw [idle]; rfl)
  · exact .inr (by rw [closed]; rfl)

/-- Without a prompt a dormant session stays dormant. -/
theorem step (dormant : Dormant session) (last : ShutsLast session)
    (unprompted : session.Unprompted action) (moved : Moves session action next) :
    Dormant next where
  -- A refusing session goes on to refuse: it stays closed, or does not get connected.
  refuses := by
    rcases dormant.refuses with terminal | unconnected
    · exact .inl (moved.terminal terminal)
    · rcases dormant.calms moved with same | calm
      · exact .inr (by rw [same, unconnected])
      · refine .inr ?_
        cases state : next.state <;> simp_all [SerialState.isCalm, SerialState.isConnected]
  connects := dormant.connects_step unprompted moved
  readers := dormant.readers_step moved
  writers := dormant.writers_step moved
  loops := dormant.loops_step last moved

end Dormant

end Session

end SerialPort
