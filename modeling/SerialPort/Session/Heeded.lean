import SerialPort.Library.Relay
import SerialPort.Session.Changes

/-! Who attends to a failure of a worker while the session is opened again and again. -/

namespace SerialPort

/-- Where a `connect` call is suspended inside `fail`. -/
def ConnectPoint.failPoint : ConnectPoint → Option FailPoint
  | .failing _ point => some point
  | _ => none

def ConnectPoint.isReturned : ConnectPoint → Bool
  | .returned _ => true
  | _ => false

/-- Where a reader is suspended inside `fail`. -/
def ReaderPoint.failPoint : ReaderPoint → Option FailPoint
  | .failing point => some point
  | _ => none

/-- Where a writer is suspended inside `fail`. -/
def WriterPoint.failPoint : WriterPoint → Option FailPoint
  | .failing _ _ point => some point
  | _ => none

/-- Whether a loop has still to open the transport or to announce that it gives up. -/
def LoopPoint.isAhead : LoopPoint → Bool
  | .emitConnected _ => false
  | .emitSucceeded => false
  | .emitExhausted => false
  | .finished => false
  | _ => true

/-- Whether a worker has failed, and the session with it. -/
def SerialState.failedByWorker : SerialState → Bool
  | .failed (.readFailed _) _ => true
  | .failed (.writeFailed _) _ => true
  | _ => false

/-- A connected session has no failure of a worker. -/
theorem SerialState.unfailed_of_connected {state : SerialState}
    (connected : state.isConnected = true) : state.failedByWorker = false := by
  cases state with
  | connected config => rfl
  | _ => cases connected

/-- Whether the pauses between the attempts fit the integers they are counted in. -/
def ReconnectPolicy.fits (policy : ReconnectPolicy) : Bool :=
  policy.initialDelay.toMillis.isSome && policy.maxDelay.toMillis.isSome

/-- Nobody closes or disconnects the session, and it is configured to be opened again. -/
def Action.keepsTrying : Action → Bool
  | .connect config => config.reconnect.enabled && 1 ≤ config.reconnect.maxAttempts
  | .disconnect => false
  | .close => false
  | _ => true

/-- The pauses of the configuration that is asked for fit. -/
def Action.fits : Action → Bool
  | .connect config => config.reconnect.fits
  | _ => true

namespace Session

/-- Where a coroutine is suspended inside `fail`. -/
def failPoint (session : Session) : Job → Option FailPoint
  | .connect index => (session.connects[index]?).bind fun connect => connect.point.failPoint
  | .reader index => (session.readers[index]?).bind fun reader => reader.point.failPoint
  | .writer index => (session.writers[index]?).bind fun writer => writer.point.failPoint
  | _ => none

/-- Whether a coroutine attends to a failure: inside `fail`, or as a loop with an attempt ahead. -/
def attends (session : Session) : Job → Bool
  | .loop index => (session.loops[index]?).any fun loop => loop.point.isAhead
  | job => (session.failPoint job).isSome

/-- The coroutine stops attending to the failure for nothing: it leaves `fail` while another one
holds the flag, is cancelled there, or is a loop that cannot close the transport. -/
def Drops (session : Session) : Job → Outcome → Prop
  | job, .resumes => session.failPoint job = some .changed ∧ session.reconnecting = true
  | job, .cancels => (session.failPoint job).isSome
  | .loop index, .throws _ => (session.loops[index]?).any fun loop => loop.point == .closing
  | _, _ => False

/-- Whoever drops a failure of a worker leaves it to another one, unless the loop has given up. -/
def Passes (session : Session) : Action → Prop
  | .resume job outcome => session.Drops job outcome → session.state.failedByWorker = true →
      session.exhausted = true ∨ ∃ other, other ≠ job ∧ session.attends other = true
  | _ => True

/-- The session keeps being opened again, after pauses that fit, and no failure is dropped. -/
structure Heeds (session : Session) (action : Action) : Prop where
  tries : action.keepsTrying = true
  fits : action.fits = true
  passes : session.Passes action

/-- The coroutines that may attend to a failure. -/
def jobs (session : Session) : List Job :=
  (List.range session.connects.length).map .connect ++
    (List.range session.readers.length).map .reader ++
    (List.range session.writers.length).map .writer ++
    (List.range session.loops.length).map .loop

/-- What passes a test is there. -/
theorem lt_of_any {α : Type} {coroutines : List α} {index : Nat} {test : α → Bool}
    (passes : (coroutines[index]?).any test = true) : index < coroutines.length := by
  obtain ⟨_, found, -⟩ := (Option.any_eq_true _ _).mp passes
  exact (List.getElem?_eq_some_iff.mp found).1

/-- A job that is attended to is one of the jobs. -/
theorem mem_jobs {session : Session} {job : Job} (attends : session.attends job = true) :
    job ∈ session.jobs := by
  -- A coroutine that is inside `fail` is one of the list.
  have bound {α : Type} {coroutines : List α} {index : Nat} {point : α → Option FailPoint}
      (passes : ((coroutines[index]?).bind point).isSome = true) : index < coroutines.length := by
    obtain ⟨_, at_⟩ := Option.isSome_iff_exists.mp passes
    obtain ⟨_, found, -⟩ := Option.bind_eq_some_iff.mp at_
    exact (List.getElem?_eq_some_iff.mp found).1
  cases job with
  | connect index => simpa [jobs] using bound attends
  | reader index => simpa [jobs] using bound attends
  | writer index => simpa [jobs] using bound attends
  | loop index => simpa [jobs] using lt_of_any attends
  | _ => cases attends

instance (session : Session) (job : Job) (outcome : Outcome) :
    Decidable (session.Drops job outcome) := by
  unfold Drops
  split <;> infer_instance

instance (session : Session) (job : Job) :
    Decidable (∃ other, other ≠ job ∧ session.attends other = true) :=
  decidable_of_iff (∃ other ∈ session.jobs, other ≠ job ∧ session.attends other = true)
    ⟨fun ⟨other, _, found⟩ => ⟨other, found⟩,
      fun ⟨other, apart, attends⟩ => ⟨other, mem_jobs attends, apart, attends⟩⟩

instance (session : Session) (action : Action) : Decidable (session.Passes action) := by
  unfold Passes
  split <;> infer_instance

instance (session : Session) (action : Action) : Decidable (session.Heeds action) :=
  decidable_of_iff (action.keepsTrying = true ∧ action.fits = true ∧ session.Passes action)
    ⟨fun ⟨tries, fits, passes⟩ => ⟨tries, fits, passes⟩,
      fun heeds => ⟨heeds.tries, heeds.fits, heeds.passes⟩⟩

/-- A call of `connect` or `fail` or a reconnect loop is in progress. -/
def Reacts (session : Session) : Prop :=
  (∃ connect ∈ session.connects, connect.point.isReturned = false) ∨
    (∃ reader ∈ session.readers, reader.point.failPoint.isSome) ∨
    (∃ writer ∈ session.writers, writer.point.failPoint.isSome) ∨
    ∃ loop ∈ session.loops, loop.point ≠ .finished

/-- A failed worker is attended to until the attempts have run out. -/
def Heeded (session : Session) : Prop :=
  session.state.failedByWorker = true → session.Reacts ∨ session.exhausted = true

variable {session next : Session} {action : Action} {index : Nat} {job : Job}

/-! What no step takes back. -/

/-- Coroutines are never forgotten, the end of the attempts is forgotten when the session gets
connected, and the configuration is that of a call of `connect`. -/
structure Advances (session next : Session) : Prop where
  connects : session.connects.length ≤ next.connects.length
  readers : session.readers.length ≤ next.readers.length
  writers : session.writers.length ≤ next.writers.length
  loops : session.loops.length ≤ next.loops.length
  exhausted : session.exhausted = true → next.exhausted = true ∨ next.state.isConnected = true
  config : next.config = session.config ∨
    ∃ connect ∈ session.connects, next.config = some connect.config

/-- A step that keeps the number of the coroutines, and neither connects nor configures. -/
theorem Advances.of_same (connects : next.connects.length = session.connects.length)
    (readers : next.readers.length = session.readers.length)
    (writers : next.writers.length = session.writers.length)
    (loops : session.loops.length ≤ next.loops.length)
    (exhausted : next.exhausted = session.exhausted) (config : next.config = session.config) :
    Advances session next :=
  ⟨Nat.le_of_eq connects.symm, Nat.le_of_eq readers.symm, Nat.le_of_eq writers.symm, loops,
    fun was => .inl (exhausted.trans was), .inl config⟩

/-- No coroutine is lost by a cancellation. -/
theorem length_cancelJob {α : Type} (job : Option Nat) (coroutines : List α) (cancel : α → α) :
    (cancelJob job coroutines cancel).length = coroutines.length := by
  cases job with
  | none => rfl
  | some index => exact List.length_modify _ _ _

/-- Nor is an automatic loop lost by a failure. -/
theorem length_failSettle_loops : session.loops.length ≤ session.failSettle.loops.length := by
  rcases session.failSettle_cases with ⟨flag, shape⟩ | ⟨config, -, shape⟩ <;> simp [shape]

/-- The next attempt of a loop is an advance. -/
theorem Advances.loopAttempt (loop : Loop) (attempt : Nat) :
    Advances session (session.loopAttempt index loop attempt) := by
  unfold Session.loopAttempt
  split
  · -- The loop ends in the open, ends with an exception, or announces its attempt.
    split
    · exact .of_same rfl rfl rfl (Nat.le_of_eq List.length_set.symm) rfl rfl
    · split <;> exact .of_same rfl rfl rfl (Nat.le_of_eq List.length_set.symm) rfl rfl
  · -- The attempts have run out, which is announced.
    exact ⟨Nat.le_refl _, Nat.le_refl _, Nat.le_refl _, Nat.le_of_eq List.length_set.symm,
      fun _ => .inl rfl, .inl rfl⟩

/-- Every move advances the session. -/
theorem Moves.advances (moved : Moves session action next) : Advances session next := by
  cases moved with
  | connect => exact ⟨by simp, Nat.le_refl _, Nat.le_refl _, Nat.le_refl _, .inl, .inl rfl⟩
  | @send command =>
    obtain ⟨queue, channels, shape⟩ := session.send_shape command
    rw [shape]
    exact .of_same rfl rfl rfl (Nat.le_refl _) rfl rfl
  -- Only the calls that may be refused have a shape of their own to unfold.
  | disconnect =>
    obtain ⟨state, events, point, shape⟩ := session.disconnectCall_shape
    rw [shape]
    exact .of_same rfl rfl rfl (Nat.le_refl _) rfl rfl
  | close =>
    obtain ⟨shutdown, shape⟩ := session.closeCall_shape
    rw [shape]
    exact .of_same rfl rfl rfl (Nat.le_refl _) rfl rfl
  | inConnect found moved =>
    cases moved with
    | begin at_ live =>
      obtain ⟨state, events, point, shape⟩ := connectBegin_shape _
      rw [shape]
      exact .of_same List.length_set rfl rfl (Nat.le_refl _) rfl rfl
    -- The session gets connected, and takes its configuration from the call.
    | opened at_ =>
      exact ⟨Nat.le_of_eq List.length_set.symm,
        by simp [connectOpened, opened, setConnect, emit, startWorkers],
        by simp [connectOpened, opened, setConnect, emit, startWorkers], Nat.le_refl _,
        fun _ => .inr rfl, .inr ⟨_, List.mem_of_getElem? found, rfl⟩⟩
    -- The failure of an open may launch a loop, which is appended.
    | failSettled at_ =>
      have longer := session.length_failSettle_loops
      obtain ⟨_, _, shape⟩ := session.failSettle_shape
      rw [shape] at longer ⊢
      exact .of_same List.length_set rfl rfl longer rfl rfl
    | _ => exact .of_same List.length_set rfl rfl (Nat.le_refl _) rfl rfl
  | inDisconnect found moved =>
    cases moved with
    | strike at_ =>
      obtain ⟨queue, channels, shape⟩ := session.cancelWorkers.poll_shape
      simp only [disconnectStrike, shape]
      exact .of_same rfl (length_cancelJob _ _ _) (length_cancelJob _ _ _) (Nat.le_refl _) rfl rfl
    | _ => exact .of_same rfl rfl rfl (Nat.le_refl _) rfl rfl
  | inShutdown found moved =>
    cases moved with
    | strike =>
      exact .of_same rfl (length_cancelJob _ _ _) (length_cancelJob _ _ _) (Nat.le_refl _) rfl rfl
    -- The end of the scope marks its coroutines, and forgets none.
    | finished =>
      exact .of_same rfl (List.length_map _) (List.length_map _)
        (Nat.le_of_eq (List.length_map _).symm) rfl rfl
    | _ => exact .of_same rfl rfl rfl (Nat.le_refl _) rfl rfl
  | @inReader index reader outcome next found moved =>
    cases moved with
    | @chunk length buffer link at_ positive =>
      rcases session.handleChunk_cases index reader (receivedData length buffer) link with
        shape | ⟨queued, -, -, -, -, shape⟩ <;> rw [shape] <;>
        exact .of_same rfl List.length_set rfl (Nat.le_refl _) rfl rfl
    -- So may the failure of a read.
    | failSettled at_ =>
      have longer := session.length_failSettle_loops
      obtain ⟨_, _, shape⟩ := session.failSettle_shape
      rw [shape] at longer ⊢
      exact .of_same rfl List.length_set rfl longer rfl rfl
    | _ => exact .of_same rfl List.length_set rfl (Nat.le_refl _) rfl rfl
  | inWriter found moved =>
    obtain ⟨turned, writers, -⟩ := moved.turned
    have besides := moved.besides
    refine .of_same (by rw [besides.connects]) (by rw [besides.readers])
      (by rw [writers, List.length_set]) ?_ besides.exhausted besides.config
    -- A writer may launch a loop as well, at the end of its failure.
    rcases moved.loops with kept | ⟨queued, error, at_, -, settles⟩
    · exact Nat.le_of_eq (by rw [kept])
    · rw [settles]
      exact session.length_failSettle_loops
  | inTimer found moved =>
    cases moved with
    | fired at_ live fits =>
      obtain ⟨queue, slot, shape⟩ := session.timerFired_shape _ _
      rw [shape]
      exact .of_same rfl rfl rfl (Nat.le_refl _) rfl rfl
    | _ => exact .of_same rfl rfl rfl (Nat.le_refl _) rfl rfl
  | inLoop found moved =>
    cases moved with
    | strike at_ live =>
      exact .of_same rfl (length_cancelJob _ _ _) (length_cancelJob _ _ _)
        (Nat.le_of_eq List.length_set.symm) rfl rfl
    | first at_ => exact .loopAttempt _ _
    | next at_ => exact .loopAttempt _ _
    -- A loop keeps the configuration that the session has.
    | opened at_ =>
      exact ⟨Nat.le_refl _, by simp [loopOpened, opened, setLoop, emit, startWorkers],
        by simp [loopOpened, opened, setLoop, emit, startWorkers],
        Nat.le_of_eq List.length_set.symm, fun _ => .inr rfl, .inl rfl⟩
    | _ => exact .of_same rfl rfl rfl (Nat.le_of_eq List.length_set.symm) rfl rfl
  | cancelConnect found => exact .of_same List.length_set rfl rfl (Nat.le_refl _) rfl rfl
  | cancelDisconnect found => exact .of_same rfl rfl rfl (Nat.le_refl _) rfl rfl

/-! Coroutines are only appended to their lists, so whoever is there is there after the step. -/

/-- A coroutine that was there is there after the step, marked at most or after its turn. -/
theorem later_of_earlier {α : Type} {earlier later : List α} {before : α} {Marks : α → α → Prop}
    {Turns : α → Outcome → Prop} (longer : earlier.length ≤ later.length)
    (cases : ∀ after, later[index]? = some after →
      (∃ before, earlier[index]? = some before ∧ Marks before after) ∨
        (∃ before outcome, earlier[index]? = some before ∧ action = .resume job outcome ∧
          Turns before outcome) ∨
        index = earlier.length)
    (found : earlier[index]? = some before) :
    ∃ after, later[index]? = some after ∧ (Marks before after ∨
      ∃ outcome, action = .resume job outcome ∧ Turns before outcome) := by
  have within := (List.getElem?_eq_some_iff.mp found).1
  obtain ⟨after, there⟩ : ∃ after, later[index]? = some after :=
    ⟨_, List.getElem?_eq_getElem (Nat.lt_of_lt_of_le within longer)⟩
  refine ⟨after, there, ?_⟩
  rcases cases after there with
    ⟨before', found', marks⟩ | ⟨before', outcome, found', turn, moved⟩ | last
  · obtain rfl := Option.some.inj (found.symm.trans found')
    exact .inl marks
  · obtain rfl := Option.some.inj (found.symm.trans found')
    exact .inr ⟨outcome, turn, moved⟩
  · -- A coroutine that is just launched is not one that was there before.
    omega

/-- A `connect` call stays as it is, is marked as cancelled, or takes a turn. -/
theorem Moves.connectLater (moved : Moves session action next) {before : Connect}
    (found : session.connects[index]? = some before) :
    ∃ after, next.connects[index]? = some after ∧
      ((after = before ∨ after = { before with cancelled := true }) ∨
        ∃ outcome, action = .resume (.connect index) outcome ∧
          ConnectMoves session index before outcome next) :=
  later_of_earlier moved.advances.connects
    (fun _ there => (moved.connectCall there).imp_right (.imp_right fun ⟨_, _, last, _⟩ => last))
    found

/-- A reader stays as it is, is marked as cancelled, or takes a turn. -/
theorem Moves.readerLater (moved : Moves session action next) {before : Reader}
    (found : session.readers[index]? = some before) :
    ∃ after, next.readers[index]? = some after ∧
      ((after = before ∨ after = before.cancel) ∨
        ∃ outcome, action = .resume (.reader index) outcome ∧
          ReaderMoves session index before outcome next) :=
  later_of_earlier moved.advances.readers
    (fun _ there => (moved.reader there).imp_right (.imp_right fun ⟨_, last, _⟩ => last)) found

/-- A writer stays as it is, is marked as cancelled, or takes a turn. -/
theorem Moves.writerLater (moved : Moves session action next) {before : Writer}
    (found : session.writers[index]? = some before) :
    ∃ after, next.writers[index]? = some after ∧
      ((after = before ∨ after = before.cancel) ∨
        ∃ outcome, action = .resume (.writer index) outcome ∧
          WriterMoves session index before outcome next) :=
  later_of_earlier moved.advances.writers
    (fun _ there => (moved.writer there).imp_right (.imp_right fun ⟨_, last, _⟩ => last)) found

/-! Whoever is inside `fail` stays there until it settles, or is cancelled. -/

/-- The coroutine leaves `fail` in the step, by its last statement or because it is cancelled. -/
inductive Leaves (session : Session) (job : Job) : Action → Prop where
  | settles (at_ : session.failPoint job = some .changed) :
      Leaves session job (.resume job .resumes)
  | cancels (inside : (session.failPoint job).isSome) : Leaves session job (.resume job .cancels)

/-- What a turn of a coroutine inside `fail` comes to: the second event, or the end of `fail`. -/
def EndsFail (outcome : Outcome) (before after : Option FailPoint) : Prop :=
  after = some .changed ∨ outcome = .resumes ∧ before = some .changed ∨ outcome = .cancels

/-- A call of `connect` inside `fail` goes on to its end. -/
theorem ConnectMoves.endsFail {before after : Connect} {outcome : Outcome}
    (moved : ConnectMoves session index before outcome next)
    (there : next.connects[index]? = some after) (inside : before.point.failPoint.isSome) :
    EndsFail outcome before.point.failPoint after.point.failPoint := by
  -- A cancellation inside `runCatching` begins another `fail`, and any other one ends the call.
  cases moved with
  | failChanged at_ => obtain rfl := eq_of_set rfl there; exact .inl rfl
  | failSettled at_ => exact .inr (.inl ⟨rfl, by rw [at_]; rfl⟩)
  | caught at_ cancelled => exact .inr (.inr rfl)
  | thrown open_ outside cancelled => exact .inr (.inr rfl)
  | _ at_ => simp [at_, ConnectPoint.failPoint] at inside

/-- A reader inside `fail` goes on to its end. -/
theorem ReaderMoves.endsFail {before after : Reader} {outcome : Outcome}
    (moved : ReaderMoves session index before outcome next)
    (there : next.readers[index]? = some after) (inside : before.point.failPoint.isSome) :
    EndsFail outcome before.point.failPoint after.point.failPoint := by
  cases moved with
  | callRead at_ live => rcases at_ with at_ | at_ <;> simp [at_, ReaderPoint.failPoint] at inside
  | failChanged at_ => obtain rfl := eq_of_set rfl there; exact .inl rfl
  | failSettled at_ => exact .inr (.inl ⟨rfl, by rw [at_]; rfl⟩)
  | cancelled open_ cancelled => exact .inr (.inr rfl)
  | _ at_ => simp [at_, ReaderPoint.failPoint] at inside

/-- A writer inside `fail` goes on to its end. -/
theorem WriterMoves.endsFail {before after : Writer} {outcome : Outcome}
    (moved : WriterMoves session index before outcome next)
    (there : next.writers[index]? = some after) (inside : before.point.failPoint.isSome) :
    EndsFail outcome before.point.failPoint after.point.failPoint := by
  cases moved with
  | failChanged at_ => obtain rfl := eq_of_set rfl there; exact .inl rfl
  | failSettled at_ => exact .inr (.inl ⟨rfl, by rw [at_]; rfl⟩)
  | cancelled open_ cancelled => exact .inr (.inr rfl)
  -- In the middle of an attempt the writer is not inside `fail`.
  | attempted tries entered missed ended =>
    rcases Writer.tries_cases tries with ⟨link, at_⟩ | ⟨bytes, at_⟩ <;>
      simp [at_, WriterPoint.failPoint] at inside
  | _ at_ => simp [at_, WriterPoint.failPoint] at inside

/-- A coroutine inside `fail` stays there until it leaves in a turn of its own. -/
theorem inFail_of_later {before after : Option FailPoint} (at_ : session.failPoint job = before)
    (there : next.failPoint job = after) (inside : before.isSome)
    (later : after = before ∨ ∃ outcome, action = .resume job outcome ∧
      EndsFail outcome before after) :
    (next.failPoint job).isSome ∨ session.Leaves job action := by
  rcases later with same | ⟨outcome, rfl, changed | ⟨rfl, settles⟩ | rfl⟩
  · -- A cancellation marks the coroutine, and leaves it inside `fail`.
    exact .inl (by rw [there, same]; exact inside)
  · exact .inl (by rw [there, changed]; rfl)
  · exact .inr (.settles (at_.trans settles))
  · exact .inr (.cancels (by rw [at_]; exact inside))

/-- Whoever is inside `fail` stays there, or leaves in the step. -/
theorem Moves.inFail (moved : Moves session action next) (inside : (session.failPoint job).isSome) :
    (next.failPoint job).isSome ∨ session.Leaves job action := by
  obtain ⟨point, at_⟩ := Option.isSome_iff_exists.mp inside
  cases job with
  -- For each kind of worker: where it is after the step is where it was or further on.
  | connect index =>
    obtain ⟨connect, found, at_⟩ := Option.bind_eq_some_iff.mp at_
    have inside := Option.isSome_of_eq_some at_
    obtain ⟨after, there, later⟩ := moved.connectLater found
    refine inFail_of_later (by simp [failPoint, found]) (by simp [failPoint, there]) inside
      (later.imp ?_ fun ⟨outcome, turn, turns⟩ => ⟨outcome, turn, turns.endsFail there inside⟩)
    rintro (rfl | rfl) <;> rfl
  | reader index =>
    obtain ⟨reader, found, at_⟩ := Option.bind_eq_some_iff.mp at_
    have inside := Option.isSome_of_eq_some at_
    obtain ⟨after, there, later⟩ := moved.readerLater found
    refine inFail_of_later (by simp [failPoint, found]) (by simp [failPoint, there]) inside
      (later.imp ?_ fun ⟨outcome, turn, turns⟩ => ⟨outcome, turn, turns.endsFail there inside⟩)
    rintro (rfl | rfl) <;> rfl
  | writer index =>
    obtain ⟨writer, found, at_⟩ := Option.bind_eq_some_iff.mp at_
    have inside := Option.isSome_of_eq_some at_
    obtain ⟨after, there, later⟩ := moved.writerLater found
    refine inFail_of_later (by simp [failPoint, found]) (by simp [failPoint, there]) inside
      (later.imp ?_ fun ⟨outcome, turn, turns⟩ => ⟨outcome, turn, turns.endsFail there inside⟩)
    rintro (rfl | rfl) <;> rfl
  | _ => cases at_

/-- Behind the change of the state, whoever is inside `fail` settles by resuming. -/
theorem settlesBy_of_failPoint (at_ : session.failPoint job = some .changed) :
    session.SettlesBy (.resume job .resumes) := by
  cases job with
  -- The three workers run the same tail of `fail`, each at a point of its own.
  | connect index =>
    obtain ⟨connect, found, at_⟩ := Option.bind_eq_some_iff.mp at_
    cases point : connect.point <;> simp [point, ConnectPoint.failPoint] at at_
    exact .connect found (by rw [point, at_])
  | reader index =>
    obtain ⟨reader, found, at_⟩ := Option.bind_eq_some_iff.mp at_
    cases point : reader.point <;> simp [point, ReaderPoint.failPoint] at at_
    exact .reader found (by rw [point, at_])
  | writer index =>
    obtain ⟨writer, found, at_⟩ := Option.bind_eq_some_iff.mp at_
    cases point : writer.point <;> simp [point, WriterPoint.failPoint] at at_
    exact .writer found (by rw [point, at_])
  | _ => cases at_

/-- Whoever comes to the end of `fail`, the step runs its last statement. -/
theorem SettlesBy.settled (settles : session.SettlesBy action)
    (stepped : session.step action = some next) :
    next.loops = session.failSettle.loops ∧
      next.reconnecting = session.failSettle.reconnecting := by
  cases settles with
  -- Whoever is in `fail`, its last step is the same `failSettle`.
  | connect found at_ =>
    simp only [step, resume, found, resumeConnect, at_, Option.bind_eq_bind, Option.bind_some]
      at stepped
    obtain rfl := Option.some.inj stepped
    exact ⟨rfl, rfl⟩
  | reader found at_ =>
    simp only [step, resume, found, resumeReader, at_, Option.bind_eq_bind, Option.bind_some]
      at stepped
    obtain rfl := Option.some.inj stepped
    exact ⟨rfl, rfl⟩
  | writer found at_ =>
    simp only [step, resume, found, resumeWriter, at_, Option.bind_eq_bind, Option.bind_some,
      if_pos] at stepped
    obtain rfl := Option.some.inj stepped
    exact ⟨rfl, rfl⟩

/-- A failure that starts a loop does nothing else. -/
theorem relaunches.settled {config : SerialConfig} (relaunches : session.relaunches config) :
    session.failSettle =
      { session with
        reconnecting := true
        loops := session.loops ++ [{ config := config, cancelled := !session.scopeActive }] } := by
  obtain ⟨configured, enabled, free, open_⟩ := relaunches
  simp [failSettle, configured, enabled, free, open_]

/-- The last statement of `fail` launches a loop when nobody holds the flag. -/
theorem SettlesBy.launches (settles : session.SettlesBy action)
    (stepped : session.step action = some next) {config : SerialConfig}
    (relaunches : session.relaunches config) :
    next.attends (.loop session.loops.length) = true := by
  obtain ⟨loops, -⟩ := settles.settled stepped
  simp [attends, loops, relaunches.settled, LoopPoint.isAhead]

/-! A loop with an attempt ahead gets to it, or gives up in the open. -/

/-- A policy that fits has a delay for every attempt. -/
theorem ReconnectPolicy.delayFor_fits {policy : ReconnectPolicy} (fits : policy.fits = true)
    (attempt : Nat) : ∃ delayMillis, policy.delayFor attempt = some delayMillis := by
  simp only [ReconnectPolicy.fits, Bool.and_eq_true, Option.isSome_iff_exists] at fits
  obtain ⟨⟨initial, initially⟩, longest, finally_⟩ := fits
  simp [ReconnectPolicy.delayFor, initially, finally_]

/-- A loop with an attempt ahead announces it, or has used up its attempts. -/
theorem loopAttempt_tries {loop : Loop} (open_ : session.terminal = false)
    (fits : loop.config.reconnect.fits = true) (attempt : Nat) :
    (session.loopAttempt index loop attempt).exhausted = true ∨ ∃ delayMillis,
      (session.loopAttempt index loop attempt).loops =
        session.loops.set index { loop with point := .emitReconnecting attempt delayMillis } := by
  obtain ⟨delayMillis, delays⟩ := ReconnectPolicy.delayFor_fits fits attempt
  unfold loopAttempt
  -- An attempt remains and its delay fits, or none remains, which is announced.
  split
  · exact .inr ⟨delayMillis, by simp [open_, delays, setLoop, emit]⟩
  · exact .inl rfl

/-- A loop with an attempt ahead stays on the way, connects, gives up, or fails in its attempt. -/
theorem Moves.loopAhead (moved : Moves session action next) {before : Loop}
    (found : session.loops[index]? = some before) (ahead : before.point.isAhead = true)
    (live : before.cancelled = false) (open_ : session.terminal = false)
    (fits : before.config.reconnect.fits = true) :
    next.attends (.loop index) = true ∨ next.exhausted = true ∨ next.state.isConnected = true ∨
      ∃ message, action = .resume (.loop index) (.throws message) ∧ before.point = .closing := by
  have within := (List.getElem?_eq_some_iff.mp found).1
  obtain ⟨after, there⟩ : ∃ after, next.loops[index]? = some after :=
    ⟨_, List.getElem?_eq_getElem (Nat.lt_of_lt_of_le within moved.advances.loops)⟩
  have attends (still : after.point.isAhead = true) : next.attends (.loop index) = true := by
    simpa [Session.attends, there] using still
  rcases moved.loop there with
    ⟨before', found', same⟩ | ⟨before', outcome, found', rfl, moved⟩ | ⟨config, -, -, rfl⟩
  · -- A cancellation at the end of the shutdown leaves the loop at its point.
    obtain rfl := Option.some.inj (found.symm.trans found')
    refine .inl (attends ?_)
    rcases same with rfl | ⟨rfl, -⟩ <;> exact ahead
  · obtain rfl := Option.some.inj (found.symm.trans found')
    -- Between its attempts the loop announces the next one, or that none remains.
    have attempts {attempt : Nat} (next_ : next = session.loopAttempt index before attempt) :
        next.attends (.loop index) = true ∨ next.exhausted = true := by
      rcases loopAttempt_tries open_ fits attempt with exhausted | ⟨delayMillis, loops⟩
      · exact .inr (next_ ▸ exhausted)
      · obtain rfl := eq_of_set (next_ ▸ loops) there
        exact .inl (attends rfl)
    cases moved with
    | first at_ => exact (attempts rfl).imp_right .inl
    | next at_ => exact (attempts rfl).imp_right .inl
    | opened at_ => exact .inr (.inr (.inl rfl))
    -- Closing the transport has failed, which is the exit that the guard speaks of.
    | closeThrew at_ => exact .inr (.inr (.inr ⟨_, rfl, at_⟩))
    | succeeded at_ => simp [at_, LoopPoint.isAhead] at ahead
    | finished at_ => rcases at_ with at_ | at_ <;> simp [at_, LoopPoint.isAhead] at ahead
    -- Nobody cancels a loop of a session that has not been shut down.
    | caught at_ cancelled => simp [live] at cancelled
    | never at_ cancelled => simp [live] at cancelled
    | cancelled open_ begun outside cancelled => simp [live] at cancelled
    | _ =>
      obtain rfl := eq_of_set rfl there
      exact .inl (attends rfl)
  · -- A new loop has all its attempts ahead.
    exact .inl (attends rfl)

/-! The failure of a worker is handed from one coroutine to the next. -/

/-- What a configuration promises to a failed session. -/
def Reopens (config : SerialConfig) : Prop :=
  config.reconnect.enabled = true ∧ config.reconnect.fits = true

/-- The configurations in use are worth another attempt, and nobody has shut the session down. -/
structure Willing (session : Session) : Prop where
  open_ : session.terminal = false
  live : ∀ loop ∈ session.loops, loop.cancelled = false
  loops : ∀ loop ∈ session.loops, Reopens loop.config
  calls : ∀ connect ∈ session.connects, Reopens connect.config
  configured : ∀ config, session.config = some config → Reopens config
  unconfigured : session.config = none →
    session.readers = [] ∧ session.writers = [] ∧ session.loops = []

/-- A step that keeps trying leaves the session as open as it was. -/
theorem Moves.open_ (moved : Moves session action next) (tries : action.keepsTrying = true) :
    next.terminal = session.terminal := by
  -- Only `disconnect` and `close` set the flag, and both are left out.
  rcases moved.aside_or_calling with aside | calling
  · exact aside.terminal
  cases calling with
  | disconnect => cases tries
  | close => cases tries
  | inDisconnect found moved =>
    cases moved with
    | strike at_ =>
      obtain ⟨queue, channels, shape⟩ := session.cancelWorkers.poll_shape
      simp only [disconnectStrike, shape]
      rfl
    | _ => rfl
  | inShutdown found moved => cases moved <;> rfl
  | _ => rfl

/-- Nobody opens the transport for a session that is left without a configuration. -/
theorem Willing.unopened (willing : Willing session) (stepped : session.step action = some next)
    (missing : next.config = none) : session.config = none ∧ session.opensBy action = false := by
  -- A configuration that is set is not taken back.
  have unset : session.config = none := by
    rcases (Moves.of_step stepped).advances.config with same | ⟨connect, -, chosen⟩
    · exact same.symm.trans missing
    · cases missing.symm.trans chosen
  -- A call that opens the transport sets a configuration, and a loop has one already.
  refine ⟨unset, Bool.eq_false_iff.mpr fun opens => ?_⟩
  rcases opensBy_cases opens with
    ⟨index, connect, rfl, found, at_⟩ | ⟨index, attempt, loop, rfl, found, at_⟩
  · simp only [Session.step, resume, found, resumeConnect, at_, Option.bind_eq_bind,
      Option.bind_some] at stepped
    obtain rfl := Option.some.inj stepped
    cases missing
  · simp [(willing.unconfigured unset).2.2] at found

/-- Every step that heeds the failures keeps the session willing. -/
theorem Willing.step (willing : Willing session) (last : ShutsLast session)
    (heeds : session.Heeds action) (stepped : session.step action = some next) : Willing next where
  open_ := ((Moves.of_step stepped).open_ heeds.tries).trans willing.open_
  live := by
    intro after listed
    obtain ⟨index, there⟩ := List.getElem?_of_mem listed
    rcases (Moves.of_step stepped).loop there with
      ⟨before, found, rfl | ⟨rfl, closed⟩⟩ | ⟨before, outcome, found, -, moved⟩ |
        ⟨config, -, -, rfl⟩
    · -- A loop is cancelled only at the end of a shutdown, and there has been none.
      exact willing.live after (List.mem_of_getElem? found)
    · have terminal := last.closing (by simp [closed])
      simp [willing.open_] at terminal
    · obtain ⟨point, turned⟩ := moved.turned
      obtain rfl := eq_of_set turned there
      exact willing.live before (List.mem_of_getElem? found)
    · -- The scope is cancelled only when the session has been closed.
      cases active : session.scopeActive with
      | true => rfl
      | false =>
        have terminal := last.closing (by simp [last.active active])
        simp [willing.open_] at terminal
  loops := by
    intro after listed
    obtain ⟨index, there⟩ := List.getElem?_of_mem listed
    rcases (Moves.of_step stepped).loop there with
      ⟨before, found, rfl | ⟨rfl, -⟩⟩ | ⟨before, outcome, found, -, moved⟩ |
        ⟨config, -, relaunches, rfl⟩
    · exact willing.loops after (List.mem_of_getElem? found)
    · exact willing.loops before (List.mem_of_getElem? found)
    · obtain ⟨point, turned⟩ := moved.turned
      obtain rfl := eq_of_set turned there
      exact willing.loops before (List.mem_of_getElem? found)
    · -- A new loop has the configuration of the session.
      exact willing.configured config relaunches.1
  calls := by
    intro after listed
    obtain ⟨index, there⟩ := List.getElem?_of_mem listed
    rcases (Moves.of_step stepped).connectCall there with
      ⟨before, found, rfl | rfl⟩ | ⟨before, outcome, found, -, moved⟩ | ⟨config, rfl, -, rfl⟩
    · exact willing.calls after (List.mem_of_getElem? found)
    · exact willing.calls before (List.mem_of_getElem? found)
    · obtain ⟨point, turned⟩ := moved.turned
      obtain rfl := eq_of_set turned there
      exact willing.calls before (List.mem_of_getElem? found)
    · -- The guard asks of every call that its configuration is worth another attempt.
      have tries := heeds.tries
      simp only [Action.keepsTrying, Bool.and_eq_true] at tries
      exact ⟨tries.1, heeds.fits⟩
  configured := by
    intro config configured
    rcases (Moves.of_step stepped).advances.config with same | ⟨connect, listed, chosen⟩
    · -- The configuration stays, or is that of a call that has opened the transport.
      exact willing.configured config (same.symm.trans configured)
    · obtain rfl := Option.some.inj (chosen.symm.trans configured)
      exact willing.calls connect listed
  unconfigured := by
    intro missing
    -- Without a configuration nothing has been opened, and so there are no workers and no loops.
    obtain ⟨unset, unopened⟩ := willing.unopened stepped missing
    obtain ⟨readers, writers, loops⟩ := willing.unconfigured unset
    have moved := Moves.of_step stepped
    refine ⟨?_, ?_, ?_⟩
    · refine List.eq_nil_iff_forall_not_mem.mpr fun after listed => ?_
      obtain ⟨index, there⟩ := List.getElem?_of_mem listed
      rcases moved.reader there with
        ⟨before, found, -⟩ | ⟨before, outcome, found, -⟩ | ⟨opens, -⟩
      · simp [readers] at found
      · simp [readers] at found
      · simp [unopened] at opens
    · refine List.eq_nil_iff_forall_not_mem.mpr fun after listed => ?_
      obtain ⟨index, there⟩ := List.getElem?_of_mem listed
      rcases moved.writer there with
        ⟨before, found, -⟩ | ⟨before, outcome, found, -⟩ | ⟨opens, -⟩
      · simp [writers] at found
      · simp [writers] at found
      · simp [unopened] at opens
    · refine List.eq_nil_iff_forall_not_mem.mpr fun after listed => ?_
      obtain ⟨index, there⟩ := List.getElem?_of_mem listed
      rcases moved.loop there with
        ⟨before, found, -⟩ | ⟨before, outcome, found, -⟩ | ⟨config, -, relaunches, -⟩
      · simp [loops] at found
      · simp [loops] at found
      · cases unset.symm.trans relaunches.1

/-- A failed worker of a configured session is attended to until the attempts have run out. -/
structure Tended (session : Session) : Prop where
  willing : Willing session
  configured : session.state.failedByWorker = true → session.config.isSome
  tended : session.state.failedByWorker = true →
    session.exhausted = true ∨ ∃ job, session.attends job = true

/-- A worker that fails the session is inside `fail` then. -/
theorem Moves.failedByWorker (moved : Moves session action next)
    (failed : next.state.failedByWorker = true) :
    session.state.failedByWorker = true ∨ (session.readers ≠ [] ∨ session.writers ≠ []) ∧
      ∃ job, next.attends job = true := by
  -- A step that fails the session is an end of a read, or of the last attempt to write.
  cases moved.changes with
  | same state calls => exact .inl (state ▸ failed)
  | connectCalls found at_ state => exact .inl (state ▸ failed)
  | loopCalls found at_ state => exact .inl (state ▸ failed)
  | begins found at_ live open_ state => simp [state, SerialState.failedByWorker] at failed
  | disconnects open_ connected =>
    simp [disconnectCall, open_, connected, emit, SerialState.failedByWorker] at failed
  | @readFails index reader link outcome message found at_ =>
    refine .inr ⟨.inl (List.ne_nil_of_mem (List.mem_of_getElem? found)), .reader index, ?_⟩
    have within := (List.getElem?_eq_some_iff.mp found).1
    simp [attends, failPoint, readerFailed, setReader, failRaise, emit, within,
      ReaderPoint.failPoint]
  | @writeFails index queued writer turned outcome error next found tries writers at_ state =>
    refine .inr ⟨.inr (List.ne_nil_of_mem (List.mem_of_getElem? found)), .writer index, ?_⟩
    have within := (List.getElem?_eq_some_iff.mp found).1
    simp [attends, failPoint, writers, at_, within, WriterPoint.failPoint]
  | _ => cases failed

/-- Whoever attends to a failure goes on, ends it in the open, hands it on, or drops it. -/
theorem Tended.hands (tended : Tended session) (failed : session.state.failedByWorker = true)
    (stepped : session.step action = some next) (attends : session.attends job = true) :
    (∃ other, next.attends other = true) ∨ next.exhausted = true ∨ next.state.isConnected = true ∨
      ∃ outcome, action = .resume job outcome ∧ session.Drops job outcome := by
  have moved := Moves.of_step stepped
  have willing := tended.willing
  have inFail (inside : (session.failPoint job).isSome)
      (still : (next.failPoint job).isSome → next.attends job = true) :
      (∃ other, next.attends other = true) ∨ next.exhausted = true ∨
        next.state.isConnected = true ∨
        ∃ outcome, action = .resume job outcome ∧ session.Drops job outcome := by
    -- Whoever is inside `fail` stays there, comes to its end, or is cancelled.
    rcases moved.inFail inside with stays | leaves
    · exact .inl ⟨job, still stays⟩
    cases leaves with
    | cancels inside => exact .inr (.inr (.inr ⟨_, rfl, by simpa [Drops] using inside⟩))
    | settles at_ =>
      cases taken : session.reconnecting with
      -- Another loop holds the flag, and so the failure is dropped.
      | true => exact .inr (.inr (.inr ⟨_, rfl, by simp [Drops, at_, taken]⟩))
      | false =>
        -- The flag is free and the configuration is willing: the step launches a loop.
        obtain ⟨config, configured⟩ := Option.isSome_iff_exists.mp (tended.configured failed)
        have relaunches : session.relaunches config :=
          ⟨configured, (willing.configured config configured).1, taken, willing.open_⟩
        exact .inl ⟨_, (settlesBy_of_failPoint at_).launches stepped relaunches⟩
  cases job with
  | loop index =>
    obtain ⟨loop, found, ahead⟩ := (Option.any_eq_true _ _).mp attends
    have listed := List.mem_of_getElem? found
    rcases moved.loopAhead found ahead (willing.live loop listed) willing.open_
        (willing.loops loop listed).2 with still | exhausted | connected | ⟨message, rfl, at_⟩
    · exact .inl ⟨_, still⟩
    · exact .inr (.inl exhausted)
    · exact .inr (.inr (.inl connected))
    · -- A loop that cannot close the transport drops the failure.
      exact .inr (.inr (.inr ⟨_, rfl, by simp [Drops, found, at_]⟩))
  | connect index => exact inFail attends id
  | reader index => exact inFail attends id
  | writer index => exact inFail attends id
  | _ => cases attends

/-- A worker has failed the session, and the attempts to open it again have not run out. -/
def Awaits (session : Session) : Prop :=
  session.state.failedByWorker = true ∧ session.exhausted = false

/-- Whoever drops a failure leaves it to somebody else who attends to it. -/
theorem Passes.relay (passes : session.Passes action) :
    Relay.Passes (fun session job => session.attends job = true) Awaits
      (fun session job action =>
        ∃ outcome, action = .resume job outcome ∧ session.Drops job outcome)
      session action := by
  rintro job ⟨outcome, rfl, drops⟩ ⟨failed, remaining⟩
  exact (passes drops failed).resolve_left (by simp [remaining])

/-- The end of the attempts is not forgotten while the session stays failed. -/
theorem Moves.awaits (moved : Moves session action next) (awaits : next.Awaits)
    (failed : session.state.failedByWorker = true) : session.Awaits := by
  -- Only a session that gets connected forgets that the attempts have run out.
  refine ⟨failed, Bool.eq_false_iff.mpr fun exhausted => ?_⟩
  obtain ⟨failed', remaining⟩ := awaits
  rcases moved.advances.exhausted exhausted with exhausted | connected
  · simp [exhausted] at remaining
  · simp [SerialState.unfailed_of_connected connected] at failed'

/-- Every step that heeds the failures keeps them tended. -/
theorem Tended.step (tended : Tended session) (last : ShutsLast session)
    (heeds : session.Heeds action) (stepped : session.step action = some next) : Tended next where
  willing := tended.willing.step last heeds stepped
  configured := by
    intro failed
    have moved := Moves.of_step stepped
    refine Option.isSome_iff_ne_none.mpr fun missing => ?_
    obtain ⟨unset, -⟩ := tended.willing.unopened stepped missing
    -- A worker that fails has been started by an open, which has set the configuration.
    rcases moved.failedByWorker failed with before | ⟨workers, -⟩
    · have configured := tended.configured before
      simp [unset] at configured
    · obtain ⟨readers, writers, -⟩ := tended.willing.unconfigured unset
      simp [readers, writers] at workers
  tended := by
    intro failed
    have moved := Moves.of_step stepped
    have attended : Relay.Carried (fun session job => session.attends job = true) Awaits session :=
      fun ⟨failed, remaining⟩ => (tended.tended failed).resolve_left (by simp [remaining])
    by_cases exhausted : next.exhausted = true
    · exact .inl exhausted
    refine .inr (Relay.Carried.step attended heeds.passes.relay ?_ ?_ ?_
      ⟨failed, by simpa using exhausted⟩)
    · intro awaits
      -- The failure is an old one, which somebody attended to, or happens in this step.
      rcases moved.failedByWorker awaits.1 with before | ⟨-, attends⟩
      · exact .inl (moved.awaits awaits before)
      · exact .inr attends
    · intro before after job attends
      -- What has been attended to is handed on, for the attempts remain and nobody has connected.
      rcases tended.hands before.1 stepped attends with attended | exhausted | connected | drops
      · exact .inl attended
      · exact absurd exhausted (by simp [after.2])
      · exact absurd after.1 (by simp [SerialState.unfailed_of_connected connected])
      · exact .inr drops
    · rintro job other ⟨outcome, rfl, -⟩ ⟨outcome', same, -⟩
      cases same
      rfl

/-- A failure that is tended is heeded. -/
theorem Tended.heeded (tended : Tended session) : Heeded session := by
  intro failed
  rcases tended.tended failed with exhausted | ⟨job, attends⟩
  · exact .inr exhausted
  refine .inl ?_
  -- Whoever attends to a failure is at a point inside `fail`, or in a loop that goes on.
  cases job with
  | connect index =>
    obtain ⟨point, at_⟩ := Option.isSome_iff_exists.mp attends
    obtain ⟨connect, found, at_⟩ := Option.bind_eq_some_iff.mp at_
    refine .inl ⟨connect, List.mem_of_getElem? found, ?_⟩
    cases at_' : connect.point <;> simp [at_', ConnectPoint.failPoint] at at_
    rfl
  | reader index =>
    obtain ⟨point, at_⟩ := Option.isSome_iff_exists.mp attends
    obtain ⟨reader, found, at_⟩ := Option.bind_eq_some_iff.mp at_
    exact .inr (.inl ⟨reader, List.mem_of_getElem? found, Option.isSome_of_eq_some at_⟩)
  | writer index =>
    obtain ⟨point, at_⟩ := Option.isSome_iff_exists.mp attends
    obtain ⟨writer, found, at_⟩ := Option.bind_eq_some_iff.mp at_
    exact .inr (.inr (.inl ⟨writer, List.mem_of_getElem? found, Option.isSome_of_eq_some at_⟩))
  | loop index =>
    obtain ⟨loop, found, ahead⟩ := (Option.any_eq_true _ _).mp attends
    refine .inr (.inr (.inr ⟨loop, List.mem_of_getElem? found, fun finished => ?_⟩))
    simp [finished, LoopPoint.isAhead] at ahead
  | _ => cases attends

/-- Where nobody drops a failure that is left to him alone, every failure of a worker is heeded. -/
theorem failures_heeded (run : Transition.Run Session.step Heeds {} session) : Heeded session := by
  -- At first no worker has failed, for there is none.
  have fresh : Tended {} :=
    ⟨⟨rfl, by simp, by simp, by simp, by simp, fun _ => ⟨rfl, rfl, rfl⟩⟩, nofun, nofun⟩
  have tended : Tended session := by
    refine run.invariant fresh fun earlier heeds stepped tended => ?_
    exact tended.step (.of_run earlier) heeds stepped
  exact tended.heeded

end Session

/-! A worker that fails just after a loop has opened the transport again. -/

namespace Sample

/-- A reader begins to read, its read fails, and it announces the failure twice. -/
def readFailing (index : Nat) : List Action :=
  [.resume (.reader index) .resumes, .resume (.reader index) (.throws "lost"),
    .resume (.reader index) .resumes, .resume (.reader index) .resumes]

/-- A loop closes the transport, waits, and opens it in its first attempt. -/
def reopening (index : Nat) : List Action :=
  List.replicate 6 (.resume (.loop index) .resumes)

/-- The session has been opened again after its first reader failed. -/
def reopened : List Action :=
  .connect reconnecting :: List.replicate 4 (.resume (.connect 0) .resumes) ++ readFailing 0 ++
    reopening 0

/-- The loop announces its success, and releases the flag. -/
def succeeding (index : Nat) : List Action :=
  List.replicate 2 (.resume (.loop index) .resumes)

end Sample

namespace Session

instance (session : Session) : Decidable session.Reacts :=
  inferInstanceAs (Decidable ((∃ connect ∈ session.connects, _) ∨ _))

/-- The failure that falls between the opening and the release of the flag is lost. -/
theorem reopened_fails_unheeded :
    ¬∀ session, Transition.Run Session.step (fun _ action => action.keepsTrying = true) {} session →
      Heeded session := by
  intro always
  -- The second reader fails before the loop that opened for it has released the flag.
  obtain ⟨session, run, test⟩ := Transition.Run.of_test
    (fun (session : Session) => session.state.failedByWorker && !decide session.Reacts &&
      !session.exhausted)
    (show (Transition.execute Session.step (fun _ action => action.keepsTrying = true) {}
      (Sample.reopened ++ Sample.readFailing 1 ++ Sample.succeeding 0)).any _ = true by
        decide +kernel)
  simp only [Bool.and_eq_true, Bool.not_eq_true', decide_eq_false_iff_not] at test
  obtain ⟨⟨failed, quiet⟩, remaining⟩ := test
  rcases always session run failed with reacts | exhausted
  · exact quiet reacts
  · simp [remaining] at exhausted

/-- A reader that fails once the flag is released has the session opened again. -/
theorem reopened_failing_heeded :
    ∃ session, Transition.Run Session.step Heeds {} session ∧
      session.state.failedByWorker = true ∧ session.loops.length = 2 ∧ Heeded session := by
  -- The same two failures, with the flag released in between.
  obtain ⟨session, run, test⟩ := Transition.Run.of_test
    (fun (session : Session) => session.state.failedByWorker && session.loops.length == 2)
    (show (Transition.execute Session.step Heeds {}
      (Sample.reopened ++ Sample.succeeding 0 ++ Sample.readFailing 1)).any _ = true by
        decide +kernel)
  simp only [Bool.and_eq_true, beq_iff_eq] at test
  exact ⟨session, run, test.1, test.2, failures_heeded run⟩

end Session

end SerialPort
