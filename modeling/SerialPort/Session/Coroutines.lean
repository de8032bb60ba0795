import SerialPort.Session.Calls
import SerialPort.Session.Entries

/-! What a step makes of one coroutine: it is left alone, cancelled, resumed, or launched. -/

namespace SerialPort

/-- Whether the writer is in a pause before it writes. -/
def WriterPoint.isPausing : WriterPoint → Bool
  | .delaying _ => true
  | .retrying _ _ => true
  | _ => false

variable {α : Type}

/-- Setting one place of a list leaves the others alone. -/
theorem set_cases {list : List α} {place index : Nat} {value item : α}
    (there : (list.set place value)[index]? = some item) :
    place = index ∧ item = value ∨ place ≠ index ∧ list[index]? = some item := by
  rw [List.getElem?_set] at there
  split at there
  · next same =>
    split at there
    · exact .inl ⟨same, (Option.some.inj there).symm⟩
    · cases there
  · next different => exact .inr ⟨different, there⟩

/-- The item in the place that has been set is the one it has been set to. -/
theorem eq_of_set {before after : List α} {index : Nat} {value item : α}
    (turned : after = before.set index value) (there : after[index]? = some item) :
    item = value := by
  rw [turned] at there
  rcases set_cases there with ⟨-, same⟩ | ⟨different, -⟩
  · exact same
  · exact absurd rfl different

/-- An appended item is the last one. -/
theorem append_cases {list : List α} {index : Nat} {value item : α}
    (there : (list ++ [value])[index]? = some item) :
    list[index]? = some item ∨ index = list.length ∧ item = value := by
  -- The item is one of the old ones, or stands in the one place behind them.
  rw [List.getElem?_append] at there
  split at there
  · exact .inl there
  · next outside =>
    have inside := (List.getElem?_eq_some_iff.mp there).1
    simp only [List.length_singleton] at inside
    exact .inr ⟨by omega, List.mem_singleton.mp (List.mem_of_getElem? there)⟩

/-- Cancelling a job changes at most the coroutine that the job refers to. -/
theorem cancelJob_cases {job : Option Nat} {coroutines : List α} {cancel : α → α} {index : Nat}
    {after : α} (there : (cancelJob job coroutines cancel)[index]? = some after) :
    ∃ before, coroutines[index]? = some before ∧ (after = before ∨ after = cancel before) := by
  -- A job that is not there cancels nothing, and another one concerns a single coroutine.
  cases job with
  | none => exact ⟨after, there, .inl rfl⟩
  | some other =>
    obtain ⟨before, found, rfl⟩ := Option.map_eq_some_iff.mp
      ((List.getElem?_modify _ _ _ _).symm.trans there)
    refine ⟨before, found, ?_⟩
    split
    · exact .inr rfl
    · exact .inl rfl

namespace Session

variable {session next : Session} {action : Action} {index : Nat}

/-! The stretches of code that branch, as updates of the session. -/

/-- The beginning of a connection may change the state, and leaves the call at some point. -/
theorem connectBegin_shape (connect : Connect) : ∃ state events point,
    session.connectBegin index connect =
      { session with state := state, events := events }.setConnect index
        { connect with point := point } := by
  unfold connectBegin
  -- A closed session refuses the call, and a connected one has nothing to do for it.
  split
  · exact ⟨session.state, session.events, _, rfl⟩
  split
  · exact ⟨session.state, session.events, _, rfl⟩
  · exact ⟨_, _, _, rfl⟩

/-- A call of `disconnect` may change the state, and is added to the calls. -/
theorem disconnectCall_shape : ∃ state events point, session.disconnectCall =
    { session with
      state := state
      events := events
      disconnects := session.disconnects ++ [{ point := point }] } := by
  unfold disconnectCall
  -- The call is refused without a connection to close, and announces the closing otherwise.
  split
  · exact ⟨session.state, session.events, _, rfl⟩
  · exact ⟨_, _, _, rfl⟩

/-- A call of `close` makes the session terminal, and may begin the shutdown. -/
theorem closeCall_shape : ∃ shutdown,
    session.closeCall = { session with terminal := true, shutdown := shutdown } := by
  unfold closeCall
  split
  · -- A session that is closed already stays as it is.
    next terminal => exact ⟨session.shutdown, by rw [← terminal]⟩
  · exact ⟨_, rfl⟩

/-- An attempt of a loop changes the flag, the events and the exhausted loops at most. -/
theorem loopAttempt_shape (loop : Loop) (attempt : Nat) : ∃ reconnecting events exhausted point,
    session.loopAttempt index loop attempt =
      { session with
        reconnecting := reconnecting
        events := events
        exhausted := exhausted }.setLoop index { loop with point := point } := by
  unfold loopAttempt
  split
  · -- The loop ends as the flag is set, or as the delay does not fit; otherwise it waits for it.
    split
    · exact ⟨_, session.events, session.exhausted, _, rfl⟩
    · split
      · exact ⟨_, session.events, session.exhausted, _, rfl⟩
      · exact ⟨session.reconnecting, _, session.exhausted, _, rfl⟩
  · -- No attempt is left.
    exact ⟨session.reconnecting, _, _, _, rfl⟩

/-- Whether `fail` has to launch a loop for this configuration. -/
def relaunches (session : Session) (config : SerialConfig) : Prop :=
  session.config = some config ∧ config.reconnect.enabled = true ∧ session.reconnecting = false ∧
    session.terminal = false

/-- Whether the step is the last one of `fail`. -/
inductive SettlesBy (session : Session) : Action → Prop where
  | connect {index : Nat} {connect : Connect} {cause : Throwable}
      (found : session.connects[index]? = some connect)
      (at_ : connect.point = .failing cause .changed) :
      SettlesBy session (.resume (.connect index) .resumes)
  | reader {index : Nat} {reader : Reader} (found : session.readers[index]? = some reader)
      (at_ : reader.point = .failing .changed) :
      SettlesBy session (.resume (.reader index) .resumes)
  | writer {index queued : Nat} {writer : Writer} {error : SerialError}
      (found : session.writers[index]? = some writer)
      (at_ : writer.point = .failing queued error .changed) :
      SettlesBy session (.resume (.writer index) .resumes)

/-- A failure launches a loop, or at most takes the flag. -/
theorem failSettle_cases :
    (∃ reconnecting, session.failSettle = { session with reconnecting := reconnecting }) ∨
      ∃ config, session.relaunches config ∧ session.failSettle =
        { session with
          reconnecting := true
          loops := session.loops ++
            [{ config := config, cancelled := !session.scopeActive }] } := by
  unfold failSettle
  cases configured : session.config with
  | none =>
    refine .inl ⟨session.reconnecting, ?_⟩
    show session = _
    rw [← configured]
  | some config =>
    simp only
    split
    · -- The flag is free, and is taken even if the session has been closed meanwhile.
      next wins =>
      simp only [Bool.and_eq_true, Bool.not_eq_true'] at wins
      split
      · exact .inl ⟨true, by rw [← configured]⟩
      · next open_ =>
        exact .inr ⟨config, ⟨configured, wins.1, wins.2, by simpa using open_⟩, rfl⟩
    · exact .inl ⟨session.reconnecting, by rw [← configured]⟩

/-- The end of a failure changes the flag and may add a loop. -/
theorem failSettle_shape : ∃ reconnecting loops,
    session.failSettle = { session with reconnecting := reconnecting, loops := loops } := by
  rcases session.failSettle_cases with ⟨reconnecting, shape⟩ | ⟨config, -, shape⟩
  · exact ⟨_, _, shape⟩
  · exact ⟨_, _, shape⟩

/-! The readers. -/

/-- The reader goes on to call `transport.read`. -/
inductive ReaderCalls (reader : Reader) : Outcome → Prop where
  | first (at_ : reader.point = .dispatch) (live : reader.cancelled = false) :
      ReaderCalls reader .resumes
  | next (at_ : reader.point = .emitReceived) : ReaderCalls reader .resumes
  | again {length : Int} {buffer : Bytes} (empty : length ≤ 0) :
      ReaderCalls reader (.returns length buffer)

/-- A reader that is resumed only moves to another point, and reads from the current connection. -/
theorem ReaderMoves.turned {reader : Reader} {outcome : Outcome}
    (moved : ReaderMoves session index reader outcome next) :
    reader.point ≠ .finished ∧
      ∃ point, next.readers = session.readers.set index { reader with point := point } ∧
        ∀ link, point = .reading link → link = session.link ∧ ReaderCalls reader outcome := by
  cases moved with
  | callRead at_ live =>
    -- A reader calls `transport.read` at its beginning and after each chunk it has handled.
    have calls : ReaderCalls reader .resumes := by
      rcases at_ with at_ | at_
      · exact .first at_ (live at_)
      · exact .next at_
    refine ⟨?_, _, rfl, fun link same => ⟨(ReaderPoint.reading.inj same).symm, calls⟩⟩
    rcases at_ with at_ | at_ <;> simp [at_]
  | @chunk length buffer link at_ positive =>
    refine ⟨by simp [at_], ?_⟩
    -- Handling the chunk changes the command that waits for a response, and no reader but this one.
    rcases session.handleChunk_cases index reader (receivedData length buffer) link with
      shape | ⟨queued, -, -, -, -, shape⟩ <;> rw [shape] <;> exact ⟨_, rfl, nofun⟩
  -- A read that returns nothing is followed by the next one at once.
  | nothing at_ empty =>
    exact ⟨by simp [at_], _, rfl, fun link same =>
      ⟨(ReaderPoint.reading.inj same).symm, .again empty⟩⟩
  | failSettled at_ =>
    obtain ⟨_, _, shape⟩ := session.failSettle_shape
    exact ⟨by simp [at_], .finished, by rw [shape]; rfl, nofun⟩
  | failed at_ => exact ⟨by simp [at_], _, rfl, nofun⟩
  | interrupted at_ => exact ⟨by simp [at_], _, rfl, nofun⟩
  | failChanged at_ => exact ⟨by simp [at_], _, rfl, nofun⟩
  | cancelled open_ cancelled => exact ⟨open_, _, rfl, nofun⟩

/-- A reader is left alone, cancelled, resumed, or started. -/
theorem Moves.reader (moved : Moves session action next) {after : Reader}
    (there : next.readers[index]? = some after) :
    (∃ before, session.readers[index]? = some before ∧ (after = before ∨ after = before.cancel)) ∨
      (∃ before outcome, session.readers[index]? = some before ∧
        action = .resume (.reader index) outcome ∧
        ReaderMoves session index before outcome next) ∨
      session.opensBy action = true ∧ index = session.readers.length ∧
        after = { cancelled := !session.scopeActive, connection := next.opens } := by
  have same (readers : next.readers = session.readers) :
      ∃ before, session.readers[index]? = some before ∧ (after = before ∨ after = before.cancel) :=
    ⟨after, readers ▸ there, .inl rfl⟩
  cases moved with
  | @send command =>
    obtain ⟨queue, channels, shape⟩ := session.send_shape command
    exact .inl (same (by rw [shape]))
  | disconnect =>
    obtain ⟨state, events, point, shape⟩ := session.disconnectCall_shape
    exact .inl (same (by rw [shape]))
  | close =>
    obtain ⟨shutdown, shape⟩ := session.closeCall_shape
    exact .inl (same (by rw [shape]))
  | inConnect found moved =>
    cases moved with
    | begin at_ live =>
      obtain ⟨state, events, point, shape⟩ := connectBegin_shape _
      exact .inl (same (by rw [shape]; rfl))
    -- The new reader is the last one of the list.
    | opened at_ =>
      rcases append_cases there with earlier | ⟨last, rfl⟩
      · exact .inl ⟨after, earlier, .inl rfl⟩
      · exact .inr (.inr ⟨by simp [opensBy, found, at_], last, rfl⟩)
    | failSettled at_ =>
      obtain ⟨_, _, shape⟩ := session.failSettle_shape
      exact .inl (same (by rw [shape]; rfl))
    | _ => exact .inl (same rfl)
  | inDisconnect found moved =>
    cases moved with
    | strike at_ =>
      -- The call cancels the reader in use.
      obtain ⟨queue, channels, shape⟩ := session.cancelWorkers.poll_shape
      simp only [disconnectStrike, shape] at there
      exact .inl (cancelJob_cases there)
    | _ => exact .inl (same rfl)
  | inShutdown found moved =>
    cases moved with
    | strike => exact .inl (cancelJob_cases there)
    -- The end of the shutdown cancels every coroutine of the scope.
    | finished =>
      obtain ⟨before, found, rfl⟩ := Option.map_eq_some_iff.mp (List.getElem?_map.symm.trans there)
      exact .inl ⟨before, found, .inr rfl⟩
    | _ => exact .inl (same rfl)
  | @inReader other reader outcome next found moved =>
    -- Only the reader that takes the turn is another one after it.
    by_cases mine : other = index
    · subst mine
      exact .inr (.inl ⟨reader, outcome, found, rfl, moved⟩)
    · obtain ⟨-, point, readers, -⟩ := moved.turned
      rw [readers, List.getElem?_set_ne mine] at there
      exact .inl ⟨after, there, .inl rfl⟩
  | inWriter found moved => exact .inl (same moved.besides.readers)
  | inTimer found moved =>
    cases moved with
    | fired at_ live fits =>
      obtain ⟨queue, slot, shape⟩ := session.timerFired_shape _ _
      exact .inl (same (by rw [shape]))
    | _ => exact .inl (same rfl)
  | inLoop found moved =>
    cases moved with
    | strike at_ live => exact .inl (cancelJob_cases there)
    | first at_ =>
      obtain ⟨_, _, _, _, shape⟩ := session.loopAttempt_shape _ _
      exact .inl (same (by rw [shape]; rfl))
    | next at_ =>
      obtain ⟨_, _, _, _, shape⟩ := session.loopAttempt_shape _ _
      exact .inl (same (by rw [shape]; rfl))
    | opened at_ =>
      rcases append_cases there with earlier | ⟨last, rfl⟩
      · exact .inl ⟨after, earlier, .inl rfl⟩
      · exact .inr (.inr ⟨by simp [opensBy, found, at_, LoopPoint.isOpening], last, rfl⟩)
    | _ => exact .inl (same rfl)
  | _ => exact .inl (same rfl)

/-! The writers. -/

/-- A writer that is resumed stays the same writer, and handles one command after the other. -/
structure Resumed (session : Session) (writer : Writer) (outcome : Outcome) (turned : Writer) :
    Prop where
  open_ : writer.point ≠ .finished
  cancelled : turned.cancelled = writer.cancelled
  connection : turned.connection = writer.connection
  channel : turned.channel = writer.channel ∨
    outcome = .resumes ∧ writer.point = .dispatch ∧ writer.cancelled = false ∧
      turned.channel = some session.commands
  held : ∀ queued, turned.point.held = some queued → writer.point.held = some queued ∨
    ∃ channel, writer.channel = some channel ∧ queued ∈ session.bufferOf channel
  calls : ∀ queued attempt link, turned.point = .writing queued attempt link →
    link = session.link ∧ outcome = .resumes ∧ writer.point.isPausing = true

/-- The attempts for a command keep the writer. -/
theorem Resumed.of_kept {writer turned : Writer} {outcome : Outcome}
    (kept : Writer.Kept writer turned) (open_ : writer.point ≠ .finished)
    (held : ∀ queued, turned.point.held = some queued → writer.point.held = some queued)
    (calls : ∀ queued attempt link, turned.point = .writing queued attempt link →
      link = session.link ∧ outcome = .resumes ∧ writer.point.isPausing = true) :
    Resumed session writer outcome turned where
  open_ := open_
  cancelled := kept.cancelled
  connection := kept.connection
  channel := .inl kept.channel
  held queued there := .inl (held queued there)
  calls := calls

/-- A writer that moves is left in its place, with what it has become. -/
theorem WriterMoves.turned {writer : Writer} {outcome : Outcome}
    (moved : WriterMoves session index writer outcome next) :
    ∃ turned, next.writers = session.writers.set index turned ∧
      Resumed session writer outcome turned := by
  -- Whatever follows the end of an attempt, it is not another call of `transport.write`.
  have ended {queued attempt : Nat} {command : SerialCommand} {result : CommandResult}
      (tries : writer.point.tries = some (queued, attempt)) :
      ∃ turned, (session.attemptEnded index writer queued command attempt result).writers =
        session.writers.set index turned ∧ Resumed session writer outcome turned := by
    have held := Writer.held_of_tries tries
    refine ⟨_, Turned.writers (attemptEnded_turned _), .of_kept (Writer.attempted_kept _)
      (fun finished => by simp [finished, WriterPoint.held] at held) (fun token holds => ?_)
      fun _ _ _ there => absurd there (Writer.attempted_ended _ _ _ _)⟩
    rw [held, Writer.attempted_held _ holds]
  cases moved with
  | start at_ live =>
    exact ⟨_, rfl, by simp [at_], rfl, rfl, .inr ⟨rfl, at_, live, rfl⟩,
      by simp [WriterPoint.held], by simp⟩
  | @take channel queued from_ rest entry at_ bound there buffered entered =>
    -- The command in the hands was the first one in the channel.
    refine ⟨_, rfl, by simp [at_], rfl, rfl, .inl rfl,
      fun token held => .inr ⟨channel, bound, ?_⟩, ?_⟩
    · unfold Writer.pausing at held
      cases millis : (writer.delayFor entry.command).toMillis with
      | some millis' =>
        simp only [millis, WriterPoint.held, Option.some.injEq] at held
        subst held
        simp [bufferOf, there, buffered]
      | none => simp [millis, WriterPoint.held] at held
    · unfold Writer.pausing
      cases (writer.delayFor entry.command).toMillis <;> simp
  | begin at_ entered live =>
    refine ⟨_, Turned.writers beginWriting_turned, .of_kept Writer.began_kept (by simp [at_])
      (fun token held => ?_) fun _ _ _ there =>
        -- The attempt is a call of `transport.write` on the current link, if it is one.
        ⟨Writer.began_unwritten.writes _ _ _ there, rfl, by rw [at_]; rfl⟩⟩
    obtain rfl := Writer.began_held held
    rw [at_]
    rfl
  | @written queued attempt link entry length buffer at_ entered live =>
    -- The command stays in the hands, and the call of `transport.write` is over.
    exact ⟨_, rfl, by simp [at_], rfl, rfl, .inl rfl,
      fun token held => .inl (by rw [at_]; exact held), by simp⟩
  | resumed at_ entered live => exact ended (by rw [at_]; rfl)
  | attempted at_ entered missed ended' => exact ended at_
  | retry at_ entered live =>
    refine ⟨_, Turned.writers beginAttempt_turned, .of_kept Writer.attempting_kept (by simp [at_])
      (fun token held => ?_) fun _ _ _ there =>
        ⟨Writer.attempting_unwritten.writes _ _ _ there, rfl, by rw [at_]; rfl⟩⟩
    obtain rfl := Writer.attempting_held held
    rw [at_]
    rfl
  | drained at_ bound there buffered closed =>
    exact ⟨_, rfl, by simp [at_], rfl, rfl, .inl rfl, by simp [WriterPoint.held], by simp⟩
  | reported at_ entered =>
    exact ⟨_, report_writers _, by simp [at_], rfl, rfl, .inl rfl,
      by simp [WriterPoint.held], by simp⟩
  | failChanged at_ =>
    -- The failing command stays in the hands until the failure has settled.
    refine ⟨_, rfl, by simp [at_], rfl, rfl, .inl rfl, fun token held => .inl ?_, by simp⟩
    rw [at_]
    exact held
  | failSettled at_ =>
    exact ⟨_, writerFailed_writers _, by simp [at_], rfl, rfl, .inl rfl,
      by simp [WriterPoint.held], by simp⟩
  | cancelled open_ cancelled =>
    exact ⟨_, rfl, open_, rfl, rfl, .inl rfl, by simp [WriterPoint.held], by simp⟩

/-- A writer is left alone, cancelled, resumed, or started. -/
theorem Moves.writer (moved : Moves session action next) {after : Writer}
    (there : next.writers[index]? = some after) :
    (∃ before, session.writers[index]? = some before ∧ (after = before ∨ after = before.cancel)) ∨
      (∃ before outcome, session.writers[index]? = some before ∧
        action = .resume (.writer index) outcome ∧
        WriterMoves session index before outcome next) ∨
      session.opensBy action = true ∧ index = session.writers.length ∧ ∃ config,
        after = { config := config, cancelled := !session.scopeActive,
                  connection := next.opens } := by
  have same (writers : next.writers = session.writers) :
      ∃ before, session.writers[index]? = some before ∧ (after = before ∨ after = before.cancel) :=
    ⟨after, writers ▸ there, .inl rfl⟩
  rcases moved.untouched_or_custodial with untouched | custodial
  · exact .inl (same untouched.writers)
  cases custodial with
  | send command =>
    obtain ⟨queue, channels, shape⟩ := session.send_shape command
    exact .inl (same (by rw [shape]))
  -- The call cancels the writer in use.
  | disconnectStrike found at_ =>
    obtain ⟨queue, channels, shape⟩ := session.cancelWorkers.poll_shape
    simp only [disconnectStrike, shape] at there
    exact .inl (cancelJob_cases there)
  | shutdownStrike at_ => exact .inl (cancelJob_cases there)
  -- The end of the shutdown cancels every coroutine of the scope.
  | shutdownFinished at_ =>
    obtain ⟨before, found, rfl⟩ := Option.map_eq_some_iff.mp (List.getElem?_map.symm.trans there)
    exact .inl ⟨before, found, .inr rfl⟩
  -- The new writer is the last one of the list.
  | connectOpened found at_ =>
    rcases append_cases there with earlier | ⟨last, rfl⟩
    · exact .inl ⟨after, earlier, .inl rfl⟩
    · exact .inr (.inr ⟨by simp [opensBy, found, at_], last, _, rfl⟩)
  | loopStrike found at_ live => exact .inl (cancelJob_cases there)
  | loopOpened found at_ =>
    rcases append_cases there with earlier | ⟨last, rfl⟩
    · exact .inl ⟨after, earlier, .inl rfl⟩
    · exact .inr (.inr ⟨by simp [opensBy, found, at_, LoopPoint.isOpening], last, _, rfl⟩)
  | @chunk other reader link length buffer found at_ positive =>
    rcases session.handleChunk_cases other reader (receivedData length buffer) link with
      shape | ⟨queued, -, -, -, -, shape⟩ <;> exact .inl (same (by rw [shape]; rfl))
  | @inWriter other writer outcome next found moved =>
    -- Only the writer that takes the turn is another one after it.
    by_cases mine : other = index
    · subst mine
      exact .inr (.inl ⟨writer, outcome, found, rfl, moved⟩)
    · obtain ⟨turned, writers, -⟩ := moved.turned
      rw [writers, List.getElem?_set_ne mine] at there
      exact .inl ⟨after, there, .inl rfl⟩
  | inTimer found moved =>
    cases moved with
    | fired at_ live fits =>
      obtain ⟨queue, slot, shape⟩ := session.timerFired_shape _ _
      exact .inl (same (by rw [shape]))
    | _ => exact .inl (same rfl)
  | _ => exact .inl (same rfl)

/-! The calls of `connect`. -/

/-- A call of `connect` that moves only changes its point. -/
theorem ConnectMoves.turned {connect : Connect} {outcome : Outcome}
    (moved : ConnectMoves session index connect outcome next) :
    ∃ point, next.connects = session.connects.set index { connect with point := point } := by
  cases moved with
  -- The call is refused, has nothing to do, or starts to connect; in each case it moves on.
  | begin at_ live =>
    obtain ⟨state, events, point, shape⟩ := connectBegin_shape connect
    exact ⟨point, by rw [shape]; rfl⟩
  | failSettled at_ =>
    obtain ⟨_, _, shape⟩ := session.failSettle_shape
    exact ⟨_, by rw [shape]; rfl⟩
  | _ => exact ⟨_, rfl⟩

/-- A call of `connect` is left alone, cancelled, resumed, or made. -/
theorem Moves.connectCall (moved : Moves session action next) {after : Connect}
    (there : next.connects[index]? = some after) :
    (∃ before, session.connects[index]? = some before ∧
      (after = before ∨ after = { before with cancelled := true })) ∨
      (∃ before outcome, session.connects[index]? = some before ∧
        action = .resume (.connect index) outcome ∧
        ConnectMoves session index before outcome next) ∨
      ∃ config, action = .connect config ∧ index = session.connects.length ∧
        after = { config := config } := by
  have same (connects : next.connects = session.connects) :
      ∃ before, session.connects[index]? = some before ∧
        (after = before ∨ after = { before with cancelled := true }) :=
    ⟨after, connects ▸ there, .inl rfl⟩
  cases moved with
  -- A new call is the last one of the list.
  | connect =>
    rcases append_cases there with earlier | ⟨last, rfl⟩
    · exact .inl ⟨after, earlier, .inl rfl⟩
    · exact .inr (.inr ⟨_, rfl, last, rfl⟩)
  | @send command =>
    obtain ⟨queue, channels, shape⟩ := session.send_shape command
    exact .inl (same (by rw [shape]))
  | disconnect =>
    obtain ⟨state, events, point, shape⟩ := session.disconnectCall_shape
    exact .inl (same (by rw [shape]))
  | close =>
    obtain ⟨shutdown, shape⟩ := session.closeCall_shape
    exact .inl (same (by rw [shape]))
  | @cancelConnect other connect found =>
    -- Only the call that is cancelled is marked.
    rcases set_cases there with ⟨rfl, rfl⟩ | ⟨-, there⟩
    · exact .inl ⟨connect, found, .inr rfl⟩
    · exact .inl ⟨after, there, .inl rfl⟩
  | @inConnect other connect outcome next found moved =>
    by_cases mine : other = index
    · subst mine
      exact .inr (.inl ⟨connect, outcome, found, rfl, moved⟩)
    · obtain ⟨point, connects⟩ := moved.turned
      rw [connects, List.getElem?_set_ne mine] at there
      exact .inl ⟨after, there, .inl rfl⟩
  | inDisconnect found moved =>
    cases moved with
    | strike at_ =>
      obtain ⟨queue, channels, shape⟩ := session.cancelWorkers.poll_shape
      exact .inl (same (by simp only [disconnectStrike, shape]; rfl))
    | _ => exact .inl (same rfl)
  | inShutdown found moved => cases moved <;> exact .inl (same rfl)
  | @inReader other reader outcome next found moved =>
    refine .inl (same ?_)
    -- What a reader does to the session concerns its workers, and no call.
    cases moved with
    | @chunk length buffer link at_ positive =>
      rcases session.handleChunk_cases other reader (receivedData length buffer) link with
        shape | ⟨queued, -, -, -, -, shape⟩ <;> rw [shape] <;> rfl
    | failSettled at_ =>
      obtain ⟨_, _, shape⟩ := session.failSettle_shape
      rw [shape]
      rfl
    | _ => rfl
  | inWriter found moved => exact .inl (same moved.besides.connects)
  | inTimer found moved =>
    cases moved with
    | fired at_ live fits =>
      obtain ⟨queue, slot, shape⟩ := session.timerFired_shape _ _
      exact .inl (same (by rw [shape]))
    | _ => exact .inl (same rfl)
  | inLoop found moved =>
    -- A loop opens the transport without a call.
    refine .inl (same ?_)
    cases moved with
    | first at_ =>
      obtain ⟨_, _, _, _, shape⟩ := session.loopAttempt_shape _ _
      rw [shape]
      rfl
    | next at_ =>
      obtain ⟨_, _, _, _, shape⟩ := session.loopAttempt_shape _ _
      rw [shape]
      rfl
    | _ => rfl
  | _ => exact .inl (same rfl)

/-! The calls of `disconnect`. -/

/-- A call of `disconnect` that moves only changes its point. -/
theorem DisconnectMoves.turned {disconnect : Disconnect} {outcome : Outcome}
    (moved : DisconnectMoves session index disconnect outcome next) :
    ∃ point, next.disconnects =
      session.disconnects.set index { disconnect with point := point } := by
  cases moved with
  -- Striking the workers down does not touch the calls.
  | strike at_ =>
    obtain ⟨queue, channels, shape⟩ := session.cancelWorkers.poll_shape
    exact ⟨.closing, by simp only [disconnectStrike, shape]; rfl⟩
  | _ => exact ⟨_, rfl⟩

/-- A call of `disconnect` is left alone, cancelled, resumed, or made. -/
theorem Moves.disconnecting (moved : Moves session action next) {after : Disconnect}
    (there : next.disconnects[index]? = some after) :
    (∃ before, session.disconnects[index]? = some before ∧
      (after = before ∨ after = { before with cancelled := true })) ∨
      (∃ before outcome, session.disconnects[index]? = some before ∧
        action = .resume (.disconnect index) outcome ∧
        DisconnectMoves session index before outcome next) ∨
      action = .disconnect ∧ index = session.disconnects.length ∧
        next = session.disconnectCall := by
  have same (disconnects : next.disconnects = session.disconnects) :
      ∃ before, session.disconnects[index]? = some before ∧
        (after = before ∨ after = { before with cancelled := true }) :=
    ⟨after, disconnects ▸ there, .inl rfl⟩
  -- Beside a call of `disconnect` and its own steps, only a cancellation reaches it.
  rcases moved.aside_or_calling with aside | calling
  · exact .inl (same aside.disconnects)
  cases calling with
  | disconnect =>
    obtain ⟨state, events, point, shape⟩ := session.disconnectCall_shape
    rw [shape] at there
    rcases append_cases there with earlier | ⟨last, -⟩
    · exact .inl ⟨after, earlier, .inl rfl⟩
    · exact .inr (.inr ⟨rfl, last, rfl⟩)
  | close =>
    obtain ⟨shutdown, shape⟩ := session.closeCall_shape
    exact .inl (same (by rw [shape]))
  | cancelDisconnect found =>
    rcases set_cases there with ⟨rfl, rfl⟩ | ⟨-, there⟩
    · exact .inl ⟨_, found, .inr rfl⟩
    · exact .inl ⟨after, there, .inl rfl⟩
  | @inDisconnect other disconnect outcome next found moved =>
    -- A step of another call leaves this one as it was.
    by_cases mine : other = index
    · subst mine
      exact .inr (.inl ⟨disconnect, outcome, found, rfl, moved⟩)
    · obtain ⟨point, disconnects⟩ := moved.turned
      rw [disconnects, List.getElem?_set_ne mine] at there
      exact .inl ⟨after, there, .inl rfl⟩
  | inShutdown found moved => cases moved <;> exact .inl (same rfl)
  | _ => exact .inl (same rfl)

/-- No call of `disconnect` is forgotten. -/
theorem Moves.disconnects_length (moved : Moves session action next) :
    session.disconnects.length ≤ next.disconnects.length := by
  rcases moved.aside_or_calling with aside | calling
  · exact Nat.le_of_eq (by rw [aside.disconnects])
  -- Calls are appended by `disconnect`, and only changed in place otherwise.
  cases calling with
  | disconnect =>
    obtain ⟨state, events, point, shape⟩ := session.disconnectCall_shape
    rw [shape]
    simp
  | close =>
    obtain ⟨shutdown, shape⟩ := session.closeCall_shape
    exact Nat.le_of_eq (by rw [shape])
  | cancelDisconnect found => exact Nat.le_of_eq List.length_set.symm
  | inDisconnect found moved =>
    obtain ⟨point, disconnects⟩ := moved.turned
    exact Nat.le_of_eq (by rw [disconnects, List.length_set])
  | inShutdown found moved => cases moved <;> exact Nat.le_refl _
  | _ => exact Nat.le_refl _

/-! The reconnect loops. -/

/-- A loop that moves only changes its point. -/
theorem LoopMoves.turned {loop : Loop} {outcome : Outcome}
    (moved : LoopMoves session index loop outcome next) :
    ∃ point, next.loops = session.loops.set index { loop with point := point } := by
  cases moved with
  -- An attempt begins with an announcement, or is the end of the loop.
  | first at_ =>
    obtain ⟨_, _, _, point, shape⟩ := session.loopAttempt_shape loop 0
    exact ⟨point, by rw [shape]; rfl⟩
  | @next attempt at_ =>
    obtain ⟨_, _, _, point, shape⟩ := session.loopAttempt_shape loop (attempt + 1)
    exact ⟨point, by rw [shape]; rfl⟩
  | _ => exact ⟨_, rfl⟩

/-- A failure that settles launches at most one loop. -/
theorem failSettle_loops {after : Loop} (there : session.failSettle.loops[index]? = some after) :
    session.loops[index]? = some after ∨ ∃ config, session.relaunches config ∧
      after = { config := config, cancelled := !session.scopeActive } := by
  -- The loop is one of those that there were, or the one that is launched.
  rcases session.failSettle_cases with ⟨flag, shape⟩ | ⟨config, relaunches, shape⟩ <;>
    rw [shape] at there
  · exact .inl there
  · rcases append_cases there with earlier | ⟨-, last⟩
    · exact .inl earlier
    · exact .inr ⟨config, relaunches, last⟩

/-- A writer leaves the loops alone, unless it comes to the end of `fail`. -/
theorem WriterMoves.loops {writer : Writer} {outcome : Outcome}
    (moved : WriterMoves session index writer outcome next) :
    next.loops = session.loops ∨ ∃ queued error, writer.point = .failing queued error .changed ∧
      outcome = .resumes ∧ next.loops = session.failSettle.loops := by
  -- The attempts for a command may fail the session, but launch nothing before the failure settles.
  have turned {turned : Writer} {index : Nat} (turns : Turned session index turned next) :
      next.loops = session.loops := by
    obtain ⟨⟨state, events, rfl⟩, -⟩ := turns
    rfl
  cases moved with
  | begin at_ entered live => exact .inl (turned beginWriting_turned)
  | resumed at_ entered live => exact .inl (turned (attemptEnded_turned _))
  | attempted at_ entered missed ended => exact .inl (turned (attemptEnded_turned _))
  | retry at_ entered live => exact .inl (turned beginAttempt_turned)
  | reported at_ entered =>
    unfold report
    simp only
    split <;> exact .inl rfl
  | failSettled at_ => exact .inr ⟨_, _, at_, rfl, rfl⟩
  | _ => exact .inl rfl

/-- A loop is left alone, cancelled at the very end, resumed, or launched by a failure. -/
theorem Moves.loop (moved : Moves session action next) {after : Loop}
    (there : next.loops[index]? = some after) :
    (∃ before, session.loops[index]? = some before ∧
      (after = before ∨ after = before.cancel ∧ session.shutdown = some .emitClosed)) ∨
      (∃ before outcome, session.loops[index]? = some before ∧
        action = .resume (.loop index) outcome ∧ LoopMoves session index before outcome next) ∨
      ∃ config, session.SettlesBy action ∧ session.relaunches config ∧
        after = { config := config, cancelled := !session.scopeActive } := by
  have same (loops : next.loops = session.loops) :
      ∃ before, session.loops[index]? = some before ∧
        (after = before ∨ after = before.cancel ∧ session.shutdown = some .emitClosed) :=
    ⟨after, loops ▸ there, .inl rfl⟩
  -- Wherever `fail` comes to its end, a loop may be launched.
  have settled (settles : session.SettlesBy action)
      (loops : next.loops = session.failSettle.loops) :
      (∃ before, session.loops[index]? = some before ∧
        (after = before ∨ after = before.cancel ∧ session.shutdown = some .emitClosed)) ∨
      ∃ config, session.SettlesBy action ∧ session.relaunches config ∧
        after = { config := config, cancelled := !session.scopeActive } :=
    (failSettle_loops (loops ▸ there)).imp (fun earlier => ⟨after, earlier, .inl rfl⟩)
      fun ⟨config, launched⟩ => ⟨config, settles, launched⟩
  cases moved with
  | @send command =>
    obtain ⟨queue, channels, shape⟩ := session.send_shape command
    exact .inl (same (by rw [shape]))
  | disconnect =>
    obtain ⟨state, events, point, shape⟩ := session.disconnectCall_shape
    exact .inl (same (by rw [shape]))
  | close =>
    obtain ⟨shutdown, shape⟩ := session.closeCall_shape
    exact .inl (same (by rw [shape]))
  | inConnect found moved =>
    cases moved with
    | begin at_ live =>
      obtain ⟨state, events, point, shape⟩ := connectBegin_shape _
      exact .inl (same (by rw [shape]; rfl))
    -- The failure of an open ends in the step in which the call returns.
    | failSettled at_ => exact (settled (.connect found at_) rfl).imp_right .inr
    | _ => exact .inl (same rfl)
  | inDisconnect found moved =>
    cases moved with
    | strike at_ =>
      obtain ⟨queue, channels, shape⟩ := session.cancelWorkers.poll_shape
      exact .inl (same (by simp only [disconnectStrike, shape]; rfl))
    | _ => exact .inl (same rfl)
  | inShutdown found moved =>
    cases moved with
    | finished =>
      -- Only the end of the scope cancels loops.
      obtain ⟨before, found', rfl⟩ := Option.map_eq_some_iff.mp (List.getElem?_map.symm.trans there)
      exact .inl ⟨before, found', .inr ⟨rfl, found⟩⟩
    | _ => exact .inl (same rfl)
  | @inReader other reader outcome next found moved =>
    cases moved with
    | @chunk length buffer link at_ positive =>
      rcases session.handleChunk_cases other reader (receivedData length buffer) link with
        shape | ⟨queued, -, -, -, -, shape⟩ <;> exact .inl (same (by rw [shape]; rfl))
    | failSettled at_ => exact (settled (.reader found at_) rfl).imp_right .inr
    | _ => exact .inl (same rfl)
  | inWriter found moved =>
    -- A writer launches a loop in the last step of its failure.
    rcases moved.loops with kept | ⟨queued, error, at_, rfl, settles⟩
    · exact .inl (same kept)
    · exact (settled (.writer found at_) settles).imp_right .inr
  | inTimer found moved =>
    cases moved with
    | fired at_ live fits =>
      obtain ⟨queue, slot, shape⟩ := session.timerFired_shape _ _
      exact .inl (same (by rw [shape]))
    | _ => exact .inl (same rfl)
  | @inLoop other loop outcome next found moved =>
    -- Only the loop that takes the turn is another one after it.
    by_cases mine : other = index
    · subst mine
      exact .inr (.inl ⟨loop, outcome, found, rfl, moved⟩)
    · obtain ⟨point, loops⟩ := moved.turned
      rw [loops, List.getElem?_set_ne mine] at there
      exact .inl ⟨after, there, .inl rfl⟩
  | _ => exact .inl (same rfl)

end Session

end SerialPort
