import SerialPort.Library.BoundedQueue
import SerialPort.Session.Served
import SerialPort.Session.Single

/-! The commands of one connection: accepted, taken, and completed in the same order. -/

namespace SerialPort

/-- Whether `send` has refused the command. -/
def QueuedCommand.isRefused (entry : QueuedCommand) : Bool :=
  match entry.result with
  | some (.failed error) => error.isRefusal
  | _ => false

/-- To complete a command is to refuse it only if the result says so. -/
theorem QueuedCommand.complete_isRefused {entry : QueuedCommand} {result : CommandResult}
    (accepts : ∀ error, result = .failed error → error.isRefusal = false) :
    (entry.complete result).isRefused = entry.isRefused := by
  unfold complete
  split
  · next waits =>
    simp only [Option.isNone_iff_eq_none] at waits
    cases result <;> simp_all [isRefused]
  · -- A complete command keeps its result.
    rfl

namespace Session

/-- The commands that `send` has accepted from this one on, in the order of the calls. -/
def acceptedSince (session : Session) (first : Nat) : List Nat :=
  (List.range session.queue.length).filter fun queued =>
    first ≤ queued && (session.queue[queued]?).any fun entry => !entry.isRefused

/-- Whether the transport is opened, or a writer other than this one begins to run. -/
def disturbsBy (session : Session) (index : Nat) : Action → Bool
  | .resume (.writer other) .resumes =>
    other != index && (session.writers[other]?).any fun writer => writer.point == .dispatch
  | action => session.opensBy action

/-- The writer takes the commands in the order in which they were accepted, makes the attempts for
one after those for another, and completes each of them before it takes the next. -/
structure InTurn (session : Session) (first channel : Nat) (writer : Writer) : Prop where
  order : writer.taken ++ session.bufferOf channel = session.acceptedSince first
  once : writer.taken.Nodup
  bounded : (session.bufferOf channel).length ≤ writer.config.queue.capacity.toNatClampNeg
  grouped : Grouped.InOrder writer.taken writer.attempts
  latest : ∀ queued, writer.point.held = some queued → writer.taken.getLast? = some queued
  completed : ∀ queued ∈ writer.done, ∀ entry, session.queue[queued]? = some entry →
    entry.command.responseMatcher = none → entry.result = some (writer.outcome queued)

/-- The channel and the writer of a connection make up a bounded queue. -/
structure Lined (session : Session) (first channel : Nat) (writer : Writer) : Prop where
  bound : writer.channel = none ∨ writer.channel = some channel
  queue : ∃ (from_ : Channel)
    (line : BoundedQueue Nat writer.config.queue.capacity.toNatClampNeg),
    session.channels[channel]? = some from_ ∧
      from_.capacity = writer.config.queue.capacity.toNatClampNeg ∧
      line.accepted = session.acceptedSince first ∧ line.taken = writer.taken ∧
      line.waiting = from_.buffer

/-- The latest writer of a session that rejects commands is alone with its channel. -/
structure Queueing (first channel index : Nat) (session : Session) : Prop where
  commands : session.commands = channel
  current : session.writer = some index
  rejects : session.config.all fun config => config.queue.overflow == .reject
  since : first ≤ session.queue.length
  apart : ∀ (other : Nat) (writer : Writer), session.writers[other]? = some writer →
    writer.channel = some channel → other = index
  lined : ∃ writer, session.writers[index]? = some writer ∧
    (writer.cancelled = false → Lined session first channel writer)

variable {session next : Session} {action : Action} {first channel index queued : Nat}
  {writer turned : Writer}

/-! The commands that have been accepted. -/

/-- Nobody but `send` refuses a command. -/
theorem EntryMoves.isRefused (served : AllServed session) {before after : QueuedCommand}
    (moved : EntryMoves session next queued before after) :
    after.isRefused = before.isRefused := by
  cases moved with
  | @reported index writer result found at_ =>
    -- What a writer reports is no failure.
    obtain ⟨-, succeeded⟩ := (served index writer found).orderly.reported at_
    apply QueuedCommand.complete_isRefused
    rintro error rfl
    cases succeeded
  | @failed index writer error found at_ =>
    -- A writer that fails has an error of the transport, which is no refusal.
    obtain ⟨cause, rfl⟩ := (served index writer found).orderly.failing at_
    apply QueuedCommand.complete_isRefused
    rintro error ⟨⟩
    rfl
  | timedOut timeout =>
    apply QueuedCommand.complete_isRefused
    nofun
  | answered found at_ waits chunk =>
    unfold QueuedCommand.answer
    split
    · next waits =>
      simp only [Option.isNone_iff_eq_none] at waits
      simp [QueuedCommand.isRefused, waits]
    · rfl
  | _ => rfl

/-- What is accepted stays accepted when nothing is sent. -/
theorem acceptedSince_kept (served : AllServed session) (moved : Moves session action next)
    (length : next.queue.length = session.queue.length) :
    next.acceptedSince first = session.acceptedSince first := by
  unfold acceptedSince
  rw [length]
  -- The old commands are the same in number, and refused or not as before.
  refine List.filter_congr fun queued listed => ?_
  have entered := List.getElem?_eq_getElem (List.mem_range.mp listed)
  obtain ⟨after, entered', moved⟩ := (EntriesMove.of_moves moved).old queued _ entered
  rw [entered, entered', Option.any_some, Option.any_some, moved.isRefused served]

/-- A command that is sent is the last one, accepted or refused. -/
theorem acceptedSince_sent (since : first ≤ session.queue.length) {entry : QueuedCommand}
    (length : next.queue.length = session.queue.length + 1)
    (old : ∀ queued, queued < session.queue.length →
      (next.queue[queued]?).any (fun entry => !entry.isRefused) =
        (session.queue[queued]?).any fun entry => !entry.isRefused)
    (new : next.queue[session.queue.length]? = some entry) :
    next.acceptedSince first =
      session.acceptedSince first ++ if entry.isRefused then [] else [session.queue.length] := by
  -- The old commands are in the queue as before, so the new one is all that is added.
  have kept : (List.range session.queue.length).filter (fun queued =>
      first ≤ queued && (next.queue[queued]?).any fun entry => !entry.isRefused) =
        session.acceptedSince first := by
    refine List.filter_congr fun queued listed => ?_
    rw [old queued (List.mem_range.mp listed)]
  unfold acceptedSince at kept ⊢
  rw [length, List.range_succ, List.filter_append, kept]
  cases refused : entry.isRefused <;> simp [new, since, refused]

/-- Only `send` makes a new command. -/
theorem Moves.length_queue {job : Job} {outcome : Outcome}
    (moved : Moves session (.resume job outcome) next) :
    next.queue.length = session.queue.length := by
  rcases moved.untouched_or_custodial with untouched | custodial
  · rw [untouched.queue]
  cases custodial with
  | disconnectStrike found at_ => exact length_poll
  | @chunk index reader link length buffer found at_ positive =>
    rcases session.handleChunk_cases index reader (receivedData length buffer) link with
      shape | ⟨queued, -, -, -, -, shape⟩ <;> rw [shape]
    · rfl
    · -- An answer changes an entry of the queue in place.
      exact List.length_modify _ _ _
  | inWriter found moved =>
    cases moved with
    | take at_ bound there buffered entered => exact List.length_modify _ _ _
    | begin at_ entered live => rw [Turned.queue beginWriting_turned]
    | written at_ entered live => exact List.length_modify _ _ _
    | resumed at_ entered live => rw [Turned.queue (attemptEnded_turned _)]
    | attempted at_ entered missed ended => rw [Turned.queue (attemptEnded_turned _)]
    | retry at_ entered live => rw [Turned.queue beginAttempt_turned]
    | reported at_ entered =>
      unfold report
      simp only
      split <;> exact List.length_modify _ _ _
    | failSettled at_ =>
      refine (List.length_modify _ _ _).trans ?_
      rw [Untouched.failSettle.queue]
    | _ => rfl
  | @inTimer index timer outcome next found moved =>
    cases moved with
    | fired at_ live fits =>
      unfold timerFired
      split
      · exact List.length_modify _ _ _
      · rfl
    | _ => rfl
  | _ => rfl

/-- A step that sends nothing adds nothing to the queue. -/
theorem Moves.length_kept (moved : Moves session action next)
    (silent : ∀ command, action ≠ .send command) : next.queue.length = session.queue.length := by
  cases action with
  | resume job outcome => exact moved.length_queue
  -- Only `send` makes an entry.
  | send command => exact absurd rfl (silent command)
  | _ =>
    rcases moved.untouched_or_custodial with untouched | custodial
    · rw [untouched.queue]
    · cases custodial

/-- A call of `send` leaves what the function returns. -/
theorem Moves.sent {command : SerialCommand} (moved : Moves session (.send command) next) :
    next = session.send command := by
  cases moved
  rfl

/-- Only a successful open changes the configuration, the channel, and the workers in use. -/
theorem Moves.unopened (moved : Moves session action next)
    (unopened : session.opensBy action = false) :
    next.config = session.config ∧ next.commands = session.commands ∧
      next.writer = session.writer := by
  rcases moved.untouched_or_custodial with untouched | custodial
  · exact ⟨untouched.config, untouched.commands, untouched.writer⟩
  cases custodial with
  | send command =>
    obtain ⟨queue, channels, shape⟩ := session.send_shape command
    rw [shape]
    exact ⟨rfl, rfl, rfl⟩
  | disconnectStrike found at_ =>
    obtain ⟨queue, channels, shape⟩ := session.cancelWorkers.poll_shape
    simp only [disconnectStrike, shape]
    exact ⟨rfl, rfl, rfl⟩
  -- The two steps that would replace them are opens, which this one is not.
  | connectOpened found at_ => simp [opensBy, found, at_] at unopened
  | loopOpened found at_ => simp [opensBy, found, at_, LoopPoint.isOpening] at unopened
  | @chunk index reader link length buffer found at_ positive =>
    rcases session.handleChunk_cases index reader (receivedData length buffer) link with
      shape | ⟨queued, -, -, -, -, shape⟩ <;> rw [shape] <;> exact ⟨rfl, rfl, rfl⟩
  | inWriter found moved =>
    have besides := moved.besides
    exact ⟨besides.config, besides.commands, besides.writer⟩
  | inTimer found moved =>
    cases moved with
    | fired at_ live fits =>
      obtain ⟨queue, slot, shape⟩ := session.timerFired_shape _ _
      rw [shape]
      exact ⟨rfl, rfl, rfl⟩
    | _ => exact ⟨rfl, rfl, rfl⟩
  | _ => exact ⟨rfl, rfl, rfl⟩

/-- A step that disturbs nobody opens no connection. -/
theorem unopened_of_undisturbed (undisturbed : session.disturbsBy index action = false) :
    session.opensBy action = false := by
  unfold disturbsBy at undisturbed
  split at undisturbed
  · -- A writer in the guard is no call of `connect` and no loop.
    rfl
  · exact undisturbed

/-- The channel keeps its commands, and is at most closed. -/
def KeepsChannel (session next : Session) (channel : Nat) : Prop :=
  ∀ from_, session.channels[channel]? = some from_ →
    ∃ closed, next.channels[channel]? = some { from_ with closed := closed }

theorem KeepsChannel.of_same (same : next.channels[channel]? = session.channels[channel]?) :
    KeepsChannel session next channel :=
  fun from_ found => ⟨from_.closed, same.trans found⟩

/-! The line of a writer after a step. -/

namespace Lined

/-- Nothing is accepted, and nothing is taken. -/
theorem keep (lined : Lined session first channel writer) (kept : Writer.Kept writer turned)
    (accepted : next.acceptedSince first = session.acceptedSince first)
    (channels : session.KeepsChannel next channel) : Lined next first channel turned := by
  obtain ⟨bound, from_, line, found, capacity, accepts, taken, waits⟩ := lined
  obtain ⟨closed, found'⟩ := channels from_ found
  refine ⟨kept.channel ▸ bound, ?_⟩
  rw [kept.config]
  exact ⟨{ from_ with closed := closed }, line, found', capacity, accepts.trans accepted.symm,
    taken.trans kept.taken.symm, waits⟩

/-- A command is accepted at the end of the line, or refused. -/
theorem send (lined : Lined session first channel writer) (since : first ≤ session.queue.length)
    (current : session.commands = channel) {command : SerialCommand}
    (keeps : session.evictsBy (.send command) = false) :
    Lined (session.send command) first channel writer := by
  let entry : QueuedCommand := { command := command }
  -- The new command changes in `complete` or in `enqueue`, and counts if it is not refused then.
  have modified (change : QueuedCommand → QueuedCommand) (next : Session)
      (queue : next.queue = (session.queue ++ [entry]).modify session.queue.length change) :
      next.acceptedSince first = session.acceptedSince first ++
        if (change entry).isRefused then [] else [session.queue.length] := by
    refine acceptedSince_sent since ?_ (fun token inside => ?_) ?_
    · simp [queue]
    · have different : session.queue.length ≠ token := by omega
      simp [queue, List.getElem?_append_left inside, different]
    · simp [queue]
  obtain ⟨bound, from_, line, found, capacity, accepts, taken, waits⟩ := lined
  refine ⟨bound, ?_⟩
  rcases send_cases keeps with ⟨error, refusal, shape⟩ | ⟨-, -, room, shape⟩ <;> rw [shape]
  · refine ⟨from_, line, found, capacity, ?_, taken, waits⟩
    rw [modified _ (Session.complete _ _ _) rfl, accepts]
    simp [entry, QueuedCommand.complete, QueuedCommand.isRefused, refusal]
  · -- There is room in the channel, and so there is in the line.
    obtain ⟨from', found', roomy⟩ := (Option.any_eq_true _ _).mp room
    rw [current] at found'
    obtain rfl := Option.some.inj (found.symm.trans found')
    simp only [Channel.hasRoom, Bool.and_eq_true, decide_eq_true_eq] at roomy
    have room : line.waiting.length < writer.config.queue.capacity.toNatClampNeg := by
      rw [waits, ← capacity]
      exact roomy.2
    refine ⟨{ from_ with
      buffer := from_.buffer ++ [session.queue.length]
      accepted := from_.accepted ++ [session.queue.length] },
      line.accept session.queue.length room, ?_, capacity, ?_, taken, ?_⟩
    · simp [Session.enqueue, current, found]
    · rw [modified _ (Session.enqueue _ _) rfl]
      simp [entry, BoundedQueue.accept, accepts, QueuedCommand.isRefused]
    · simp [BoundedQueue.accept, waits]

/-- The writer takes the first command of the line. -/
theorem take (lined : Lined session first channel writer) {source : Nat} {from_ : Channel}
    {rest : List Nat} {command : SerialCommand} (bound : writer.channel = some source)
    (found : session.channels[source]? = some from_) (buffered : from_.buffer = queued :: rest)
    (accepted : (session.take index writer source queued command).acceptedSince first =
      session.acceptedSince first) :
    Lined (session.take index writer source queued command) first channel
      { writer with
        point := writer.pausing queued command
        taken := writer.taken ++ [queued] } := by
  obtain ⟨bound', from', line, found', capacity, accepts, taken, waits⟩ := lined
  -- The writer receives from its own channel.
  obtain rfl : source = channel := by
    rcases bound' with none_ | same
    · simp [bound] at none_
    · simpa [bound] using same
  obtain rfl := Option.some.inj (found'.symm.trans found)
  refine ⟨.inr bound, { from' with buffer := from'.buffer.tail }, line.take (waits.trans buffered),
    ?_, capacity, accepts.trans accepted.symm, ?_, ?_⟩
  · simp [Session.take, own, setWriter, found]
  · simp [BoundedQueue.take, taken]
  · simp [BoundedQueue.take, buffered]

/-- The writer takes a turn. -/
theorem inWriter (lined : Lined session first channel writer)
    (current : session.commands = channel) {outcome : Outcome}
    (moved : WriterMoves session index writer outcome next)
    (accepted : next.acceptedSince first = session.acceptedSince first) :
    ∃ turned, next.writers = session.writers.set index turned ∧
      turned.cancelled = writer.cancelled ∧ Lined next first channel turned := by
  -- Most turns leave the channels alone, and the writer with what it has taken.
  have same {turned : Writer} (writers : next.writers = session.writers.set index turned)
      (channels : next.channels = session.channels) (kept : Writer.Kept writer turned) :
      ∃ turned, next.writers = session.writers.set index turned ∧
        turned.cancelled = writer.cancelled ∧ Lined next first channel turned :=
    ⟨turned, writers, kept.cancelled, lined.keep kept accepted (.of_same (by rw [channels]))⟩
  cases moved with
  | start at_ live =>
    -- A writer that starts to run receives from the channel of the session.
    refine ⟨_, rfl, rfl, .inr (by rw [current]), ?_⟩
    obtain ⟨-, from_, line, found, capacity, accepts, taken, waits⟩ := lined
    exact ⟨from_, line, found, capacity, accepts.trans accepted.symm, taken, waits⟩
  | take at_ bound there buffered entered =>
    exact ⟨_, rfl, rfl, lined.take bound there buffered accepted⟩
  | begin at_ entered live =>
    exact same beginWriting_turned.writers beginWriting_turned.channels Writer.began_kept
  | resumed at_ entered live =>
    exact same (Turned.writers (attemptEnded_turned _)) (Turned.channels (attemptEnded_turned _))
      (Writer.attempted_kept _)
  | attempted at_ entered missed ended =>
    exact same (Turned.writers (attemptEnded_turned _)) (Turned.channels (attemptEnded_turned _))
      (Writer.attempted_kept _)
  | retry at_ entered live =>
    exact same beginAttempt_turned.writers beginAttempt_turned.channels Writer.attempting_kept
  | reported at_ entered =>
    refine same (report_writers _) ?_ ⟨rfl, rfl, rfl, rfl, rfl⟩
    unfold report
    simp only
    split <;> rfl
  | failSettled at_ =>
    refine same (writerFailed_writers _) ?_ ⟨rfl, rfl, rfl, rfl, rfl⟩
    show session.failSettle.channels = session.channels
    rw [Untouched.failSettle.channels]
  | _ => exact same rfl rfl ⟨rfl, rfl, rfl, rfl, rfl⟩

end Lined

/-- Cancelling the workers cancels the latest writer. -/
theorem cancelWorkers_cancels (current : session.writer = some index)
    (found : session.writers[index]? = some writer) :
    session.cancelWorkers.writers[index]? = some writer.cancel := by
  simp [cancelWorkers, cancelJob, current, found]

/-- A writer leaves the channels alone that it does not receive from. -/
theorem WriterMoves.other_channel {outcome : Outcome}
    (moved : WriterMoves session index writer outcome next)
    (apart : writer.channel ≠ some channel) :
    next.channels[channel]? = session.channels[channel]? := by
  rcases moved.channels with same | ⟨source, from_, -, bound, -, -, shorter⟩
  · rw [same]
  · -- It takes from another channel.
    have different : source ≠ channel := fun same => apart (same ▸ bound)
    simp [shorter, different]

/-- Nobody else comes to receive from the channel of a writer that is not disturbed. -/
theorem Moves.apart (moved : Moves session action next)
    (undisturbed : session.disturbsBy index action = false)
    (apart : ∀ (other : Nat) (writer : Writer), session.writers[other]? = some writer →
      writer.channel = some channel → other = index) :
    ∀ (other : Nat) (writer : Writer), next.writers[other]? = some writer →
      writer.channel = some channel → other = index := by
  intro other after there bound
  rcases moved.writer there with
    -- A writer goes on as it was, is cancelled, takes a turn, or is a new one without a channel.
    ⟨before, found, rfl | rfl⟩ | ⟨before, outcome, found, rfl, turns⟩ | ⟨-, -, config, rfl⟩
  · exact apart other after found bound
  · exact apart other before found bound
  · obtain ⟨turned, writers, resumed⟩ := turns.turned
    obtain rfl := eq_of_set writers there
    rcases resumed.channel with same | ⟨rfl, at_, -, -⟩
    · exact apart other before found (same ▸ bound)
    · -- Nobody else begins to run, and so nobody else comes to receive from this channel.
      simpa [disturbsBy, found, at_] using undisturbed
  · cases bound

/-- A step that sends nothing leaves an undisturbed writer and its channel alone, or cancels the
writer, or is a turn of the writer. -/
theorem Moves.line (moved : Moves session action next)
    (undisturbed : session.disturbsBy index action = false) (current : session.writer = some index)
    (apart : ∀ (other : Nat) (writer : Writer), session.writers[other]? = some writer →
      writer.channel = some channel → other = index)
    (found : session.writers[index]? = some writer) (silent : ∀ command, action ≠ .send command) :
    (next.writers[index]? = some writer ∧ session.KeepsChannel next channel) ∨
      next.writers[index]? = some writer.cancel ∨
      ∃ outcome, action = .resume (.writer index) outcome ∧
        WriterMoves session index writer outcome next := by
  have unopened := unopened_of_undisturbed undisturbed
  have keep (writers : next.writers = session.writers)
      (channels : next.channels = session.channels) :
      next.writers[index]? = some writer ∧ session.KeepsChannel next channel :=
    ⟨by rw [writers, found], .of_same (by rw [channels])⟩
  rcases moved.untouched_or_custodial with untouched | custodial
  · exact .inl (keep untouched.writers untouched.channels)
  cases custodial with
  | send command => exact absurd rfl (silent command)
  -- Disconnecting cancels the writer, whatever it receives from the channel.
  | disconnectStrike struck at_ =>
    obtain ⟨queue, channels, shape⟩ := session.cancelWorkers.poll_shape
    refine .inr (.inl ?_)
    simp only [disconnectStrike, shape]
    exact cancelWorkers_cancels current found
  | shutdownStrike at_ => exact .inr (.inl (cancelWorkers_cancels current found))
  | shutdownClosed at_ =>
    -- A shutdown closes the channel and keeps what is in it.
    refine .inl ⟨found, fun from_ there => ?_⟩
    simp only [shutdownClosed, emit, List.getElem?_modify, there]
    split
    · exact ⟨true, rfl⟩
    · exact ⟨from_.closed, rfl⟩
  | shutdownFinished at_ => exact .inr (.inl (by simp [shutdownFinished, found]))
  | connectOpened found at_ => simp [opensBy, found, at_] at unopened
  | loopStrike struck at_ live => exact .inr (.inl (cancelWorkers_cancels current found))
  | loopOpened found at_ => simp [opensBy, found, at_, LoopPoint.isOpening] at unopened
  | @chunk number reader link length buffer reads at_ positive =>
    rcases session.handleChunk_cases number reader (receivedData length buffer) link with
      shape | ⟨queued, -, -, -, -, shape⟩ <;>
      exact .inl (keep (by rw [shape]; rfl) (by rw [shape]; rfl))
  -- Another writer receives from another channel, if from any.
  | @inWriter other writer' outcome next found' turns =>
    by_cases mine : other = index
    · subst mine
      obtain rfl := Option.some.inj (found.symm.trans found')
      exact .inr (.inr ⟨outcome, rfl, turns⟩)
    · obtain ⟨turned, writers, -⟩ := turns.turned
      refine .inl ⟨by rw [writers, List.getElem?_set_ne mine, found], .of_same ?_⟩
      exact turns.other_channel fun bound => mine (apart other writer' found' bound)
  | @inTimer number timer outcome next found' turns =>
    cases turns with
    | fired at_ live fits =>
      obtain ⟨queue, slot, shape⟩ := session.timerFired_shape number timer
      exact .inl (keep (by rw [shape]) (by rw [shape]))
    | _ => exact .inl (keep rfl rfl)

namespace Queueing

/-- A step that disturbs nobody leaves the line of a live writer in order. -/
theorem lined_step (queueing : Queueing first channel index session) (served : AllServed session)
    (undisturbed : session.disturbsBy index action = false) (moved : Moves session action next) :
    ∃ writer, next.writers[index]? = some writer ∧
      (writer.cancelled = false → Lined next first channel writer) := by
  obtain ⟨writer, found, lined⟩ := queueing.lined
  by_cases sends : ∃ command, action = .send command
  · obtain ⟨command, rfl⟩ := sends
    obtain rfl := moved.sent
    -- The session rejects commands, and so none is evicted.
    have keeps : session.evictsBy (.send command) = false := by
      have rejects := queueing.rejects
      cases configured : session.config <;> simp_all [evictsBy]
    refine ⟨writer, ?_, fun live => (lined live).send queueing.since queueing.commands keeps⟩
    obtain ⟨queue, channels, shape⟩ := session.send_shape command
    rw [shape]
    exact found
  have silent : ∀ command, action ≠ .send command := fun command same => sends ⟨command, same⟩
  have accepted := @acceptedSince_kept _ _ _ first served moved (moved.length_kept silent)
  rcases moved.line undisturbed queueing.current queueing.apart found silent with
    ⟨writers, channels⟩ | writers | ⟨outcome, rfl, turns⟩
  · refine ⟨writer, writers, fun live => ?_⟩
    exact (lined live).keep ⟨rfl, rfl, rfl, rfl, rfl⟩ accepted channels
  · -- Whatever becomes of the line of a cancelled writer does not matter.
    exact ⟨writer.cancel, writers, fun live => Bool.noConfusion live⟩
  · have inside := (List.getElem?_eq_some_iff.mp found).1
    -- A cancelled writer stays cancelled, and its line does not matter.
    cases live : writer.cancelled with
    | true =>
      obtain ⟨turned, writers, resumed⟩ := turns.turned
      refine ⟨turned, by rw [writers, List.getElem?_set_self inside], fun uncancelled => ?_⟩
      simp [resumed.cancelled, live] at uncancelled
    | false =>
      obtain ⟨turned, writers, -, lined⟩ := (lined live).inWriter queueing.commands turns accepted
      exact ⟨turned, by rw [writers, List.getElem?_set_self inside], fun _ => lined⟩

/-- Every step that disturbs nobody keeps the commands queueing. -/
theorem step (queueing : Queueing first channel index session) (served : AllServed session)
    (undisturbed : session.disturbsBy index action = false) (moved : Moves session action next) :
    Queueing first channel index next where
  commands := (moved.unopened (unopened_of_undisturbed undisturbed)).2.1.trans queueing.commands
  current := (moved.unopened (unopened_of_undisturbed undisturbed)).2.2.trans queueing.current
  rejects := (moved.unopened (unopened_of_undisturbed undisturbed)).1 ▸ queueing.rejects
  since := Nat.le_trans queueing.since (EntriesMove.of_moves moved).grows
  apart := moved.apart undisturbed queueing.apart
  lined := queueing.lined_step served undisturbed moved

end Queueing

/-! The beginning of the line. -/

/-- Every writer receives from a channel that there is. -/
def Bound (session : Session) : Prop :=
  ∀ writer ∈ session.writers, ∀ channel, writer.channel = some channel →
    channel < session.channels.length

/-- Every move keeps the buffers below the end of the queue. -/
theorem Bound.step (below : Bound session) (numbered : Numbered session)
    (moved : Moves session action next) : Bound next := by
  intro after listed channel bound
  obtain ⟨index, there⟩ := List.getElem?_of_mem listed
  -- Channels are only ever added.
  have grows : session.channels.length ≤ next.channels.length := by
    rcases moved.channels with ⟨-, longer, -⟩ | ⟨-, same, -⟩ <;> omega
  refine Nat.lt_of_lt_of_le ?_ grows
  rcases moved.writer there with
    ⟨before, found, rfl | rfl⟩ | ⟨before, outcome, found, rfl, turns⟩ | ⟨-, -, config, rfl⟩
  · exact below after (List.mem_of_getElem? found) channel bound
  · exact below before (List.mem_of_getElem? found) channel bound
  · obtain ⟨turned, writers, resumed⟩ := turns.turned
    obtain rfl := eq_of_set writers there
    rcases resumed.channel with same | ⟨-, -, -, current⟩
    · exact below before (List.mem_of_getElem? found) channel (same ▸ bound)
    · obtain rfl := Option.some.inj (current.symm.trans bound)
      rw [numbered.commands, numbered.channels]
      exact Nat.lt_succ_self _
  · cases bound

/-- In every run the buffers are below the end of the queue. -/
theorem Bound.of_run {allowed : Session → Action → Prop}
    (run : Transition.Run Session.step allowed {} session) : Bound session :=
  run.invariant (by simp [Bound]) fun earlier _ stepped below =>
    below.step (.of_run earlier) (.of_step stepped)

/-- A successful open makes a channel, and starts a writer for it. -/
theorem opens_shape (opens : session.opensBy action = true)
    (stepped : session.step action = some next) :
    next.queue = session.queue ∧ next.commands = session.channels.length ∧
      next.writer = some session.writers.length ∧ ∃ writer : Writer,
        writer.channel = none ∧ writer.taken = [] ∧ writer.point = .dispatch ∧
        next.writers = session.writers ++ [writer] ∧ next.channels = session.channels ++
          [{ capacity := writer.config.queue.capacity.toNatClampNeg }] := by
  -- The first `open` and the loop's both start the workers by the same function.
  rcases opensBy_cases opens with
    ⟨index, connect, rfl, found, at_⟩ | ⟨index, attempt, loop, rfl, found, at_⟩
  · simp only [step, resume, found, resumeConnect, at_, Option.bind_eq_bind, Option.bind_some]
      at stepped
    obtain rfl := Option.some.inj stepped
    exact ⟨rfl, rfl, rfl, _, rfl, rfl, rfl, rfl, rfl⟩
  · simp only [step, resume, found, resumeLoop, at_, Option.bind_eq_bind, Option.bind_some]
      at stepped
    obtain rfl := Option.some.inj stepped
    exact ⟨rfl, rfl, rfl, _, rfl, rfl, rfl, rfl, rfl⟩

/-- Only the new writer receives from the new channel. -/
theorem opens_apart (below : Bound session) (opens : session.opensBy action = true)
    (stepped : session.step action = some next) :
    ∀ (other : Nat) (writer : Writer), next.writers[other]? = some writer →
      writer.channel = some next.commands → other = session.writers.length := by
  obtain ⟨-, commands, -, fresh, -, -, -, writers, -⟩ := opens_shape opens stepped
  intro other writer there bound
  rw [writers] at there
  -- The earlier writers receive from earlier channels.
  rcases append_cases there with earlier | ⟨last, rfl⟩
  · have within := below writer (List.mem_of_getElem? earlier) _ bound
    omega
  · exact last

/-- A successful open begins with an empty line. -/
theorem Queueing.opened (below : Bound session) (opens : session.opensBy action = true)
    (stepped : session.step action = some next)
    (rejects : next.config.all fun config => config.queue.overflow == .reject) :
    Queueing session.queue.length next.commands session.writers.length next := by
  obtain ⟨queue, commands, current, writer, unbound, untaken, -, writers, channels⟩ :=
    opens_shape opens stepped
  refine ⟨rfl, current, rejects, Nat.le_of_eq (by rw [queue]), opens_apart below opens stepped,
    writer, ?_, fun _ => ?_⟩
  · rw [writers, List.getElem?_concat_length]
  · -- The commands that were sent before this connection do not count.
    have accepted : next.acceptedSince session.queue.length = [] := by
      refine List.filter_eq_nil_iff.mpr fun queued listed => ?_
      rw [queue] at listed
      simp [Nat.not_le.mpr (List.mem_range.mp listed)]
    refine ⟨.inl unbound, { capacity := writer.config.queue.capacity.toNatClampNeg }, .empty,
      ?_, rfl, accepted.symm, untaken.symm, rfl⟩
    rw [channels, commands, List.getElem?_concat_length]

/-- From its start to its cancellation, the writer of a connection that rejects commands handles
those that are accepted one after the other. -/
theorem commands_in_turn {opened : Session}
    (reached : Transition.Run Session.step (fun _ _ => True) {} session)
    (opens : session.opensBy action = true) (stepped : session.step action = some opened)
    (rejects : opened.config.all fun config => config.queue.overflow == .reject)
    (run : Transition.Run Session.step
      (fun session' action => session'.disturbsBy session.writers.length action = false)
      opened next)
    (found : next.writers[session.writers.length]? = some writer)
    (live : writer.cancelled = false) :
    InTurn next session.queue.length opened.commands writer := by
  have started := reached.snoc trivial stepped
  have all {later : Session} (run : Transition.Run Session.step
      (fun session' action => session'.disturbsBy session.writers.length action = false) opened
        later) : Transition.Run Session.step (fun _ _ => True) {} later :=
    started.trans (run.weaken fun _ => trivial)
  have queueing : Queueing session.queue.length opened.commands session.writers.length next := by
    -- The line begins with the connection, and no step disturbs it.
    refine run.invariant (.opened (.of_run reached) opens stepped rejects) ?_
    intro before action after earlier undisturbed stepped queueing
    exact queueing.step (.of_run (all earlier)) undisturbed (.of_step stepped)
  obtain ⟨writer', found', lined⟩ := queueing.lined
  obtain rfl := Option.some.inj (found.symm.trans found')
  have served := AllServed.of_run (all run) _ writer found
  obtain ⟨-, from_, line, there, -, accepts, taken, waits⟩ := lined live
  have buffer : next.bufferOf opened.commands = line.waiting := by simp [bufferOf, there, waits]
  exact {
    order := by rw [buffer, ← taken, line.inOrder, accepts]
    once := served.orderly.distinct
    bounded := buffer ▸ line.bounded
    grouped := served.orderly.inOrder
    latest := served.orderly.last
    completed := served.settled }

end Session

/-! A writer with room for two commands, and one command too many. -/

namespace Sample

/-- A call of `connect` that is just opening the transport. -/
def opening : List Action :=
  .connect narrow :: List.replicate 2 (.resume (.connect 0) .resumes)

/-- Three commands are sent, the first is written, the second is not, and the third is refused. -/
def threeSent : List Action :=
  [.send (command 1), .send (command 2), .send (command 3), .resume (.writer 0) .resumes] ++
    writing 0 ++
    [.resume (.writer 0) .resumes, .resume (.writer 0) .resumes,
      .resume (.writer 0) (.throws "lost")]

end Sample

namespace Session

/-- The opening succeeds, and the writer it starts takes two commands. -/
def takesTwo (session : Session) : Bool :=
  session.opensBy (.resume (.connect 0) .resumes) &&
    (session.step (.resume (.connect 0) .resumes)).any fun opened =>
      opened.config.all (fun config => config.queue.overflow == .reject) &&
        (Transition.execute Session.step
          (fun session' action => session'.disturbsBy session.writers.length action = false) opened
          Sample.threeSent).any fun last =>
            (last.writers[session.writers.length]?).any fun writer =>
              !writer.cancelled && writer.taken == [0, 1]

/-- Two of three commands are accepted, and taken in turn. -/
theorem three_sent_in_turn :
    ∃ (session : Session) (first channel : Nat) (writer : Writer),
      writer.taken = [0, 1] ∧ InTurn session first channel writer := by
  -- Of the three that are sent the writer has taken two.
  obtain ⟨start, reached, test⟩ := Transition.Run.of_test takesTwo
    (show (Transition.execute Session.step (fun _ _ => True) {} Sample.opening).any _ = true by
      decide +kernel)
  simp only [takesTwo, Bool.and_eq_true] at test
  obtain ⟨opens, test⟩ := test
  obtain ⟨opened, stepped, test⟩ := (Option.any_eq_true _ _).mp test
  simp only [Bool.and_eq_true] at test
  obtain ⟨rejects, test⟩ := test
  obtain ⟨session, executed, test⟩ := (Option.any_eq_true _ _).mp test
  obtain ⟨writer, found, test⟩ := (Option.any_eq_true _ _).mp test
  simp only [Bool.and_eq_true, Bool.not_eq_true', beq_iff_eq] at test
  exact ⟨session, _, _, writer, test.2, commands_in_turn reached opens stepped rejects
    (.of_execute executed) found test.1⟩

end Session

end SerialPort
