import SerialPort.Library.Conveyor
import SerialPort.Session.Fifo

/-! What becomes of the commands of one sender on their way through the line of a connection. -/

namespace SerialPort

/-- The command that the writer has still to write. -/
def WriterPoint.unwritten : WriterPoint → Option Nat
  | .delaying queued => some queued
  | .writing queued _ _ => some queued
  | .retrying queued _ => some queued
  | _ => none

/-- The command is in this channel or with this writer, if it is in a channel or with a writer. -/
def QueuedCommand.Belongs (entry : QueuedCommand) (channel index : Nat) : Prop :=
  (∀ other, entry.owner = .channel other → other = channel) ∧
    ∀ other, entry.owner = .writer other → other = index

namespace Session

/-- The command whose write returns in the step. -/
def writesBy (session : Session) : Action → Option Nat
  | .resume (.writer index) (.returns _ _) =>
    (session.writers[index]?).bind fun writer =>
      match writer.point with
      | .writing queued _ _ => some queued
      | _ => none
  | _ => none

/-- The bytes of several commands, one after the other. -/
def payloads (session : Session) (commands : List Nat) : Bytes :=
  commands.flatMap fun queued =>
    ((session.queue[queued]?).map fun entry => entry.command.payload).getD []

/-- Whether there is room for a command that is sent now, or is going to be made. -/
def admits (session : Session) : Bool :=
  !session.terminal && session.state.isConnected &&
    (session.hasRoom || session.config.any (fun config => config.queue.overflow == .dropOldest) &&
      session.oldest.isSome)

/-- What the writer of the connection has taken, and what waits for it. -/
def line (session : Session) : List Nat :=
  ((session.writer.bind fun index => session.writers[index]?).elim [] Writer.taken) ++
    session.bufferOf session.commands

/-- The commands of a list belong to one channel and to the one writer that receives from it. -/
structure Attached (session : Session) (index channel : Nat) (sent : List Nat) : Prop where
  commands : session.commands = channel
  current : session.writer = some index
  apart : ∀ (other : Nat) (writer : Writer), session.writers[other]? = some writer →
    writer.channel = some channel → other = index
  known : ∀ queued ∈ sent, queued < session.queue.length
  belongs : ∀ queued ∈ sent, ∀ entry, session.queue[queued]? = some entry →
    entry.Belongs channel index

/-- What the writer has taken and what waits for it keep the first of the commands that were sent,
and the writer has written those that it has taken, up to the one in its hands. -/
structure Hauls (session : Session) (sent written : List Nat) (channel : Nat) (writer : Writer) :
    Prop where
  bound : writer.channel = none ∨ writer.channel = some channel
  known : ∀ queued ∈ writer.taken ++ session.bufferOf channel, queued < session.queue.length
  hand : ∀ queued, writer.point.unwritten = some queued → queued ∈ writer.taken
  conveyor : ∃ conveyor : Conveyor Nat, conveyor.sent = sent ∧
    conveyor.kept = (writer.taken ++ session.bufferOf channel).filter (· ∈ sent)
  progress : ∃ rest, written ++ rest = writer.taken.filter (· ∈ sent) ∧
    (writer.point ≠ .finished → rest = writer.point.unwritten.toList.filter (· ∈ sent))

variable {session next : Session} {action : Action} {index channel queued attempt : Nat}
  {writer turned : Writer} {sent written : List Nat} {command : SerialCommand}

/-- A write belongs to a writer in its call of the transport. -/
theorem writesBy_cases (writes : session.writesBy action = some queued) :
    ∃ (index attempt : Nat) (writer : Writer) (link : Option Nat) (length : Int) (buffer : Bytes),
      action = .resume (.writer index) (.returns length buffer) ∧
        session.writers[index]? = some writer ∧ writer.point = .writing queued attempt link := by
  unfold writesBy at writes
  split at writes
  · next index length buffer =>
    obtain ⟨writer, found, writes⟩ := Option.bind_eq_some_iff.mp writes
    split at writes
    · -- Only a write that returns is counted, at the point where it is under way.
      next token attempt link at_ =>
      obtain rfl := Option.some.inj writes
      exact ⟨index, attempt, writer, link, length, buffer, rfl, found, at_⟩
    · cases writes
  · cases writes

/-- A connection begins with an empty line. -/
theorem Hauls.opened (opens : session.opensBy action = true)
    (stepped : session.step action = some next) : ∃ writer,
      next.writers[session.writers.length]? = some writer ∧
        Hauls next [] [] next.commands writer := by
  obtain ⟨-, commands, -, writer, unbound, untaken, at_, writers, channels⟩ :=
    opens_shape opens stepped
  have empty : next.bufferOf next.commands = [] := by
    unfold bufferOf
    rw [channels, commands, List.getElem?_concat_length]
    rfl
  -- The new writer receives from no channel yet, and has nothing in its hands.
  refine ⟨writer, by rw [writers, List.getElem?_concat_length], .inl unbound, ?_, ?_,
    ⟨.empty, rfl, ?_⟩, [], ?_, fun _ => ?_⟩
  · rw [untaken, empty]
    exact nofun
  · rw [at_]
    exact nofun
  · rw [untaken, empty]
    rfl
  · rw [untaken]
    rfl
  · rw [at_]
    rfl

/-! What a command that is sent does to the line. -/

/-- The oldest command is the first one in the buffer. -/
theorem oldest_eq : session.oldest = (session.bufferOf session.commands).head? := by
  unfold oldest bufferOf
  cases session.channels[session.commands]? <;> rfl

/-- Every command that is sent is added to the queue, also one that is refused. -/
theorem length_send (command : SerialCommand) :
    (session.send command).queue.length = session.queue.length + 1 := by
  have polled : (Session.poll { session with
      queue := session.queue ++ [{ command := command }] }).queue.length =
        session.queue.length + 1 := by simp [length_poll]
  unfold send
  simp only
  -- Neither the eviction nor the refusal changes how many commands there are.
  repeat' split
  all_goals first
    | exact (List.length_modify _ _ _).trans polled
    | exact (List.length_modify _ _ _).trans (by simp)

/-- Refusing the oldest command takes it out of the buffer. -/
theorem bufferOf_poll :
    session.poll.bufferOf session.commands = (session.bufferOf session.commands).tail := by
  cases oldest : session.oldest with
  -- Nothing to poll: the buffer is empty, and so is its tail.
  | none => rw [poll_nothing oldest, empty_of_oldest oldest, List.tail_nil]
  | some queued =>
    obtain ⟨channel, found, -⟩ := Option.bind_eq_some_iff.mp oldest
    unfold poll
    rw [oldest]
    simp only
    rw [bufferOf_modify rfl, if_pos rfl]
    simp [bufferOf, found]

/-- A command that is put into the buffer comes last. -/
theorem bufferOf_enqueue (room : session.hasRoom = true) :
    (session.enqueue queued).bufferOf session.commands =
      session.bufferOf session.commands ++ [queued] := by
  obtain ⟨channel, found, -⟩ := (Option.any_eq_true _ _).mp room
  rw [bufferOf_modify rfl, if_pos rfl]
  simp [bufferOf, found]

/-- A command that is sent goes to the end of the line, where an older one may make room for it. -/
theorem send_buffer (command : SerialCommand) : ∃ front rest,
    (session.send command).bufferOf session.commands = front ++ rest ∧
      (front = session.bufferOf session.commands ∨
        session.evictsBy (.send command) = true ∧
          front = (session.bufferOf session.commands).tail) ∧
      (rest = [] ∨ session.admits = true ∧ rest = [session.queue.length]) := by
  have unchanged {after : List Nat} (same : after = session.bufferOf session.commands) :
      ∃ front rest, after = front ++ rest ∧
        (front = session.bufferOf session.commands ∨
          session.evictsBy (.send command) = true ∧
            front = (session.bufferOf session.commands).tail) ∧
        (rest = [] ∨ session.admits = true ∧ rest = [session.queue.length]) :=
    ⟨_, [], by rw [same, List.append_nil], .inl rfl, .inl rfl⟩
  unfold send
  simp only
  split
  · -- A session that is shutting down refuses the command.
    exact unchanged rfl
  split
  · -- So does a session that is not connected.
    exact unchanged rfl
  next open_ connected =>
  simp only [Bool.not_eq_true, Bool.not_eq_eq_eq_not, Bool.not_true, Bool.not_eq_false]
    at open_ connected
  -- A channel with room takes the command, a full one only under `DropOldest`.
  split
  · next room =>
    have room : session.hasRoom = true := room
    refine ⟨_, _, bufferOf_enqueue room, .inl rfl, .inr ⟨?_, rfl⟩⟩
    simp [admits, open_, connected, room]
  next full =>
  have full : session.hasRoom = false := by simpa [hasRoom] using full
  split
  · next drops =>
    let appended : Session := { session with queue := session.queue ++ [{ command := command }] }
    have commands : appended.poll.commands = session.commands := by
      obtain ⟨queue, channels, shape⟩ := appended.poll_shape
      rw [shape]
    have polled : appended.poll.bufferOf session.commands =
        (session.bufferOf session.commands).tail := appended.bufferOf_poll
    cases oldest : session.oldest with
    | none =>
      -- There is nothing to throw away, and so the command is refused.
      have nothing : appended.poll = appended := poll_nothing oldest
      have full : appended.poll.hasRoom = false := by
        rw [nothing]
        exact full
      rw [if_neg (by simpa [appended] using full)]
      refine unchanged ?_
      show appended.poll.bufferOf session.commands = _
      rw [nothing]
      rfl
    | some queued =>
      have evicts : session.evictsBy (.send command) = true := by
        simp [evictsBy, open_, connected, full, drops, oldest]
      split
      · next room =>
        have enqueued : (appended.poll.enqueue session.queue.length).bufferOf
            appended.poll.commands = appended.poll.bufferOf appended.poll.commands ++
              [session.queue.length] := bufferOf_enqueue room
        rw [commands, polled] at enqueued
        refine ⟨_, _, enqueued, .inr ⟨evicts, rfl⟩, .inr ⟨?_, rfl⟩⟩
        simp [admits, open_, connected, drops, oldest]
      · -- A closed channel has no room even then, and the new command is lost as well.
        exact ⟨_, [], by rw [List.append_nil]; exact polled, .inr ⟨evicts, rfl⟩, .inl rfl⟩
  · -- Under `Reject` a full channel refuses the command.
    exact unchanged rfl

/-- A channel that is kept has the same buffer. -/
theorem KeepsChannel.bufferOf (channels : session.KeepsChannel next channel)
    (inside : channel < session.channels.length) :
    next.bufferOf channel = session.bufferOf channel := by
  have found := List.getElem?_eq_getElem inside
  obtain ⟨closed, found'⟩ := channels _ found
  simp [Session.bufferOf, found, found']

/-! The writing of a command. -/

/-- While the session stays connected, a write that has failed is to be tried again, unless the
writer has come to its end. -/
theorem attemptEnded_failed {error : SerialError}
    (connected : (session.attemptEnded index writer queued command attempt
      (.failed error)).state.isConnected = true) :
    (writer.attempted queued command attempt (.failed error)).point.unwritten = some queued ∨
      (writer.attempted queued command attempt (.failed error)).point = .finished := by
  unfold attemptEnded at connected
  unfold Writer.attempted
  split at connected
  · next remains =>
    -- The writer waits for the next attempt, unless the delay does not fit and ends it.
    rw [if_pos remains]
    cases command.retryDelay.toMillis with
    | some millis => exact .inl rfl
    | none => exact .inr rfl
  · -- After the last attempt the session has failed.
    cases connected

/-- While the session stays connected, an attempt that begins has written nothing yet. -/
theorem beginAttempt_connected
    (connected :
      (session.beginAttempt index writer queued command attempt).state.isConnected = true) :
    (writer.attempting queued command attempt session.link).point.unwritten = some queued ∨
      (writer.attempting queued command attempt session.link).point = .finished := by
  unfold beginAttempt at connected
  unfold Writer.attempting
  cases millis : (writer.timeoutFor command).toMillis with
  | some _ => exact .inl rfl
  | none =>
    -- A timeout that does not fit counts as a failed attempt.
    simp only [millis] at connected
    exact attemptEnded_failed connected

/-- Neither has the first attempt. -/
theorem beginWriting_connected
    (connected : (session.beginWriting index writer queued command).state.isConnected = true) :
    (writer.began queued command session.link).point.unwritten = some queued ∨
      (writer.began queued command session.link).point = .finished := by
  unfold beginWriting at connected
  unfold Writer.began
  split at connected
  · -- Without an attempt to make, the command is concluded as failed, and so is the session.
    cases connected
  · next positive =>
    rw [if_neg positive]
    exact beginAttempt_connected connected

/-! The line of the writer after a step. -/

namespace Hauls

/-- A list of old commands has no command that is new. -/
theorem filter_grown {list : List Nat} (known : ∀ queued ∈ list, queued < session.queue.length) :
    list.filter (· ∈ sent ++ [session.queue.length]) = list.filter (· ∈ sent) := by
  refine List.filter_congr fun queued listed => ?_
  have older := known queued listed
  simp [Nat.ne_of_lt older]

theorem keep (hauls : Hauls session sent written channel writer) (kept : Writer.Kept writer turned)
    (buffer : next.bufferOf channel = session.bufferOf channel)
    (queue : next.queue.length = session.queue.length)
    (point : turned.point.unwritten = writer.point.unwritten ∧ writer.point ≠ .finished ∨
      turned.point = .finished) : Hauls next sent written channel turned where
  bound := kept.channel ▸ hauls.bound
  known := by
    rw [kept.taken, buffer, queue]
    exact hauls.known
  hand := by
    intro queued unwritten
    rw [kept.taken]
    rcases point with ⟨same, -⟩ | finished
    · -- The hands of the writer are as before.
      exact hauls.hand queued (same ▸ unwritten)
    · simp [finished, WriterPoint.unwritten] at unwritten
  conveyor := by
    rw [kept.taken, buffer]
    exact hauls.conveyor
  progress := by
    obtain ⟨rest, taken, rest_⟩ := hauls.progress
    rw [kept.taken]
    refine ⟨rest, taken, fun open_ => ?_⟩
    rcases point with ⟨same, begun⟩ | finished
    · rw [same]
      exact rest_ begun
    · -- Nothing is said of the hands of a writer that has ended.
      exact absurd finished open_

/-- What the writer has taken for the sender are the first commands that were sent. -/
theorem taken_prefix (hauls : Hauls session sent written channel writer) :
    writer.taken.filter (· ∈ sent) <+: sent := by
  -- What is kept of those sent stands at its beginning, and what is taken at the beginning of that.
  obtain ⟨conveyor, rfl, kept⟩ := hauls.conveyor
  refine List.IsPrefix.trans ?_ conveyor.inOrder
  rw [kept, List.filter_append]
  exact List.prefix_append _ _

/-- The command that is being written is the next one. -/
theorem writes (hauls : Hauls session sent written channel writer) {link : Option Nat}
    (at_ : writer.point = .writing queued attempt link) (listed : queued ∈ sent) :
    written ++ [queued] <+: sent := by
  obtain ⟨rest, progress, unwritten⟩ := hauls.progress
  -- The writer has nothing to write but the command it is writing.
  have next_ : rest = [queued] := by
    rw [unwritten (by simp [at_]), at_]
    simp [WriterPoint.unwritten, listed]
  rw [← next_, progress]
  exact hauls.taken_prefix

/-- The writer takes the first command that waits. -/
theorem take (hauls : Hauls session sent written channel writer) {source : Nat} {from_ : Channel}
    {rest : List Nat} (at_ : writer.point = .receiving) (bound : writer.channel = some source)
    (found : session.channels[source]? = some from_) (buffered : from_.buffer = queued :: rest) :
    Hauls (session.take index writer source queued command) sent written channel
      { writer with
        point := writer.pausing queued command
        taken := writer.taken ++ [queued] } := by
  -- It takes from the channel of the connection, for it receives from no other one.
  obtain rfl : source = channel := by
    rcases hauls.bound with none_ | same
    · simp [bound] at none_
    · simpa [bound] using same
  -- Taking a command moves it from the channel to the writer, and leaves the line as it is.
  have waits : session.bufferOf source = queued :: rest := by simp [bufferOf, found, buffered]
  have waits' : (session.take index writer source queued command).bufferOf source = rest := by
    simp [bufferOf, Session.take, own, setWriter, found, buffered]
  have length : (session.take index writer source queued command).queue.length =
      session.queue.length := List.length_modify _ _ _
  have line : (writer.taken ++ [queued]) ++ rest = writer.taken ++ session.bufferOf source := by
    rw [waits, List.append_assoc, List.singleton_append]
  obtain ⟨written_, progress, unwritten⟩ := hauls.progress
  -- A writer that receives has nothing in its hands.
  have nothing : written_ = [] := by
    rw [unwritten (by simp [at_]), at_]
    rfl
  refine ⟨hauls.bound, ?_, fun token unwritten => ?_, ?_, [queued].filter (· ∈ sent), ?_, ?_⟩
  · rw [waits', line, length]
    exact hauls.known
  · -- The command that was taken is the one in its hands now.
    have same : token = queued := by
      unfold Writer.pausing at unwritten
      cases millis : (writer.delayFor command).toMillis <;>
        simp [millis, WriterPoint.unwritten] at unwritten
      exact unwritten.symm
    simp [same]
  · rw [waits', line]
    exact hauls.conveyor
  · -- Whatever was taken before is written, and so only the new command is left.
    rw [List.filter_append, ← progress, nothing, List.append_nil]
  · intro open_
    unfold Writer.pausing at open_ ⊢
    cases millis : (writer.delayFor command).toMillis with
    | some _ => rfl
    | none => simp [millis] at open_

/-- The writer takes a turn that does not fail. -/
theorem turn (hauls : Hauls session sent written channel writer) {outcome : Outcome}
    (found : session.writers[index]? = some writer) (commands : session.commands = channel)
    (moved : WriterMoves session index writer outcome next)
    (succeeds : outcome ≠ .timesOut ∧ ∀ message, outcome ≠ .throws message)
    (connected : next.state.isConnected = true) :
    ∃ turned, next.writers = session.writers.set index turned ∧
      Hauls next sent (written ++
        ((session.writesBy (.resume (.writer index) outcome)).filter (· ∈ sent)).toList)
        channel turned := by
  have length : next.queue.length = session.queue.length :=
    Moves.length_queue (Moves.inWriter found moved)
  -- Turns that neither take nor write a command leave the line as it is.
  have same {turned : Writer} (writers : next.writers = session.writers.set index turned)
      (channels : next.channels = session.channels) (kept : Writer.Kept writer turned)
      (point : turned.point.unwritten = writer.point.unwritten ∧ writer.point ≠ .finished ∨
        turned.point = .finished) :
      ∃ turned, next.writers = session.writers.set index turned ∧
        Hauls next sent (written ++ []) channel turned := by
    refine ⟨turned, writers, ?_⟩
    rw [List.append_nil]
    exact hauls.keep kept (bufferOf_congr channels channel) length point
  cases moved with
  | start at_ live =>
    -- The writer gets hold of the channel, which is the one of its connection.
    obtain ⟨rest, progress, unwritten⟩ := hauls.progress
    refine ⟨_, rfl, .inr (by rw [commands]), hauls.known, by simp [WriterPoint.unwritten],
      hauls.conveyor, rest, ?_, ?_⟩
    · show (written ++ []) ++ rest = _
      rw [List.append_nil, progress]
    · intro _
      rw [unwritten (by simp [at_]), at_]
      rfl
  | @take source queued from_ rest entry at_ bound there buffered entered =>
    refine ⟨_, rfl, ?_⟩
    exact (List.append_nil written).symm ▸ hauls.take at_ bound there buffered
  | drained at_ bound there buffered closed =>
    -- The channel is closed and empty, and the writer ends.
    exact same rfl rfl ⟨rfl, rfl, rfl, rfl, rfl⟩ (.inr rfl)
  | begin at_ entered live =>
    refine same beginWriting_turned.writers beginWriting_turned.channels Writer.began_kept ?_
    rw [at_]
    -- The command is going to be written, for otherwise the session would have failed.
    exact (beginWriting_connected connected).imp_left fun unwritten => ⟨unwritten, by simp⟩
  | @written queued attempt link entry bytes buffer at_ entered live =>
    have writes : session.writesBy (.resume (.writer index) (.returns bytes buffer)) =
        some queued := by simp [writesBy, found, at_]
    obtain ⟨rest, progress, unwritten⟩ := hauls.progress
    -- The command in the writer's hands is the one it has still to write.
    have rest_ := unwritten (by simp [at_])
    rw [at_] at rest_
    rw [writes, Option.toList_filter]
    refine ⟨_, rfl, hauls.bound, ?_, nofun, hauls.conveyor, [], ?_, fun _ => rfl⟩
    · rw [length]
      exact hauls.known
    · -- The command has been in the writer's hands, and was the next one to be written.
      rw [List.append_nil, ← progress, rest_]
      rfl
  | resumed at_ entered live =>
    -- What has been written already is reported next.
    refine same (attemptEnded_turned _).writers (attemptEnded_turned _).channels
      (Writer.attempted_kept _) (.inl ⟨?_, by simp [at_]⟩)
    rw [Writer.attempted_sent, at_]
    rfl
  | attempted at_ entered missed ended =>
    -- No attempt fails, by what is asked of the outcome.
    rcases ended with ⟨message, throws, -⟩ | ⟨timesOut, -⟩
    · exact absurd throws (succeeds.2 message)
    · exact absurd timesOut succeeds.1
  | retry at_ entered live =>
    refine same beginAttempt_turned.writers beginAttempt_turned.channels Writer.attempting_kept ?_
    rw [at_]
    -- So it is with a repeated attempt.
    exact (beginAttempt_connected connected).imp_left fun unwritten => ⟨unwritten, by simp⟩
  | reported at_ entered =>
    refine same (report_writers _) ?_ ⟨rfl, rfl, rfl, rfl, rfl⟩
      (.inl ⟨by rw [at_]; rfl, by simp [at_]⟩)
    unfold report
    simp only
    split <;> rfl
  | failChanged at_ =>
    exact same rfl rfl ⟨rfl, rfl, rfl, rfl, rfl⟩ (.inl ⟨by rw [at_]; rfl, by simp [at_]⟩)
  | failSettled at_ =>
    refine same (writerFailed_writers _) ?_ ⟨rfl, rfl, rfl, rfl, rfl⟩
      (.inl ⟨by rw [at_]; rfl, by simp [at_]⟩)
    show session.failSettle.channels = session.channels
    rw [Untouched.failSettle.channels]
  -- A cancelled writer lets go of its command.
  | cancelled open_ cancelled => exact same rfl rfl ⟨rfl, rfl, rfl, rfl, rfl⟩ (.inr rfl)

/-- Unless the oldest command is the last of those that were sent, no such command makes room. -/
theorem front (hauls : Hauls session sent written channel writer)
    (commands : session.commands = channel) {front : List Nat}
    (fronts : front = session.bufferOf channel ∨ front = (session.bufferOf channel).tail ∧
      ∀ oldest ∈ session.oldest, oldest ∈ sent →
        ∀ later ∈ (session.bufferOf channel).tail, later ∉ sent) :
    ∃ conveyor : Conveyor Nat, conveyor.sent = sent ∧
      conveyor.kept = (writer.taken ++ front).filter (· ∈ sent) := by
  obtain ⟨conveyor, sent_, kept⟩ := hauls.conveyor
  rcases fronts with rfl | ⟨tail, spares⟩
  · -- Nobody makes room, and the line stays as it is.
    exact ⟨conveyor, sent_, kept⟩
  rw [oldest_eq, commands] at spares
  rw [tail]
  cases waits : session.bufferOf channel with
  | nil =>
    -- There is nobody in the channel who could make room.
    rw [waits] at kept
    exact ⟨conveyor, sent_, kept⟩
  | cons oldest later =>
    rw [waits] at kept spares
    by_cases listed : oldest ∈ sent
    · -- The command that is thrown away is the last one that the line has kept.
      have none_ : later.filter (· ∈ sent) = [] :=
        List.filter_eq_nil_iff.mpr fun other waits => by
          simpa using spares oldest rfl listed other waits
      have ends : conveyor.kept = writer.taken.filter (· ∈ sent) ++ [oldest] := by
        rw [kept, List.filter_append, List.filter_cons_of_pos (by simpa using listed), none_]
      refine ⟨conveyor.lose ends, sent_, ?_⟩
      show writer.taken.filter _ = _
      rw [List.filter_append, List.tail_cons, none_, List.append_nil]
    · -- The command that is thrown away is that of somebody else.
      refine ⟨conveyor, sent_, ?_⟩
      rw [kept, List.filter_append, List.filter_cons_of_neg (by simpa using listed),
        List.tail_cons, List.filter_append]

/-- What is at the front of the line has been sent. -/
theorem known_front (hauls : Hauls session sent written channel writer) {front : List Nat}
    (fronts : front = session.bufferOf channel ∨ front = (session.bufferOf channel).tail) :
    ∀ queued ∈ writer.taken ++ front, queued < session.queue.length := by
  intro queued listed
  refine hauls.known queued (List.mem_append.mpr ((List.mem_append.mp listed).imp_right ?_))
  rcases fronts with rfl | rfl
  · exact id
  · exact List.mem_of_mem_tail

/-- What is still there of the line, with the new command, is known after it has been sent. -/
theorem known_send (hauls : Hauls session sent written channel writer) {front rest : List Nat}
    (fronts : front = session.bufferOf channel ∨ front = (session.bufferOf channel).tail)
    (rests : rest = [] ∨ rest = [session.queue.length]) :
    ∀ queued ∈ writer.taken ++ (front ++ rest), queued < session.queue.length + 1 := by
  intro queued listed
  rw [← List.append_assoc] at listed
  rcases List.mem_append.mp listed with earlier | new
  · -- What is still there has been in the line before.
    exact Nat.lt_succ_of_lt (hauls.known_front fronts queued earlier)
  · rcases rests with rfl | rfl
    · cases new
    · rw [List.mem_singleton.mp new]
      exact Nat.lt_succ_self _

/-- Somebody else sends a command. -/
theorem send (hauls : Hauls session sent written channel writer)
    (commands : session.commands = channel) (older : ∀ queued ∈ sent, queued < session.queue.length)
    (spares : session.evictsBy (.send command) = true → ∀ oldest ∈ session.oldest,
      oldest ∈ sent → ∀ later ∈ (session.bufferOf channel).tail, later ∉ sent) :
    Hauls (session.send command) sent written channel writer := by
  -- The line loses its first command at most, and gets the new one at its end at most.
  obtain ⟨front, rest, buffer, fronts, rests⟩ := session.send_buffer command
  rw [commands] at buffer fronts
  refine ⟨hauls.bound, ?_, hauls.hand, ?_, hauls.progress⟩
  · rw [buffer, length_send]
    exact hauls.known_send (fronts.imp_right And.right) (rests.imp_right And.right)
  · obtain ⟨conveyor, sent_, kept⟩ := hauls.front commands
      (fronts.imp_right fun ⟨evicts, tail⟩ => ⟨tail, spares evicts⟩)
    -- The new command is none of those that were sent.
    have none_ : rest.filter (· ∈ sent) = [] := by
      rcases rests with rfl | ⟨-, rfl⟩
      · rfl
      · refine List.filter_eq_nil_iff.mpr fun queued new => ?_
        rw [List.mem_singleton.mp new]
        simpa using fun listed => Nat.lt_irrefl _ (older _ listed)
    refine ⟨conveyor, sent_, ?_⟩
    rw [buffer, kept, ← List.append_assoc, List.filter_append _ rest, none_, List.append_nil]

/-- A command that has been sent is not the one that makes room. -/
theorem mem_tail (commands : session.commands = channel)
    (spares : ∀ oldest ∈ session.oldest, oldest ∉ sent) (listed : queued ∈ sent)
    (there : queued ∈ writer.taken ++ session.bufferOf channel) :
    queued ∈ writer.taken ++ (session.bufferOf channel).tail := by
  -- The command has been taken, or waits behind the oldest one, which is somebody else's.
  rw [oldest_eq, commands] at spares
  refine List.mem_append.mpr ((List.mem_append.mp there).imp_right fun waits => ?_)
  cases buffer : session.bufferOf channel with
  | nil => simp [buffer] at waits
  | cons oldest later =>
    rw [buffer] at waits spares
    rcases List.mem_cons.mp waits with rfl | later
    · exact absurd listed (spares queued rfl)
    · exact later

/-- The next chunk is sent: it enters a line that has lost none, or is refused. -/
theorem forward (hauls : Hauls session sent written channel writer)
    (commands : session.commands = channel) (older : ∀ queued ∈ sent, queued < session.queue.length)
    (whole : session.admits = true →
      ∀ queued ∈ sent, queued ∈ writer.taken ++ session.bufferOf channel)
    (spares : session.evictsBy (.send command) = true →
      ∀ oldest ∈ session.oldest, oldest ∉ sent) :
    Hauls (session.send command) (sent ++ [session.queue.length]) written channel writer := by
  obtain ⟨front, rest, buffer, fronts, rests⟩ := session.send_buffer command
  rw [commands] at buffer fronts
  have known := hauls.known_send (fronts.imp_right And.right) (rests.imp_right And.right)
  -- The new command has a number that no earlier one has.
  have fresh : session.queue.length ∉ sent := fun listed => Nat.lt_irrefl _ (older _ listed)
  have taken : ∀ queued ∈ writer.taken, queued < session.queue.length :=
    fun queued listed => hauls.known queued (List.mem_append_left _ listed)
  have front_ := hauls.known_front (fronts.imp_right And.right)
  refine ⟨hauls.bound, ?_, hauls.hand, ?_, ?_⟩
  · rw [buffer, length_send]
    exact known
  · obtain ⟨conveyor, rfl, kept⟩ := hauls.front commands (fronts.imp_right fun ⟨evicts, tail⟩ =>
      ⟨tail, fun oldest first listed => absurd listed (spares evicts oldest first)⟩)
    rw [buffer]
    rcases rests with rfl | ⟨admits, rfl⟩
    · -- The command is refused, and the line keeps the ones it has.
      refine ⟨conveyor.refuse _ fresh, rfl, ?_⟩
      show conveyor.kept = _
      rw [List.append_nil, filter_grown front_, kept]
    · have whole : ∀ queued ∈ conveyor.sent, queued ∈ conveyor.kept := by
        intro queued listed
        rw [kept]
        -- Nobody is lost when the oldest command makes room, for that one is not among them.
        refine List.mem_filter.mpr ⟨?_, by simpa using listed⟩
        rcases fronts with rfl | ⟨evicts, rfl⟩
        · exact whole admits queued listed
        · exact mem_tail commands (spares evicts) listed (whole admits queued listed)
      refine ⟨conveyor.accept _ fresh whole, rfl, ?_⟩
      show conveyor.kept ++ [_] = _
      rw [← List.append_assoc, List.filter_append, filter_grown front_, kept]
      simp
  · -- The writer has taken nothing, and none of what it has in its hands is new.
    obtain ⟨rest, progress, unwritten⟩ := hauls.progress
    refine ⟨rest, by rw [filter_grown taken, progress], fun open_ => ?_⟩
    rw [unwritten open_, filter_grown]
    intro queued listed
    exact taken queued (hauls.hand queued (Option.mem_toList.mp listed))

end Hauls

/-! The commands of the client belong to the connection. -/

/-- A command of the connection stays one. -/
theorem EntryMoves.belongs (custody : Custody session)
    (apart : ∀ (other : Nat) (writer : Writer), session.writers[other]? = some writer →
      writer.channel = some channel → other = index)
    {before after : QueuedCommand} (entered : session.queue[queued]? = some before)
    (belongs : before.Belongs channel index) (moved : EntryMoves session next queued before after) :
    after.Belongs channel index := by
  cases moved with
  -- A command that is thrown away, or waits for its response, belongs to nobody.
  | discarded held => exact ⟨nofun, nofun⟩
  | @taken other source writer found bound held =>
    refine ⟨nofun, fun number same => ?_⟩
    obtain rfl := Owner.writer.inj same
    -- The command was in the channel from which the writer took it.
    obtain ⟨entry, entered', -, owner⟩ := custodian_eq_some (custody.sound (.channel source) _ held)
    obtain rfl := Option.some.inj (entered.symm.trans entered')
    exact apart other writer found (belongs.1 source owner ▸ bound)
  | armed found at_ => exact ⟨nofun, nofun⟩
  | reported found at_ => simpa [QueuedCommand.Belongs] using belongs
  | failed found at_ => simpa [QueuedCommand.Belongs] using belongs
  | timedOut timeout => simpa [QueuedCommand.Belongs] using belongs
  | answered found at_ waits chunk => simpa [QueuedCommand.Belongs] using belongs
  | _ => exact belongs

namespace Attached

/-- Nothing has been sent yet on a new connection. -/
theorem opened (below : Bound session) (opens : session.opensBy action = true)
    (stepped : session.step action = some next) :
    Attached next session.writers.length next.commands [] where
  commands := rfl
  current := (opens_shape opens stepped).2.2.1
  apart := opens_apart below opens stepped
  known := nofun
  belongs := nofun

/-- Every step that disturbs nobody keeps the commands attached to the writer. -/
theorem step (attached : Attached session index channel sent) (custody : Custody session)
    (undisturbed : session.disturbsBy index action = false) (moved : Moves session action next) :
    Attached next index channel sent where
  commands := (moved.unopened (unopened_of_undisturbed undisturbed)).2.1.trans attached.commands
  current := (moved.unopened (unopened_of_undisturbed undisturbed)).2.2.trans attached.current
  -- Without an open and another writer that begins to run, the connection stays the same.
  apart := moved.apart undisturbed attached.apart
  known queued listed :=
    Nat.lt_of_lt_of_le (attached.known queued listed) (EntriesMove.of_moves moved).grows
  -- Each step takes a command from one owner to the next, and the owners are those of the line.
  belongs := by
    intro queued listed after entered
    have entered' := List.getElem?_eq_getElem (attached.known queued listed)
    obtain ⟨after', there, moved⟩ := (EntriesMove.of_moves moved).old queued _ entered'
    obtain rfl := Option.some.inj (there.symm.trans entered)
    exact moved.belongs custody attached.apart entered' (attached.belongs queued listed _ entered')

/-- A command that is sent for the client belongs to the connection as well. -/
theorem forward (attached : Attached session index channel sent) (custody : Custody session)
    (command : SerialCommand) :
    Attached (session.send command) index channel (sent ++ [session.queue.length]) := by
  have sent_ : Attached (session.send command) index channel sent :=
    attached.step custody (show session.disturbsBy index (.send command) = false from rfl) .send
  refine ⟨sent_.commands, sent_.current, sent_.apart, fun queued listed => ?_,
    fun queued listed entry entered => ?_⟩
  · -- The earlier commands are known and belong to the connection as before.
    rcases List.mem_append.mp listed with earlier | new
    · exact sent_.known queued earlier
    · rw [List.mem_singleton.mp new, length_send]
      exact Nat.lt_succ_self _
  · rcases List.mem_append.mp listed with earlier | new
    · exact sent_.belongs queued earlier entry entered
    · obtain rfl := List.mem_singleton.mp new
      have fresh := (EntriesMove.send command).new _ entry entered (Nat.le_refl _)
      -- The new command is refused at once, or goes to the channel of the session.
      rcases fresh.owner with owner | owner | ⟨owner, -⟩ <;> rw [QueuedCommand.Belongs, owner]
      · exact ⟨nofun, nofun⟩
      · exact ⟨nofun, nofun⟩
      · exact ⟨fun other same => (Owner.channel.inj same).symm.trans attached.commands, nofun⟩

/-- A command of the client is in the hands of no other writer. -/
theorem held (attached : Attached session index channel sent) (custody : Custody session)
    {other : Nat} (found : session.writers[other]? = some writer)
    (held : writer.point.held = some queued) (listed : queued ∈ sent) : other = index := by
  -- Whoever has a command in his hands is its owner.
  have holds : session.Holds (.writer other) queued := by simp [Holds, inHand, found, held]
  obtain ⟨entry, entered, -, owner⟩ := custodian_eq_some (custody.sound _ _ holds)
  exact (attached.belongs queued listed entry entered).2 other owner

end Attached

/-! The bytes of the commands. -/

/-- Commands keep their bytes. -/
theorem payloads_kept (evolves : Evolves session next)
    (known : ∀ queued ∈ sent, queued < session.queue.length) :
    next.payloads sent = session.payloads sent := by
  unfold payloads
  refine List.flatMap_congr fun queued listed => ?_
  -- Entries keep their commands, and so the bytes stay the same.
  have entered := List.getElem?_eq_getElem (known queued listed)
  obtain ⟨after, entered', evolved⟩ := evolves queued _ entered
  simp [entered, entered', evolved.command]

/-- The bytes of two lists of commands are those of the first and then those of the second. -/
theorem payloads_append (former latter : List Nat) :
    session.payloads (former ++ latter) = session.payloads former ++ session.payloads latter :=
  List.flatMap_append

/-- The new command is the last one. -/
theorem send_command (command : SerialCommand) :
    ((session.send command).queue[session.queue.length]?).map QueuedCommand.command =
      some command := by
  let appended : Session := { session with queue := session.queue ++ [{ command := command }] }
  have last : appended.queue[session.queue.length]? = some { command := command } :=
    List.getElem?_concat_length
  have polled : (appended.poll.queue[session.queue.length]?).map QueuedCommand.command =
      some command := by
    rcases appended.poll_entry session.queue.length with same | ⟨-, discarded⟩
    · rw [same, last]
      rfl
    · rw [discarded, last]
      rfl
  -- Whatever becomes of the entry, its command stays.
  have modified {queue : List QueuedCommand} {change : QueuedCommand → QueuedCommand}
      (keeps : ∀ entry, (change entry).command = entry.command)
      (there : (queue[session.queue.length]?).map QueuedCommand.command = some command) :
      ((queue.modify session.queue.length change)[session.queue.length]?).map
        QueuedCommand.command = some command := by
    obtain ⟨entry, entered, same⟩ := Option.map_eq_some_iff.mp there
    simp [entered, keeps, same]
  have last : (appended.queue[session.queue.length]?).map QueuedCommand.command = some command := by
    rw [last]
    rfl
  unfold send
  simp only
  split
  · exact modified (fun entry => entry.complete_command _) last
  split
  · exact modified (fun entry => entry.complete_command _) last
  split
  · exact modified (fun _ => rfl) last
  split
  · split
    · exact modified (fun _ => rfl) polled
    · exact modified (fun entry => entry.complete_command _) polled
  · exact modified (fun entry => entry.complete_command _) last

end Session

end SerialPort
