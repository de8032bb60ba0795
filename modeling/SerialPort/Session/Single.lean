import SerialPort.Session.Coroutines
import SerialPort.Session.History

/-! One reader and one writer, and the connection they belong to. -/

namespace SerialPort

/-- The reader has neither been cancelled nor finished. -/
def Reader.live (reader : Reader) : Bool := !reader.cancelled && reader.point != .finished

/-- The writer has neither been cancelled nor finished. -/
def Writer.live (writer : Writer) : Bool := !writer.cancelled && writer.point != .finished

namespace Session

/-- Whether a worker that has been cancelled calls the transport once more. -/
def callsAgainBy (session : Session) : Action → Bool
  | .resume (.reader index) .resumes =>
    (session.readers[index]?).any fun reader => reader.cancelled && reader.point == .emitReceived
  | .resume (.reader index) (.returns length _) =>
    (session.readers[index]?).any fun reader => reader.cancelled && length ≤ 0
  | .resume (.writer index) .resumes =>
    (session.writers[index]?).any fun writer => writer.cancelled && writer.point.isPausing
  | _ => false

/-- A connection begins only when the workers of the earlier ones are cancelled or finished, and
they leave it alone then. -/
structure OneAtATime (session : Session) (action : Action) : Prop where
  opens : session.opensBy action = true →
    (∀ reader ∈ session.readers, reader.live = false) ∧
      ∀ writer ∈ session.writers, writer.live = false
  calls : session.link.isSome → session.callsAgainBy action = false

instance (session : Session) (action : Action) : Decidable (session.OneAtATime action) :=
  decidable_of_iff ((session.opensBy action = true →
      (∀ reader ∈ session.readers, reader.live = false) ∧
        ∀ writer ∈ session.writers, writer.live = false) ∧
      (session.link.isSome → session.callsAgainBy action = false))
    ⟨fun ⟨opens, calls⟩ => ⟨opens, calls⟩, fun guard => ⟨guard.opens, guard.calls⟩⟩

/-- At most one reader and one writer are live, those of the latest connection, and nobody reads
from a later connection than his own, or writes a command to a later one than its own. -/
structure Single (session : Session) : Prop where
  oneReader : ∀ (index other : Nat) (reader reader' : Reader),
    session.readers[index]? = some reader → session.readers[other]? = some reader' →
    reader.live = true → reader'.live = true → index = other
  oneWriter : ∀ (index other : Nat) (writer writer' : Writer),
    session.writers[index]? = some writer → session.writers[other]? = some writer' →
    writer.live = true → writer'.live = true → index = other
  latestReader : ∀ reader ∈ session.readers, reader.live = true →
    reader.connection = session.opens
  latestWriter : ∀ writer ∈ session.writers, writer.live = true →
    writer.connection = session.opens
  reads : ∀ reader ∈ session.readers, ∀ connection, reader.point = .reading (some connection) →
    reader.connection = connection
  writes : ∀ writer ∈ session.writers, ∀ (queued attempt connection : Nat) (entry : QueuedCommand),
    writer.point = .writing queued attempt (some connection) →
    session.queue[queued]? = some entry → entry.acceptedOn = connection

variable {session next : Session} {action : Action} {index queued : Nat}

/-! The channel of a connection has its number. -/

/-- The channels are numbered like the connections, and hold commands accepted on their own. -/
structure Numbered (session : Session) : Prop where
  channels : session.channels.length = session.opens + 1
  commands : session.commands = session.opens
  accepted : ∀ (queued channel : Nat) (entry : QueuedCommand),
    session.queue[queued]? = some entry → entry.owner = .channel channel →
    entry.acceptedOn = channel

/-- A poll leaves the channels. -/
theorem length_poll_channels : session.poll.channels.length = session.channels.length := by
  unfold poll
  split
  · exact List.length_modify _ _ _
  · rfl

/-- So does a send. -/
theorem length_send_channels (command : SerialCommand) :
    (session.send command).channels.length = session.channels.length := by
  -- Eviction polls the channel once, which changes a buffer and no channel.
  have polled : (Session.poll { session with
      queue := session.queue ++ [{ command := command }] }).channels.length =
        session.channels.length := length_poll_channels
  unfold send
  simp only
  split
  · rfl
  split
  · rfl
  split
  · exact List.length_modify _ _ _
  split
  · split
    · exact (List.length_modify _ _ _).trans polled
    · exact polled
  · rfl

/-- Every connection gets one channel, and the commands are sent to the latest one. -/
theorem Moves.channels (moved : Moves session action next) :
    (next.opens = session.opens + 1 ∧ next.channels.length = session.channels.length + 1 ∧
        next.commands = session.channels.length) ∨
      next.opens = session.opens ∧ next.channels.length = session.channels.length ∧
        next.commands = session.commands := by
  have same (opens : next.opens = session.opens) (channels : next.channels = session.channels)
      (commands : next.commands = session.commands) :
      next.opens = session.opens ∧ next.channels.length = session.channels.length ∧
        next.commands = session.commands := ⟨opens, by rw [channels], commands⟩
  -- Most steps open nothing and touch no channel.
  rcases moved.untouched_or_custodial with untouched | custodial
  · exact .inr (same untouched.opens untouched.channels untouched.commands)
  cases custodial with
  | send command =>
    have length := session.length_send_channels command
    obtain ⟨queue, channels, shape⟩ := session.send_shape command
    exact .inr ⟨by rw [shape], length, by rw [shape]⟩
  | disconnectStrike found at_ =>
    -- Disconnecting receives one command from the channel.
    have length : session.cancelWorkers.poll.channels.length = session.channels.length :=
      length_poll_channels
    obtain ⟨queue, channels, shape⟩ := session.cancelWorkers.poll_shape
    refine .inr ⟨?_, length, ?_⟩ <;> simp only [disconnectStrike, shape] <;> rfl
  | shutdownClosed at_ => exact .inr ⟨rfl, List.length_modify _ _ _, rfl⟩
  | connectOpened found at_ =>
    exact .inl ⟨rfl, by simp [connectOpened, opened, setConnect, emit, startWorkers], rfl⟩
  | loopOpened found at_ =>
    exact .inl ⟨rfl, by simp [loopOpened, opened, setLoop, emit, startWorkers], rfl⟩
  | @chunk index reader link length buffer found at_ positive =>
    rcases session.handleChunk_cases index reader (receivedData length buffer) link with
      shape | ⟨queued, -, -, -, -, shape⟩ <;> rw [shape] <;> exact .inr ⟨rfl, rfl, rfl⟩
  | inWriter found moved =>
    -- A writer may shorten the buffer of its channel; no channel comes or goes.
    refine .inr ⟨moved.besides.opens, ?_, moved.besides.commands⟩
    rcases moved.channels with same | ⟨channel, from_, -, -, -, -, shorter⟩
    · rw [same]
    · rw [shorter, List.length_modify]
  | inTimer found moved =>
    cases moved with
    | fired at_ live fits =>
      obtain ⟨queue, slot, shape⟩ := session.timerFired_shape _ _
      rw [shape]
      exact .inr ⟨rfl, rfl, rfl⟩
    | _ => exact .inr ⟨rfl, rfl, rfl⟩
  | _ => exact .inr ⟨rfl, rfl, rfl⟩

/-- A command stays accepted on the connection it was accepted on. -/
theorem EntryMoves.acceptedOn {before after : QueuedCommand}
    (moved : EntryMoves session next queued before after) :
    after.acceptedOn = before.acceptedOn := by
  -- Only the state, the owner, the link and the result of an entry are ever changed.
  cases moved with
  | reported found at_ => simp
  | failed found at_ => simp
  | timedOut timeout => simp
  | answered found at_ waits chunk => simp
  | _ => rfl

/-- A command in a channel has been there since it was accepted. -/
theorem EntryMoves.channel {before after : QueuedCommand} {channel : Nat}
    (moved : EntryMoves session next queued before after) (owner : after.owner = .channel channel) :
    before.owner = .channel channel := by
  -- What gives a command a new owner never gives it back to a channel.
  cases moved with
  | discarded held => cases owner
  | taken found bound held => cases owner
  | armed found at_ => cases owner
  | reported found at_ => simpa using owner
  | failed found at_ => simpa using owner
  | timedOut timeout => simpa using owner
  | answered found at_ waits chunk => simpa using owner
  | _ => exact owner

namespace Numbered

/-- Every move keeps the channels numbered. -/
theorem step (numbered : Numbered session) (moved : Moves session action next) : Numbered next where
  channels := by
    rcases moved.channels with ⟨latest, longer, -⟩ | ⟨same, kept, -⟩
    · rw [longer, latest, numbered.channels]
    · rw [kept, same, numbered.channels]
  commands := by
    rcases moved.channels with ⟨latest, -, last⟩ | ⟨same, -, kept⟩
    · rw [last, latest, numbered.channels]
    · rw [kept, same, numbered.commands]
  accepted := by
    intro queued channel after entered owner
    -- A command that is in a channel was there before the step, or has just been sent.
    rcases (EntriesMove.of_moves moved).back entered with ⟨before, there, moved⟩ | fresh
    · rw [moved.acceptedOn]
      exact numbered.accepted queued channel before there (moved.channel owner)
    · rcases fresh.owner with caller | nobody | ⟨current, acceptedOn⟩
      · cases caller.symm.trans owner
      · cases nobody.symm.trans owner
      · obtain rfl := Owner.channel.inj (current.symm.trans owner)
        rw [acceptedOn, numbered.commands]

/-- In every reachable state the channels are numbered like the connections. -/
theorem of_run {allowed : Session → Action → Prop}
    (run : Transition.Run Session.step allowed {} session) : Numbered session :=
  run.invariant ⟨rfl, rfl, by simp⟩ fun _ _ stepped numbered => numbered.step (.of_step stepped)

/-- A command waiting in a channel was accepted on its connection. -/
theorem of_waiting (numbered : Numbered session) (custody : Custody session) {channel : Nat}
    (waits : queued ∈ session.bufferOf channel) {entry : QueuedCommand}
    (entered : session.queue[queued]? = some entry) : entry.acceptedOn = channel := by
  have held : session.Holds (.channel channel) queued := waits
  obtain ⟨entry', entered', -, owner⟩ := custodian_eq_some (custody.sound _ _ held)
  obtain rfl : entry' = entry := Option.some.inj (entered'.symm.trans entered)
  exact numbered.accepted queued channel entry' entered owner

end Numbered

/-! The workers of the latest connection. -/

/-- The readers: at most one is live, and each reads from its own connection. -/
structure SingleReader (session : Session) : Prop where
  one : ∀ (index other : Nat) (reader reader' : Reader),
    session.readers[index]? = some reader → session.readers[other]? = some reader' →
    reader.live = true → reader'.live = true → index = other
  latest : ∀ reader ∈ session.readers, reader.live = true → reader.connection = session.opens
  reads : ∀ reader ∈ session.readers, ∀ connection, reader.point = .reading (some connection) →
    reader.connection = connection

/-- The writers: at most one is live, and each handles the commands of its own connection. -/
structure SingleWriter (session : Session) : Prop where
  one : ∀ (index other : Nat) (writer writer' : Writer),
    session.writers[index]? = some writer → session.writers[other]? = some writer' →
    writer.live = true → writer'.live = true → index = other
  latest : ∀ writer ∈ session.writers, writer.live = true → writer.connection = session.opens
  bound : ∀ writer ∈ session.writers, ∀ channel, writer.channel = some channel →
    writer.connection = channel
  held : ∀ writer ∈ session.writers, ∀ (queued : Nat) (entry : QueuedCommand),
    writer.point.held = some queued → session.queue[queued]? = some entry →
    entry.acceptedOn = writer.connection
  writes : ∀ writer ∈ session.writers, ∀ queued attempt connection,
    writer.point = .writing queued attempt (some connection) → writer.connection = connection

/-- One reader and one writer are single workers. -/
theorem Single.of_workers (readers : SingleReader session) (writers : SingleWriter session) :
    Single session where
  oneReader := readers.one
  oneWriter := writers.one
  latestReader := readers.latest
  latestWriter := writers.latest
  reads := readers.reads
  writes := by
    -- What the writer holds, and the link it writes to, belong to its own connection.
    intro writer listed queued attempt connection entry at_ entered
    rw [writers.held writer listed queued entry (by rw [at_]; rfl) entered]
    exact writers.writes writer listed queued attempt connection at_

/-- While a connection is open, only readers that are not cancelled call the transport. -/
theorem OneAtATime.reader (guard : session.OneAtATime action) (open_ : session.link.isSome)
    {outcome : Outcome} {reader : Reader} (found : session.readers[index]? = some reader)
    (resumes : action = .resume (.reader index) outcome) (calls : ReaderCalls reader outcome) :
    reader.cancelled = false := by
  -- The guard rules out the calls of a cancelled reader, one for each way it may call.
  have leaves := guard.calls open_
  rw [resumes] at leaves
  cases calls with
  | first at_ live => exact live
  | next at_ => simpa [callsAgainBy, found, at_] using leaves
  | again empty => simpa [callsAgainBy, found, empty] using leaves

/-- While the link is open, no writer that was cancelled goes on behind its delay. -/
theorem OneAtATime.writer (guard : session.OneAtATime action) (open_ : session.link.isSome)
    {outcome : Outcome} {writer : Writer} (found : session.writers[index]? = some writer)
    (resumes : action = .resume (.writer index) outcome)
    (calls : outcome = .resumes ∧ writer.point.isPausing = true) : writer.cancelled = false := by
  have leaves := guard.calls open_
  obtain ⟨rfl, pausing⟩ := calls
  simpa [resumes, callsAgainBy, found, pausing] using leaves

/-- Every live reader was live before, unless it has just been started. -/
theorem Moves.liveReader (moved : Moves session action next) {after : Reader}
    (there : next.readers[index]? = some after) (live : after.live = true) :
    (∃ before, session.readers[index]? = some before ∧ before.live = true ∧
      after.connection = before.connection) ∨
      session.opensBy action = true ∧ index = session.readers.length ∧
        after.connection = next.opens := by
  -- A reader changes by being cancelled or by its own turn, and neither brings it back to life.
  rcases moved.reader there with
    ⟨before, found, rfl | rfl⟩ | ⟨before, outcome, found, -, moved⟩ | ⟨opens, last, rfl⟩
  · exact .inl ⟨after, found, live, rfl⟩
  · simp [Reader.live, Reader.cancel] at live
  · obtain ⟨open_, point, readers, -⟩ := moved.turned
    rw [readers] at there
    rcases set_cases there with ⟨-, rfl⟩ | ⟨different, -⟩
    · refine .inl ⟨before, found, ?_, rfl⟩
      simp_all [Reader.live]
    · exact absurd rfl different
  · exact .inr ⟨opens, last, rfl⟩

/-- Every step that connects one at a time keeps the reader single. -/
theorem SingleReader.step (single : SingleReader session) (one : session.OneLink)
    (guard : session.OneAtATime action) (moved : Moves session action next) :
    SingleReader next where
  one := by
    -- A reader that has just begun is the only live one, as the guard says.
    intro index other reader reader' there there' live live'
    rcases moved.liveReader there live with ⟨before, found, was, -⟩ | ⟨opens, last, -⟩ <;>
      rcases moved.liveReader there' live' with ⟨before', found', was', -⟩ | ⟨opens', last', -⟩
    · exact single.one index other before before' found found' was was'
    · exact absurd was (by simp [(guard.opens opens').1 before (List.mem_of_getElem? found)])
    · exact absurd was' (by simp [(guard.opens opens).1 before' (List.mem_of_getElem? found')])
    · exact last.trans last'.symm
  latest := by
    intro reader listed live
    obtain ⟨index, there⟩ := List.getElem?_of_mem listed
    -- A live reader is from before the step, and then no connection has begun since.
    rcases moved.liveReader there live with ⟨before, found, was, same⟩ | ⟨opens, -, latest⟩
    · rw [same, single.latest before (List.mem_of_getElem? found) was]
      rcases moved.link with ⟨opens, -, -⟩ | ⟨kept, -⟩
      · exact absurd was (by simp [(guard.opens opens).1 before (List.mem_of_getElem? found)])
      · exact kept.symm
    · exact latest
  reads := by
    -- A reader begins to read in its own turn, with the link that is open then.
    intro reader listed connection at_
    obtain ⟨index, there⟩ := List.getElem?_of_mem listed
    rcases moved.reader there with
      ⟨before, found, rfl | rfl⟩ | ⟨before, outcome, found, resumes, moved⟩ | ⟨-, -, rfl⟩
    · exact single.reads reader (List.mem_of_getElem? found) connection at_
    · exact single.reads before (List.mem_of_getElem? found) connection at_
    · obtain ⟨open_, point, readers, calls⟩ := moved.turned
      rw [readers] at there
      rcases set_cases there with ⟨-, rfl⟩ | ⟨different, -⟩
      · obtain ⟨link, calls⟩ := calls _ at_
        have live : before.live = true := by
          simp [Reader.live, guard.reader (by simp [← link]) found resumes calls, open_]
        -- The reader belongs to the latest connection, and no other one can be open.
        rcases one with closed | latest
        · simp [closed] at link
        · rw [latest] at link
          rw [Option.some.inj link]
          exact single.latest before (List.mem_of_getElem? found) live
      · exact absurd rfl different
    · cases at_

/-- A writer that is live was live before, or has just been started by an opening. -/
theorem Moves.liveWriter (moved : Moves session action next) {after : Writer}
    (there : next.writers[index]? = some after) (live : after.live = true) :
    (∃ before, session.writers[index]? = some before ∧ before.live = true ∧
      after.connection = before.connection) ∨
      session.opensBy action = true ∧ index = session.writers.length ∧
        after.connection = next.opens := by
  rcases moved.writer there with
    ⟨before, found, rfl | rfl⟩ | ⟨before, outcome, found, -, moved⟩ | ⟨opens, last, config, rfl⟩
  · exact .inl ⟨after, found, live, rfl⟩
  · simp [Writer.live, Writer.cancel] at live
  · -- A turn leaves the writer on its connection, and only revives what was live.
    obtain ⟨turned, writers, resumed⟩ := moved.turned
    rw [writers] at there
    rcases set_cases there with ⟨-, rfl⟩ | ⟨different, -⟩
    · refine .inl ⟨before, found, ?_, resumed.connection⟩
      have open_ := resumed.open_
      have cancelled := resumed.cancelled
      simp_all [Writer.live]
    · exact absurd rfl different
  · exact .inr ⟨opens, last, rfl⟩

/-- What the writer holds was accepted on its connection. -/
theorem SingleWriter.held_step (single : SingleWriter session) (custody : Custody session)
    (numbered : Numbered session) (moved : Moves session action next) {after : Writer}
    (there : next.writers[index]? = some after) {entry : QueuedCommand}
    (held : after.point.held = some queued) (entered : next.queue[queued]? = some entry) :
    entry.acceptedOn = after.connection := by
  -- The command was held, or waiting in the writer's channel, before the step.
  have kept {writer : Writer} (found : session.writers[index]? = some writer)
      (holds : writer.point.held = some queued ∨
        ∃ channel, writer.channel = some channel ∧ queued ∈ session.bufferOf channel) :
      entry.acceptedOn = writer.connection := by
    have listed := List.mem_of_getElem? found
    have inside : queued < session.queue.length := by
      rcases holds with held | ⟨channel, -, waits⟩
      · obtain ⟨entry, entered, -⟩ := custody.held_entry found held
        exact (List.getElem?_eq_some_iff.mp entered).1
      · have held : session.Holds (.channel channel) queued := waits
        obtain ⟨entry, entered, -⟩ := custodian_eq_some (custody.sound _ _ held)
        exact (List.getElem?_eq_some_iff.mp entered).1
    obtain ⟨after, entered', moved⟩ :=
      (EntriesMove.of_moves moved).old queued _ (List.getElem?_eq_getElem inside)
    obtain rfl : after = entry := Option.some.inj (entered'.symm.trans entered)
    rw [moved.acceptedOn]
    rcases holds with held | ⟨channel, bound, waits⟩
    · exact single.held writer listed queued _ held (List.getElem?_eq_getElem inside)
    · rw [numbered.of_waiting custody waits (List.getElem?_eq_getElem inside)]
      exact (single.bound writer listed channel bound).symm
  rcases moved.writer there with
    ⟨before, found, rfl | rfl⟩ | ⟨before, outcome, found, -, moved⟩ | ⟨-, -, config, rfl⟩
  · exact kept found (.inl held)
  · show entry.acceptedOn = before.connection
    exact kept found (.inl held)
  · obtain ⟨turned, writers, resumed⟩ := moved.turned
    rw [writers] at there
    rcases set_cases there with ⟨-, rfl⟩ | ⟨different, -⟩
    · rw [resumed.connection]
      exact kept found (resumed.held queued held)
    · exact absurd rfl different
  · cases held

/-- Every step that connects one at a time keeps the writer single. -/
theorem SingleWriter.step (single : SingleWriter session) (custody : Custody session)
    (numbered : Numbered session) (one : session.OneLink) (guard : session.OneAtATime action)
    (moved : Moves session action next) : SingleWriter next where
  one := by
    -- The writers are like the readers: the guard says that a new one is alone.
    intro index other writer writer' there there' live live'
    rcases moved.liveWriter there live with ⟨before, found, was, -⟩ | ⟨opens, last, -⟩ <;>
      rcases moved.liveWriter there' live' with ⟨before', found', was', -⟩ | ⟨opens', last', -⟩
    · exact single.one index other before before' found found' was was'
    · exact absurd was (by simp [(guard.opens opens').2 before (List.mem_of_getElem? found)])
    · exact absurd was' (by simp [(guard.opens opens).2 before' (List.mem_of_getElem? found')])
    · exact last.trans last'.symm
  latest := by
    intro writer listed live
    obtain ⟨index, there⟩ := List.getElem?_of_mem listed
    rcases moved.liveWriter there live with ⟨before, found, was, same⟩ | ⟨opens, -, latest⟩
    · rw [same, single.latest before (List.mem_of_getElem? found) was]
      rcases moved.link with ⟨opens, -, -⟩ | ⟨kept, -⟩
      · exact absurd was (by simp [(guard.opens opens).2 before (List.mem_of_getElem? found)])
      · exact kept.symm
    · exact latest
  bound := by
    intro writer listed channel bound
    obtain ⟨index, there⟩ := List.getElem?_of_mem listed
    rcases moved.writer there with
      ⟨before, found, rfl | rfl⟩ | ⟨before, outcome, found, -, moved⟩ | ⟨-, -, config, rfl⟩
    · exact single.bound writer (List.mem_of_getElem? found) channel bound
    · exact single.bound before (List.mem_of_getElem? found) channel bound
    · obtain ⟨turned, writers, resumed⟩ := moved.turned
      rw [writers] at there
      rcases set_cases there with ⟨-, rfl⟩ | ⟨different, -⟩
      · rw [resumed.connection]
        rcases resumed.channel with kept | ⟨-, at_, live, current⟩
        · exact single.bound before (List.mem_of_getElem? found) channel (kept ▸ bound)
        · -- A writer that starts to run takes the channel of the latest connection, its own.
          obtain rfl := Option.some.inj (current.symm.trans bound)
          rw [numbered.commands]
          exact single.latest before (List.mem_of_getElem? found) (by simp [Writer.live, at_, live])
      · exact absurd rfl different
    · cases bound
  held := by
    intro writer listed queued entry held entered
    obtain ⟨index, there⟩ := List.getElem?_of_mem listed
    exact single.held_step custody numbered moved there held entered
  writes := by
    intro writer listed queued attempt connection at_
    obtain ⟨index, there⟩ := List.getElem?_of_mem listed
    rcases moved.writer there with
      ⟨before, found, rfl | rfl⟩ | ⟨before, outcome, found, resumes, moved⟩ | ⟨-, -, config, rfl⟩
    · exact single.writes writer (List.mem_of_getElem? found) queued attempt connection at_
    · exact single.writes before (List.mem_of_getElem? found) queued attempt connection at_
    · obtain ⟨turned, writers, resumed⟩ := moved.turned
      rw [writers] at there
      rcases set_cases there with ⟨-, rfl⟩ | ⟨different, -⟩
      · obtain ⟨link, calls⟩ := resumed.calls _ _ _ at_
        have live : before.live = true := by
          simp [Writer.live, guard.writer (by simp [← link]) found resumes calls, resumed.open_]
        rcases one with closed | latest
        · simp [closed] at link
        · rw [latest] at link
          rw [resumed.connection, Option.some.inj link]
          exact single.latest before (List.mem_of_getElem? found) live
      · exact absurd rfl different
    · cases at_

/-- Both kinds of workers, as the connections begin one at a time. -/
structure SingleWorkers (session : Session) : Prop where
  readers : SingleReader session
  writers : SingleWriter session

/-- Before the first connection there is no worker. -/
theorem SingleWorkers.initial : SingleWorkers ({} : Session) where
  readers := ⟨by simp, by simp, by simp⟩
  writers := ⟨by simp, by simp, by simp, by simp, by simp⟩

/-- In every state reached so, the workers are single. -/
theorem SingleWorkers.of_run (run : Transition.Run Session.step OneAtATime {} session) :
    SingleWorkers session := by
  refine run.invariant .initial fun earlier guard stepped workers => ?_
  have moved := Moves.of_step stepped
  have one := OneLink.of_run earlier
  exact ⟨workers.readers.step one guard moved,
    workers.writers.step (.of_run earlier) (.of_run earlier) one guard moved⟩

/-- Where the connections begin one at a time, each has one reader and one writer of its own. -/
theorem single_one_at_a_time (run : Transition.Run Session.step OneAtATime {} session) :
    Single session :=
  have workers := SingleWorkers.of_run run
  .of_workers workers.readers workers.writers

end Session

/-! Two connections at a time. -/

namespace Sample

/-- Two calls of `connect` find the session unconnected, and both open the transport. -/
def connectedTwice : List Action :=
  [.connect config, .connect config, .resume (.connect 0) .resumes, .resume (.connect 1) .resumes,
    .resume (.connect 0) .resumes, .resume (.connect 1) .resumes, .resume (.connect 0) .resumes,
    .resume (.connect 1) .resumes]

/-- The session is connected, disconnected, and connected again. -/
def connectedAgain : List Action :=
  connecting 0 ++ [.resume (.reader 0) .resumes, .resume (.writer 0) .resumes] ++
    disconnecting 0 ++ connecting 1 ++ [.resume (.reader 1) .resumes, .resume (.writer 1) .resumes]

end Sample

namespace Session

/-- The second connection does not end the first one, and there are two live readers. -/
theorem connected_twice_not_single :
    ¬∀ session, Transition.Run Session.step (fun _ _ => True) {} session → Single session := by
  intro always
  obtain ⟨session, run, test⟩ := Transition.Run.of_test
    (fun session => session.readers == [{ connection := 1 }, { connection := 2 }])
    (show (Transition.execute Session.step (fun _ _ => True) {} Sample.connectedTwice).any _ =
      true by decide +kernel)
  have readers : session.readers = [{ connection := 1 }, { connection := 2 }] := by simpa using test
  -- Two readers are alive at once, so they would have to be one.
  have same : 0 = 1 := (always session run).oneReader 0 1 { connection := 1 } { connection := 2 }
    (by rw [readers]; rfl) (by rw [readers]; rfl) rfl rfl
  exact absurd same (by decide)

/-- With a disconnect in between, the second connection has one live reader and one live writer. -/
theorem connected_again_single :
    ∃ session, Transition.Run Session.step OneAtATime {} session ∧
      session.readers.map Reader.live = [false, true] ∧
      session.writers.map Writer.live = [false, true] ∧ Single session := by
  -- The second `connect` is called after the first connection is closed.
  obtain ⟨session, run, test⟩ := Transition.Run.of_test
    (fun session => session.readers.map Reader.live == [false, true] &&
      session.writers.map Writer.live == [false, true])
    (show (Transition.execute Session.step OneAtATime {} Sample.connectedAgain).any _ = true by
      decide +kernel)
  simp only [Bool.and_eq_true, beq_iff_eq] at test
  exact ⟨session, run, test.1, test.2, single_one_at_a_time run⟩

end Session

end SerialPort
