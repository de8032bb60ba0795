import Mathlib.Data.List.Basic
import Mathlib.Data.List.TakeWhile
import SerialPort.Session.Events
import SerialPort.Session.Heeded

/-! What becomes of the results of `transport.read`: the data is announced, and the end noticed. -/

namespace SerialPort

open Transition

/-- The data an event announces. -/
def SerialEvent.received? : SerialEvent → Option Bytes
  | .dataReceived data => some data
  | _ => none

/-- What a call of `transport.read` comes to, with an exception thrown at the bytes it returned. A
cancellation that nobody has asked for may have been thrown by the read or at its bytes. -/
inductive ReadResult where
  | returned (length : Int) (buffer : Bytes)
  | rejected (length : Int) (buffer : Bytes) (message : String)
  | interrupted
  | thrown (message : String)
  deriving DecidableEq, Repr

namespace ReadResult

/-- Whether the result tells that nothing more is to come. -/
def ends : ReadResult → Bool
  | .returned length _ => length < 0
  | .rejected length _ _ => length < 0
  | .interrupted => true
  | .thrown _ => true

/-- A copy of the bytes that have been read, if there are any. -/
def data? : ReadResult → Option Bytes
  -- The source tests `length > 0`, and copies the front of its buffer.
  | .returned length buffer => if 0 < length then some (receivedData length buffer) else none
  | .rejected length buffer _ => if 0 < length then some (receivedData length buffer) else none
  | .interrupted => none
  | .thrown _ => none

/-- The bytes that the reader publishes. -/
def published? : ReadResult → Option Bytes
  | .returned length buffer => if 0 < length then some (receivedData length buffer) else none
  -- The exception comes before the event.
  | _ => none

/-- Whether the stream has ended, as it reports with a negative count. -/
def isEndOfStream : ReadResult → Bool
  -- `FileInputStream.read` returns -1, which `AndroidSerialTransport.read` passes on.
  | .returned length _ => length < 0
  | _ => false

/-- Whether the reader has ended with a cancellation that nobody has asked for. -/
def isInterrupted : ReadResult → Bool
  | .interrupted => true
  | _ => false

/-- Whether the logger or the matcher has thrown an exception at the bytes. -/
def isRejected : ReadResult → Bool
  | .rejected length _ _ => 0 < length
  | _ => false

/-- Whether an exception has ended the loop over the reads. -/
def stops : ReadResult → Bool
  | .returned _ _ => false
  | .rejected length _ _ => 0 < length
  | .interrupted => true
  | .thrown _ => true

/-- What the reader goes on after is published, unless it has no data. -/
theorem published_of_stays {result : ReadResult} (stays : result.stops = false) :
    result.published? = result.data? := by
  cases result with
  | returned length buffer => rfl
  | rejected length buffer message => simp_all [stops, published?, data?]
  | interrupted => cases stays
  | thrown message => cases stays

/-- As long as the reader goes on it publishes all the data. -/
theorem published_eq {results : List ReadResult}
    (stays : ∀ result ∈ results, result.stops = false) :
    results.filterMap published? = results.filterMap data? :=
  List.filterMap_congr fun result listed => published_of_stays (stays result listed)

/-- Of what stops the reader nothing is published. -/
theorem published_of_stops {result : ReadResult} (stops : result.stops = true) :
    result.published? = none := by
  cases result with
  | returned length buffer => cases stops
  | _ => rfl

/-- The source goes on after a result that is no exception, also if that reports the end. -/
theorem goes_on {result : ReadResult} (stays : result.stops = false)
    (open_ : result.isEndOfStream = false) (possible : ∀ length buffer message,
      result = .rejected length buffer message → 0 < length) : result.ends = false := by
  cases result with
  | returned length buffer => exact open_
  | rejected length buffer message =>
    exact absurd (possible length buffer message rfl) (of_decide_eq_false stays)
  | interrupted => cases stays
  | thrown message => cases stays

end ReadResult

/-- The result of a read that the turn of a reader is about. -/
def Outcome.readResult : Outcome → Option ReadResult
  | .returns length buffer => some (.returned length buffer)
  | .rejects length buffer message => some (.rejected length buffer message)
  | .interrupts => some .interrupted
  | .throws message => some (.thrown message)
  | _ => none

/-- The result of a read that a step of the reader is about. -/
def Action.readBy (index : Nat) : Action → Option ReadResult
  | .resume (.reader other) outcome => if other = index then outcome.readResult else none
  | _ => none

/-- The results that the reads of a reader have come to. -/
def reads (index : Nat) (actions : List Action) : List ReadResult :=
  actions.filterMap (Action.readBy index)

/-- Whether a reader is past its loop. -/
def ReaderPoint.isOver : ReaderPoint → Bool
  | .failing _ => true
  | .finished => true
  | _ => false

namespace Session

/-- The data of the chunks that a reader has handled. -/
def deliveredBy (session : Session) (index : Nat) : List Bytes :=
  (session.chunks.filter fun chunk => chunk.reader == index).map Chunk.data

/-- The reader has read for the last time. -/
def Silent (session : Session) (index : Nat) : Prop :=
  ∃ reader, session.readers[index]? = some reader ∧ reader.point.isOver = true

/-- A step makes the session fail with an error of its reader. -/
def Notices (session next : Session) : Prop :=
  ∃ cause, next.state = .failed (.readFailed cause) true ∧
    next.events = session.events ++ [.errorRaised (.readFailed cause)]

/-- A reader delivers everything it has read, and notices the end. -/
structure Delivers (index : Nat) (actions : List Action) (session : Session) : Prop where
  /-- What is announced is the data of the chunks, in order and once each. -/
  announced : session.events.filterMap SerialEvent.received? = session.chunks.map Chunk.data
  /-- The reader's chunks are what has been read before the end. -/
  delivered : session.deliveredBy index =
    ((reads index actions).takeWhile fun result => !result.ends).filterMap ReadResult.data?
  /-- With the end the session fails, and after it the reader does not read. -/
  ended : ∀ earlier action later result before middle,
    actions = earlier ++ action :: later → action.readBy index = some result →
    result.ends = true → Path Session.step (fun _ _ => True) {} earlier before →
    before.step action = some middle →
      before.Notices middle ∧ reads index later = [] ∧
        ∀ reader link, session.readers[index]? = some reader → reader.point ≠ .reading link

variable {session next : Session} {index : Nat} {action : Action} {result : ReadResult}

/-! What is announced. -/

/-- No data is announced, and no chunk is handled. -/
structure Mute (session next : Session) : Prop where
  events : next.events.filterMap SerialEvent.received? =
    session.events.filterMap SerialEvent.received?
  chunks : next.chunks = session.chunks

namespace Mute

/-- Events about something else are mute. -/
theorem of_events {events : List SerialEvent} (appended : next.events = session.events ++ events)
    (other : ∀ event ∈ events, event.received? = none) (chunks : next.chunks = session.chunks) :
    Mute session next := by
  refine ⟨?_, chunks⟩
  -- The events that are appended add nothing to what is announced.
  rw [appended, List.filterMap_append, List.filterMap_eq_nil_iff.mpr other, List.append_nil]

/-- A step without events is mute. -/
theorem of_same (events : next.events = session.events) (chunks : next.chunks = session.chunks) :
    Mute session next :=
  ⟨by rw [events], chunks⟩

/-- A single event about something else is mute. -/
theorem of_event {event : SerialEvent} (other : event.received? = none)
    (events : next.events = session.events ++ [event]) (chunks : next.chunks = session.chunks) :
    Mute session next :=
  of_events events (fun _ listed => List.mem_singleton.mp listed ▸ other) chunks

/-- A plain step is mute. -/
theorem of_plain (plain : Plain session next) : Mute session next := by
  obtain ⟨⟨events, appended, plain⟩, chunks, -⟩ := plain
  refine of_events appended (fun event listed => ?_) chunks
  -- Data is announced by none of the plain events.
  have plain := plain event listed
  cases event with
  | dataReceived data => cases plain
  | _ => rfl

/-- An attempt of a reconnecting loop is mute. -/
theorem loopAttempt {loop : Loop} {attempt : Nat} :
    Mute session (session.loopAttempt index loop attempt) := by
  -- Whatever a loop has to tell, it is no data.
  unfold Session.loopAttempt
  split
  · split
    · exact of_same rfl rfl
    · split
      · exact of_same rfl rfl
      · exact of_event rfl rfl rfl
  · exact of_event rfl rfl rfl

/-- Every move of a reconnecting loop is mute. -/
theorem inLoop {loop : Loop} {outcome : Outcome}
    (moved : LoopMoves session index loop outcome next) : Mute session next := by
  cases moved with
  -- A loop tells of its attempts by other events than received data.
  | first at_ => exact loopAttempt
  | next at_ => exact loopAttempt
  | connecting at_ live => exact of_event rfl rfl rfl
  | opened at_ => exact of_event rfl rfl rfl
  | failed at_ => exact of_event rfl rfl rfl
  | caught at_ cancelled => exact of_event rfl rfl rfl
  | succeeded at_ => exact of_event rfl rfl rfl
  | _ => exact of_same rfl rfl

end Mute

/-- A step is a chunk that is announced, or announces no data. -/
theorem Moves.received (moved : Moves session action next) :
    Mute session next ∨ ∃ (index : Nat) (length : Int) (buffer : Bytes) (link : Option Nat),
      action = .resume (.reader index) (.returns length buffer) ∧ 0 < length ∧
      next.events = session.events ++ [.dataReceived (receivedData length buffer)] ∧
      next.chunks = session.chunks ++
        [{ data := receivedData length buffer, reader := index, readOn := link }] := by
  -- A chunk is announced in the step in which it is handled.
  cases moved.announces with
  | plain plain => exact .inl (.of_plain plain)
  | @chunk index reader length buffer link found at_ positive =>
    obtain ⟨events, chunks⟩ :=
      session.handleChunk_announces index reader (receivedData length buffer) link
    exact .inr ⟨index, length, buffer, _, rfl, positive, events, chunks⟩
  | inLoop found moved => exact .inl (.inLoop moved)

/-- The data that has been announced is the data of the chunks. -/
theorem announced_step (moved : Moves session action next)
    (announced : session.events.filterMap SerialEvent.received? = session.chunks.map Chunk.data) :
    next.events.filterMap SerialEvent.received? = next.chunks.map Chunk.data := by
  rcases moved.received with mute | ⟨index, length, buffer, link, -, -, events, chunks⟩
  · rw [mute.events, mute.chunks, announced]
  · -- The chunk and its event are the last ones of both lists.
    rw [events, chunks, List.filterMap_append, List.map_append, announced]
    rfl

/-! What a reader does with the result of a read. -/

/-- A result is that of a turn of the reader. -/
theorem readBy_eq_some (reads : action.readBy index = some result) :
    ∃ outcome, action = .resume (.reader index) outcome ∧ outcome.readResult = some result := by
  unfold Action.readBy at reads
  split at reads
  · next other outcome =>
    split at reads
    · -- The action turns the very reader that is asked about.
      next same => exact ⟨outcome, by rw [same], reads⟩
    · cases reads
  · cases reads

/-- The exceptions that a reader catches are those that stop it, but for a cancellation. -/
theorem stops_iff_failure {outcome : Outcome} (reads : outcome.readResult = some result) :
    result.stops = true ↔
      outcome = .interrupts ∨ ∃ message, outcome.failure = some message := by
  cases outcome <;> cases reads <;> simp [ReadResult.stops, Outcome.failure]

/-- What a read has come to is delivered in the same step, if it is published at all. -/
theorem Moves.delivered (moved : Moves session action next) (index : Nat) :
    next.deliveredBy index =
      session.deliveredBy index ++ ((action.readBy index).bind ReadResult.published?).toList := by
  have same (chunks : next.chunks = session.chunks) :
      next.deliveredBy index = session.deliveredBy index ++ [] := by
    rw [deliveredBy, chunks, List.append_nil, deliveredBy]
  -- The chunk that a step adds is that of the read it is about.
  cases reads : action.readBy index with
  | none =>
    rcases moved.received with mute | ⟨other, length, buffer, link, rfl, -, -, chunks⟩
    · exact same mute.chunks
    · -- The chunk is one of another reader.
      have different : other ≠ index := by
        rintro rfl
        simp [Action.readBy, Outcome.readResult] at reads
      simp [deliveredBy, chunks, different]
  | some result =>
    obtain ⟨outcome, rfl, came⟩ := readBy_eq_some reads
    cases moved with
    | @inReader index reader outcome next found moved =>
      cases moved with
      | @chunk length buffer link at_ positive =>
        obtain rfl := Option.some.inj came
        obtain ⟨-, chunks⟩ :=
          session.handleChunk_announces index reader (receivedData length buffer) link
        simp [deliveredBy, chunks, ReadResult.published?, positive]
      | @nothing length buffer link at_ empty =>
        obtain rfl := Option.some.inj came
        have none_ : ¬0 < length := Int.not_lt.mpr empty
        simpa [ReadResult.published?, none_] using same rfl
      | failed at_ threw =>
        have stops := (stops_iff_failure came).mpr (.inr ⟨_, threw⟩)
        simpa [ReadResult.published_of_stops stops] using same rfl
      | interrupted at_ =>
        have stops := (stops_iff_failure came).mpr (.inl rfl)
        simpa [ReadResult.published_of_stops stops] using same rfl
      | _ => cases came

/-- An exception makes the session fail, and is the last thing its reader has read. -/
theorem Moves.stopped {outcome : Outcome} {message : String}
    (threw : outcome.failure = some message)
    (moved : Moves session (.resume (.reader index) outcome) next) :
    session.Notices next ∧ next.Silent index := by
  -- The exception is caught outside of the loop, where `fail` is called.
  cases moved with
  | @inReader index reader outcome next found moved =>
    cases moved with
    | failed at_ threw' =>
      refine ⟨⟨_, rfl, rfl⟩, { reader with point := .failing .raised }, ?_, rfl⟩
      have inside := (List.getElem?_eq_some_iff.mp found).1
      exact List.getElem?_set_self inside
    | _ => cases threw

/-- A cancellation that nobody has asked for ends the reader, and leaves the session as it is. -/
theorem Moves.interrupted (moved : Moves session (.resume (.reader index) .interrupts) next) :
    next.events = session.events ∧ next.Silent index := by
  cases moved with
  | @inReader index reader outcome next found moved =>
    cases moved with
    -- Caught and not reported: the reader is finished, and no event is sent.
    | interrupted at_ =>
      have inside := (List.getElem?_eq_some_iff.mp found).1
      exact ⟨rfl, { reader with point := .finished }, List.getElem?_set_self inside, rfl⟩
    | failed at_ threw => cases threw

/-- What stops a reader is the last thing that it has read. -/
theorem Moves.silenced {outcome : Outcome} (came : outcome.readResult = some result)
    (stops : result.stops = true) (moved : Moves session (.resume (.reader index) outcome) next) :
    next.Silent index := by
  rcases (stops_iff_failure came).mp stops with rfl | ⟨message, threw⟩
  · exact moved.interrupted.2
  · exact (moved.stopped threw).2

/-- Neither a negative count nor such a cancellation is announced. -/
theorem Moves.unnoticed {outcome : Outcome} (came : outcome.readResult = some result)
    (missed : result.isEndOfStream = true ∨ result.isInterrupted = true)
    (moved : Moves session (.resume (.reader index) outcome) next) :
    next.events = session.events := by
  cases outcome with
  | interrupts => exact moved.interrupted.1
  | returns length buffer =>
    cases came
    have negative : length < 0 := missed.elim of_decide_eq_true fun interrupted => by
      cases interrupted
    -- The count is compared with zero only to see whether there is any data.
    cases moved with
    | inReader found moved =>
      cases moved with
      | chunk at_ positive => exact absurd positive (by omega)
      | nothing at_ empty => rfl
      | failed at_ threw => cases threw
  | _ => cases came <;> simp [ReadResult.isEndOfStream, ReadResult.isInterrupted] at missed

/-- Nothing is thrown at bytes unless there are some. -/
theorem Moves.rejects_positive {length : Int} {buffer : Bytes} {message : String}
    (moved : Moves session (.resume (.reader index) (.rejects length buffer message)) next) :
    0 < length := by
  cases moved with
  | inReader found moved =>
    cases moved with
    | failed at_ threw =>
      simp only [Outcome.failure, Option.ite_none_right_eq_some] at threw
      exact threw.1

/-- Past its loop a reader reads nothing, and gets only closer to its end. -/
theorem ReaderMoves.remains {reader : Reader} {outcome : Outcome}
    (moved : ReaderMoves session index reader outcome next) (past : reader.point.isOver = true) :
    (outcome = .resumes ∨ outcome = .cancels) ∧
      ∃ point, next.readers = session.readers.set index { reader with point := point } ∧
        point.isOver = true := by
  cases moved with
  | failChanged at_ => exact ⟨.inl rfl, _, rfl, rfl⟩
  | failSettled at_ =>
    obtain ⟨_, _, shape⟩ := session.failSettle_shape
    exact ⟨.inl rfl, .finished, by rw [shape]; rfl, rfl⟩
  | cancelled open_ cancelled => exact ⟨.inr rfl, _, rfl, rfl⟩
  -- The other steps belong to the loop.
  | callRead at_ live => rcases at_ with at_ | at_ <;> rw [at_] at past <;> cases past
  | chunk at_ positive => rw [at_] at past; cases past
  | nothing at_ empty => rw [at_] at past; cases past
  | failed at_ threw => rw [at_] at past; cases past
  | interrupted at_ => rw [at_] at past; cases past

/-- A reader that is past its loop stays so, and reads nothing. -/
theorem Silent.step (silent : session.Silent index) (moved : Moves session action next) :
    next.Silent index ∧ action.readBy index = none := by
  obtain ⟨before, found, past⟩ := silent
  have unread : action.readBy index = none := by
    -- Only a reader in the middle of a read has a result.
    cases reads : action.readBy index with
    | none => rfl
    | some result =>
      obtain ⟨outcome, rfl, came⟩ := readBy_eq_some reads
      cases moved with
      | inReader found' moved =>
        obtain rfl := Option.some.inj (found.symm.trans found')
        rcases (moved.remains past).1 with rfl | rfl <;> cases came
  obtain ⟨after, there, turned⟩ := moved.readerLater found
  refine ⟨⟨after, there, ?_⟩, unread⟩
  rcases turned with same | ⟨outcome, rfl, turns⟩
  · -- A cancellation leaves the reader at its point.
    rcases same with rfl | rfl
    · exact past
    · exact past
  · obtain ⟨-, point, readers, past⟩ := turns.remains past
    obtain rfl := eq_of_set readers there
    exact past

/-! The whole run. -/

variable {actions earlier later : List Action}

/-- The reads of two parts of a run are those of the first and then those of the second. -/
theorem reads_append : reads index (earlier ++ later) = reads index earlier ++ reads index later :=
  List.filterMap_append

/-- A single step is at most one read. -/
theorem reads_singleton : reads index [action] = (action.readBy index).toList := by
  unfold reads
  cases reads : action.readBy index with
  | none => exact List.filterMap_cons_none reads
  | some result => exact List.filterMap_cons_some reads

/-- As long as a reader is past its loop it reads nothing. -/
theorem Silent.path (silent : session.Silent index)
    (path : Path Session.step (fun _ _ => True) session later next) :
    next.Silent index ∧ reads index later = [] := by
  -- No step takes the reader back into its loop.
  induction path with
  | nil => exact ⟨silent, rfl⟩
  | snoc _ _ stepped held =>
    obtain ⟨silent, unread⟩ := held
    obtain ⟨silent, none_⟩ := silent.step (.of_step stepped)
    refine ⟨silent, ?_⟩
    rw [reads_append, unread, reads_singleton, none_]
    rfl

/-- What a reader has read so far: results it goes on after, and perhaps one that stops it. -/
structure Reading (index : Nat) (actions : List Action) (session : Session) : Prop where
  delivered : session.deliveredBy index = (reads index actions).filterMap ReadResult.published?
  positive : ∀ length buffer message,
    .rejected length buffer message ∈ reads index actions → 0 < length
  stopped : (∀ result ∈ reads index actions, result.stops = false) ∨
    session.Silent index ∧ ∃ others last, reads index actions = others ++ [last] ∧
      last.stops = true ∧ ∀ result ∈ others, result.stops = false

namespace Reading

/-- Every step adds the result of a read at most, and none to a reader that has stopped. -/
theorem step (reading : Reading index actions session) (moved : Moves session action next) :
    Reading index (actions ++ [action]) next := by
  obtain ⟨delivered, positive, stopped⟩ := reading
  -- The data grows with the results, and an exception is the last of them.
  refine ⟨?_, fun length buffer message listed => ?_, ?_⟩
  · rw [moved.delivered, delivered, reads_append, List.filterMap_append, reads_singleton]
    cases action.readBy index with
    | none => rfl
    | some result => cases data : result.published? <;> simp [data]
  · rw [reads_append, reads_singleton] at listed
    rcases List.mem_append.mp listed with earlier | last
    · exact positive length buffer message earlier
    · obtain ⟨outcome, rfl, reads⟩ := readBy_eq_some (Option.mem_toList.mp last)
      cases outcome <;> cases reads
      exact moved.rejects_positive
  · rw [reads_append, reads_singleton]
    rcases stopped with goes | ⟨silent, others, last, whole, stops, goes⟩
    · cases reads : action.readBy index with
      | none => exact .inl (by simpa using goes)
      | some result =>
        obtain ⟨outcome, rfl, came⟩ := readBy_eq_some reads
        cases stops : result.stops with
        | false =>
          refine .inl fun other listed => ?_
          rcases List.mem_append.mp listed with earlier | last
          · exact goes other earlier
          · rw [List.mem_singleton.mp last, stops]
        | true => exact .inr ⟨moved.silenced came stops, _, result, rfl, stops, goes⟩
    · obtain ⟨silent, none_⟩ := silent.step moved
      rw [none_, whole]
      exact .inr ⟨silent, others, last, List.append_nil _, stops, goes⟩

/-- What is known of the results holds of every run. -/
theorem of_path (path : Path Session.step (fun _ _ => True) {} actions session) :
    Reading index actions session := by
  -- The results grow with the path, and each of them keeps what is known.
  induction path with
  | nil => exact ⟨rfl, nofun, .inl nofun⟩
  | snoc _ _ stepped held => exact held.step (.of_step stepped)

/-- Everything before the end has been delivered. -/
theorem takeWhile (reading : Reading index actions session)
    (lasts : ∀ result ∈ reads index actions,
      result.isEndOfStream = false ∧ result.isInterrupted = false ∧ result.isRejected = false) :
    session.deliveredBy index =
      ((reads index actions).takeWhile fun result => !result.ends).filterMap ReadResult.data? := by
  have goes (result : ReadResult) (listed : result ∈ reads index actions)
      (stays : result.stops = false) : (!result.ends) = true := by
    rw [ReadResult.goes_on stays (lasts result listed).1
      (by rintro length buffer message rfl; exact reading.positive _ _ _ listed)]
    rfl
  rw [reading.delivered]
  rcases reading.stopped with stays | ⟨-, others, last, whole, stops, stays⟩
  · rw [List.takeWhile_eq_self_iff.mpr fun result listed =>
      goes result listed (stays result listed), ReadResult.published_eq stays]
  · -- An exception is the end, and there is no data in it.
    have ends : last.ends = true := by
      cases last with
      | returned length buffer => cases stops
      | rejected length buffer message =>
        have kept := (lasts (.rejected length buffer message) (by simp [whole])).2.2
        cases stops.symm.trans kept
      | _ => rfl
    rw [whole, List.takeWhile_append_of_pos fun result listed =>
      goes result (by simp [whole, listed]) (stays result listed)]
    simp [ends, ReadResult.published_of_stops stops, ReadResult.published_eq stays]

end Reading

/-- Neither a negative count nor a cancellation that nobody has asked for is ever noticed. -/
theorem Delivers.noticed (delivers : Delivers index actions session)
    (path : Path Session.step (fun _ _ => True) {} actions session) :
    ∀ result ∈ reads index actions,
      result.isEndOfStream = false ∧ result.isInterrupted = false := by
  intro result listed
  obtain ⟨action, made, reads⟩ := List.mem_filterMap.mp listed
  obtain ⟨earlier, later, rfl⟩ := List.append_of_mem made
  rw [List.append_cons] at path
  obtain ⟨middle, former, -⟩ := path.split
  obtain ⟨before, first, -, stepped⟩ := former.last
  by_contra missed
  rw [not_and_or, Bool.not_eq_false, Bool.not_eq_false] at missed
  have ends : result.ends = true := by
    cases result <;>
      simp_all [ReadResult.ends, ReadResult.isEndOfStream, ReadResult.isInterrupted]
  -- The step would have to announce an error, and it announces nothing.
  obtain ⟨cause, -, events⟩ :=
    (delivers.ended earlier _ later _ before middle rfl reads ends first stepped).1
  obtain ⟨outcome, rfl, came⟩ := readBy_eq_some reads
  rw [(Moves.of_step stepped).unnoticed came missed] at events
  exact absurd events (by simp)

/-- What the logger or the matcher throws at is never delivered. -/
theorem Delivers.accepted (delivers : Delivers index actions session)
    (path : Path Session.step (fun _ _ => True) {} actions session) :
    ∀ result ∈ reads index actions, result.isRejected = false := by
  have reading : Reading index actions session := .of_path path
  have noticed := delivers.noticed path
  intro result listed
  by_contra rejected
  rw [Bool.not_eq_false] at rejected
  -- The result stops the reader, and so it is the last one.
  cases result with
  | rejected length buffer message =>
    rcases reading.stopped with stays | ⟨-, others, last, whole, stops, stays⟩
    · cases (stays _ listed).symm.trans rejected
    · have isLast : last = .rejected length buffer message := by
        rw [whole] at listed
        rcases List.mem_append.mp listed with earlier | last
        · cases (stays _ earlier).symm.trans rejected
        · exact (List.mem_singleton.mp last).symm
      have positive : 0 < length := of_decide_eq_true rejected
      have goes : ∀ result ∈ reads index actions, (!result.ends) = true := by
        intro other listed'
        rw [whole] at listed'
        rcases List.mem_append.mp listed' with earlier | final
        · have read : other ∈ reads index actions := by simp [whole, earlier]
          rw [ReadResult.goes_on (stays other earlier) (noticed other read).1
            (by rintro length buffer message rfl; exact reading.positive _ _ _ read)]
          rfl
        · rw [List.mem_singleton.mp final, isLast]
          simp only [ReadResult.ends, Bool.not_eq_true', decide_eq_false_iff_not]
          omega
      -- The data is one more than what has been published.
      have delivered := delivers.delivered
      rw [reading.delivered, List.takeWhile_eq_self_iff.mpr goes, whole, List.filterMap_append,
        List.filterMap_append, ReadResult.published_eq stays] at delivered
      have final := List.append_cancel_left delivered
      have data : (ReadResult.rejected length buffer message).data? =
          some (receivedData length buffer) := if_pos positive
      rw [isLast, List.filterMap_cons_none rfl, List.filterMap_cons_some data] at final
      cases final
  | _ => cases rejected

/-- Without a negative count, an exception at the bytes of a read and a cancellation that nobody
has asked for everything is delivered. -/
theorem Delivers.of_path (path : Path Session.step (fun _ _ => True) {} actions session)
    (lasts : ∀ result ∈ reads index actions,
      result.isEndOfStream = false ∧ result.isInterrupted = false ∧ result.isRejected = false) :
    Delivers index actions session := by
  -- What is announced and delivered is known of every run, and the end of this one.
  refine ⟨?_, (Reading.of_path path).takeWhile lasts, ?_⟩
  · exact path.run.invariant (by rfl) fun _ _ stepped held => announced_step (.of_step stepped) held
  · rintro earlier action later result before middle rfl reads_ ends first stepped
    have lasts := lasts result (List.mem_filterMap.mpr ⟨action, by simp, reads_⟩)
    obtain ⟨outcome, rfl, same⟩ := readBy_eq_some reads_
    have moved := Moves.of_step stepped
    -- The end that is left is an exception of the read itself.
    have threw : ∃ message, outcome.failure = some message := by
      cases outcome <;> cases same
      · cases ends.symm.trans lasts.1
      · exact absurd moved.rejects_positive (by simp [ReadResult.ends] at ends; omega)
      · cases lasts.2.1
      · exact ⟨_, rfl⟩
    -- From the exception on the reader is past its loop.
    obtain ⟨message, threw⟩ := threw
    rw [List.append_cons] at path
    obtain ⟨middle', former, latter⟩ := path.split
    obtain rfl := former.unique (first.snoc trivial stepped)
    obtain ⟨notices, silent⟩ := moved.stopped threw
    obtain ⟨⟨last, found, past⟩, unread⟩ := silent.path latter
    refine ⟨notices, unread, fun reader link there at_ => ?_⟩
    obtain rfl := Option.some.inj (found.symm.trans there)
    rw [at_] at past
    cases past

/--
A reader delivers everything and notices the end, in every run from the start of the session.

This is so exactly when no read of it reports the end of the stream with a negative count, neither
the logger nor the matcher throws an exception at the bytes of a read, and none of the three throws
a cancellation that nobody has asked for.
-/
theorem delivers_iff (path : Path Session.step (fun _ _ => True) {} actions session) (index : Nat) :
    Delivers index actions session ↔ ∀ result ∈ reads index actions,
      result.isEndOfStream = false ∧ result.isInterrupted = false ∧ result.isRejected = false := by
  constructor
  · intro delivers result listed
    obtain ⟨endless, uninterrupted⟩ := delivers.noticed path result listed
    exact ⟨endless, uninterrupted, delivers.accepted path result listed⟩
  · exact Delivers.of_path path

end Session

/-! A reader that meets the end of the stream, and one that meets an exception. -/

namespace Sample

/-- The first read reports the end of the stream. -/
def draining : List Action :=
  connecting 0 ++ [.resume (.reader 0) .resumes, .resume (.reader 0) (.returns (-1) [])]

/-- The reads return two bytes, nothing, and then an exception. -/
def vanishing : List Action :=
  connecting 0 ++ [.resume (.reader 0) .resumes, .resume (.reader 0) (.returns 2 [1, 2, 3]),
    .resume (.reader 0) .resumes, .resume (.reader 0) (.returns 0 []),
    .resume (.reader 0) (.throws "gone")]

end Sample

namespace Session

/-- After the end of the stream the reader goes on to read, and the session stays connected. -/
theorem draining_unnoticed :
    ¬∀ (index : Nat) (actions : List Action) (session : Session) (reader : Reader),
      Path Session.step (fun _ _ => True) {} actions session →
      session.readers[index]? = some reader → reader.cancelled = false →
      Delivers index actions session := by
  intro always
  obtain ⟨session, path, test⟩ := Path.of_test
    (fun session => (session.readers[0]?).any fun reader => !reader.cancelled)
    (show (execute Session.step (fun _ _ => True) {} Sample.draining).any _ = true by
      decide +kernel)
  obtain ⟨reader, found, live⟩ := (Option.any_eq_true _ _).mp test
  have delivers := always 0 _ session reader path found (by simpa using live)
  have lasts := delivers.noticed path (.returned (-1) []) (by decide)
  -- The one read of the run has returned -1.
  cases lasts.1

/-- What has been read before an exception is delivered, and the exception noticed. -/
theorem vanishing_delivered :
    ∃ session, Path Session.step (fun _ _ => True) {} Sample.vanishing session ∧
      session.deliveredBy 0 = [[1, 2]] ∧ Delivers 0 Sample.vanishing session := by
  obtain ⟨session, path, test⟩ := Path.of_test (fun session => session.deliveredBy 0 == [[1, 2]])
    (show (execute Session.step (fun _ _ => True) {} Sample.vanishing).any _ = true by
      decide +kernel)
  exact ⟨session, path, beq_iff_eq.mp test, (delivers_iff path 0).mpr (by decide)⟩

end Session

end SerialPort
