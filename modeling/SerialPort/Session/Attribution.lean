import SerialPort.Session.Answer
import SerialPort.Session.Calls

/-! Responses and the connections they are read on. -/

namespace SerialPort

namespace Session

/-- The command waits for a response once it has been written. -/
def IsRequest (session : Session) (queued : Nat) : Prop :=
  (session.queue[queued]?).any (fun entry => entry.command.responseMatcher.isSome) = true

instance (session : Session) (queued : Nat) : Decidable (session.IsRequest queued) :=
  inferInstanceAs (Decidable (_ = true))

/-- The writer is in the middle of writing a request, or has just written it. -/
def Writes (session : Session) (writer : Writer) : Prop :=
  match writer.point with
  | .writing queued _ _ => writer.cancelled = false ∧ session.IsRequest queued
  | .resuming queued _ _ => writer.cancelled = false ∧ session.IsRequest queued
  | .reporting queued result => result.isSent = true ∧ session.IsRequest queued
  | _ => False

instance (session : Session) (writer : Writer) : Decidable (session.Writes writer) := by
  delta Writes
  rcases writer.point with _ | _ <;> infer_instance

/-- Whether the step is a read that returns bytes although its connection has ended. -/
def readsLateBy (session : Session) : Action → Bool
  | .resume (.reader index) (.returns length _) =>
    (session.readers[index]?).any fun reader =>
      match reader.point with
      | .reading link => 0 < length && (link != session.link || link.isNone)
      | _ => false
  | _ => false

/-- A connection begins only when no request of an earlier one is pending, and reads end with it. -/
structure SeparatesConnections (session : Session) (action : Action) : Prop where
  opens : session.opensBy action = true →
    session.pendingResponse = none ∧ ∀ writer ∈ session.writers, ¬session.Writes writer
  reads : session.readsLateBy action = false

instance (session : Session) (action : Action) :
    Decidable (session.SeparatesConnections action) :=
  decidable_of_iff ((session.opensBy action = true →
    session.pendingResponse = none ∧ ∀ writer ∈ session.writers, ¬session.Writes writer) ∧
    session.readsLateBy action = false)
    ⟨fun ⟨opens, reads⟩ => ⟨opens, reads⟩, fun guard => ⟨guard.opens, guard.reads⟩⟩

/-- A response is the one chunk that answered the command, on the connection it was written on. -/
def Attributed (session : Session) : Prop :=
  ∀ (queued : Nat) (entry : QueuedCommand) (data : Bytes), session.queue[queued]? = some entry →
    entry.result = some (.response data) →
    entry.command.accepts data = true ∧
      ∃ (index : Nat) (chunk : Chunk), entry.answeredBy = some index ∧
        session.chunks[index]? = some chunk ∧ chunk.data = data ∧
        chunk.readOn.isSome ∧ entry.writtenOn = chunk.readOn ∧
        ∀ (other : Nat) (entry' : QueuedCommand), session.queue[other]? = some entry' →
          entry'.answeredBy = some index → other = queued

/-- The command was written on the current connection, or that has ended since. -/
def WrittenHere (session : Session) (queued : Nat) : Prop :=
  ∀ entry, session.queue[queued]? = some entry →
    entry.writtenOn = some session.opens ∨ session.link = none

/-- What the writer writes or has written belongs to the current connection. -/
def Linked (session : Session) (writer : Writer) : Prop :=
  session.Writes writer →
    match writer.point with
    | .writing _ _ link => link = session.link ∨ session.link = none
    | .resuming queued _ _ => session.WrittenHere queued
    | .reporting queued _ => session.WrittenHere queued
    | _ => True

/-- Whatever waits for a response was written on the current connection. -/
structure Separate (session : Session) : Prop where
  one : session.OneLink
  slot : ∀ queued, session.pendingResponse = some queued → session.WrittenHere queued
  writers : ∀ writer ∈ session.writers, session.Linked writer
  answered : ∀ (queued index : Nat) (entry : QueuedCommand), session.queue[queued]? = some entry →
    entry.answeredBy = some index →
    ∃ chunk, session.chunks[index]? = some chunk ∧ chunk.readOn.isSome ∧
      entry.writtenOn = chunk.readOn

/-- Where requests of other connections are apart, every answer is attributed to its request. -/
theorem Separate.attributed {session : Session} (separate : Separate session)
    (answers : Answers session) : Attributed session := by
  intro queued entry data entered response
  obtain ⟨index, answeredBy⟩ := Option.isSome_iff_exists.mp
    (answers.only queued entry data entered response)
  -- The chunk that completed it, and the connection that this chunk was read on.
  obtain ⟨chunk, handled, accepts, result⟩ := answers.sound queued index entry entered answeredBy
  obtain ⟨chunk', handled', readOn, writtenOn⟩ :=
    separate.answered queued index entry entered answeredBy
  obtain rfl : chunk = chunk' := Option.some.inj (handled.symm.trans handled')
  obtain rfl : chunk.data = data := by simpa [result] using response
  exact ⟨accepts, index, chunk, answeredBy, handled, rfl, readOn, writtenOn,
    fun other entry' entered' answered' => answers.once other queued index entry' entry entered'
      entered answered' answeredBy⟩

variable {session next : Session} {index queued : Nat} {writer : Writer}

/-! The connection a command was written on. -/

/-- A command that nobody is writing keeps its stamp. -/
theorem Moves.stamp {action : Action} (moved : Moves session action next)
    (idle : ∀ (index : Nat) (writer : Writer) (attempt : Nat) (link : Option Nat),
      session.writers[index]? = some writer → writer.point ≠ .writing queued attempt link)
    {after : QueuedCommand} (entered : next.queue[queued]? = some after)
    (inside : queued < session.queue.length) :
    ∃ before, session.queue[queued]? = some before ∧ after.writtenOn = before.writtenOn := by
  obtain ⟨after', entered', moved⟩ :=
    (EntriesMove.of_moves moved).old queued _ (List.getElem?_eq_getElem inside)
  obtain rfl : after' = after := Option.some.inj (entered'.symm.trans entered)
  refine ⟨_, List.getElem?_eq_getElem inside, ?_⟩
  cases moved with
  -- The one move that stamps an entry is the end of its own write.
  | written found at_ => exact absurd at_ (idle _ _ _ _ found)
  | reported found at_ => simp
  | failed found at_ => simp
  | timedOut timeout => simp
  | answered found at_ waits chunk => simp
  | _ => rfl

/-- Nobody is writing a command that is in another place. -/
theorem idle_of_holds (custody : Custody session) {place : Owner}
    (held : session.Holds place queued)
    (elsewhere : ∀ (index : Nat) (writer : Writer), place = .writer index →
      session.writers[index]? = some writer →
      ∀ attempt link, writer.point ≠ .writing queued attempt link)
    (index : Nat) (writer : Writer) (attempt : Nat) (link : Option Nat)
    (found : session.writers[index]? = some writer) :
    writer.point ≠ .writing queued attempt link := by
  intro at_
  have held' : session.Holds (.writer index) queued :=
    holds_of_hand found (by simp [at_, WriterPoint.held])
  obtain rfl := custody.sound.unique held held'
  exact elsewhere index writer rfl found attempt link at_

/-! A step that begins no connection. -/

/-- A request that is one now was one before. -/
theorem IsRequest.of_evolves (request : next.IsRequest queued) (evolves : Evolves session next)
    (inside : queued < session.queue.length) : session.IsRequest queued := by
  obtain ⟨after, entered, matcher⟩ := (Option.any_eq_true _ _).mp request
  obtain ⟨after', entered', evolved⟩ := evolves queued _ (List.getElem?_eq_getElem inside)
  obtain rfl : after' = after := Option.some.inj (entered'.symm.trans entered)
  refine (Option.any_eq_true _ _).mpr ⟨_, List.getElem?_eq_getElem inside, ?_⟩
  rw [← evolved.command]
  exact matcher

/-- A command stays on the connection it was written on while that lasts. -/
theorem WrittenHere.keep (here : session.WrittenHere queued) (opens : next.opens = session.opens)
    (link : next.link = session.link ∨ next.link = none)
    (stamp : ∀ after, next.queue[queued]? = some after →
      ∃ before, session.queue[queued]? = some before ∧ after.writtenOn = before.writtenOn) :
    next.WrittenHere queued := by
  intro after entered
  obtain ⟨before, there, same⟩ := stamp after entered
  -- Written on this connection, or there is none any more; no step in between opens one.
  rcases here before there with current | closed
  · exact .inl (by rw [same, current, opens])
  · rcases link with kept | closed'
    · exact .inr (kept.trans closed)
    · exact .inr closed'

namespace Separate

/-- A turn of a writer that has not written a request just now. -/
theorem unwritten {turned : Writer} (point : Writer.Unwritten session.link turned.point)
    (link : next.link = session.link) : next.Linked turned := by
  intro writes
  unfold Writes at writes
  cases at_ : turned.point <;> simp only [at_] at writes ⊢
  · exact .inl ((point.writes _ _ _ at_).trans link.symm)
  · exact absurd at_ (point.resumes _ _ _)
  · exact absurd writes.1 (by simp [point.reports _ _ at_])

/-- What a writer holds stays linked while the connection lasts. -/
theorem linked (separate : Separate session) (custody : Custody session) {action : Action}
    (moved : Moves session action next) (opens : next.opens = session.opens)
    (link : next.link = session.link ∨ next.link = none)
    (found : session.writers[index]? = some writer) : next.Linked writer := by
  intro writes
  have evolves := Evolves.of_moves moved
  have before := separate.writers writer (List.mem_of_getElem? found)
  have inside {token : Nat} (held : writer.point.held = some token) :
      token < session.queue.length := by
    obtain ⟨entry, entered, -⟩ := custody.held_entry found held
    exact (List.getElem?_eq_some_iff.mp entered).1
  -- A command that its writer has written already is not written by anybody else.
  have stamped {token : Nat} (held : writer.point.held = some token)
      (ended : ∀ attempt link, writer.point ≠ .writing token attempt link)
      (here : session.WrittenHere token) : next.WrittenHere token := by
    refine here.keep opens link fun after entered =>
      moved.stamp (idle_of_holds custody (holds_of_hand found held) ?_) entered (inside held)
    intro other writer' same found' attempt link' at_'
    obtain rfl := Owner.writer.inj same
    obtain rfl : writer = writer' := Option.some.inj (found.symm.trans found')
    exact ended attempt link' at_'
  unfold Linked at before
  unfold Writes at writes before
  cases at_ : writer.point <;> simp only [at_] at writes before ⊢
  case writing token attempt link' =>
    have held : writer.point.held = some token := by rw [at_]; rfl
    rcases before ⟨writes.1, writes.2.of_evolves evolves (inside held)⟩ with same | closed
    · rcases link with kept | closed'
      · exact .inl (same.trans kept.symm)
      · exact .inr closed'
    · rcases link with kept | closed'
      · exact .inr (kept.trans closed)
      · exact .inr closed'
  case resuming token attempt bytes =>
    have held : writer.point.held = some token := by rw [at_]; rfl
    exact stamped held (by simp [at_])
      (before ⟨writes.1, writes.2.of_evolves evolves (inside held)⟩)
  case reporting token result =>
    have held : writer.point.held = some token := by rw [at_]; rfl
    exact stamped held (by simp [at_])
      (before ⟨writes.1, writes.2.of_evolves evolves (inside held)⟩)

/-- A cancelled writer writes nothing more. -/
theorem linked_cancel (linked : session.Linked writer) : session.Linked writer.cancel := by
  intro writes
  unfold Linked Writes at linked
  unfold Writes at writes
  show match writer.point with
    | .writing _ _ link => link = session.link ∨ session.link = none
    | .resuming queued _ _ => session.WrittenHere queued
    | .reporting queued _ => session.WrittenHere queued
    | _ => True
  -- Of a write only a live writer is asked; a report already on its way keeps its link.
  cases at_ : writer.point <;> simp only [Writer.cancel, at_] at writes linked ⊢
  case writing => simp at writes
  case resuming => simp at writes
  case reporting => exact linked writes

/-- What waits in the slot still belongs to the connection. -/
theorem slot_keep (separate : Separate session) (custody : Custody session) {action : Action}
    (moved : Moves session action next) (opens : next.opens = session.opens)
    (link : next.link = session.link ∨ next.link = none)
    (waits : session.pendingResponse = some queued) : next.WrittenHere queued := by
  obtain ⟨entry, entered, -⟩ := custodian_eq_some (custody.sound .response queued waits)
  refine (separate.slot queued waits).keep opens link fun after entered' => ?_
  have holder : session.Holds .response queued := waits
  have idle := idle_of_holds custody holder fun index writer same => by cases same
  exact moved.stamp idle entered' (List.getElem?_eq_some_iff.mp entered).1

/-- The commands that are answered stay answered by the same chunks. -/
theorem answered_keep (separate : Separate session) (custody : Custody session)
    (answers : Answers session) {action : Action} (moved : Moves session action next)
    (quiet : Quiet session next) (queued index : Nat) (after : QueuedCommand)
    (entered : next.queue[queued]? = some after) (answered : after.answeredBy = some index) :
    ∃ chunk, next.chunks[index]? = some chunk ∧ chunk.readOn.isSome ∧
      after.writtenOn = chunk.readOn := by
  rcases quiet queued after entered with ⟨before, there, quiet⟩ | ⟨unanswered, -⟩
  · have answered' := quiet.answeredBy ▸ answered
    obtain ⟨chunk, handled, readOn, writtenOn⟩ :=
      separate.answered queued index before there answered'
    obtain ⟨more, chunks⟩ := moved.chunks
    refine ⟨chunk, ?_, readOn, ?_⟩
    · rw [← chunks, List.getElem?_append_left (List.getElem?_eq_some_iff.mp handled).1, handled]
    have idle (place : Nat) (writer : Writer) (attempt : Nat) (link : Option Nat)
        (found : session.writers[place]? = some writer) :
        writer.point ≠ .writing queued attempt link := by
      intro at_
      -- A command that is answered is complete.
      obtain ⟨_, -, -, result⟩ := answers.sound queued index before there answered'
      rw [custody.held_waits found (by rw [at_]; rfl) there] at result
      cases result
    obtain ⟨before', there', same⟩ :=
      moved.stamp idle entered (List.getElem?_eq_some_iff.mp there).1
    obtain rfl : before' = before := Option.some.inj (there'.symm.trans there)
    rw [same, writtenOn]
  · rw [unanswered] at answered
    cases answered

/-- A step of anybody but a writer, which begins no connection and answers no command. -/
theorem keep (separate : Separate session) (custody : Custody session) (answers : Answers session)
    {action : Action} (moved : Moves session action next)
    (quiet : Quiet session next) (opens : next.opens = session.opens)
    (link : next.link = session.link ∨ next.link = none)
    (slot : ∀ queued, next.pendingResponse = some queued → session.pendingResponse = some queued)
    (writers : ∀ (index : Nat) (writer : Writer), next.writers[index]? = some writer →
      ∃ before, session.writers[index]? = some before ∧
        (writer = before ∨ writer = before.cancel)) : Separate next where
  one := separate.one.step moved
  slot := fun queued waits => separate.slot_keep custody moved opens link (slot queued waits)
  writers := by
    intro writer there
    obtain ⟨index, there⟩ := List.getElem?_of_mem there
    obtain ⟨before, found, same⟩ := writers index writer there
    have linked : next.Linked before := separate.linked custody moved opens link found
    -- Cancelling is all that such a step may do to a writer.
    rcases same with rfl | rfl
    · exact linked
    · exact linked_cancel linked
  answered := separate.answered_keep custody answers moved quiet

/-- The next connection begins when nothing waits for a response or is about to. -/
theorem opened (separate : Separate session) (empty : session.pendingResponse = none)
    (quiet : ∀ writer ∈ session.writers, ¬session.Writes writer)
    (queue : next.queue = session.queue) (chunks : next.chunks = session.chunks)
    (slot : next.pendingResponse = session.pendingResponse)
    (writers : ∃ started : Writer, next.writers = session.writers ++ [started] ∧
      started.point = .dispatch) (one : next.OneLink) : Separate next where
  one := one
  slot := by
    intro queued waits
    rw [slot, empty] at waits
    cases waits
  writers := by
    intro writer there writes
    obtain ⟨started, writers, fresh⟩ := writers
    -- What a writer of an old connection has written was nothing, as with a new one.
    have writes' : session.Writes writer := by
      unfold Writes IsRequest at writes ⊢
      rw [← queue]
      exact writes
    rw [writers] at there
    rcases List.mem_append.mp there with earlier | new
    · exact absurd writes' (quiet writer earlier)
    · obtain rfl := List.mem_singleton.mp new
      unfold Writes at writes
      rw [fresh] at writes
      exact absurd writes not_false
  answered := by
    rw [queue, chunks]
    exact separate.answered

/-- A chunk read on the current connection answers a command written on it. -/
theorem handleChunk (separate : Separate session) (custody : Custody session)
    (answers : Answers session) {reader : Reader} {link : Option Nat} {data : Bytes}
    {action : Action} (moved : Moves session action (session.handleChunk index reader data link))
    (current : link = session.link) (open_ : session.link.isSome) :
    Separate (session.handleChunk index reader data link) := by
  rcases session.handleChunk_cases index reader data link with
    shape | ⟨queued, entry, waits, entered, accepts, shape⟩
  · -- The chunk completes no command, and is only added to those handled.
    exact separate.keep custody answers moved (.of_queue (by rw [shape]; rfl))
      (by rw [shape]; rfl) (.inl (by rw [shape]; rfl)) (by rw [shape]; exact fun _ => id)
      (by rw [shape]; exact fun _ writer found => ⟨writer, found, .inl rfl⟩)
  obtain ⟨entry', entered', result, -⟩ := custodian_eq_some (custody.sound .response queued waits)
  obtain rfl : entry' = entry := Option.some.inj (entered'.symm.trans entered)
  have one : (session.handleChunk index reader data link).OneLink := separate.one.step moved
  rw [shape] at one moved ⊢
  constructor
  case one => exact one
  case slot => exact fun _ waits => nomatch waits
  case writers =>
    intro writer there
    obtain ⟨place, found⟩ := List.getElem?_of_mem (show writer ∈ session.writers from there)
    exact separate.linked custody moved rfl (.inl rfl) found
  case answered =>
    -- The command that the chunk completes is the only one whose answer changes.
    intro other place after there answered
    obtain ⟨before, found, rfl⟩ := Option.map_eq_some_iff.mp
      ((List.getElem?_modify _ _ _ _).symm.trans there)
    by_cases same : queued = other
    · subst same
      obtain rfl : entry' = before := Option.some.inj (entered.symm.trans found)
      simp only [if_pos, QueuedCommand.answer, result, Option.isNone_none] at answered ⊢
      obtain rfl := Option.some.inj answered
      -- The command was written on the connection that the chunk was read on.
      rcases separate.slot queued waits entry' entered with written | closed
      · rcases separate.one with closed | latest
        · simp [closed] at open_
        · exact ⟨session.chunkFrom index data link, by simp [pass],
            by simp [chunkFrom, current, open_],
            by simp [chunkFrom, current, written, latest]⟩
      · simp [closed] at open_
    · rw [if_neg same] at answered ⊢
      obtain ⟨chunk, handled, readOn, writtenOn⟩ :=
        separate.answered other place before found answered
      refine ⟨chunk, ?_, readOn, writtenOn⟩
      show (session.chunks ++ _)[place]? = some chunk
      rw [List.getElem?_append_left (List.getElem?_eq_some_iff.mp handled).1, handled]

/-- What a writer arms was written on the current connection. -/
theorem slot_inWriter (separate : Separate session) (custody : Custody session)
    (found : session.writers[index]? = some writer) {outcome : Outcome}
    (moved : WriterMoves session index writer outcome next)
    (waits : next.pendingResponse = some queued) : next.WrittenHere queued := by
  have besides := moved.besides
  have link : next.link = session.link ∨ next.link = none := .inl besides.link
  have kept (waits : session.pendingResponse = some queued) : next.WrittenHere queued :=
    separate.slot_keep custody (.inWriter found moved) besides.opens link waits
  cases moved with
  -- Only a report arms a command, and every other turn leaves the slot as it is.
  | begin at_ entered live => exact kept ((Turned.pendingResponse beginWriting_turned) ▸ waits)
  | resumed at_ entered live =>
    exact kept ((Turned.pendingResponse (attemptEnded_turned _)) ▸ waits)
  | attempted at_ entered missed ended =>
    exact kept ((Turned.pendingResponse (attemptEnded_turned _)) ▸ waits)
  | retry at_ entered live => exact kept ((Turned.pendingResponse beginAttempt_turned) ▸ waits)
  | @reported token entry result at_ entered =>
    have linked := separate.writers writer (List.mem_of_getElem? found)
    by_cases request : (result.isSent && entry.command.responseMatcher.isSome) = true
    · have armed : token = queued := by
        unfold report at waits
        simp only [request, if_true] at waits
        exact Option.some.inj waits
      subst armed
      obtain ⟨sent, matcher⟩ := Bool.and_eq_true_iff.mp request
      unfold Linked Writes at linked
      simp only [at_] at linked
      have here := linked ⟨sent, by simp [IsRequest, entered, matcher]⟩
      -- The report is in the writer's hands, and so nobody stamps the command in this step.
      have holder : session.Holds (.writer index) token :=
        holds_of_hand found (by simp [at_, WriterPoint.held])
      refine here.keep besides.opens link fun after there =>
        Moves.stamp (.inWriter found (.reported at_ entered)) (idle_of_holds custody holder ?_)
          there (List.getElem?_eq_some_iff.mp entered).1
      intro other writer' same found' attempt link' at_'
      obtain rfl := Owner.writer.inj same
      obtain rfl : writer = writer' := Option.some.inj (found.symm.trans found')
      cases at_.symm.trans at_'
    · -- The command waits for no response, and the slot keeps what it has.
      unfold report at waits
      simp only [request, Bool.false_eq_true, if_false] at waits
      exact kept waits
  | @failSettled token error at_ =>
    refine kept ?_
    rw [← Untouched.failSettle.pendingResponse]
    exact waits
  | _ => exact kept waits

/-- The writer that takes a turn. -/
theorem linked_inWriter (separate : Separate session) (custody : Custody session)
    (found : session.writers[index]? = some writer) {outcome : Outcome}
    (moved : WriterMoves session index writer outcome next) :
    ∃ turned, next.writers = session.writers.set index turned ∧ next.Linked turned := by
  have link := moved.besides.link
  have evolves := Evolves.of_moves (.inWriter found moved)
  cases moved with
  -- A writer between two commands has nothing written to speak of.
  | start at_ live => exact ⟨_, rfl, unwritten ⟨by simp, by simp, by simp⟩ link⟩
  | @take channel queued from_ rest entry at_ bound there buffered entered =>
    refine ⟨_, rfl, unwritten ?_ link⟩
    unfold Writer.pausing
    cases (writer.delayFor entry.command).toMillis <;> exact ⟨by simp, by simp, by simp⟩
  | drained at_ bound there buffered closed =>
    exact ⟨_, rfl, unwritten ⟨by simp, by simp, by simp⟩ link⟩
  | begin at_ entered live =>
    exact ⟨_, Turned.writers beginWriting_turned, unwritten Writer.began_unwritten link⟩
  | @written queued attempt link' entry length buffer at_ entered live =>
    refine ⟨_, rfl, fun writes => ?_⟩
    simp only [Writes] at writes ⊢
    have before := separate.writers writer (List.mem_of_getElem? found)
    unfold Linked Writes at before
    simp only [at_] at before
    -- The command has been a request all along.
    have request := writes.2.of_evolves evolves (List.getElem?_eq_some_iff.mp entered).1
    intro after there
    obtain ⟨entry', -, rfl⟩ := Option.map_eq_some_iff.mp
      ((List.getElem?_modify _ _ _ _).symm.trans there)
    simp only [if_pos]
    -- The write was called on the link of this connection, or the transport has been closed.
    rcases before ⟨live, request⟩ with current | closed
    · rcases separate.one with closed | latest
      · exact .inr closed
      · exact .inl (by simp [current, latest, written, setWriter])
    · exact .inr closed
  | @resumed queued attempt length entry at_ entered live =>
    -- The report that follows is about the command that has been written.
    refine ⟨_, Turned.writers (attemptEnded_turned _), ?_⟩
    rw [Writer.attempted_sent]
    have here := separate.linked custody (.inWriter found (.resumed at_ entered live))
      (attemptEnded_turned _).besides.opens (.inl link) found
    intro writes
    unfold Linked Writes at here
    simp only [at_] at here
    exact here ⟨live, writes.2⟩
  | attempted at_ entered missed ended =>
    exact ⟨_, Turned.writers (attemptEnded_turned _),
      unwritten (Writer.attempted_unwritten missed) link⟩
  | retry at_ entered live =>
    exact ⟨_, Turned.writers beginAttempt_turned, unwritten Writer.attempting_unwritten link⟩
  | @reported token entry result at_ entered =>
    exact ⟨_, report_writers result, unwritten ⟨by simp, by simp, by simp⟩ link⟩
  | failChanged at_ => exact ⟨_, rfl, unwritten ⟨by simp, by simp, by simp⟩ link⟩
  | @failSettled token error at_ =>
    exact ⟨_, writerFailed_writers error, unwritten ⟨by simp, by simp, by simp⟩ link⟩
  | cancelled open_ cancelled => exact ⟨_, rfl, unwritten ⟨by simp, by simp, by simp⟩ link⟩

/-- Every move of a writer keeps the requests of other connections apart. -/
theorem inWriter (separate : Separate session) (custody : Custody session)
    (served : AllServed session) (answers : Answers session)
    (found : session.writers[index]? = some writer) {outcome : Outcome}
    (moved : WriterMoves session index writer outcome next) : Separate next where
  one := separate.one.step (.inWriter found moved)
  slot := fun _ waits => separate.slot_inWriter custody found moved waits
  writers := by
    obtain ⟨turned, writers, linked⟩ := separate.linked_inWriter custody found moved
    intro other there
    obtain ⟨place, there⟩ := List.getElem?_of_mem there
    -- Only the writer that takes the turn is another one after it.
    rw [writers, List.getElem?_set] at there
    split at there
    · split at there
      · obtain rfl := Option.some.inj there
        exact linked
      · cases there
    · exact separate.linked custody (.inWriter found moved) moved.besides.opens
        (.inl moved.besides.link) there
  answered := separate.answered_keep custody answers (.inWriter found moved)
    (.of_chunks served (.inWriter found moved) moved.besides.chunks)

/-- Every step that separates the connections keeps them separate. -/
theorem step (separate : Separate session) (custody : Custody session)
    (served : AllServed session) (answers : Answers session) {action : Action}
    (separates : session.SeparatesConnections action) (moved : Moves session action next) :
    Separate next := by
  -- Each step has the same four parts to keep: one link, the slot, the writers, the answers.
  have one := separate.one.step moved
  have quiet (chunks : next.chunks = session.chunks) : Quiet session next :=
    .of_chunks served moved chunks
  have same (before : List Writer) (index : Nat) (writer : Writer)
      (found : before[index]? = some writer) :
      ∃ earlier, before[index]? = some earlier ∧ (writer = earlier ∨ writer = earlier.cancel) :=
    ⟨writer, found, .inl rfl⟩
  rcases moved.untouched_or_custodial with untouched | custodial
  · refine separate.keep custody answers moved (quiet untouched.chunks) untouched.opens
      untouched.link (fun _ waits => untouched.pendingResponse ▸ waits) ?_
    rw [untouched.writers]
    exact same session.writers
  cases custodial with
  | send command =>
    obtain ⟨queue, channels, shape⟩ := session.send_shape command
    exact separate.keep custody answers moved (quiet (by rw [shape])) (by rw [shape])
      (.inl (by rw [shape])) (by rw [shape]; exact fun _ => id)
      (by rw [shape]; exact same session.writers)
  | disconnectStrike found at_ =>
    obtain ⟨queue, channels, shape⟩ := session.cancelWorkers.poll_shape
    refine separate.keep custody answers moved
      (quiet (by simp only [disconnectStrike, shape]; rfl))
      (by simp only [disconnectStrike, shape]; rfl) (.inr rfl)
      -- The call cancels the workers, and takes one command out of the channel.
      (by simp only [disconnectStrike, shape]; exact fun _ => id) fun index writer there => ?_
    simp only [disconnectStrike, shape] at there
    exact cancelWorkers_writers index writer there
  | shutdownStrike at_ =>
    exact separate.keep custody answers moved (quiet rfl) rfl (.inr rfl) (fun _ => id)
      cancelWorkers_writers
  | shutdownClosed at_ =>
    exact separate.keep custody answers moved (quiet rfl) rfl (.inl rfl) (fun _ => id)
      (same session.writers)
  | shutdownFinished at_ =>
    refine separate.keep custody answers moved (quiet rfl) rfl (.inl rfl)
      (fun _ => id) fun index writer found => ?_
    simp only [shutdownFinished, List.getElem?_map] at found
    obtain ⟨before, there, rfl⟩ := Option.map_eq_some_iff.mp found
    exact ⟨before, there, .inr rfl⟩
  | connectOpened found at_ =>
    -- The guard lets nobody open the transport while something waits for a response.
    obtain ⟨empty, idle⟩ := separates.opens (by simp [opensBy, found, at_])
    exact separate.opened empty idle rfl rfl rfl ⟨_, rfl, rfl⟩ one
  | loopStrike found at_ live =>
    exact separate.keep custody answers moved (quiet rfl) rfl (.inr rfl) (fun _ => id)
      cancelWorkers_writers
  | loopOpened found at_ =>
    obtain ⟨empty, idle⟩ := separates.opens (by simp [opensBy, found, at_, LoopPoint.isOpening])
    exact separate.opened empty idle rfl rfl rfl ⟨_, rfl, rfl⟩ one
  | chunk found at_ positive =>
    -- The guard lets no reader handle a chunk of an older connection.
    have late := separates.reads
    simp only [readsLateBy, found, Option.any_some, at_, positive, decide_true, Bool.true_and,
      Bool.or_eq_false_iff, bne_eq_false_iff_eq, Option.isNone_eq_false_iff] at late
    exact separate.handleChunk custody answers moved late.1 (late.1 ▸ late.2)
  | inWriter found moved => exact separate.inWriter custody served answers found moved
  | @inTimer index timer outcome next found fired =>
    cases fired with
    | fired at_ live fits =>
      -- A timer that fires empties the slot if it is that of the waiting command.
      unfold timerFired at moved quiet ⊢
      split
      · next waits =>
        rw [if_pos waits] at moved quiet
        exact separate.keep custody answers moved (quiet rfl) rfl (.inl rfl)
          (fun _ waits => by cases waits) (same session.writers)
      · next waits =>
        rw [if_neg waits] at moved quiet
        exact separate.keep custody answers moved (quiet rfl) rfl (.inl rfl)
          (fun _ => id) (same session.writers)
    | overflowed at_ live beyond =>
      exact separate.keep custody answers moved (quiet rfl) rfl (.inl rfl)
        (fun _ => id) (same session.writers)
    | cancelled at_ cancelled =>
      exact separate.keep custody answers moved (quiet rfl) rfl (.inl rfl)
        (fun _ => id) (same session.writers)

/-- Before the first request all are apart. -/
theorem initial : Separate ({} : Session) where
  one := .inl rfl
  slot := by simp
  writers := by simp
  answered := by simp

/-- In every state reached so, whatever waits for a response belongs to the connection. -/
theorem of_run (run : Transition.Run Session.step SeparatesConnections {} session) :
    Separate session :=
  run.invariant initial fun earlier separates stepped separate =>
    separate.step (.of_run earlier) (.of_run earlier) (.of_run earlier) separates (.of_step stepped)

end Separate

/-- Where the connections are kept apart, every response belongs to the command it completes. -/
theorem attributed_apart (run : Transition.Run Session.step SeparatesConnections {} session) :
    Attributed session :=
  (Separate.of_run run).attributed (.of_run run)

end Session

/-! A request that outlives its connection. -/

namespace Sample

/-- A request is written on the first connection. -/
def requested : List Action :=
  connecting 0 ++ [.resume (.writer 0) .resumes, .send (request 1)] ++ writing 0

/-- The reader reads one byte. -/
def reading (reader : Nat) : List Action :=
  [.resume (.reader reader) .resumes, .resume (.reader reader) (.returns 1 [7])]

/-- The session is disconnected and connected again before the first chunk is read. -/
def reconnected : List Action :=
  requested ++ disconnecting 0 ++ connecting 1 ++ reading 1

end Sample

namespace Session

/-- One request was written on the first connection, and the first chunk answered it. -/
def answeredOn (session : Session) (connection : Nat) : Bool :=
  session.queue.map (fun entry => (entry.result, entry.writtenOn, entry.answeredBy)) ==
      [(some (.response [7]), some 1, some 0)] &&
    session.chunks.map Chunk.readOn == [some connection]

/-- The request of the first connection is answered by a chunk of the second one. -/
theorem reconnected_misattributed :
    ¬∀ session, Transition.Run Session.step (fun _ _ => True) {} session → Attributed session := by
  intro always
  obtain ⟨session, run, test⟩ := Transition.Run.of_test (fun session => session.answeredOn 2)
    (show (Transition.execute Session.step (fun _ _ => True) {} Sample.reconnected).any _ = true by
      decide +kernel)
  simp only [answeredOn, Bool.and_eq_true, beq_iff_eq] at test
  obtain ⟨entries, connections⟩ := test
  have request :
      (session.queue.map fun entry => (entry.result, entry.writtenOn, entry.answeredBy))[0]? =
      some (some (.response [7]), some 1, some 0) := by simp [entries]
  rw [List.getElem?_map] at request
  obtain ⟨entry, entered, same⟩ := Option.map_eq_some_iff.mp request
  obtain ⟨result, writtenOn, answeredBy⟩ : _ ∧ _ ∧ _ := by simpa only [Prod.mk.injEq] using same
  obtain ⟨-, index, chunk, answered, handled, -, -, readOn, -⟩ :=
    always session run 0 entry [7] entered result
  obtain rfl : 0 = index := Option.some.inj (answeredBy.symm.trans answered)
  -- The one chunk was read on the second connection.
  have second : (session.chunks.map Chunk.readOn)[0]? = some (some 2) := by simp [connections]
  rw [List.getElem?_map, handled] at second
  have second : chunk.readOn = some 2 := Option.some.inj second
  rw [writtenOn, second] at readOn
  exact absurd readOn (by decide)

/-- Without the second connection the request is answered on the first one. -/
theorem requested_attributed :
    ∃ session, Transition.Run Session.step SeparatesConnections {} session ∧
      session.answeredOn 1 = true ∧ Attributed session := by
  obtain ⟨session, run, test⟩ := Transition.Run.of_test (fun session => session.answeredOn 1)
    (show (Transition.execute Session.step SeparatesConnections {}
      (Sample.requested ++ Sample.reading 0)).any _ = true by decide +kernel)
  exact ⟨session, run, test, attributed_apart run⟩

end Session

end SerialPort
