import SerialPort.Session.Answer

/-! Requests of a connected session: the slot for the waiting command, and its timers. -/

namespace SerialPort

/-- The steps while nobody disconnects, closes, or reconnects the session. -/
def Action.serves : Action → Bool
  | .connect _ => true
  | .send _ => true
  | .cancelConnect _ => true
  | .resume (.connect _) _ => true
  | .resume (.reader _) _ => true
  | .resume (.writer _) _ => true
  | .resume (.timer _) _ => true
  | _ => false

namespace Session

/-- The command that the step lets wait for its response, with the time it may wait. -/
def armedBy (session : Session) : Action → Option (Nat × Duration)
  | .resume (.writer index) .resumes => do
    let writer ← session.writers[index]?
    match writer.point with
    | .reporting queued result =>
      let entry ← session.queue[queued]?
      if result.isSent && entry.command.responseMatcher.isSome then
        some (queued, entry.command.responseTimeout.getD (writer.timeoutFor entry.command))
      else none
    | _ => none
  | _ => none

/-- A command begins to wait only while no other one waits, and for a time that can be measured. -/
def ArmsAlone (session : Session) (action : Action) : Prop :=
  ∀ armed ∈ session.armedBy action,
    session.pendingResponse = none ∧ armed.2.toMillis.isSome

instance (session : Session) (action : Action) : Decidable (session.ArmsAlone action) :=
  inferInstanceAs (Decidable (∀ armed ∈ session.armedBy action, _))

/-- A step of a connected session that arms no command over another one. -/
def ServesAlone (session : Session) (action : Action) : Prop :=
  action.serves = true ∧ session.ArmsAlone action

instance (session : Session) (action : Action) : Decidable (session.ServesAlone action) :=
  inferInstanceAs (Decidable (_ ∧ _))

/-- The command has a result. -/
def Complete (session : Session) (queued : Nat) : Prop :=
  ∃ entry, session.queue[queued]? = some entry ∧ entry.result.isSome

/-- A chunk was taken for the command. -/
def Responded (session : Session) (queued : Nat) : Prop :=
  ∃ entry index, session.queue[queued]? = some entry ∧ entry.answeredBy = some index ∧
    session.AnsweredBy entry index

/-- No chunk was taken for the command, and its timer completed it. -/
def TimedOut (session : Session) (timer : Timer) : Prop :=
  ∃ entry, session.queue[timer.queued]? = some entry ∧ entry.answeredBy = none ∧
    entry.result = some (.timedOut timer.timeout)

/-- The command waits for its response, and a timer is going to end the wait. -/
def Awaited (session : Session) (queued : Nat) : Prop :=
  session.pendingResponse = some queued ∧
    ∃ timer ∈ session.timers, timer.queued = queued ∧ timer.point = .waiting ∧
      timer.cancelled = false ∧ timer.timeout.toMillis.isSome

/-- A written command is answered, or about to be armed by its writer, or waits with a timer. -/
structure Answered (session : Session) : Prop where
  fired : ∀ timer ∈ session.timers, timer.point = .fired →
    session.Responded timer.queued ∨ session.TimedOut timer
  written : ∀ writer ∈ session.writers, ∀ queued bytes, (queued, .sent bytes) ∈ writer.attempts →
    session.Complete queued ∨ writer.point = .reporting queued (.sent bytes) ∨
      session.Awaited queued

/-- Whatever the writer has written is complete, or about to be armed, or has a timer. -/
def Accounts (session : Session) (writer : Writer) : Prop :=
  ∀ queued bytes, (queued, .sent bytes) ∈ writer.attempts →
    session.Complete queued ∨ writer.point = .reporting queued (.sent bytes) ∨
      ∃ timer ∈ session.timers, timer.queued = queued

/-- While requests are armed one at a time, each timer ends the wait of its own command. -/
structure Pipeline (session : Session) : Prop where
  active : session.scopeActive = true
  live : ∀ (index : Nat) (writer : Writer), session.writers[index]? = some writer →
    writer.cancelled = false
  timers : ∀ timer ∈ session.timers, timer.cancelled = false ∧ timer.timeout.toMillis.isSome ∧
    (timer.point = .waiting ∧ session.pendingResponse = some timer.queued ∨
      session.Responded timer.queued ∨ session.TimedOut timer)
  slot : ∀ queued, session.pendingResponse = some queued →
    ∃ timer ∈ session.timers, timer.queued = queued ∧ timer.point = .waiting
  written : ∀ (index : Nat) (writer : Writer), session.writers[index]? = some writer →
    session.Accounts writer

variable {session next : Session} {index queued : Nat} {writer : Writer}

/-- A command that is completed is complete. -/
theorem Complete.of_complete {entry : QueuedCommand} (entered : session.queue[queued]? = some entry)
    {result : CommandResult} {change : QueuedCommand → QueuedCommand}
    (queue : next.queue = session.queue.modify queued change)
    (complete : change entry = entry.complete result) : next.Complete queued := by
  refine ⟨entry.complete result, by simp [queue, entered, complete], ?_⟩
  -- Either this completes the command, or it was complete already.
  unfold QueuedCommand.complete
  split
  · rfl
  · next settled =>
    simp only [Option.isNone_iff_eq_none] at settled
    exact Option.isSome_iff_ne_none.mpr settled

/-- The time a request waits for its response. -/
def waitFor (writer : Writer) (command : SerialCommand) : Duration :=
  command.responseTimeout.getD (writer.timeoutFor command)

/-- What is reported is armed, if it is a request that was written, and completed otherwise. -/
theorem report_cases (session : Session) (index : Nat) (writer : Writer) (queued : Nat)
    (command : SerialCommand) (result : CommandResult) :
    ((result.isSent && command.responseMatcher.isSome) = true ∧
        session.report index writer queued command result =
          (session.arm queued (waitFor writer command)).setWriter index
            { writer with point := .receiving }) ∨
      session.report index writer queued command result =
        (session.complete queued result).setWriter index { writer with point := .receiving } := by
  unfold report
  -- A sent request arms the slot; any other result completes the command.
  by_cases request : (result.isSent && command.responseMatcher.isSome) = true
  · refine .inl ⟨request, ?_⟩
    simp only [request, if_true]
    rfl
  · exact .inr (by simp [request])

/-- The guard on a step that arms a command. -/
theorem ArmsAlone.of_request (alone : session.ArmsAlone (.resume (.writer index) .resumes))
    (found : session.writers[index]? = some writer) {result : CommandResult}
    (at_ : writer.point = .reporting queued result) {entry : QueuedCommand}
    (entered : session.queue[queued]? = some entry)
    (request : (result.isSent && entry.command.responseMatcher.isSome) = true) :
    session.pendingResponse = none ∧ (waitFor writer entry.command).toMillis.isSome :=
  alone (queued, waitFor writer entry.command) (by
    simpa [armedBy, found, at_, entered, Option.isSome_iff_ne_none, waitFor] using request)

/-! What has been settled stays settled. -/

/-- A complete command stays complete. -/
theorem Complete.evolves (complete : session.Complete queued) (evolves : Evolves session next) :
    next.Complete queued := by
  obtain ⟨before, entered, settled⟩ := complete
  obtain ⟨after, entered', evolved⟩ := evolves queued before entered
  exact ⟨after, entered', (evolved.settled settled).1 ▸ settled⟩

/-- What has answered a command stays its answer. -/
theorem AnsweredBy.evolves {before after : QueuedCommand}
    (answered : session.AnsweredBy before index)
    (evolved : QueuedCommand.Evolves before after) (chunks : session.chunks <+: next.chunks) :
    next.AnsweredBy after index := by
  obtain ⟨chunk, handled, accepts, result⟩ := answered
  obtain ⟨more, chunks⟩ := chunks
  refine ⟨chunk, ?_, evolved.command ▸ accepts, ?_⟩
  · rw [← chunks, List.getElem?_append_left (List.getElem?_eq_some_iff.mp handled).1, handled]
  · rw [(evolved.settled (by simp [result])).1, result]

/-- A command that has been responded to stays so. -/
theorem Responded.evolves (responded : session.Responded queued) (evolves : Evolves session next)
    (chunks : session.chunks <+: next.chunks) : next.Responded queued := by
  obtain ⟨before, index, entered, answeredBy, answered⟩ := responded
  obtain ⟨after, entered', evolved⟩ := evolves queued before entered
  -- An answered command is a complete one, and keeps its answer.
  have settled : before.result.isSome := by
    obtain ⟨chunk, -, -, result⟩ := answered
    simp [result]
  exact ⟨after, index, entered', (evolved.settled settled).2.trans answeredBy,
    answered.evolves evolved chunks⟩

/-- A timer whose command has timed out stays so. -/
theorem TimedOut.evolves {timer : Timer} (timedOut : session.TimedOut timer)
    (evolves : Evolves session next) : next.TimedOut timer := by
  obtain ⟨before, entered, unanswered, result⟩ := timedOut
  obtain ⟨after, entered', evolved⟩ := evolves timer.queued before entered
  -- So does a command that has timed out.
  obtain ⟨kept, kept'⟩ := evolved.settled (by simp [result])
  exact ⟨after, entered', kept'.trans unanswered, kept.trans result⟩

namespace Pipeline

/-- The slot and the timers stay as they are. -/
theorem keep (pipeline : Pipeline session) (evolves : Evolves session next)
    (chunks : session.chunks <+: next.chunks) (active : next.scopeActive = session.scopeActive)
    (timers : next.timers = session.timers)
    (slot : next.pendingResponse = session.pendingResponse)
    (writers : ∀ (index : Nat) (writer : Writer), next.writers[index]? = some writer →
      writer.cancelled = false ∧ next.Accounts writer) : Pipeline next where
  active := active.trans pipeline.active
  live := fun index writer found => (writers index writer found).1
  timers := by
    intro timer launched
    rw [timers] at launched
    -- A timer either waits for the command in the slot still, or its command is settled for good.
    obtain ⟨live, fits, waits | settled⟩ := pipeline.timers timer launched
    · exact ⟨live, fits, .inl (slot ▸ waits)⟩
    · exact ⟨live, fits, .inr (settled.imp (·.evolves evolves chunks) (·.evolves evolves))⟩
  slot := by
    rw [slot, timers]
    exact pipeline.slot
  written := fun index writer found => (writers index writer found).2

/-- What a writer accounts for is not lost. -/
theorem accounts (pipeline : Pipeline session) (evolves : Evolves session next)
    (timers : ∀ timer ∈ session.timers, ∃ timer' ∈ next.timers, timer'.queued = timer.queued)
    (found : session.writers[index]? = some writer) : next.Accounts writer := by
  intro queued bytes logged
  -- What was written before stays accounted for, as no timer is ever removed.
  rcases pipeline.written index writer found queued bytes logged with complete | reporting | armed
  · exact .inl (complete.evolves evolves)
  · exact .inr (.inl reporting)
  · obtain ⟨timer, launched, rfl⟩ := armed
    exact .inr (.inr (timers timer launched))

/-- Nothing happens to the writers, but for a new one. -/
theorem same_writers (pipeline : Pipeline session) (evolves : Evolves session next)
    (timers : ∀ timer ∈ session.timers, ∃ timer' ∈ next.timers, timer'.queued = timer.queued)
    (writers : ∀ (index : Nat) (writer : Writer), next.writers[index]? = some writer →
      session.writers[index]? = some writer ∨ writer.cancelled = false ∧ writer.attempts = [])
    (index : Nat) (writer : Writer) (found : next.writers[index]? = some writer) :
    writer.cancelled = false ∧ next.Accounts writer := by
  rcases writers index writer found with there | ⟨live, none_yet⟩
  · exact ⟨pipeline.live index writer there, pipeline.accounts evolves timers there⟩
  · exact ⟨live, by simp [Accounts, none_yet]⟩

/-- One writer has taken a turn. -/
theorem set_writer (pipeline : Pipeline session) (evolves : Evolves session next)
    (timers : ∀ timer ∈ session.timers, ∃ timer' ∈ next.timers, timer'.queued = timer.queued)
    {turned : Writer} (writers : next.writers = session.writers.set index turned)
    (live : turned.cancelled = false) (accounts : next.Accounts turned)
    (other : Nat) (writer : Writer) (found : next.writers[other]? = some writer) :
    writer.cancelled = false ∧ next.Accounts writer := by
  -- Only the writer that takes the turn changes.
  rw [writers, List.getElem?_set] at found
  split at found
  · split at found
    · obtain rfl := Option.some.inj found
      exact ⟨live, accounts⟩
    · cases found
  · exact ⟨pipeline.live other writer found, pipeline.accounts evolves timers found⟩

/-- A writer that is not about to arm a command goes on, and has written nothing new. -/
theorem turn (pipeline : Pipeline session) (evolves : Evolves session next)
    (besides : Besides session next) (timers : next.timers = session.timers)
    (slot : next.pendingResponse = session.pendingResponse)
    (found : session.writers[index]? = some writer) {turned : Writer}
    (writers : next.writers = session.writers.set index turned)
    (kept : turned.cancelled = writer.cancelled)
    (elsewhere : ∀ queued bytes, writer.point ≠ .reporting queued (.sent bytes))
    (sent : ∀ queued bytes, (queued, .sent bytes) ∈ turned.attempts →
      (queued, .sent bytes) ∈ writer.attempts) : Pipeline next := by
  have launched : ∀ timer ∈ session.timers, ∃ timer' ∈ next.timers, timer'.queued = timer.queued :=
    fun timer launched => ⟨timer, timers ▸ launched, rfl⟩
  refine pipeline.keep evolves (besides.chunks ▸ List.prefix_refl _) besides.scopeActive timers slot
    (pipeline.set_writer evolves launched writers
      (kept.trans (pipeline.live index writer found)) ?_)
  intro queued bytes logged
  -- What the writer has written is accounted for in the state before its turn.
  rcases pipeline.written index writer found queued bytes (sent queued bytes logged) with
    complete | reporting | armed
  · exact .inl (complete.evolves evolves)
  · exact absurd reporting (elsewhere queued bytes)
  · exact .inr (.inr (timers ▸ armed))

/-- A new timer ends the wait of the command that is armed in the empty slot. -/
theorem arm (pipeline : Pipeline session) (evolves : Evolves session next)
    (chunks : session.chunks <+: next.chunks) (active : next.scopeActive = session.scopeActive)
    (empty : session.pendingResponse = none) {timeout : Duration}
    (fits : timeout.toMillis.isSome)
    (timers : next.timers = session.timers ++
      [{ queued := queued, timeout := timeout, cancelled := !session.scopeActive }])
    (slot : next.pendingResponse = some queued)
    (writers : ∀ (index : Nat) (writer : Writer), next.writers[index]? = some writer →
      writer.cancelled = false ∧ next.Accounts writer) : Pipeline next where
  active := active.trans pipeline.active
  live := fun index writer found => (writers index writer found).1
  timers := by
    intro timer launched
    rw [timers] at launched
    rcases List.mem_append.mp launched with launched | new
    · -- The slot was empty: every earlier timer is done, and only the new one waits.
      obtain ⟨live, fits, ⟨-, waits⟩ | settled⟩ := pipeline.timers timer launched
      · rw [empty] at waits
        cases waits
      · exact ⟨live, fits, .inr (settled.imp (·.evolves evolves chunks) (·.evolves evolves))⟩
    · obtain rfl := List.mem_singleton.mp new
      exact ⟨by simp [pipeline.active], fits, .inl ⟨rfl, slot⟩⟩
  slot := by
    intro other waits
    rw [slot] at waits
    obtain rfl := Option.some.inj waits
    exact ⟨_, by rw [timers]; exact List.mem_append_right _ (List.mem_singleton_self _), rfl, rfl⟩
  written := fun index writer found => (writers index writer found).2

/-- A writer that has written a command reports it next, and then arms it. -/
theorem resumed (pipeline : Pipeline session) (found : session.writers[index]? = some writer)
    {attempt : Nat} {length : Int} {entry : QueuedCommand}
    (evolves : Evolves session
      (session.attemptEnded index writer queued entry.command attempt (.sent length)))
    (besides : Besides session
      (session.attemptEnded index writer queued entry.command attempt (.sent length)))
    (at_ : writer.point = .resuming queued attempt length) (live : writer.cancelled = false) :
    Pipeline (session.attemptEnded index writer queued entry.command attempt (.sent length)) := by
  have chunks : session.chunks <+:
      (session.attemptEnded index writer queued entry.command attempt (.sent length)).chunks :=
    besides.chunks ▸ List.prefix_refl _
  have turns : Turned session index
      (writer.attempted queued entry.command attempt (.sent length))
      (session.attemptEnded index writer queued entry.command attempt (.sent length)) :=
    attemptEnded_turned _
  refine pipeline.keep evolves chunks besides.scopeActive turns.timers turns.pendingResponse
    (pipeline.set_writer evolves
      (fun timer launched => ⟨timer, turns.timers ▸ launched, rfl⟩) turns.writers
      ((Writer.attempted_kept _).cancelled.trans live) ?_)
  intro other bytes logged
  -- The attempt that has just ended is the one that is reported; all others are accounted for.
  rw [Writer.attempted_attempts] at logged
  rw [Writer.attempted_sent]
  rcases List.mem_append.mp logged with earlier | new
  · rcases pipeline.written index writer found other bytes earlier with
      complete | reporting | armed
    · exact .inl (complete.evolves evolves)
    · simp [at_] at reporting
    · exact .inr (.inr (turns.timers ▸ armed))
  · obtain ⟨rfl, rfl⟩ : other = queued ∧ bytes = length := by simpa using new
    exact .inr (.inl rfl)

/-- What a writer reports is armed in the empty slot, or complete from now on. -/
theorem reported (pipeline : Pipeline session) (found : session.writers[index]? = some writer)
    {result : CommandResult} {entry : QueuedCommand}
    (evolves : Evolves session (session.report index writer queued entry.command result))
    (at_ : writer.point = .reporting queued result) (entered : session.queue[queued]? = some entry)
    (alone : session.ArmsAlone (.resume (.writer index) .resumes)) :
    Pipeline (session.report index writer queued entry.command result) := by
  have live : Writer.cancelled { writer with point := .receiving } = false :=
    pipeline.live index writer found
  -- What the writer has written before is settled, unless it is what it reports now.
  have logged_of {other : Nat} {bytes : Int} (logged : (other, .sent bytes) ∈ writer.attempts) :
      session.Complete other ∨ (other = queued ∧ result = .sent bytes) ∨
        ∃ timer ∈ session.timers, timer.queued = other := by
    rcases pipeline.written index writer found other bytes logged with
      complete | reporting | armed
    · exact .inl complete
    · rw [at_] at reporting
      cases reporting
      exact .inr (.inl ⟨rfl, rfl⟩)
    · exact .inr (.inr armed)
  rcases session.report_cases index writer queued entry.command result with
    ⟨request, armed⟩ | completed
  · -- The guard says that the slot is empty.
    obtain ⟨empty, fits⟩ := alone.of_request found at_ entered request
    rw [armed] at evolves ⊢
    refine pipeline.arm evolves (List.prefix_refl _) rfl empty fits rfl rfl
      (pipeline.set_writer evolves (fun timer launched => ⟨timer, ?_, rfl⟩) rfl live ?_)
    · exact List.mem_append_left _ launched
    · intro other bytes logged
      rcases logged_of logged with complete | ⟨rfl, -⟩ | ⟨timer, launched, same⟩
      · exact .inl (complete.evolves evolves)
      · exact .inr (.inr ⟨_, List.mem_append_right _ (List.mem_singleton_self _), rfl⟩)
      · exact .inr (.inr ⟨timer, List.mem_append_left _ launched, same⟩)
  · -- Everything else completes the command at once.
    rw [completed] at evolves ⊢
    refine pipeline.keep evolves (List.prefix_refl _) rfl rfl rfl
      (pipeline.set_writer evolves (fun timer launched => ⟨timer, launched, rfl⟩) rfl live ?_)
    intro other bytes logged
    rcases logged_of logged with complete | ⟨rfl, -⟩ | armed
    · exact .inl (complete.evolves evolves)
    · exact .inl (.of_complete entered rfl rfl)
    · exact .inr (.inr armed)

/-- Every move of a writer that arms alone keeps the pipeline. -/
theorem inWriter (pipeline : Pipeline session) {outcome : Outcome}
    (found : session.writers[index]? = some writer)
    (moved : WriterMoves session index writer outcome next)
    (alone : session.ArmsAlone (.resume (.writer index) outcome)) : Pipeline next := by
  have evolves := Evolves.of_moves (.inWriter found moved)
  have besides := moved.besides
  cases moved with
  | start at_ live =>
    exact pipeline.turn evolves besides rfl rfl found rfl rfl (by simp [at_]) fun _ _ => id
  | take at_ bound there buffered entered =>
    exact pipeline.turn evolves besides rfl rfl found rfl rfl (by simp [at_]) fun _ _ => id
  | drained at_ bound there buffered closed =>
    exact pipeline.turn evolves besides rfl rfl found rfl rfl (by simp [at_]) fun _ _ => id
  | begin at_ entered live =>
    refine pipeline.turn evolves besides beginWriting_turned.timers
      beginWriting_turned.pendingResponse found beginWriting_turned.writers
      Writer.began_kept.cancelled (by simp [at_]) fun queued bytes logged => ?_
    rcases Writer.began_attempts with same | ⟨error, added⟩
    · exact same ▸ logged
    · rw [added] at logged
      simpa using logged
  | written at_ entered live =>
    exact pipeline.turn evolves besides rfl rfl found rfl rfl (by simp [at_]) fun _ _ => id
  | resumed at_ entered live =>
    exact pipeline.resumed found evolves besides at_ live
  | @attempted queued attempt entry outcome result tries entered missed ended =>
    have elsewhere : ∀ token bytes, writer.point ≠ .reporting token (.sent bytes) := by
      rcases Writer.tries_cases tries with ⟨link, at_⟩ | ⟨length, at_⟩ <;> simp [at_]
    refine pipeline.turn evolves besides (attemptEnded_turned _).timers
      (attemptEnded_turned _).pendingResponse found (attemptEnded_turned _).writers
      (Writer.attempted_kept _).cancelled elsewhere fun other bytes logged => ?_
    -- An attempt that fails adds nothing that has been sent.
    rw [Writer.attempted_attempts] at logged
    rcases List.mem_append.mp logged with earlier | new
    · exact earlier
    · obtain ⟨-, rfl⟩ : other = queued ∧ .sent bytes = result := by simpa using new
      cases missed
  | retry at_ entered live =>
    refine pipeline.turn evolves besides beginAttempt_turned.timers
      beginAttempt_turned.pendingResponse found beginAttempt_turned.writers
      Writer.attempting_kept.cancelled (by simp [at_]) fun queued bytes logged => ?_
    rcases Writer.attempting_attempts with same | ⟨error, added⟩
    · exact same ▸ logged
    · rw [added] at logged
      simpa using logged
  | reported at_ entered => exact pipeline.reported found evolves at_ entered alone
  | failChanged at_ =>
    exact pipeline.turn evolves besides rfl rfl found rfl rfl (by simp [at_]) fun _ _ => id
  | failSettled at_ =>
    exact pipeline.turn evolves besides Untouched.failSettle.timers
      Untouched.failSettle.pendingResponse found (writerFailed_writers _) rfl (by simp [at_])
      fun _ _ => id
  | cancelled open_ cancelled =>
    -- No writer is cancelled in such a run.
    rw [pipeline.live index writer found] at cancelled
    cases cancelled

/-- A timer that is there was there before, or is the one that is turned. -/
theorem mem_set_timer {turned other : Timer}
    (launched : other ∈ session.timers.set index turned) :
    other = turned ∨ ∃ place, place ≠ index ∧ session.timers[place]? = some other := by
  obtain ⟨place, there⟩ := List.getElem?_of_mem launched
  rw [List.getElem?_set] at there
  split at there
  · split at there
    · exact .inl (Option.some.inj there).symm
    · cases there
  · -- Another timer, which is not the one that was set.
    next different => exact .inr ⟨place, Ne.symm different, there⟩

/-- A timer that was there is there still, or is the one that is turned. -/
theorem set_timer_mem {timer turned other : Timer} (found : session.timers[index]? = some timer)
    (launched : other ∈ session.timers) :
    other = timer ∨ other ∈ session.timers.set index turned := by
  obtain ⟨place, there⟩ := List.getElem?_of_mem launched
  -- The timer that is replaced may be the one looked for.
  by_cases same : index = place
  · subst same
    exact .inl (Option.some.inj (there.symm.trans found))
  · exact .inr (List.mem_of_getElem? (by rw [List.getElem?_set_ne same, there]))

/-- The timer ends the wait of its command, if the command still waits. -/
theorem timerFired (pipeline : Pipeline session) (custody : Custody session)
    (answers : Answers session) {timer : Timer} (found : session.timers[index]? = some timer)
    (evolves : Evolves session (session.timerFired index timer)) :
    Pipeline (session.timerFired index timer) := by
  have launched := List.mem_of_getElem? found
  obtain ⟨live, fits, state⟩ := pipeline.timers timer launched
  have inside : index < session.timers.length := (List.getElem?_eq_some_iff.mp found).1
  -- Every command with a timer still has one.
  have kept : ∀ other ∈ session.timers,
      ∃ timer' ∈ session.timers.set index { timer with point := .fired },
        timer'.queued = other.queued := by
    intro other earlier
    rcases set_timer_mem found earlier with rfl | there
    · exact ⟨_, List.mem_set inside _, rfl⟩
    · exact ⟨other, there, rfl⟩
  by_cases waits : session.pendingResponse = some timer.queued
  · obtain ⟨entry, entered, result, -⟩ :=
      custodian_eq_some (custody.sound .response timer.queued waits)
    -- A command that is not complete has not been answered either.
    have unanswered : entry.answeredBy = none := by
      cases answeredBy : entry.answeredBy with
      | none => rfl
      | some chunk =>
        obtain ⟨chunk, -, -, response⟩ := answers.sound _ _ _ entered answeredBy
        rw [result] at response
        cases response
    have fired : session.timerFired index timer =
        ({ session with pendingResponse := none }.complete timer.queued
          (.timedOut timer.timeout)).setTimer index { timer with point := .fired } := by
      unfold Session.timerFired
      rw [if_pos waits]
    rw [fired] at evolves ⊢
    constructor
    case active => exact pipeline.active
    case live => exact pipeline.live
    case timers =>
      -- The timer that fires has timed its command out; the others stay as they were.
      intro other there
      rcases mem_set_timer there with rfl | ⟨place, different, earlier⟩
      · refine ⟨live, fits, .inr (.inr ⟨entry.complete (.timedOut timer.timeout), ?_, ?_, ?_⟩)⟩
        · simp [setTimer, complete, entered]
        · simp [QueuedCommand.complete, result, unanswered]
        · simp [QueuedCommand.complete, result]
      · obtain ⟨live, fits, ⟨-, waiting⟩ | settled⟩ :=
          pipeline.timers other (List.mem_of_getElem? earlier)
        · -- Only one timer was launched for the command.
          have same : timer.queued = other.queued := Option.some.inj (waits.symm.trans waiting)
          exact absurd (custody.requests.once_place earlier found same.symm) different
        · exact ⟨live, fits, .inr (settled.imp (·.evolves evolves (List.prefix_refl _))
            (·.evolves evolves))⟩
    case slot => simp [setTimer, complete]
    case written => exact fun index writer found => pipeline.accounts evolves kept found
  · have fired : session.timerFired index timer =
        session.setTimer index { timer with point := .fired } := by
      unfold Session.timerFired
      rw [if_neg waits]
    rw [fired] at evolves ⊢
    constructor
    case active => exact pipeline.active
    case live => exact pipeline.live
    case timers =>
      -- The timer that fires finds its command settled, for the slot has another one or none.
      intro other there
      rcases mem_set_timer there with rfl | ⟨place, different, earlier⟩
      · rcases state with ⟨-, waiting⟩ | settled
        · exact absurd waiting waits
        · exact ⟨live, fits, .inr settled⟩
      · exact pipeline.timers other (List.mem_of_getElem? earlier)
    case slot =>
      intro queued waiting
      obtain ⟨other, earlier, same, point⟩ := pipeline.slot queued waiting
      rcases set_timer_mem found earlier with rfl | there
      · exact absurd (same ▸ waiting) waits
      · exact ⟨other, there, same, point⟩
    case written => exact fun index writer found => pipeline.accounts evolves kept found

/-- The chunk answers the command in the slot, or nothing. -/
theorem handleChunk (pipeline : Pipeline session) (custody : Custody session) (reader : Reader)
    (data : Bytes) (link : Option Nat)
    (evolves : Evolves session (session.handleChunk index reader data link))
    (chunks : session.chunks <+: (session.handleChunk index reader data link).chunks)
    (answers : Answers (session.handleChunk index reader data link)) :
    Pipeline (session.handleChunk index reader data link) := by
  have kept : ∀ other ∈ session.timers,
      ∃ timer' ∈ session.timers, timer'.queued = other.queued :=
    fun timer launched => ⟨timer, launched, rfl⟩
  rcases session.handleChunk_cases index reader data link with
    shape | ⟨queued, entry, waits, entered, accepts, shape⟩ <;>
    rw [shape] at evolves chunks answers ⊢
  · -- The chunk is noted, and answers nothing.
    exact pipeline.keep evolves chunks rfl rfl rfl
      (pipeline.same_writers evolves kept fun index writer found => .inl found)
  · obtain ⟨entry', entered', result, -⟩ :=
      custodian_eq_some (custody.sound .response queued waits)
    obtain rfl : entry' = entry := Option.some.inj (entered'.symm.trans entered)
    constructor
    case active => exact pipeline.active
    case live => exact pipeline.live
    case timers =>
      intro timer launched
      obtain ⟨live, fits, ⟨-, waiting⟩ | settled⟩ := pipeline.timers timer launched
      · -- The timer of the command in the slot goes on running, but the command is answered now.
        obtain rfl : queued = timer.queued := Option.some.inj (waits.symm.trans waiting)
        have answered : (session.queue.modify timer.queued fun entry =>
            entry.answer data session.chunks.length)[timer.queued]? =
              some (entry'.answer data session.chunks.length) := by
          simp [entered]
        have answeredBy : (entry'.answer data session.chunks.length).answeredBy =
            some session.chunks.length := by
          simp [QueuedCommand.answer, result]
        exact ⟨live, fits, .inr (.inl ⟨_, _, answered, answeredBy,
          answers.sound _ _ _ answered answeredBy⟩)⟩
      · exact ⟨live, fits, .inr (settled.imp (·.evolves evolves chunks) (·.evolves evolves))⟩
    case slot => simp
    case written => exact fun index writer found => pipeline.accounts evolves kept found

/-- Every step that serves alone keeps the pipeline. -/
theorem step (pipeline : Pipeline session) (custody : Custody session) (served : AllServed session)
    (answers : Answers session) {action : Action} (moved : Moves session action next)
    (serves : action.serves = true) (alone : session.ArmsAlone action) : Pipeline next := by
  have evolves := Evolves.of_moves moved
  have answers' := answers.step custody served moved
  have chunks := moved.chunks
  have same (writers : next.writers = session.writers) (timers : next.timers = session.timers)
      (slot : next.pendingResponse = session.pendingResponse)
      (active : next.scopeActive = session.scopeActive) : Pipeline next :=
    pipeline.keep evolves chunks active timers slot
      (pipeline.same_writers evolves (fun timer launched => ⟨timer, timers ▸ launched, rfl⟩)
        fun index writer found => .inl (writers ▸ found))
  rcases moved.untouched_or_custodial with untouched | custodial
  · exact same untouched.writers untouched.timers untouched.pendingResponse untouched.scopeActive
  cases custodial with
  | send command =>
    obtain ⟨queue, channels, shape⟩ := session.send_shape command
    exact same (by rw [shape]) (by rw [shape]) (by rw [shape]) (by rw [shape])
  -- A new writer has written nothing, and is not cancelled, as the scope is active.
  | connectOpened found at_ =>
    refine pipeline.keep evolves chunks rfl rfl rfl (pipeline.same_writers evolves
      (fun timer launched => ⟨timer, launched, rfl⟩) fun index writer there => ?_)
    simp only [connectOpened, opened, startWorkers, emit, setConnect, List.getElem?_append] at there
    split at there
    · exact .inl there
    · obtain rfl := List.mem_singleton.mp (List.mem_of_getElem? there)
      exact .inr ⟨by simp [pipeline.active], rfl⟩
  | chunk found at_ positive => exact pipeline.handleChunk custody _ _ _ evolves chunks answers'
  | inWriter found moved => exact pipeline.inWriter found moved alone
  | @inTimer index timer outcome next found moved =>
    have launched := List.mem_of_getElem? found
    cases moved with
    | fired at_ live fits => exact pipeline.timerFired custody answers found evolves
    | overflowed at_ live beyond =>
      have fits := (pipeline.timers timer launched).2.1
      simp [beyond] at fits
    | cancelled at_ cancelled =>
      rw [(pipeline.timers timer launched).1] at cancelled
      cases cancelled
  | _ => cases serves

/-- In every run that serves alone the pipeline holds. -/
theorem of_run (run : Transition.Run Session.step ServesAlone {} session) : Pipeline session :=
  run.invariant ⟨rfl, by simp, by simp, nofun, by simp⟩ fun earlier alone stepped pipeline =>
    pipeline.step (.of_run earlier) (.of_run earlier) (.of_run earlier) (.of_step stepped)
      alone.1 alone.2

/-- In a pipeline every request is answered. -/
theorem answered (pipeline : Pipeline session) : Answered session where
  fired := by
    intro timer launched fired
    -- A timer that has fired does not wait.
    obtain ⟨-, -, ⟨waiting, -⟩ | settled⟩ := pipeline.timers timer launched
    · simp [fired] at waiting
    · exact settled
  written := by
    intro writer listed queued bytes logged
    obtain ⟨index, found⟩ := List.getElem?_of_mem listed
    rcases pipeline.written index writer found queued bytes logged with
      complete | reporting | ⟨timer, launched, rfl⟩
    · exact .inl complete
    · exact .inr (.inl reporting)
    · obtain ⟨live, fits, ⟨waiting, waits⟩ | settled⟩ := pipeline.timers timer launched
      · exact .inr (.inr ⟨waits, timer, launched, rfl, waiting, live, fits⟩)
      · refine .inl ?_
        rcases settled with ⟨entry, index, entered, -, chunk, -, -, result⟩ |
          ⟨entry, entered, -, result⟩
        · exact ⟨entry, entered, by simp [result]⟩
        · exact ⟨entry, entered, by simp [result]⟩

end Pipeline

end Session

/-! Two requests in a row. -/

namespace Sample

end Sample

namespace Session

end Session

end SerialPort
