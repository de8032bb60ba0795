import SerialPort.Library.Rounds
import SerialPort.Session.Current
import SerialPort.Session.Events

/-! The attempts of the reconnect loops: one loop at a time, and one block of attempts each. -/

namespace SerialPort

open Transition Rounds

/-- What a reconnect loop does that tells how it gets on. -/
inductive Progress where
  | reconnecting (attempt : Nat)
  | calls
  | opened
  | failed
  | succeeded
  | exhausted
  deriving DecidableEq, Repr

namespace Progress

/-- Whether it is the announcement of an attempt. -/
def isReconnecting : Progress → Bool
  | .reconnecting _ => true
  | _ => false

/-- Whether there is an event for it; the calls of `transport.open` are not announced. -/
def isAnnounced : Progress → Bool
  | .reconnecting _ => true
  | .succeeded => true
  | .exhausted => true
  | _ => false

end Progress

def SerialEvent.progress? : SerialEvent → Option Progress
  | .reconnecting attempt _ => some (.reconnecting attempt)
  | .reconnectSucceeded => some .succeeded
  | .reconnectExhausted => some .exhausted
  | _ => none

/-- The first attempts, where all of them fail. -/
def failures (count : Nat) : List Progress :=
  -- The source counts its attempts from 0, and announces them from 1.
  (List.range count).flatMap fun attempt => [.reconnecting (attempt + 1), .calls, .failed]

/-- Everything a loop does that is not cut short, with so many attempts at most. -/
inductive Block (limit : Nat) : List Progress → Prop where
  | succeeded {attempt : Nat} (within : attempt < limit) :
      Block limit (failures attempt ++ [.reconnecting (attempt + 1), .calls, .opened, .succeeded])
  | exhausted : Block limit (failures limit ++ [.exhausted])

/-- A loop, and what it does. -/
structure Mark where
  loop : Nat
  progress : Progress
  deriving DecidableEq, Repr

/-- The block of a single loop. -/
def Round (limit : Nat) (marks : List Mark) : Prop :=
  ∃ loop progress, Block limit progress ∧ marks = progress.map (Mark.mk loop)

/-- What becomes of the call of `transport.open`. -/
def LoopPoint.opens? : LoopPoint → Outcome → Option Progress
  | .emitConnecting _, .resumes => some .calls
  | .opening _, .resumes => some .opened
  | .opening _, .throws _ => some .failed
  -- `runCatching` takes the cancellation for a failure of the attempt.
  | .opening _, .cancels => some .failed
  | _, _ => none

namespace Session

/-- What a step of a loop tells of it. -/
def marksBy (session : Session) (action : Action) (next : Session) : List Mark :=
  match action with
  | .resume (.loop index) outcome =>
    -- The call and its outcome are no events, so they are read off the point of the loop.
    let opens := (session.loops[index]?).bind fun loop => loop.point.opens? outcome
    let announced := (next.events.drop session.events.length).filterMap SerialEvent.progress?
    (opens.toList ++ announced).map (Mark.mk index)
  | _ => []

/-- Whether the loop has been launched, and is not over. -/
def Active (session : Session) (index : Nat) : Prop :=
  ∃ loop, session.loops[index]? = some loop ∧ loop.point ≠ .finished

end Session

/-- A session with the history of what its loops do. -/
structure Logged where
  session : Session := {}
  marks : List Mark := []

namespace Logged

/-- Enters a step of the session in the history. -/
def record (logged : Logged) (action : Action) (next : Session) : Logged :=
  { session := next
    marks := logged.marks ++ logged.session.marksBy action next }

def step (logged : Logged) (action : Action) : Option Logged :=
  (logged.session.step action).map (logged.record action)

/-- The loops keep to their blocks. -/
structure Protocol (limit : Nat) (logged : Logged) : Prop where
  /-- At most one loop is active. -/
  single : ∀ {first second : Nat}, logged.session.Active first → logged.session.Active second →
    first = second
  /-- The events of the session are those of the history, in the same order. -/
  announced : logged.session.events.filterMap SerialEvent.progress? =
    (logged.marks.map Mark.progress).filter Progress.isAnnounced
  /-- Every block is complete but the last one, which is cut short only by `close`. -/
  blocks : ∃ current, InRounds (Round limit) logged.marks current ∧ Begun (Round limit) current ∧
    (current ≠ [] → logged.session.terminal = true ∨
      ∃ index, logged.session.Active index ∧ ∀ mark ∈ current, mark.loop = index)
  /-- No loop calls `transport.open` more often than it announces an attempt. -/
  calls : ∀ index, logged.marks.countP (fun mark => mark == ⟨index, .calls⟩) ≤
    logged.marks.countP fun mark => mark.loop == index && mark.progress.isReconnecting

/-- Whoever calls `connect` asks for this configuration. -/
def AsksFor (config : SerialConfig) (_ : Logged) (action : Action) : Prop :=
  ∀ other, action = .connect other → other = config

/-- Whether a loop goes on from the end of its last attempt as if the transport were not open. -/
def forgetsBy (logged : Logged) : Action → Bool
  | .resume (.loop index) .resumes =>
    (logged.session.loops[index]?).any fun loop =>
      match loop.point with
      | .emitFailed attempt =>
        -- No attempt is left, although the last call of `transport.open` was a success.
        loop.config.reconnect.maxAttempts.toNatClampNeg ≤ attempt + 1 &&
          logged.marks.getLast? == some ⟨index, .opened⟩
      | _ => false
  | _ => false

end Logged

/-! What the blocks are made of. -/

/-- One more failed attempt comes behind the others. -/
theorem failures_succ (count : Nat) :
    failures (count + 1) = failures count ++ [.reconnecting (count + 1), .calls, .failed] := by
  rw [failures, List.range_succ, List.flatMap_append, List.flatMap_singleton]
  rfl

/-- Fewer failures come first. -/
theorem failures_le {fewer count : Nat} (le : fewer ≤ count) :
    ∃ rest, failures count = failures fewer ++ rest := by
  -- The attempts behind the fewer ones are what is left of the range.
  obtain ⟨more, rfl⟩ := Nat.exists_eq_add_of_le le
  rw [failures, List.range_add, List.flatMap_append]
  exact ⟨_, rfl⟩

/-- What may come right behind what. -/
def Progress.Precedes (before after : Progress) : Prop :=
  (after = .calls → before.isReconnecting = true) ∧ (before = .opened → after = .succeeded)

instance (before after : Progress) : Decidable (before.Precedes after) :=
  inferInstanceAs (Decidable (_ ∧ _))

/-- Failed attempts change nothing about what may come next. -/
theorem failures_isChain {count : Nat} {rest : List Progress}
    (chain : (.failed :: rest).IsChain Progress.Precedes) :
    (.failed :: (failures count ++ rest)).IsChain Progress.Precedes := by
  -- Every failed attempt ends as the one before it, so the induction peels off the last of them.
  induction count generalizing rest with
  | zero => exact chain
  | succ count ih =>
    rw [failures_succ, List.append_assoc]
    refine ih ?_
    simp only [List.cons_append, List.nil_append, List.isChain_cons_cons]
    exact ⟨⟨nofun, nofun⟩, ⟨fun _ => rfl, nofun⟩, ⟨nofun, nofun⟩, chain⟩

namespace Block

variable {limit : Nat} {progress former latter : List Progress}

/-- In a block, also right behind another failure, an attempt is announced before it is made, and a
success follows from it. -/
theorem isChain (block : Block limit progress) :
    (.failed :: progress).IsChain Progress.Precedes := by
  -- What may stand behind the failures is decided by the two ends a block can have.
  cases block with
  | succeeded within =>
    exact failures_isChain (by simp [Progress.Precedes, Progress.isReconnecting])
  | exhausted => exact failures_isChain (by decide)

/-- A block that has ended does not end in a connection. -/
theorem last (block : Block limit progress) {last : Progress} (ends : last ∈ progress.getLast?) :
    last ≠ .opened := by
  cases block <;> simp at ends <;> subst ends <;> decide

/-- An attempt is announced before it is made. -/
theorem calls (block : Block limit (former ++ latter)) :
    former.countP (· == .calls) ≤ former.countP Progress.isReconnecting := by
  -- Each call stands right behind an announcement, and no two calls share one.
  have chain : (.failed :: former).IsChain Progress.Precedes :=
    @List.IsChain.left_of_append _ _ _ latter block.isChain
  have counted := countP_le_of_isChain
    (chain.imp fun before after precedes rare => precedes.1 (beq_iff_eq.mp rare))
    (by simp)
  simpa [Progress.isReconnecting] using counted

end Block

/-- The marks of a block that has begun are those of a round that has begun. -/
theorem Round.begun {limit loop : Nat} {progress : List Progress}
    (begun : Begun (Block limit) progress) : Begun (Round limit) (progress.map (Mark.mk loop)) := by
  -- The marks of what is missing complete the marks of what is there.
  rcases begun with rfl | ⟨rest, missing, block⟩
  · exact .inl rfl
  · exact .inr ⟨rest.map (Mark.mk loop), by simpa using missing, loop, _, block,
      List.map_append.symm⟩

/-- A loop calls `transport.open` only after it has announced the attempt. -/
theorem Round.calls {limit : Nat} {former latter : List Mark}
    (round : Round limit (former ++ latter)) (index : Nat) :
    former.countP (fun mark => mark == ⟨index, .calls⟩) ≤
      former.countP fun mark => mark.loop == index && mark.progress.isReconnecting := by
  obtain ⟨loop, progress, block, same⟩ := round
  obtain ⟨first, second, rfl, rfl, rfl⟩ := List.map_eq_append_iff.mp same.symm
  rw [List.countP_map, List.countP_map]
  -- Marks of this loop are counted as in its block, and those of another not at all.
  by_cases mine : loop = index
  · subst mine
    simpa [Function.comp_def, Mark.mk.injEq, beq_eq_decide] using block.calls
  · -- The block belongs to another loop.
    have nothing : (first.map (Mark.mk loop)).countP
        (fun mark => mark == ⟨index, .calls⟩) = 0 := by
      refine List.countP_eq_zero.mpr fun mark listed => ?_
      obtain ⟨_, _, rfl⟩ := List.mem_map.mp listed
      simp [mine]
    rw [List.countP_map] at nothing
    omega

/-! A loop on its own. -/

namespace LoopPoint

/-- What a loop at this point has done of its block. -/
def done : LoopPoint → List Progress
  | .emitReconnecting attempt _ => failures attempt ++ [.reconnecting (attempt + 1)]
  | .delaying attempt _ => failures attempt ++ [.reconnecting (attempt + 1)]
  | .emitConnecting attempt => failures attempt ++ [.reconnecting (attempt + 1)]
  | .opening attempt => failures attempt ++ [.reconnecting (attempt + 1), .calls]
  | .emitConnected attempt => failures attempt ++ [.reconnecting (attempt + 1), .calls, .opened]
  | .emitFailed attempt => failures (attempt + 1)
  | _ => []

/-- The attempt a loop at this point is about. -/
def attempt? : LoopPoint → Option Nat
  | .emitReconnecting attempt _ => some attempt
  | .delaying attempt _ => some attempt
  | .emitConnecting attempt => some attempt
  | .opening attempt => some attempt
  | .emitConnected attempt => some attempt
  | .emitFailed attempt => some attempt
  | _ => none

/-- The attempt that comes next, where one is over, or all of them lie ahead. -/
def upcoming? : LoopPoint → Option Nat
  | .closing => some 0
  | .emitFailed attempt => some (attempt + 1)
  | _ => none

end LoopPoint

/-- All attempts before the one that comes next have failed. -/
theorem LoopPoint.done_of_upcoming {point : LoopPoint} {attempt : Nat}
    (upcoming : point.upcoming? = some attempt) : point.done = failures attempt := by
  -- Only before the first attempt and behind a failed one is another attempt to come.
  cases point with
  | closing => cases upcoming; rfl
  | emitFailed attempt => cases upcoming; rfl
  | _ => cases upcoming

/-- How a loop gets from one point to another, and what it does on the way. -/
inductive LoopTurns (limit : Nat) (closed : Bool) :
    LoopPoint → List Progress → LoopPoint → Prop where
  | strikes : LoopTurns limit closed .dispatch [] .closing
  | announces {point : LoopPoint} {attempt : Nat} {delayMillis : Int}
      (upcoming : point.upcoming? = some attempt) (within : attempt < limit)
      (open_ : closed = false) :
      LoopTurns limit closed point [.reconnecting (attempt + 1)]
        (.emitReconnecting attempt delayMillis)
  | exhausts {point : LoopPoint} {attempt : Nat} (upcoming : point.upcoming? = some attempt)
      (beyond : limit ≤ attempt) : LoopTurns limit closed point [.exhausted] .emitExhausted
  | delays {attempt : Nat} {delayMillis : Int} :
      LoopTurns limit closed (.emitReconnecting attempt delayMillis) []
        (.delaying attempt delayMillis)
  | connects {attempt : Nat} {delayMillis : Int} :
      LoopTurns limit closed (.delaying attempt delayMillis) [] (.emitConnecting attempt)
  | calls {attempt : Nat} :
      LoopTurns limit closed (.emitConnecting attempt) [.calls] (.opening attempt)
  | opens {attempt : Nat} :
      LoopTurns limit closed (.opening attempt) [.opened] (.emitConnected attempt)
  | fails {attempt : Nat} :
      LoopTurns limit closed (.opening attempt) [.failed] (.emitFailed attempt)
  | swallows {attempt : Nat} (terminal : closed = true) :
      LoopTurns limit closed (.emitConnected attempt) [] (.emitFailed attempt)
  | succeeds {attempt : Nat} :
      LoopTurns limit closed (.emitConnected attempt) [.succeeded] .emitSucceeded
  | finishes {point : LoopPoint} (nothing : point.done = []) :
      LoopTurns limit closed point [] .finished
  | stops {point : LoopPoint} (terminal : closed = true) :
      LoopTurns limit closed point [] .finished

/-- A loop is at the point to which its block has got, unless it has swallowed its cancellation. -/
inductive At (limit : Nat) (closed : Bool) : LoopPoint → List Progress → Prop where
  | due {point : LoopPoint} (within : ∀ attempt ∈ point.attempt?, attempt < limit) :
      At limit closed point point.done
  | swallowed {attempt : Nat} (within : attempt < limit) (terminal : closed = true) :
      At limit closed (.emitFailed attempt) (LoopPoint.emitConnected attempt).done

namespace At

variable {limit : Nat} {closed : Bool} {point next : LoopPoint} {progress more : List Progress}

/-- There is always something missing in the block of a loop that is not over. -/
theorem begun (at_ : At limit closed point progress) : Begun (Block limit) progress := by
  -- Up to its result an attempt may yet succeed.
  have succeeds {attempt : Nat} (within : attempt < limit) {former latter : List Progress}
      (parts : former ++ latter =
        [.reconnecting (attempt + 1), .calls, .opened, .succeeded])
      (missing : latter ≠ []) : Begun (Block limit) (failures attempt ++ former) := by
    refine .inr ⟨latter, missing, ?_⟩
    rw [List.append_assoc, parts]
    exact .succeeded within
  cases at_ with
  | due within =>
    cases point with
    | emitReconnecting attempt delayMillis => exact succeeds (within attempt rfl) rfl (by simp)
    | delaying attempt delayMillis => exact succeeds (within attempt rfl) rfl (by simp)
    | emitConnecting attempt => exact succeeds (within attempt rfl) rfl (by simp)
    | opening attempt => exact succeeds (within attempt rfl) rfl (by simp)
    | emitConnected attempt => exact succeeds (within attempt rfl) rfl (by simp)
    | emitFailed attempt =>
      -- After a failure all the other attempts may fail, too.
      obtain ⟨rest, parts⟩ := failures_le (within attempt rfl : attempt + 1 ≤ limit)
      refine .inr ⟨rest ++ [.exhausted], by simp, ?_⟩
      rw [LoopPoint.done, ← List.append_assoc, ← parts]
      exact .exhausted
    | _ => exact .inl rfl
  | swallowed within terminal => exact succeeds within rfl (by simp)

/-- What the block comes to as the loop gets on. -/
inductive Continues (limit : Nat) (closed : Bool) (next : LoopPoint) : List Progress → Prop where
  | going {progress : List Progress} (open_ : next ≠ .finished)
      (at_ : At limit closed next progress) : Continues limit closed next progress
  | complete {progress : List Progress} (open_ : next ≠ .finished) (at_ : At limit closed next [])
      (block : Block limit progress) : Continues limit closed next progress
  | ended {progress : List Progress} (finished : next = .finished)
      (begun : Begun (Block limit) progress) (cut : progress ≠ [] → closed = true) :
      Continues limit closed next progress

/-- A loop that does not forget a success keeps to its block. -/
theorem turn (at_ : At limit closed point progress) (turns : LoopTurns limit closed point more next)
    (remembers : .exhausted ∈ more → ∀ attempt, point = .emitFailed attempt → limit ≤ attempt + 1 →
      progress.getLast? ≠ some .opened) : Continues limit closed next (progress ++ more) := by
  -- As long as the loop is where its block says, this is so at the next point as well.
  have going {further : List Progress} (open_ : next ≠ .finished)
      (within : ∀ attempt ∈ next.attempt?, attempt < limit) (same : further = next.done) :
      Continues limit closed next further := same ▸ .going open_ (.due within)
  -- Two histories fit a loop, and only one of them allows for another attempt.
  have begun := at_.begun
  cases at_ with
  | due within =>
    cases turns with
    | strikes => exact going nofun nofun rfl
    | announces upcoming within' open_ =>
      refine going nofun (fun _ same => Option.some.inj same ▸ within') ?_
      rw [LoopPoint.done_of_upcoming upcoming]
      rfl
    | @exhausts _ attempt upcoming beyond =>
      -- The loop has made exactly as many attempts as it may.
      have last : attempt = limit := by
        cases point with
        | closing =>
          cases upcoming
          omega
        | emitFailed earlier =>
          cases upcoming
          have := within earlier rfl
          omega
        | _ => cases upcoming
      refine .complete nofun (.due nofun) ?_
      rw [LoopPoint.done_of_upcoming upcoming, last]
      exact .exhausted
    | delays => exact going nofun within (List.append_nil _)
    | connects => exact going nofun within (List.append_nil _)
    | calls => exact going nofun within (List.append_assoc _ _ _)
    | opens => exact going nofun within (List.append_assoc _ _ _)
    | fails =>
      refine going nofun within ?_
      rw [LoopPoint.done, LoopPoint.done, failures_succ, List.append_assoc]
      rfl
    | swallows terminal =>
      rw [List.append_nil]
      exact .going nofun (.swallowed (within _ rfl) terminal)
    | succeeds =>
      refine .complete nofun (.due nofun) ?_
      rw [LoopPoint.done, List.append_assoc]
      exact .succeeded (within _ rfl)
    | finishes nothing =>
      rw [List.append_nil, nothing]
      exact .ended rfl (.inl rfl) (absurd rfl)
    | stops terminal =>
      rw [List.append_nil]
      exact .ended rfl begun fun _ => terminal
  | swallowed within terminal =>
    -- The session is closed, and so no further attempt is announced.
    cases turns with
    | announces upcoming within' open_ => cases terminal.symm.trans open_
    | exhausts upcoming beyond =>
      cases upcoming
      exact absurd (by simp [LoopPoint.done]) (remembers (by simp) _ rfl beyond)
    | finishes nothing =>
      rw [List.append_nil]
      exact .ended rfl begun fun _ => terminal
    | stops terminal =>
      rw [List.append_nil]
      exact .ended rfl begun fun _ => terminal

/-- What has been done stays so, also when the session is closed. -/
theorem later {closed' : Bool} (at_ : At limit closed point progress)
    (closes : closed = true → closed' = true) : At limit closed' point progress := by
  cases at_ with
  | due within => exact .due within
  | swallowed within terminal => exact .swallowed within (closes terminal)

end At

/-! The loops of a session. -/

namespace Session

variable {session next : Session} {action : Action} {index : Nat} {loop : Loop} {outcome : Outcome}
  {limit : Nat}

/-- What a turn of a loop does to the session. -/
structure LoopResumed (limit : Nat) (session : Session) (index : Nat) (loop : Loop)
    (outcome : Outcome) (next : Session) (point : LoopPoint) (progress : List Progress) : Prop where
  turns : LoopTurns limit session.terminal loop.point progress point
  loops : next.loops = session.loops.set index { loop with point := point }
  marks : session.marksBy (.resume (.loop index) outcome) next = progress.map (Mark.mk index)
  announced : next.events.filterMap SerialEvent.progress? =
    session.events.filterMap SerialEvent.progress? ++ progress.filter Progress.isAnnounced
  flag : point ≠ .finished → next.reconnecting = session.reconnecting
  ends : .exhausted ∈ progress → outcome = .resumes

/-- A loop tells of its call of `transport.open` first, and then of its events. -/
theorem LoopResumed.of_events {before point : LoopPoint} {progress : List Progress}
    {events : List SerialEvent} (found : session.loops[index]? = some loop)
    (at_ : loop.point = before) (turns : LoopTurns limit session.terminal before progress point)
    (loops : next.loops = session.loops.set index { loop with point := point })
    (appended : next.events = session.events ++ events)
    (opens : (before.opens? outcome).toList ++ events.filterMap SerialEvent.progress? = progress)
    (announced : events.filterMap SerialEvent.progress? = progress.filter Progress.isAnnounced)
    (flag : point ≠ .finished → next.reconnecting = session.reconnecting)
    (ends : .exhausted ∈ progress → outcome = .resumes) :
    LoopResumed limit session index loop outcome next point progress where
  turns := at_ ▸ turns
  loops := loops
  -- One list of events decides both what is recorded and what is announced.
  marks := by simp [marksBy, found, appended, at_, opens]
  announced := by rw [appended, List.filterMap_append, announced]
  flag := flag
  ends := ends

/-- Where one attempt is over, the next is announced, or the end of all. -/
theorem loopAttempt_resumed {attempt : Nat} (found : session.loops[index]? = some loop)
    (fits : loop.config.reconnect.fits = true)
    (upcoming : loop.point.upcoming? = some attempt) :
    ∃ point progress, LoopResumed loop.config.reconnect.maxAttempts.toNatClampNeg session index loop
      .resumes (session.loopAttempt index loop attempt) point progress := by
  -- No attempt is in progress there.
  have unopened : loop.point.opens? .resumes = none := by
    cases at_ : loop.point <;> simp [at_, LoopPoint.upcoming?] at upcoming <;> rfl
  obtain ⟨delayMillis, delays⟩ := ReconnectPolicy.delayFor_fits fits attempt
  -- The source asks first whether an attempt is left, and then whether the session is closed.
  unfold loopAttempt
  split
  · next within =>
    split
    · next terminal =>
      exact ⟨_, _, .of_events found rfl (.stops terminal) rfl (List.append_nil _).symm
        (by rw [unopened]; rfl) rfl nofun (by simp)⟩
    · next open_ =>
      rw [delays]
      exact ⟨_, _, .of_events found rfl (.announces upcoming within (by simpa using open_)) rfl rfl
        (by rw [unopened]; rfl) rfl (fun _ => rfl) (by simp)⟩
  · next beyond =>
    exact ⟨_, _, .of_events found rfl (.exhausts upcoming (Nat.le_of_not_lt beyond)) rfl rfl
      (by rw [unopened]; rfl) rfl (fun _ => rfl) (by simp)⟩

/-- Whatever turn a loop takes, it is one of those of a loop on its own. -/
theorem LoopMoves.resumed (moved : LoopMoves session index loop outcome next)
    (found : session.loops[index]? = some loop) (fits : loop.config.reconnect.fits = true)
    (closed : loop.cancelled = true → session.terminal = true) :
    ∃ point progress, LoopResumed loop.config.reconnect.maxAttempts.toNatClampNeg session index loop
      outcome next point progress := by
  -- Every stretch of code of the loop is one of the turns, with the events it emits.
  cases moved with
  | strike at_ live =>
    exact ⟨_, _, .of_events found at_ .strikes rfl (List.append_nil _).symm
      rfl rfl (fun _ => rfl) (by simp)⟩
  | first at_ => exact loopAttempt_resumed found fits (by rw [at_]; rfl)
  | next at_ => exact loopAttempt_resumed found fits (by rw [at_]; rfl)
  | announced at_ =>
    exact ⟨_, _, .of_events found at_ .delays rfl (List.append_nil _).symm
      rfl rfl (fun _ => rfl) (by simp)⟩
  | connecting at_ live =>
    exact ⟨_, _, .of_events found at_ .connects rfl rfl rfl rfl (fun _ => rfl) (by simp)⟩
  | callOpen at_ =>
    exact ⟨_, _, .of_events found at_ .calls rfl (List.append_nil _).symm
      rfl rfl (fun _ => rfl) (by simp)⟩
  | opened at_ =>
    exact ⟨_, _, .of_events found at_ .opens rfl rfl rfl rfl (fun _ => rfl) (by simp)⟩
  | failed at_ =>
    exact ⟨_, _, .of_events found at_ .fails rfl rfl rfl rfl (fun _ => rfl) (by simp)⟩
  | caught at_ cancelled =>
    -- The loop catches its own cancellation, which comes at the end of a shutdown.
    rcases at_ with at_ | at_
    · exact ⟨_, _, .of_events found at_ .fails rfl rfl rfl rfl (fun _ => rfl) (by simp)⟩
    · exact ⟨_, _, .of_events found at_ (.swallows (closed cancelled)) rfl rfl
        rfl rfl (fun _ => rfl) (by simp)⟩
  | succeeded at_ =>
    exact ⟨_, _, .of_events found at_ .succeeds rfl rfl rfl rfl (fun _ => rfl) (by simp)⟩
  | finished at_ =>
    rcases at_ with at_ | at_ <;>
      exact ⟨_, _, .of_events found at_ (.finishes rfl) rfl (List.append_nil _).symm
        rfl rfl nofun (by simp)⟩
  | closeThrew at_ =>
    exact ⟨_, _, .of_events found at_ (.finishes rfl) rfl (List.append_nil _).symm
      rfl rfl nofun (by simp)⟩
  | never at_ cancelled =>
    exact ⟨_, _, .of_events found at_ (.finishes rfl) rfl (List.append_nil _).symm
      rfl rfl nofun (by simp)⟩
  | cancelled open_ begun outside cancelled =>
    -- Elsewhere the cancellation ends the loop.
    have unopened : loop.point.opens? .cancels = none := by
      cases at_ : loop.point with
      | opening attempt => exact absurd at_ (outside attempt).1
      | _ => rfl
    exact ⟨_, _, .of_events found rfl (.stops (closed cancelled)) rfl (List.append_nil _).symm
      (by rw [unopened]; rfl) rfl nofun (by simp)⟩

/-- Only a loop that is not over takes turns. -/
theorem LoopMoves.open_ (moved : LoopMoves session index loop outcome next) :
    loop.point ≠ .finished := by
  -- No stretch of code begins where the loop has finished.
  intro finished
  cases moved with
  | caught at_ cancelled => rcases at_ with at_ | at_ <;> cases finished.symm.trans at_
  | finished at_ => rcases at_ with at_ | at_ <;> cases finished.symm.trans at_
  | cancelled open_ begun outside cancelled => exact open_ finished
  | _ at_ => cases finished.symm.trans at_

/-- No loop is cancelled before the session has been closed. -/
def CancelsLast (session : Session) : Prop :=
  ∀ loop ∈ session.loops, loop.cancelled = true → session.terminal = true

/-- Every move leaves the scope to cancel the loops last. -/
theorem CancelsLast.step (cancels : CancelsLast session) (last : ShutsLast session)
    (moved : Moves session action next) : CancelsLast next := by
  -- A loop is cancelled with its scope, and that is cancelled at the end of a shutdown.
  intro after listed cancelled
  refine moved.terminal ?_
  obtain ⟨index, there⟩ := List.getElem?_of_mem listed
  rcases moved.loop there with
    ⟨before, found, rfl | ⟨rfl, closed⟩⟩ | ⟨before, outcome, found, -, resumed⟩ |
      ⟨config, -, -, rfl⟩
  · exact cancels after (List.mem_of_getElem? found) cancelled
  · -- The shutdown that cancels the loops is that of a closed session.
    exact last.closing (by rw [closed]; rfl)
  · obtain ⟨point, turned⟩ := resumed.turned
    obtain rfl := eq_of_set turned there
    exact cancels before (List.mem_of_getElem? found) cancelled
  · -- So is the scope that is cancelled already.
    exact last.closing (by rw [last.active (by simpa using cancelled)]; rfl)

/-- Without a turn of a loop, every loop stays where it is, or a single one is launched. -/
theorem Moves.active (moved : Moves session action next)
    (aside : ∀ index outcome, action ≠ .resume (.loop index) outcome) (active : next.Active index) :
    session.Active index ∨ ∃ config, session.SettlesBy action ∧ session.relaunches config := by
  obtain ⟨after, there, open_⟩ := active
  -- It was there before, perhaps not cancelled, or the tail of `fail` launched it.
  rcases moved.loop there with
    ⟨before, found, rfl | ⟨rfl, -⟩⟩ | ⟨before, outcome, found, same, -⟩ |
      ⟨config, settles, relaunches, -⟩
  · exact .inl ⟨after, found, open_⟩
  · exact .inl ⟨before, found, open_⟩
  · exact absurd same (aside _ _)
  · exact .inr ⟨config, settles, relaunches⟩

/-- A loop that holds the flag stays where it is while it takes no turn. -/
theorem Moves.stays (moved : Moves session action next)
    (aside : ∀ index outcome, action ≠ .resume (.loop index) outcome)
    (found : session.loops[index]? = some loop) (taken : session.reconnecting = true) :
    ∃ after, next.loops[index]? = some after ∧ after.point = loop.point := by
  have within := (List.getElem?_eq_some_iff.mp found).1
  obtain ⟨after, there⟩ : ∃ after, next.loops[index]? = some after :=
    ⟨_, List.getElem?_eq_getElem (Nat.lt_of_lt_of_le within moved.advances.loops)⟩
  refine ⟨after, there, ?_⟩
  rcases moved.loop there with
    ⟨before, found', same⟩ | ⟨before, outcome, -, same, -⟩ | ⟨config, -, relaunches, -⟩
  · obtain rfl := Option.some.inj (found'.symm.trans found)
    rcases same with rfl | ⟨rfl, -⟩ <;> rfl
  · exact absurd same (aside _ _)
  · -- Nothing is launched while the flag is taken.
    cases taken.symm.trans relaunches.2.2.1

/-- Only a loop tells of its progress. -/
theorem marksBy_aside (aside : ∀ index outcome, action ≠ .resume (.loop index) outcome) :
    session.marksBy action next = [] := by
  unfold marksBy
  split
  · exact absurd rfl (aside _ _)
  · rfl

theorem Moves.unannounced (moved : Moves session action next)
    (aside : ∀ index outcome, action ≠ .resume (.loop index) outcome) :
    next.events.filterMap SerialEvent.progress? =
      session.events.filterMap SerialEvent.progress? := by
  -- Nothing but loops and the data of chunks is announced besides the plain events.
  cases moved.announces with
  | plain plain =>
    obtain ⟨events, appended, plain⟩ := plain.events
    -- None of the plain events tells of a loop.
    have silent : events.filterMap SerialEvent.progress? = [] := by
      refine List.filterMap_eq_nil_iff.mpr fun event listed => ?_
      have plain := plain event listed
      cases event <;> first | rfl | cases plain
    rw [appended, List.filterMap_append, silent, List.append_nil]
  | @chunk index reader length buffer link found at_ positive =>
    rw [(handleChunk_announces index reader _ link).1, List.filterMap_append]
    exact List.append_nil _
  | inLoop found moved => exact absurd rfl (aside _ _)

/-- What the unfinished part of the history is about: the loop that is active, or the end of one. -/
inductive Covers (limit : Nat) (session : Session) : List Mark → Prop where
  | idle {current : List Mark} (quiet : ∀ index, ¬session.Active index)
      (begun : Begun (Round limit) current) (cut : current ≠ [] → session.terminal = true) :
      Covers limit session current
  | busy {index : Nat} {loop : Loop} {progress : List Progress}
      (found : session.loops[index]? = some loop) (open_ : loop.point ≠ .finished)
      (at_ : At limit session.terminal loop.point progress) :
      Covers limit session (progress.map (Mark.mk index))

end Session

namespace Logged

open Session

variable {logged next : Logged} {action : Action} {limit : Nat}

/-- The flag and the history belong to the one loop that is active, if there is one. -/
structure Ordered (limit : Nat) (logged : Logged) : Prop where
  last : logged.session.ShutsLast
  cancels : logged.session.CancelsLast
  single : ∀ {first second : Nat}, logged.session.Active first → logged.session.Active second →
    first = second
  flag : ∀ {index : Nat}, logged.session.Active index → logged.session.reconnecting = true
  announced : logged.session.events.filterMap SerialEvent.progress? =
    (logged.marks.map Mark.progress).filter Progress.isAnnounced
  covers : ∃ current, InRounds (Round limit) logged.marks current ∧
    Covers limit logged.session current

namespace Ordered

/-- Before the first loop everything is in order. -/
theorem initial : Ordered limit {} where
  last := ⟨nofun, nofun⟩
  cancels := nofun
  single := fun ⟨_, found, _⟩ => nomatch found
  flag := fun ⟨_, found, _⟩ => nomatch found
  announced := rfl
  covers := ⟨[], .nil, .idle (fun _ ⟨_, found, _⟩ => nomatch found) (.inl rfl) (absurd rfl)⟩

/-- A step that is no turn of a loop adds nothing to the history. -/
theorem same_marks {session : Session}
    (aside : ∀ index outcome, action ≠ .resume (.loop index) outcome) :
    (logged.record action session).marks = logged.marks := by
  rw [record, marksBy_aside aside, List.append_nil]

theorem announced_aside (ordered : Ordered limit logged) {session : Session}
    (aside : ∀ index outcome, action ≠ .resume (.loop index) outcome)
    (moved : Moves logged.session action session) :
    session.events.filterMap SerialEvent.progress? =
      ((logged.record action session).marks.map Mark.progress).filter Progress.isAnnounced := by
  rw [same_marks aside, ← ordered.announced]
  exact moved.unannounced aside

/-- A loop is launched only where none is active, and nothing is left to be done. -/
theorem launch (ordered : Ordered limit logged) {session : Session} {config : SerialConfig}
    (aside : ∀ index outcome, action ≠ .resume (.loop index) outcome)
    (settles : logged.session.SettlesBy action) (relaunches : logged.session.relaunches config)
    (stepped : logged.session.step action = some session) :
    Ordered limit (logged.record action session) := by
  -- The flag is what keeps a second loop from being launched.
  have moved := Moves.of_step stepped
  obtain ⟨loops, flag⟩ := settles.settled stepped
  rw [relaunches.settled] at loops flag
  -- Nobody has held the flag, and so there has been no active loop.
  have quiet (index : Nat) : ¬logged.session.Active index := fun active => by
    cases (ordered.flag active).symm.trans relaunches.2.2.1
  have only {index : Nat} (active : session.Active index) :
      index = logged.session.loops.length := by
    obtain ⟨loop, there, open_⟩ := active
    rw [loops] at there
    rcases append_cases there with earlier | ⟨last, -⟩
    · exact absurd ⟨loop, earlier, open_⟩ (quiet index)
    · exact last
  have nothing : InRounds (Round limit) (logged.record action session).marks [] := by
    obtain ⟨current, inRounds, covers⟩ := ordered.covers
    rw [same_marks aside]
    cases covers with
    | idle _ begun cut =>
      -- A block that is cut short is that of a closed session, which launches nothing.
      by_cases missing : current = []
      · rwa [missing] at inRounds
      · cases (cut missing).symm.trans relaunches.2.2.2
    | @busy index loop progress found open_ at_ => exact absurd ⟨loop, found, open_⟩ (quiet index)
  refine ⟨ordered.last.step moved, ordered.cancels.step ordered.last moved,
    fun first second => (only first).trans (only second).symm, fun _ => flag,
    ordered.announced_aside aside moved, [], nothing, ?_⟩
  have there : session.loops[logged.session.loops.length]? =
      some { config := config, cancelled := !logged.session.scopeActive } := by
    rw [loops, List.getElem?_concat_length]
  exact Covers.busy there nofun (@At.due limit _ .dispatch nofun)

/-- Where no loop is launched and none takes a turn, everything about the loops stays as it is. -/
theorem stay (ordered : Ordered limit logged) {session : Session}
    (aside : ∀ index outcome, action ≠ .resume (.loop index) outcome)
    (launchless : ¬∃ config, logged.session.SettlesBy action ∧ logged.session.relaunches config)
    (moved : Moves logged.session action session) :
    Ordered limit (logged.record action session) := by
  -- Whatever is active afterwards has been active before, and so has held the flag.
  have before {index : Nat} (active : session.Active index) : logged.session.Active index :=
    (moved.active aside active).resolve_right launchless
  have flag {index : Nat} (active : session.Active index) : session.reconnecting = true := by
    rcases moved.flag (ordered.flag (before active)) with taken | ⟨_, _, _, turns, -⟩
    · exact taken
    · exact absurd turns (aside _ _)
  obtain ⟨current, inRounds, covers⟩ := ordered.covers
  refine ⟨ordered.last.step moved, ordered.cancels.step ordered.last moved,
    fun first second => ordered.single (before first) (before second), flag,
    ordered.announced_aside aside moved, current, by rwa [same_marks aside], ?_⟩
  cases covers with
  | idle quiet begun cut =>
    exact .idle (fun index active => quiet index (before active)) begun fun missing =>
      moved.terminal (cut missing)
  | @busy index loop progress found open_ at_ =>
    -- The active loop holds the flag, and waits at the same point.
    obtain ⟨after, there, point⟩ := moved.stays aside found (ordered.flag ⟨loop, found, open_⟩)
    rw [← point] at open_ at_
    exact .busy there open_ (at_.later moved.terminal)

/-- A turn of the active loop takes its block further. -/
theorem turn (ordered : Ordered limit logged) {session : Session} {index : Nat} {loop : Loop}
    {outcome : Outcome} (found : logged.session.loops[index]? = some loop)
    (moved : LoopMoves logged.session index loop outcome session)
    (fits : loop.config.reconnect.fits = true)
    (attempts : loop.config.reconnect.maxAttempts.toNatClampNeg = limit)
    (remembers : logged.forgetsBy (.resume (.loop index) outcome) = false) :
    Ordered limit (logged.record (.resume (.loop index) outcome) session) := by
  have moves : Moves logged.session (.resume (.loop index) outcome) session := .inLoop found moved
  have active : logged.session.Active index := ⟨loop, found, moved.open_⟩
  obtain ⟨point, progress, resumed⟩ :=
    moved.resumed found fits (ordered.cancels loop (List.mem_of_getElem? found))
  rw [attempts] at resumed
  have there : session.loops[index]? = some { loop with point := point } := by
    rw [resumed.loops]
    exact List.getElem?_set_self (List.getElem?_eq_some_iff.mp found).1
  -- Nobody else is active, before the turn or after it.
  have only {other : Nat} (active' : session.Active other) : other = index ∧ point ≠ .finished := by
    obtain ⟨after, found', open_⟩ := active'
    rw [resumed.loops] at found'
    rcases set_cases found' with ⟨same, rfl⟩ | ⟨different, earlier⟩
    · exact ⟨same.symm, open_⟩
    · exact absurd (ordered.single active ⟨after, earlier, open_⟩) different
  have marks : (logged.record (.resume (.loop index) outcome) session).marks =
      logged.marks ++ progress.map (Mark.mk index) := by
    rw [record, resumed.marks]
  refine ⟨ordered.last.step moves, ordered.cancels.step ordered.last moves,
    fun first second => (only first).1.trans (only second).1.symm,
    fun active' => (resumed.flag (only active').2).trans (ordered.flag active), ?_, ?_⟩
  · rw [marks, List.map_append, List.filter_append, ← ordered.announced, List.map_map]
    exact resumed.announced.trans (by simp [Function.comp_def])
  · obtain ⟨current, inRounds, covers⟩ := ordered.covers
    cases covers with
    | idle quiet begun cut => exact absurd active (quiet index)
    | @busy other loop' done found' open_ at_ =>
      obtain rfl := ordered.single active ⟨loop', found', open_⟩
      obtain rfl := Option.some.inj (found.symm.trans found')
      have extended : InRounds (Round limit)
          (logged.record (.resume (.loop index) outcome) session).marks
          ((done ++ progress).map (Mark.mk index)) := by
        rw [marks, List.map_append]
        exact inRounds.extend
      -- What the loop does last is the last mark of all.
      have remembered (ends : .exhausted ∈ progress) (attempt : Nat)
          (failed : loop.point = .emitFailed attempt) (beyond : limit ≤ attempt + 1) :
          done.getLast? ≠ some .opened := by
        intro last
        have last : logged.marks.getLast? = some ⟨index, .opened⟩ :=
          inRounds.getLast? (by rw [List.getLast?_map, last]; rfl)
        rw [resumed.ends ends] at remembers
        simp [forgetsBy, found, failed, attempts, beyond, last] at remembers
      cases at_.turn resumed.turns remembered with
      | going open_ at_ => exact ⟨_, extended, .busy there open_ (at_.later moves.terminal)⟩
      | complete open_ at_ block =>
        exact ⟨[], extended.complete ⟨index, _, block, rfl⟩,
          .busy there open_ (at_.later moves.terminal)⟩
      | ended finished begun cut =>
        refine ⟨_, extended, .idle (fun other active' => (only active').2 finished)
          (Round.begun begun) fun missing => moves.terminal (cut ?_)⟩
        simpa using missing

/-- The block of the active loop, or of one that the end of the session has cut short, is begun. -/
theorem protocol (ordered : Ordered limit logged) : Protocol limit logged := by
  -- The part that is not complete is that of the active loop, or has been cut short.
  obtain ⟨current, inRounds, covers⟩ := ordered.covers
  have begun : Begun (Round limit) current := by
    cases covers with
    | idle quiet begun cut => exact begun
    | busy found open_ at_ => exact Round.begun at_.begun
  refine ⟨ordered.single, ordered.announced, ⟨current, inRounds, begun, fun missing => ?_⟩,
    fun index => inRounds.countP_le begun fun former latter round => round.calls index⟩
  cases covers with
  | idle quiet begun cut => exact .inl (cut missing)
  | @busy index loop progress found open_ at_ =>
    refine .inr ⟨index, ⟨loop, found, open_⟩, fun mark listed => ?_⟩
    obtain ⟨_, _, rfl⟩ := List.mem_map.mp listed
    rfl

end Ordered

variable {config : SerialConfig} {actions : List Action}

/-- Whoever asks for one configuration only has no loops of another. -/
theorem config_of_run (run : Run step (AsksFor config) {} logged) :
    ∀ loop ∈ logged.session.loops, loop.config = config := by
  -- The session takes the same run with the history of its configurations.
  obtain ⟨tracked, run, same⟩ : ∃ tracked, Run Tracked.step (Tracked.AsksFor config) {} tracked ∧
      tracked.session = logged.session := by
    induction run with
    | refl => exact ⟨{}, .refl, rfl⟩
    | tail _ stepped reached =>
      obtain ⟨action, asks, stepped⟩ := stepped
      obtain ⟨session, taken, rfl⟩ := Option.map_eq_some_iff.mp stepped
      obtain ⟨before, run, same⟩ := reached
      refine ⟨before.record action session, run.snoc asks ?_, rfl⟩
      exact Option.map_eq_some_iff.mpr ⟨session, by rw [same, taken], rfl⟩
  exact same ▸ (Tracked.Uniform.of_run run).loops

/-- Every step that forgets nothing keeps the blocks in order. -/
theorem Ordered.step (ordered : Ordered config.reconnect.maxAttempts.toNatClampNeg logged)
    (fits : config.reconnect.fits = true)
    (configs : ∀ loop ∈ logged.session.loops, loop.config = config)
    (remembers : logged.forgetsBy action = false) (stepped : logged.step action = some next) :
    Ordered config.reconnect.maxAttempts.toNatClampNeg next := by
  obtain ⟨session, taken, rfl⟩ := Option.map_eq_some_iff.mp stepped
  -- A step is a turn of a loop, or launches one, or does neither.
  by_cases turns : ∃ index outcome, action = .resume (.loop index) outcome
  · obtain ⟨index, outcome, rfl⟩ := turns
    cases Moves.of_step taken with
    | inLoop found moved =>
      have same := configs _ (List.mem_of_getElem? found)
      exact ordered.turn found moved (same ▸ fits) (by rw [same]) remembers
  · have aside (index : Nat) (outcome : Outcome) : action ≠ .resume (.loop index) outcome :=
      fun same => turns ⟨index, outcome, same⟩
    by_cases launched :
        ∃ config, logged.session.SettlesBy action ∧ logged.session.relaunches config
    · obtain ⟨other, settles, relaunches⟩ := launched
      exact ordered.launch aside settles relaunches taken
    · exact ordered.stay aside launched (.of_step taken)

/-- A step that forgets a success announces the end of all attempts right behind it. -/
theorem forgets_marks (forgets : logged.forgetsBy action = true)
    (stepped : logged.step action = some next) : ∃ index,
    logged.marks.getLast? = some ⟨index, .opened⟩ ∧
      next.marks = logged.marks ++ [⟨index, .exhausted⟩] := by
  -- The test looks at the point of the loop, and so fixes the code that runs.
  obtain ⟨session, taken, rfl⟩ := Option.map_eq_some_iff.mp stepped
  unfold forgetsBy at forgets
  split at forgets
  · next index =>
    obtain ⟨loop, found, forgets⟩ := (Option.any_eq_true _ _).mp forgets
    split at forgets
    · next attempt at_ =>
      simp only [Bool.and_eq_true, decide_eq_true_eq, beq_iff_eq] at forgets
      obtain ⟨beyond, last⟩ := forgets
      refine ⟨index, last, ?_⟩
      -- No attempt is left, and so the loop comes to its end.
      simp only [Session.step, resume, found, resumeLoop, at_, loopAttempt,
        if_neg (Nat.not_lt_of_le beyond), Option.bind_eq_bind, Option.bind_some] at taken
      obtain rfl := Option.some.inj taken
      simp [record, marksBy, found, at_, LoopPoint.opens?, setLoop, emit, SerialEvent.progress?]
    · cases forgets
  · cases forgets

/-- Nothing but a success follows a successful call of `transport.open`. -/
theorem Protocol.isChain (protocol : Protocol limit logged) :
    logged.marks.IsChain fun before after =>
      before.progress = .opened → after.progress = .succeeded := by
  obtain ⟨current, inRounds, begun, -⟩ := protocol.blocks
  -- Within a block the success is next, and no block ends with an open transport.
  refine inRounds.isChain begun (fun round => ?_) fun round => ?_
  · rintro ⟨loop, progress, block, rfl⟩
    rw [List.isChain_map]
    exact block.isChain.tail.imp fun before after precedes => precedes.2
  · rintro ⟨loop, progress, block, rfl⟩ last ends first opened
    rw [List.getLast?_map] at ends
    obtain ⟨final, ends', rfl⟩ := Option.map_eq_some_iff.mp ends
    exact absurd opened (block.last ends')

/-- A loop that forgets a success breaks its block, so none did where the blocks are kept. -/
theorem Protocol.remembers (protocol : Protocol limit next)
    (stepped : logged.step action = some next) : logged.forgetsBy action = false := by
  -- The end of all attempts would stand where only a success may.
  refine Bool.eq_false_iff.mpr fun forgets => ?_
  obtain ⟨index, last, marks⟩ := forgets_marks forgets stepped
  have chain := protocol.isChain
  rw [marks] at chain
  cases (List.isChain_append.mp chain).2.2 _ last _ rfl rfl

/-- A run in which no loop forgets a success keeps the history in order. -/
theorem ordered_of_path (fits : config.reconnect.fits = true)
    (path : Path step (AsksFor config) {} actions logged)
    (remembers : ∀ earlier action later before, actions = earlier ++ action :: later →
      Path step (AsksFor config) {} earlier before → before.forgetsBy action = false) :
    Ordered config.reconnect.maxAttempts.toNatClampNeg logged := by
  -- The order is carried from step to step, each of which remembers.
  induction path with
  | nil => exact .initial
  | @snoc actions before after action earlier asks stepped ordered =>
    have ordered := ordered fun first other later reached parts =>
      remembers first other (later ++ [action]) reached (by simp [parts])
    exact ordered.step fits (config_of_run earlier.run)
      (remembers actions action [] before rfl earlier) stepped

/--
The loops keep to their blocks in every state of a run from the start of the session, exactly when
none of them forgets that it has opened the transport.

Only one configuration is asked for in the run, and its delays fit.
-/
theorem reconnects_in_blocks_iff (fits : config.reconnect.fits = true)
    (path : Path step (AsksFor config) {} actions logged) :
    (∀ earlier later reached, actions = earlier ++ later →
        Path step (AsksFor config) {} earlier reached →
          Protocol config.reconnect.maxAttempts.toNatClampNeg reached) ↔
      ∀ earlier action later before, actions = earlier ++ action :: later →
        Path step (AsksFor config) {} earlier before → before.forgetsBy action = false := by
  constructor
  · -- A step that forgets leaves a history that is none of blocks.
    rintro always earlier action later before rfl reached
    obtain ⟨after, -, stepped, path⟩ := path.step_of_split reached
    exact (always _ later after (List.append_cons _ _ _) path).remembers stepped
  · rintro remembers earlier later reached rfl path
    refine (ordered_of_path fits path fun first action rest before parts => ?_).protocol
    exact remembers first action (rest ++ later) before (by simp [parts])

end Logged

/-! A loop that is cancelled just as it announces that the transport is open again. -/

/-- Nothing throws but `transport.read`. -/
def Action.onlyReadsThrow : Action → Bool
  | .resume (.reader _) _ => true
  | .resume _ (.throws _) => false
  | _ => true

namespace Sample

/-- The session is closed while its loop is at the event that tells of the open transport. -/
def forgetting : List Action :=
  .connect retrying :: List.replicate 4 (.resume (.connect 0) .resumes) ++ readFailing 0 ++
    reopening 0 ++ .close :: List.replicate 3 (.resume .shutdown .resumes) ++
    [.resume (.loop 0) .cancels, .resume (.loop 0) .resumes]

/-- The first attempt fails, and the second one opens the transport. -/
def recovering : List Action :=
  .connect reconnecting :: List.replicate 4 (.resume (.connect 0) .resumes) ++ readFailing 0 ++
    List.replicate 5 (.resume (.loop 0) .resumes) ++ .resume (.loop 0) (.throws "busy") ::
    List.replicate 7 (.resume (.loop 0) .resumes)

end Sample

namespace Logged

/-- The only attempt opens the transport, and is followed by the end of all attempts. -/
theorem forgetting_exhausted :
    ¬∀ (config : SerialConfig) (logged : Logged), config.reconnect.fits = true →
      Run step (fun logged action => AsksFor config logged action ∧ action.onlyReadsThrow = true)
        {} logged → Protocol config.reconnect.maxAttempts.toNatClampNeg logged := by
  intro always
  obtain ⟨logged, path, test⟩ := Path.of_test
    (fun logged => logged.marks ==
      [⟨0, .reconnecting 1⟩, ⟨0, .calls⟩, ⟨0, .opened⟩, ⟨0, .exhausted⟩])
    (show (execute step (fun _ action => action.onlyReadsThrow = true) {} Sample.forgetting).any _ =
      true by decide +kernel)
  -- The device is the same in the only call of `connect`.
  have asking : Path step
      (fun logged action => AsksFor Sample.retrying logged action ∧ action.onlyReadsThrow = true) {}
      Sample.forgetting logged := by
    refine path.weaken fun listed permitted => ⟨fun other asked => ?_, permitted⟩
    subst asked
    simpa [Sample.forgetting, Sample.readFailing, Sample.reopening] using listed
  have chain := (always Sample.retrying logged (by decide) asking.run).isChain
  -- The mark of the end stands right behind that of the open transport.
  rw [beq_iff_eq.mp test] at chain
  simp at chain

/-- After a failed attempt the next one is announced, and its success. -/
theorem recovering_in_blocks :
    ∃ logged, Path step (AsksFor Sample.reconnecting) {} Sample.recovering logged ∧
      logged.marks = [⟨0, .reconnecting 1⟩, ⟨0, .calls⟩, ⟨0, .failed⟩, ⟨0, .reconnecting 2⟩,
        ⟨0, .calls⟩, ⟨0, .opened⟩, ⟨0, .succeeded⟩] ∧
      Protocol Sample.reconnecting.reconnect.maxAttempts.toNatClampNeg logged := by
  obtain ⟨logged, path, test⟩ := Path.of_test
    (fun logged => logged.marks == [⟨0, .reconnecting 1⟩, ⟨0, .calls⟩, ⟨0, .failed⟩,
      ⟨0, .reconnecting 2⟩, ⟨0, .calls⟩, ⟨0, .opened⟩, ⟨0, .succeeded⟩])
    (show (execute step (fun logged action => logged.forgetsBy action = false) {}
      Sample.recovering).any _ = true by decide +kernel)
  have asking : Path step (AsksFor Sample.reconnecting) {} Sample.recovering logged := by
    refine path.weaken fun listed _ other asked => ?_
    subst asked
    simpa [Sample.recovering, Sample.readFailing] using listed
  refine ⟨logged, asking, beq_iff_eq.mp test, ?_⟩
  refine (reconnects_in_blocks_iff (by decide) asking).mpr ?_ _ [] logged (List.append_nil _).symm
    asking
  -- The run was searched with the condition that no step of it forgets.
  rintro earlier action later before parts reached
  rw [parts] at path
  obtain ⟨_, remembers, -⟩ := path.step_of_split reached
  exact remembers

end Logged

end SerialPort
