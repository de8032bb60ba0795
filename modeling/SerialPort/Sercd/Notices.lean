import SerialPort.Sercd.Outgoing

/-! What clients are told of the modem control lines, and what suspends it. -/

namespace SerialPort.Sercd

open Relation (ReflTransGen)
open Telnet (decode)

/-- The lines of a modem state, and the bits that say that they have changed. -/
def modemLines : List (UInt8 × UInt8) :=
  [(tncomModmaskRlsd, tncomModmaskRlsdDelta), (tncomModmaskRing, tncomModmaskRingTrail),
    (tncomModmaskDsr, tncomModmaskDsrDelta), (tncomModmaskCts, tncomModmaskCtsDelta)]

/-- A modem state by its single bits. -/
def modemBits (car ring dsr cts : Bool) (car' ring' dsr' cts' : Bool) : UInt8 :=
  let bit (set : Bool) (value : UInt8) : UInt8 := if set then value else 0
  bit car tncomModmaskRlsd + bit ring tncomModmaskRing + bit dsr tncomModmaskDsr +
    bit cts tncomModmaskCts + bit car' tncomModmaskRlsdDelta + bit ring' tncomModmaskRingTrail +
    bit dsr' tncomModmaskDsrDelta + bit cts' tncomModmaskCtsDelta

section

variable (car ring dsr cts car' ring' dsr' cts' : Bool)

/-- The bits of changes do not disturb those of the lines. -/
theorem modemBits_lines :
    modemBits car ring dsr cts car' ring' dsr' cts' &&& tncomModmaskNodelta =
      modemBits car ring dsr cts false false false false := by
  revert car ring dsr cts car' ring' dsr' cts'
  decide +kernel

/-- Nor any of them by itself. -/
theorem modemBits_line : ∀ line ∈ modemLines.map Prod.fst,
    modemBits car ring dsr cts car' ring' dsr' cts' &&& line =
      modemBits car ring dsr cts false false false false &&& line := by
  revert car ring dsr cts car' ring' dsr' cts'
  decide +kernel

/-- The bits of changes can be read one by one. -/
theorem modemBits_changes :
    (modemBits car ring dsr cts car' ring' dsr' cts' &&& tncomModmaskRlsdDelta ≠ 0 ↔
      car' = true) ∧
    (modemBits car ring dsr cts car' ring' dsr' cts' &&& tncomModmaskRingTrail ≠ 0 ↔
      ring' = true) ∧
    (modemBits car ring dsr cts car' ring' dsr' cts' &&& tncomModmaskDsrDelta ≠ 0 ↔
      dsr' = true) ∧
    (modemBits car ring dsr cts car' ring' dsr' cts' &&& tncomModmaskCtsDelta ≠ 0 ↔
      cts' = true) := by
  revert car ring dsr cts car' ring' dsr' cts'
  decide +kernel

end

/-- The lines of a port as a modem state. -/
def Port.modemLines (port : Port) : UInt8 :=
  modemBits (port.lines &&& tiocmCar ≠ 0) (port.lines &&& tiocmRng ≠ 0)
    (port.lines &&& tiocmDsr ≠ 0) (port.lines &&& tiocmCts ≠ 0) false false false false

/-- A modem state has the lines of the port, and what differs in them from the state before. -/
theorem getModemState_eq (port : Port) (pmState : UInt8) :
    port.getModemState pmState =
      modemBits (port.lines &&& tiocmCar ≠ 0) (port.lines &&& tiocmRng ≠ 0)
        (port.lines &&& tiocmDsr ≠ 0) (port.lines &&& tiocmCts ≠ 0)
        (port.modemLines &&& tncomModmaskRlsd ≠ pmState &&& tncomModmaskRlsd)
        (port.modemLines &&& tncomModmaskRing ≠ pmState &&& tncomModmaskRing)
        (port.modemLines &&& tncomModmaskDsr ≠ pmState &&& tncomModmaskDsr)
        (port.modemLines &&& tncomModmaskCts ≠ pmState &&& tncomModmaskCts) := by
  simp [Port.getModemState, Port.modemLines, modemBits]

/-- The lines are those of the port, and a change is one since the state before. -/
theorem getModemState_line (port : Port) (pmState : UInt8) :
    port.getModemState pmState &&& tncomModmaskNodelta = port.modemLines := by
  rw [getModemState_eq]
  exact modemBits_lines _ _ _ _ _ _ _ _

/-- Each change is one of its own line. -/
theorem getModemState_change (port : Port) (pmState : UInt8) {line change : UInt8}
    (listed : (line, change) ∈ modemLines) :
    port.getModemState pmState &&& change ≠ 0 ↔
      port.getModemState pmState &&& line ≠ pmState &&& line := by
  -- The changes are computed from the lines before they are put beside them.
  have same : port.getModemState pmState &&& line = port.modemLines &&& line := by
    rw [getModemState_eq]
    exact modemBits_line _ _ _ _ _ _ _ _ line (List.mem_map.mpr ⟨_, listed, rfl⟩)
  rw [same, getModemState_eq]
  obtain ⟨car, ring, dsr, cts⟩ := modemBits_changes (port.lines &&& tiocmCar ≠ 0)
    (port.lines &&& tiocmRng ≠ 0) (port.lines &&& tiocmDsr ≠ 0) (port.lines &&& tiocmCts ≠ 0)
    (port.modemLines &&& tncomModmaskRlsd ≠ pmState &&& tncomModmaskRlsd)
    (port.modemLines &&& tncomModmaskRing ≠ pmState &&& tncomModmaskRing)
    (port.modemLines &&& tncomModmaskDsr ≠ pmState &&& tncomModmaskDsr)
    (port.modemLines &&& tncomModmaskCts ≠ pmState &&& tncomModmaskCts)
  simp only [modemLines, List.mem_cons, Prod.mk.injEq, List.not_mem_nil, or_false] at listed
  rcases listed with ⟨rfl, rfl⟩ | ⟨rfl, rfl⟩ | ⟨rfl, rfl⟩ | ⟨rfl, rfl⟩
  · rw [car, decide_eq_true_iff]
  · rw [ring, decide_eq_true_iff]
  · rw [dsr, decide_eq_true_iff]
  · rw [cts, decide_eq_true_iff]

/-- A mask has a single line as a whole or not at all. -/
theorem mask_line (mask : UInt8) {line : UInt8} (listed : line ∈ modemLines.map Prod.fst) :
    mask &&& line = 0 ∨ mask &&& line = line := by
  have all : ∀ number : Fin 256, ∀ line ∈ modemLines.map Prod.fst,
      UInt8.ofNat number &&& line = 0 ∨ UInt8.ofNat number &&& line = line := by
    decide +kernel
  have found := all ⟨mask.toNat, mask.toNat_lt⟩ line listed
  rwa [UInt8.ofNat_toNat] at found

/-- So it has the single bits that say that a line has changed. -/
theorem mask_change (mask : UInt8) {change : UInt8} (listed : change ∈ modemLines.map Prod.snd) :
    mask &&& change = 0 ∨ mask &&& change = change := by
  have all : ∀ number : Fin 256, ∀ change ∈ modemLines.map Prod.snd,
      UInt8.ofNat number &&& change = 0 ∨ UInt8.ofNat number &&& change = change := by
    decide +kernel
  have found := all ⟨mask.toNat, mask.toNat_lt⟩ change listed
  rwa [UInt8.ofNat_toNat] at found

/-- What a mask lets through of a bit that it has. -/
theorem masked_bit {state mask bit : UInt8} (has : mask &&& bit = bit) :
    state &&& mask &&& bit = state &&& bit := by
  rw [UInt8.and_assoc, has]

/-- Two modem states with different lines differ in one of them. -/
theorem exists_line {before after : UInt8}
    (differs : after &&& tncomModmaskNodelta ≠ before &&& tncomModmaskNodelta) :
    ∃ line ∈ modemLines.map Prod.fst, after &&& line ≠ before &&& line := by
  by_contra none_
  have same : ∀ line ∈ modemLines.map Prod.fst, after &&& line = before &&& line := by
    intro line listed
    by_contra other
    exact none_ ⟨line, listed, other⟩
  -- The mask of all lines is made up of the four of them.
  have apart (state : UInt8) : state &&& tncomModmaskNodelta =
      state &&& tncomModmaskRlsd ||| state &&& tncomModmaskRing ||| state &&& tncomModmaskDsr |||
        state &&& tncomModmaskCts := by
    have distrib (x y z : UInt8) : x &&& (y ||| z) = (x &&& y) ||| (x &&& z) :=
      UInt8.toBitVec_inj.mp BitVec.and_or_distrib_left
    rw [← distrib, ← distrib, ← distrib]
  refine differs ?_
  rw [apart, apart, same _ (by decide), same _ (by decide), same _ (by decide), same _ (by decide)]

/-- How a notice follows the one before it: unless its mask has new lines it differs from that one
in a line, and its other bits say exactly which of the lines in both masks have changed since. -/
structure Follows (before after : Notice) : Prop where
  differs : (∀ line ∈ modemLines.map Prod.fst, after.mask &&& line ≠ 0 → before.mask &&& line ≠ 0) →
    ∃ line ∈ modemLines.map Prod.fst, after.mask &&& line ≠ 0 ∧
      after.payload &&& line ≠ before.payload &&& line
  changes : ∀ line change, (line, change) ∈ modemLines → before.mask &&& line ≠ 0 →
    after.mask &&& line ≠ 0 → after.mask &&& change ≠ 0 →
      (after.payload &&& change ≠ 0 ↔ after.payload &&& line ≠ before.payload &&& line)

/-- A notice of a new modem state, for a change of a line in its mask, follows one of the state
before. -/
theorem Follows.of_states {before after mask mask' : UInt8}
    (changed : after &&& mask' &&& tncomModmaskNodelta ≠ before &&& mask' &&& tncomModmaskNodelta)
    (changes : ∀ line change, (line, change) ∈ modemLines →
      (after &&& change ≠ 0 ↔ after &&& line ≠ before &&& line)) :
    Follows ⟨mask, before &&& mask⟩ ⟨mask', after &&& mask'⟩ where
  differs := by
    intro known
    obtain ⟨line, listed, other⟩ := exists_line changed
    -- A line that is not in the mask cannot make the difference.
    have has : mask' &&& line ≠ 0 := by
      intro masked
      rw [UInt8.and_assoc, UInt8.and_assoc, masked, UInt8.and_zero, UInt8.and_zero] at other
      exact other rfl
    refine ⟨line, listed, has, ?_⟩
    -- A line that both masks have is told as it is, before and after.
    have whole' := (mask_line mask' listed).resolve_left has
    have whole := (mask_line mask listed).resolve_left (known line listed has)
    rw [masked_bit whole', masked_bit whole'] at other
    change after &&& mask' &&& line ≠ before &&& mask &&& line
    rwa [masked_bit whole', masked_bit whole]
  changes := by
    intro line change listed has has' told
    have line_ : line ∈ modemLines.map Prod.fst := List.mem_map.mpr ⟨_, listed, rfl⟩
    have change_ : change ∈ modemLines.map Prod.snd := List.mem_map.mpr ⟨_, listed, rfl⟩
    have whole := (mask_line mask line_).resolve_left has
    have whole' := (mask_line mask' line_).resolve_left has'
    have whole'' := (mask_change mask' change_).resolve_left told
    change after &&& mask' &&& change ≠ 0 ↔
      after &&& mask' &&& line ≠ before &&& mask &&& line
    rw [masked_bit whole', masked_bit whole, masked_bit whole'']
    exact changes line change listed

/-- Before the first notice all lines are taken to be off. -/
def Notice.none_ : Notice := ⟨255, 0⟩

/-- The notices that were sent; the last one was of the modem state that is remembered. -/
structure Noticed (s : Server) : Prop where
  chain : (Notice.none_ :: s.notices).IsChain Follows
  last : ∃ notice, (Notice.none_ :: s.notices).getLast? = some notice ∧
    notice.payload = s.modemState &&& notice.mask

variable {platform : Platform} {allowed : Round → Prop} {round : Round} {flow : Bool}
  {s next : Server}

/-- Every move leaves the notices following each other. -/
theorem Noticed.move (noticed : Noticed s) (moved : Move platform round flow s next) :
    Noticed next := by
  obtain ⟨chain, notice, last, remembered⟩ := noticed
  cases moved with
  | @notified r newstate open_ flows looked changed sent =>
    -- The new notice follows the last one, which was of the state before.
    have follows : Follows notice ⟨s.redirector.modemStateMask,
        newstate &&& s.redirector.modemStateMask⟩ := by
      obtain ⟨mask, payload⟩ := notice
      have remembered : payload = s.modemState &&& mask := remembered
      subst remembered
      refine .of_states changed fun line change listed => ?_
      rw [looked]
      exact getModemState_change s.redirector.port s.modemState listed
    refine ⟨?_, ⟨s.redirector.modemStateMask, newstate &&& s.redirector.modemStateMask⟩, ?_, rfl⟩
    · rw [← List.cons_append]
      refine chain.append (.singleton _) fun before member after member' => ?_
      rw [last, Option.mem_some_iff] at member
      obtain rfl := member
      cases member'
      exact follows
    · rw [← List.cons_append, List.getLast?_append, List.getLast?_singleton]
      rfl
  | dropped =>
    obtain ⟨port, dropped⟩ := Well.dropConnection_eq platform s
    rw [dropped]
    exact ⟨chain, notice, last, remembered⟩
  | _ => exact ⟨chain, notice, last, remembered⟩

/-- In every run the notices follow each other. -/
theorem Reached.noticed (reached : Reached platform allowed s) : Noticed s := by
  have first : Noticed startServer := ⟨.singleton _, _, rfl, rfl⟩
  exact reached.keeps first (fun _ noticed => ⟨noticed.chain, noticed.last⟩)
    fun _ _ noticed moved => noticed.move moved

/-- The notices in the stream to the client are the last ones that were sent at all. -/
theorem Reached.stream_noticed
    (reached : Reached platform (fun round => round.writeNet ≠ .wouldBlock) s)
    (connected : s.inSocketFd = true) :
    (decode (s.toNet ++ s.redirector.toNetBuf.contents)).filterMap notification <:+
      s.notices.map Notice.payload := by
  obtain ⟨tokens, sent⟩ := reached.sent connected
  rw [sent.stream, Telnet.decode_encode sent.valid]
  exact sent.noticed

/-- In every run in which no write to the network would block, the notices in the stream to the
client are the last ones that were sent at all, and across connections each of these follows the
one before it: it differs from that one in a line and says which of the lines have changed. -/
theorem Reached.notices_follow
    (reached : Reached platform (fun round => round.writeNet ≠ .wouldBlock) s)
    (connected : s.inSocketFd = true) :
    (decode (s.toNet ++ s.redirector.toNetBuf.contents)).filterMap notification <:+
        s.notices.map Notice.payload ∧
      (Notice.none_ :: s.notices).IsChain Follows :=
  ⟨reached.stream_noticed connected, reached.noticed.chain⟩

/-- A carrier that comes and goes is noticed twice. -/
theorem carrier_notices_follow : ∃ s : Server, s.notices = [⟨255, 136⟩, ⟨255, 8⟩] ∧
    (decode (s.toNet ++ s.redirector.toNetBuf.contents)).filterMap notification <:+
        s.notices.map Notice.payload ∧
      (Notice.none_ :: s.notices).IsChain Follows := by
  -- The carrier comes and goes again, each seen by a poll of its own.
  obtain ⟨s, reached, test⟩ := Reached.of_test
    (fun s => s.inSocketFd && s.notices == [⟨255, 136⟩, ⟨255, 8⟩])
    (show (Transition.execute (Server.step Sample.board)
      (fun _ round => round.writeNet ≠ .wouldBlock) startServer
      [Sample.connecting, { lines := some tiocmCar, newpoll := ⟨1, 0⟩, later := ⟨1, 0⟩ },
        { lines := some 0, newpoll := ⟨2, 0⟩, later := ⟨2, 0⟩ }]).any _ = true by decide +kernel)
  rw [Bool.and_eq_true, beq_iff_eq] at test
  exact ⟨s, test.2, reached.notices_follow test.1⟩

/-- Whether the modem state that is remembered has the lines that the client asks for as they
are. -/
def Server.UpToDate (s : Server) : Prop :=
  s.redirector.port.modemLines &&& s.redirector.modemStateMask =
    s.modemState &&& s.redirector.modemStateMask &&& tncomModmaskNodelta

/-- Looking at the modem state brings it up to date, as far as the client asks for it. -/
theorem Server.notifyModemState_upToDate {events : Events} (called : events.modemstate = true)
    (ended : s.notifyModemState events = .ok next) : next.UpToDate := by
  -- Masks commute, so the lines of the new state are those of the port under the mask.
  have known : s.redirector.port.getModemState s.modemState &&& s.redirector.modemStateMask &&&
      tncomModmaskNodelta = s.redirector.port.modemLines &&& s.redirector.modemStateMask := by
    rw [UInt8.and_assoc, UInt8.and_comm s.redirector.modemStateMask, ← UInt8.and_assoc,
      getModemState_line]
  unfold notifyModemState at ended
  rw [called, if_pos rfl] at ended
  by_cases open_ : s.deviceFd = true
  · rw [pointer, if_pos open_] at ended
    change (if _ then _ else _) = _ at ended
    split at ended
    -- A change that is seen is remembered, and one that is not seen is none.
    · generalize sent : s.redirector.sendCPCByteCommand _ _ = result at ended
      cases result with
      | error => cases ended
      | ok r =>
        obtain ⟨-, rfl⟩ := Redirector.sendCPCByteCommand_eq_ok (by decide) sent
        cases ended
        exact known.symm
    · next same =>
      cases ended
      exact known.symm.trans (Decidable.not_not.mp same)
  · rw [pointer, if_neg open_] at ended
    cases ended

/-- A turn that looks at the modem state and goes on brings it up to date. -/
theorem Reached.step_upToDate (reached : Reached platform allowed s) (open_ : s.deviceFd = true)
    (flows : s.redirector.inputFlow = true)
    (room : sendCPCByteCommandBytes ≤ s.redirector.toNetBuf.bufferRoomLeft)
    (due : (pollModemState s.lastPoll round.newpoll round.later).1 = true)
    (stepped : s.step platform round = some next) (goesOn : next.status = .running)
    (still : next.deviceFd = true) : next.UpToDate := by
  obtain ⟨ready, events, looked, -, looks, served⟩ :=
    Server.step_completed reached.well open_ stepped goesOn still
  have enabled := reached.well.enabled
  -- Flow, room and the time that has passed make the turn look at the lines.
  have called : events.modemstate = true := by
    rw [looks.modemstate, due]
    simp [Server.requests, open_, enabled, flows, room]
  unfold Server.serve at served
  cases exchanged : looked.exchange platform events round with
  | error => rw [exchanged] at served; cases served
  | ok mid =>
    rw [exchanged] at served
    exact Server.notifyModemState_upToDate called served

/-- Whether a notice has the lines that it was to have, and that the client asks for now, as they
are. -/
def Server.Tells (s : Server) (notice : Notice) : Prop :=
  s.redirector.port.modemLines &&& notice.mask &&& s.redirector.modemStateMask =
    notice.payload &&& s.redirector.modemStateMask &&& tncomModmaskNodelta

/-- What is remembered is what the last notice was of. -/
theorem Server.UpToDate.tells (upToDate : s.UpToDate) {notice : Notice}
    (remembered : notice.payload = s.modemState &&& notice.mask) : s.Tells notice := by
  have swap (first second third : UInt8) :
      first &&& second &&& third = first &&& third &&& second := by
    rw [UInt8.and_assoc, UInt8.and_comm second, ← UInt8.and_assoc]
  unfold Server.UpToDate at upToDate
  unfold Server.Tells
  rw [swap, upToDate, remembered, swap _ tncomModmaskNodelta, swap s.modemState]

/-- In every run in which no write to the network would block, behind every turn that looks at the
modem state and goes on, the last notice tells the lines as they are; it is the last one in the
stream to the client, unless that has none and the notice went to a client before. -/
theorem Reached.notices_fresh
    (reached : Reached platform (fun round => round.writeNet ≠ .wouldBlock) s)
    (drained : round.writeNet ≠ .wouldBlock) (open_ : s.deviceFd = true)
    (flows : s.redirector.inputFlow = true)
    (room : sendCPCByteCommandBytes ≤ s.redirector.toNetBuf.bufferRoomLeft)
    (due : (pollModemState s.lastPoll round.newpoll round.later).1 = true)
    (stepped : s.step platform round = some next) (goesOn : next.status = .running)
    (still : next.deviceFd = true) :
    ∃ notice, (Notice.none_ :: next.notices).getLast? = some notice ∧ next.Tells notice ∧
      ∀ payload ∈ ((decode (next.toNet ++ next.redirector.toNetBuf.contents)).filterMap
        notification).getLast?, notice.payload = payload := by
  have upToDate := reached.step_upToDate open_ flows room due stepped goesOn still
  have reached' : Reached platform (fun round => round.writeNet ≠ .wouldBlock) next :=
    reached.snoc drained stepped
  obtain ⟨notice, last, remembered⟩ := reached'.noticed.last
  refine ⟨notice, last, upToDate.tells remembered, fun payload listed => ?_⟩
  -- The notices of the connection are the last ones, so that its last one is the last of all.
  obtain ⟨earlier, whole⟩ := reached'.stream_noticed (reached'.well.device still)
  have payloads := congrArg (Option.map Notice.payload) last
  rw [← List.getLast?_map, List.map_cons, ← whole, ← List.cons_append, List.getLast?_append,
    Option.mem_def.mp listed] at payloads
  exact (Option.some.inj payloads).symm

/-- A client is told of a carrier that comes, in the turn in which it comes. -/
theorem carrier_notices_fresh : ∃ s next : Server, s.notices = [] ∧
    next.notices = [⟨255, 136⟩] ∧
    ∃ notice, (Notice.none_ :: next.notices).getLast? = some notice ∧ next.Tells notice ∧
      ∀ payload ∈ ((decode (next.toNet ++ next.redirector.toNetBuf.contents)).filterMap
        notification).getLast?, notice.payload = payload := by
  -- The carrier is seen by the first poll after the connection.
  let round : Round := { lines := some tiocmCar, newpoll := ⟨1, 0⟩, later := ⟨1, 0⟩ }
  obtain ⟨s, reached, test⟩ := Reached.of_test
    (fun s => s.notices == [] && s.deviceFd && s.redirector.inputFlow &&
      s.redirector.toNetBuf.bufferRoomLeft == 2029 && s.lastPoll == ⟨0, 0⟩ &&
      (s.step Sample.board round).any fun next =>
        next.status == .running && next.deviceFd && next.notices == [⟨255, 136⟩])
    (show (Transition.execute (Server.step Sample.board)
      (fun _ round => round.writeNet ≠ .wouldBlock) startServer
      [Sample.connecting]).any _ = true by decide +kernel)
  rw [Bool.and_eq_true, Option.any_eq_true] at test
  obtain ⟨before, next, stepped, after⟩ := test
  simp only [Bool.and_eq_true, beq_iff_eq] at before after
  obtain ⟨⟨⟨⟨none_, open_⟩, flows⟩, room⟩, early⟩ := before
  obtain ⟨⟨running, still⟩, told⟩ := after
  exact ⟨s, next, none_, told, reached.notices_fresh (by decide) open_ flows
    (by rw [room]; decide) (by rw [early]; decide) stepped running still⟩

/-- Whether the client is sent nothing from the device between two states. -/
structure Silent (s next : Server) : Prop where
  notices : next.notices = s.notices
  fromDev : next.fromDev = s.fromDev ∨ next.fromDev = []

/-- In a turn that begins without flow no move takes anything from the device. -/
theorem Move.silent (moved : Move platform round false s next) : Silent s next := by
  cases moved with
  | deviceByte c open_ flows => cases flows
  | notified newstate open_ flows => cases flows
  -- A new client has read nothing of the device yet.
  | accepted => exact ⟨rfl, .inr rfl⟩
  | dropped =>
    obtain ⟨port, dropped⟩ := Well.dropConnection_eq platform s
    rw [dropped]
    exact ⟨rfl, .inl rfl⟩
  | _ => exact ⟨rfl, .inl rfl⟩

/-- Silence behind silence is silence. -/
theorem Silent.trans {last : Server} (first : Silent s next) (second : Silent next last) :
    Silent s last where
  notices := second.notices.trans first.notices
  fromDev := by
    rcases second.fromDev with same | none_
    · rw [same]
      exact first.fromDev
    · exact .inr none_

/-- A turn that begins without flow is silent up to its end. -/
theorem moves_silent (moved : ReflTransGen (Move platform round false) s next) :
    Silent s next := by
  induction moved with
  | refl => exact ⟨rfl, .inl rfl⟩
  | tail _ last ih => exact ih.trans last.silent

/-- A turn in which the flow is suspended is silent. -/
theorem step_silent (well : Well s) (suspended : s.redirector.inputFlow = false)
    (stepped : s.step platform round = some next) : Silent s next := by
  -- Even a turn that ends the program has looked at the time and the lines first.
  have observed : ReflTransGen (Move platform round false) s (s.observe round) :=
    Server.observe_moves s round
  have silent := moves_silent observed
  cases Server.step_stepped well stepped with
  | goesOn moved =>
    rw [suspended] at moved
    exact moves_silent moved
  | exits => exact ⟨silent.notices, silent.fromDev⟩
  | aborts => exact ⟨silent.notices, silent.fromDev⟩

/-- While the flow is suspended, which it stays for the next client as well, nothing is read from
the device and no notice is sent. -/
theorem Reached.suspended (reached : Reached platform allowed s)
    (run : Transition.Run (Server.step platform)
      (fun s round => allowed round ∧ s.redirector.inputFlow = false) s next) : Silent s next := by
  refine Transition.Run.invariant run ⟨rfl, .inl rfl⟩ fun earlier permitted stepped silent => ?_
  have reached : Reached platform allowed _ :=
    Transition.Run.trans reached (Transition.Run.weaken And.left earlier)
  exact silent.trans (step_silent reached.well permitted.2 stepped)

/-- What the device sends waits once the client has suspended the flow. -/
theorem reading_suspended : ∃ s next : Server, s.redirector.inputFlow = false ∧
    s.fromDev = [1] ∧ next.status = .running ∧ Silent s next := by
  -- The client asks for control and then sends FLOWCONTROL-SUSPEND.
  obtain ⟨s, reached, test⟩ := Reached.of_test
    (fun s => !s.redirector.inputFlow && s.fromDev == [1] &&
      (Transition.execute (Server.step Sample.board)
        (fun s _ => True ∧ s.redirector.inputFlow = false) s [Sample.reading [2]]).any
          fun next => next.status == .running)
    (show (Transition.execute (Server.step Sample.board) (fun _ _ => True) startServer
      [Sample.connecting, Sample.reading [1], Sample.hearing [255, 251, 44],
        Sample.hearing [255, 250, 44], Sample.hearing [8, 255, 240]]).any _ = true by
          decide +kernel)
  simp only [Bool.and_eq_true, Bool.not_eq_true', beq_iff_eq] at test
  obtain ⟨⟨suspended, read⟩, goesOn⟩ := test
  obtain ⟨next, run, running⟩ := Transition.Run.of_test _ goesOn
  exact ⟨s, next, suspended, read, beq_iff_eq.mp running, reached.suspended run⟩

end SerialPort.Sercd
