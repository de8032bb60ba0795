import SerialPort.Sercd.Control
import SerialPort.Sercd.Governing

/-! What clients make of the settings of the port, and what they are told about it. -/

namespace SerialPort.Sercd

open Telnet (Token encode decode)
open Negotiation (Demand)

/-- Behind anything but a CR, bytes without a CR before the last are sent as they are. -/
theorem padder_plain {binary : Bool} {last : UInt8} {bytes : Bytes} (before : last ≠ 0x0D)
    (plain : 0x0D ∉ bytes.dropLast) : (padder binary).answers last bytes = bytes := by
  -- The byte before is a parameter; it is a CR for none of the bytes that follow one.
  induction bytes generalizing last with
  | nil => rfl
  | cons c bytes ih =>
    have here : (padder binary).answer last c = [c] := if_neg fun padded => before padded.2.2.2
    rw [Transducer.answers_cons, here, List.singleton_append]
    cases bytes with
    | nil => rfl
    | cons c' bytes =>
      rw [List.dropLast_cons_cons, List.mem_cons, not_or] at plain
      exact congrArg (c :: ·) (ih (Ne.symm plain.1) plain.2)

namespace Redirector

variable {platform : Platform} {r next : Redirector}

/-- The settings of the port by themselves. -/
def line (r : Redirector) : Line :=
  r.port.settings.line

/-- The governor that the engine stands for. -/
def governor (r : Redirector) : Governor :=
  ⟨fun side => (side.party (r.tnstate tncomPortOption)).active, r.line, r.breakSignaled⟩

/-- A parameter without a CR before its last byte is sent as it is, or behind a NUL. -/
theorem padded_plain (r : Redirector) {parameter : Bytes} (plain : 0x0D ∉ parameter.dropLast) :
    r.padded parameter = parameter ∨ r.padded parameter = 0x00 :: parameter := by
  cases parameter with
  | nil => exact .inl rfl
  | cons c rest =>
    -- Only a CR is followed by a NUL, and there is none but in the last place.
    have whole : r.padded (c :: rest) = pad r.sendsBinary r.escWriteLast c ++ rest := by
      have behind : (padder r.sendsBinary).answers c rest = rest := by
        cases rest with
        | nil => rfl
        | cons c' rest =>
          rw [List.dropLast_cons_cons, List.mem_cons, not_or] at plain
          exact padder_plain (Ne.symm plain.1) plain.2
      rw [padded, Transducer.answers_cons]
      exact congrArg (_ ++ ·) behind
    rw [whole, pad]
    split
    · exact .inr rfl
    · exact .inl rfl

/-- Whether a part of the engine governs the port in some way, and sends some replies. -/
def Settles (r : Redirector) (governor : Governor) (replies : List Expected)
    (result : Except Abort Redirector) : Prop :=
  ∃ (next : Redirector) (tokens : List Token), result = next.emit (encode tokens) ∧
    next.toNetBuf = r.toNetBuf ∧ (∀ token ∈ tokens, token.Valid) ∧
    next.line = governor.line ∧ next.breakSignaled = governor.broken ∧
    List.Forall₂ Confirms (tokens.filterMap reply) replies

namespace Settles

variable {governor : Governor} {changed : Redirector} {code : UInt8} {parameter : Bytes}

/-- A reply to a request for a setting is one that is expected. -/
theorem replied {allowed : List Bytes} (known : code ∈ [101, 102, 103, 104, 105])
    (toNetBuf : changed.toNetBuf = r.toNetBuf) (line : changed.line = governor.line)
    (broken : changed.breakSignaled = governor.broken) (plain : 0x0D ∉ parameter.dropLast)
    (listed : parameter ∈ allowed) :
    Settles r governor [(code, allowed)] (changed.sendCPC code parameter) := by
  -- The five codes are those of the replies, and none of them is the IAC byte.
  have facts : code ≠ tnIac ∧ (tnascSetBaudrate ≤ code && code ≤ tnascSetControl) = true := by
    simp only [List.mem_cons, List.not_mem_nil, or_false] at known
    rcases known with rfl | rfl | rfl | rfl | rfl <;> decide
  have sent : reply (changed.cpcToken code parameter) = some (code, changed.padded parameter) := by
    rw [reply, cpcToken, comPort, if_pos rfl]
    exact Option.filter_some_pos facts.2
  refine ⟨changed.afterCPC parameter, [changed.cpcToken code parameter], ?_, toNetBuf, ?_, line,
    broken, ?_⟩
  · rw [sendCPC_eq _ _ _ facts.1, encode, List.flatMap_singleton]
  · intro token member
    rw [List.mem_singleton.mp member]
    trivial
  · rw [List.filterMap_cons, sent]
    exact .cons ⟨rfl, parameter, listed, changed.padded_plain plain⟩ .nil

/-- Any other subnegotiation is no reply to a request for a setting. -/
theorem other (plain : code ≠ tnIac)
    (unknown : (tnascSetBaudrate ≤ code && code ≤ tnascSetControl) = false)
    (toNetBuf : changed.toNetBuf = r.toNetBuf) (line : changed.line = governor.line)
    (broken : changed.breakSignaled = governor.broken) :
    Settles r governor [] (changed.sendCPC code parameter) := by
  -- It is in the stream, but not among the replies.
  have silent : reply (changed.cpcToken code parameter) = none := by
    rw [reply, cpcToken, comPort, if_pos rfl]
    exact Option.filter_some_neg unknown
  refine ⟨changed.afterCPC parameter, [changed.cpcToken code parameter], ?_, toNetBuf, ?_, line,
    broken, ?_⟩
  · rw [sendCPC_eq _ _ _ plain, encode, List.flatMap_singleton]
  · intro token member
    rw [List.mem_singleton.mp member]
    trivial
  · rw [List.filterMap_cons, silent]
    exact .nil

/-- What is not answered is no reply either. -/
theorem silent (toNetBuf : next.toNetBuf = r.toNetBuf) (line : next.line = governor.line)
    (broken : next.breakSignaled = governor.broken) : Settles r governor [] (.ok next) :=
  ⟨next, [], rfl, toNetBuf, by simp, line, broken, .nil⟩

end Settles

end Redirector

namespace Port

variable {driver : Driver} (port : Port)

/-- A driver that obeys sets the settings it is given. -/
theorem tcsetattr_line (obeys : driver.Obeys) (settings : Termios) :
    (port.tcsetattr driver settings).settings.line = settings.line :=
  congrArg Termios.line (obeys _ _)

/-- Setting the speed of the port does to the line what its name says. -/
theorem setPortSpeed_line (obeys : driver.Obeys) (baudRate : Nat) :
    (port.setPortSpeed driver baudRate).settings.line =
      port.settings.line.setSpeed baudRate := by
  rw [setPortSpeed, port.tcsetattr_line obeys]
  exact port.settings.line_setSpeed baudRate

/-- So does setting the data size. -/
theorem setPortDataSize_line (obeys : driver.Obeys) (dataSize : UInt8) :
    (port.setPortDataSize driver dataSize).settings.line =
      port.settings.line.setDataSize dataSize := by
  rw [setPortDataSize, port.tcsetattr_line obeys]
  exact port.settings.line_setDataSize dataSize

/-- So does setting the parity. -/
theorem setPortParity_line (obeys : driver.Obeys) (parity : UInt8) :
    (port.setPortParity driver parity).settings.line =
      port.settings.line.setParity parity := by
  rw [setPortParity, port.tcsetattr_line obeys]
  exact port.settings.line_setParity parity

/-- So does setting the stop bits. -/
theorem setPortStopSize_line (obeys : driver.Obeys) (stopSize : UInt8) :
    (port.setPortStopSize driver stopSize).settings.line =
      port.settings.line.setStopSize stopSize := by
  rw [setPortStopSize, port.tcsetattr_line obeys]
  exact port.settings.line_setStopSize stopSize

/-- So does setting the flow control, whatever it makes of the lines. -/
theorem setPortFlowControl_line (obeys : driver.Obeys) (how : UInt8) :
    (port.setPortFlowControl driver how).settings.line = port.settings.line.setFlow how := by
  rw [setPortFlowControl, tiocmset, port.tcsetattr_line obeys]
  exact port.settings.line_setFlow how

/-- Flushing leaves the settings alone. -/
theorem setFlush_settings (selector : UInt8) :
    (port.setFlush selector).settings = port.settings := by
  -- A flush is a call on the device and leaves the flags alone, whatever the selector is.
  unfold setFlush
  split
  · rfl
  split
  · rfl
  split
  · rfl
  · rfl

end Port

namespace Redirector

/-- Requests for flow control in one direction only are those that ask for something. -/
theorem inflow_iff {parm : UInt8} (sets : parm ≠ tncomCmdInflowReq) :
    (tncomCmdInflowReq ≤ parm ∧ parm ≤ tncomCmdInflowHardware) ↔
      parm ∈ [tncomCmdInflowNone, tncomCmdInflowXonxoff, tncomCmdInflowHardware] := by
  simp only [UInt8.le_iff_toNat_le, ← UInt8.toNat_inj, List.mem_cons, List.not_mem_nil, or_false,
    ne_eq] at sets ⊢
  simp only [UInt8.toNat_ofNat] at sets ⊢
  omega

/-- Flow control, breaks and lines are answered as the governor has it. -/
theorem handleControl_settles (obeys : platform.driver.Obeys) {parameter : Bytes} {parm : UInt8}
    (first : parameter.headD 0 = parm) :
    let governor := r.governor.follow tncasSetControl parameter
    Settles r governor (governor.confirm platform tncasSetControl parameter)
      (r.handleControl platform parm) := by
  subst first
  generalize value : parameter.headD 0 = parm
  have follow : r.governor.follow tncasSetControl parameter =
      if parm = tncomCmdBreakOn then { r.governor with broken := true }
      else if parm = tncomCmdBreakOff then { r.governor with broken := false }
      else { r.governor with line := r.line.setFlow parm } := by
    rw [← value]
    rfl
  have confirm (governor : Governor) : governor.confirm platform tncasSetControl parameter =
      [(tnascSetControl, governor.controlParameters platform.ciscoIOSCompatible parm)] := by
    rw [← value]
    rfl
  dsimp only
  rw [follow, confirm, handleControl]
  by_cases asks : parm = tncomCmdFlowReq ∨ parm = tncomCmdDtrReq ∨ parm = tncomCmdRtsReq ∨
      parm = tncomCmdInflowReq
  · -- What is only asked for is left as it is.
    rw [if_pos asks]
    rcases asks with rfl | rfl | rfl | rfl
    · exact .replied (by decide) rfl rfl rfl (by simp) (List.mem_singleton_self _)
    · refine .replied (by decide) rfl rfl rfl (by simp) ?_
      change [if _ then tncomCmdDtrOn else tncomCmdDtrOff] ∈ [[tncomCmdDtrOn], [tncomCmdDtrOff]]
      split <;> decide
    · refine .replied (by decide) rfl rfl rfl (by simp) ?_
      change [if _ then tncomCmdRtsOn else tncomCmdRtsOff] ∈ [[tncomCmdRtsOn], [tncomCmdRtsOff]]
      split <;> decide
    · exact .replied (by decide) rfl rfl rfl (by simp) (List.mem_singleton_self _)
  rw [if_neg asks]
  simp only [not_or] at asks
  obtain ⟨-, dtr, rts, inflow⟩ := asks
  by_cases ask : parm = tncomCmdBreakReq
  · subst ask
    exact .replied (by decide) rfl rfl rfl (by simp) (List.mem_singleton_self _)
  by_cases on : parm = tncomCmdBreakOn
  · subst on
    exact .replied (by decide) rfl rfl rfl (by simp) (List.mem_singleton_self _)
  by_cases off : parm = tncomCmdBreakOff
  · subst off
    exact .replied (by decide) rfl rfl rfl (by simp) (List.mem_singleton_self _)
  -- Any other value sets the flow control, or nothing.
  have line := r.port.setPortFlowControl_line obeys parm
  have breaks : parm ∉ [tncomCmdBreakReq, tncomCmdBreakOn, tncomCmdBreakOff] := by
    simp [ask, on, off]
  rw [if_neg ask, if_neg on, if_neg off, if_neg on, if_neg off]
  refine .replied (by decide) rfl line rfl (by simp) ?_
  rw [Governor.controlParameters, if_neg dtr, if_neg rts, if_neg inflow, if_neg breaks]
  simp only [inflow_iff inflow, and_comm]
  split
  · exact List.mem_singleton_self _
  · refine List.mem_singleton.mpr (congrArg (fun flow => [flow]) ?_)
    exact congrArg Line.outFlow line

/-- A request for one setting sets it unless it only asks for it, and the reply is how it is. -/
theorem setting_settles {set : Port → UInt8 → Port} {get : Port → UInt8} {code request parm : UInt8}
    {change : Line} (value : Line → UInt8) (known : code ∈ [101, 102, 103, 104, 105])
    (sets : (set r.port parm).settings.line = change)
    (gets : ∀ port : Port, get port = value port.settings.line)
    (follow : r.governor.follow request [parm] =
      if parm = 0 then r.governor else { r.governor with line := change })
    (confirm : ∀ governor : Governor,
      governor.confirm platform request [parm] = [(code, [[value governor.line]])]) :
    Settles r (r.governor.follow request [parm])
      ((r.governor.follow request [parm]).confirm platform request [parm])
      (r.handleSetting set get code parm) := by
  rw [confirm, follow]
  unfold handleSetting sendCPCByteCommand
  -- The value 0 only asks; any other one is set first, and then told as it has been kept.
  by_cases asks : parm = 0
  · simp only [if_pos asks]
    refine .replied known rfl rfl rfl (by simp) ?_
    rw [gets]
    exact List.mem_singleton_self _
  · simp only [if_neg asks]
    refine .replied known rfl sets rfl (by simp) ?_
    rw [gets, sets]
    exact List.mem_singleton_self _

/-- No speed that is known has a CR among its bytes. -/
theorem longBytes_plain (size : LongSize) (ti : Termios) :
    0x0D ∉ (longBytes size ti.termios2TncomSpeed).dropLast := by
  -- The speed that is told is 0 or one of the table.
  have known : ti.termios2TncomSpeed ∈ 0 :: speeds.map Prod.fst := by
    unfold Termios.termios2TncomSpeed
    split
    · next speed found =>
      exact List.mem_cons_of_mem _ (List.mem_map_of_mem (List.mem_of_find?_eq_some found))
    · exact List.mem_cons_self
  have all : ∀ speed ∈ 0 :: speeds.map Prod.fst, 0x0D ∉ (longBytes size speed).dropLast := by
    cases size <;> decide
  exact all _ known

/-- A request for a speed sets it unless it only asks for it, and the reply is what it is. -/
theorem handleBaudRate_settles (obeys : platform.driver.Obeys) (baudRate : Nat) :
    let governor := if baudRate = 0 then r.governor
      else { r.governor with line := r.line.setSpeed baudRate }
    let port := if baudRate = 0 then r.port else r.port.setPortSpeed platform.driver baudRate
    Settles r governor
      [(tnascSetBaudrate, [Governor.speedParameter platform.longSize governor.line.speed])]
      ({ r with port := port }.sendBaudRate platform port.settings.termios2TncomSpeed) := by
  dsimp only
  unfold sendBaudRate
  -- The speed is told in both cases, as it is after it may have been set.
  by_cases asks : baudRate = 0
  · simp only [if_pos asks]
    refine .replied (by decide) rfl rfl rfl (longBytes_plain _ _) ?_
    exact List.mem_singleton.mpr (longBytes_eq _ _)
  · have sets := r.port.setPortSpeed_line obeys baudRate
    simp only [if_neg asks]
    refine .replied (by decide) rfl sets rfl (longBytes_plain _ _) ?_
    have speed : ((r.port.setPortSpeed platform.driver baudRate).settings.termios2TncomSpeed) =
        (r.line.setSpeed baudRate).speed := congrArg Line.speed sets
    rw [speed]
    exact List.mem_singleton.mpr (longBytes_eq _ _)

/-- A request does to the port what the governor makes of it, and is replied to as it has it. -/
theorem handleCPCCommand_settles (obeys : platform.driver.Obeys) {command : Bytes}
    (complete : Complete command) (sub : byteAt command 1 = tnSb) :
    let governor := r.governor.follow (byteAt command 3) (commandParameter command)
    Settles r governor
      (governor.confirm platform (byteAt command 3) (commandParameter command))
      (r.handleCPCCommand platform command) := by
  unfold handleCPCCommand
  dsimp only
  generalize request_ : byteAt command 3 = request
  by_cases signature_ : request = tncasSignature
  · subst signature_
    by_cases void : command.length = 6
    · rw [if_pos rfl, if_pos void, sendSignature, if_pos (signature_length_le platform)]
      exact .other (by decide) rfl rfl rfl rfl
    · rw [if_pos rfl, if_neg void]
      exact .silent rfl rfl rfl
  -- Any other request has the length that it is known to have.
  have whole := complete.whole fun same => signature_ (request_.symm.trans same.2.2)
  rw [completeLength, if_pos sub, request_] at whole
  rw [if_neg signature_]
  by_cases baudRate : request = tncasSetBaudrate
  · subst baudRate
    have length : command.length = 10 := whole
    rw [if_pos rfl, ← commandParameter_number length]
    exact handleBaudRate_settles obeys _
  rw [if_neg baudRate] at whole ⊢
  by_cases flow : request = tncasFlowcontrolSuspend ∨ request = tncasFlowcontrolResume
  · rcases flow with rfl | rfl <;> exact .silent rfl rfl rfl
  have length : command.length = 7 := whole.trans (if_neg flow)
  have byte := commandParameter_byte length
  rw [not_or] at flow
  generalize byteAt command 4 = parm at byte ⊢
  rw [byte]
  by_cases dataSize : request = tncasSetDatasize
  · rw [if_pos dataSize, dataSize]
    exact setting_settles Line.dataSize (by decide) (r.port.setPortDataSize_line obeys _)
      (fun _ => rfl) rfl fun _ => rfl
  by_cases parity : request = tncasSetParity
  · rw [if_neg dataSize, if_pos parity, parity]
    exact setting_settles Line.parity (by decide) (r.port.setPortParity_line obeys _)
      (fun _ => rfl) rfl fun _ => rfl
  by_cases stopSize : request = tncasSetStopsize
  · rw [if_neg dataSize, if_neg parity, if_pos stopSize, stopSize]
    exact setting_settles Line.stopSize (by decide) (r.port.setPortStopSize_line obeys _)
      (fun _ => rfl) rfl fun _ => rfl
  rw [if_neg dataSize, if_neg parity, if_neg stopSize]
  by_cases control : request = tncasSetControl
  · rw [if_pos control, control]
    exact handleControl_settles obeys rfl
  -- All other requests leave the settings alone, and are answered with something else.
  have follow : r.governor.follow request [parm] = r.governor := by
    rw [Governor.follow, if_neg baudRate, if_neg dataSize, if_neg parity, if_neg stopSize,
      if_neg control]
  have confirm : r.governor.confirm platform request [parm] = [] := by
    rw [Governor.confirm, if_neg baudRate, if_neg dataSize, if_neg parity, if_neg stopSize,
      if_neg control]
  rw [follow, confirm, if_neg control, if_neg flow.1, if_neg flow.2]
  split
  · exact .other (by decide) rfl rfl rfl rfl
  split
  · exact .other (by decide) rfl rfl rfl rfl
  split
  · exact .other (by decide) rfl rfl (congrArg Termios.line (r.port.setFlush_settings _)) rfl
  · exact .silent rfl rfl rfl

/-- An option that is negotiated leaves the settings alone, and is no reply. -/
theorem Meets.settles {side : Side} {demand : Demand} {option : UInt8} {governor : Governor}
    {result : Except Abort Redirector} (meets : Meets side demand r option result)
    (line : r.line = governor.line) (broken : r.breakSignaled = governor.broken) :
    Settles r governor [] result := by
  obtain ⟨enabled, change, whole, -⟩ := meets
  -- The answers are option commands, and no reply is one.
  have silent : ((((side.party (r.tnstate option)).answer (supported option) demand).map
      (side.say option)).filterMap reply) = [] := by
    refine List.filterMap_eq_nil_iff.mpr fun token listed => ?_
    obtain ⟨yes, -, rfl⟩ := List.mem_map.mp listed
    rfl
  refine ⟨_, _, whole, rfl, ?_, line, broken, ?_⟩
  · intro token listed
    obtain ⟨yes, -, rfl⟩ := List.mem_map.mp listed
    exact Side.say_valid yes
  · rw [silent]
    exact .nil

/-- Every command is answered as the governor has it. -/
theorem handleIACCommand_settles (obeys : platform.driver.Obeys) {command : Bytes}
    (complete : Complete command) :
    Settles r ((governing platform).next r.governor (commandToken command))
      ((governing platform).answer r.governor (commandToken command))
      (r.handleIACCommand platform command) := by
  unfold handleIACCommand
  dsimp only
  split
  · next sub =>
    rw [commandToken_sub complete sub]
    by_cases port : byteAt command 2 = tncomPortOption
    · -- The gate is the one of the governor.
      rw [port]
      have about : comPort (.sub (tncomPortOption :: byteAt command 3 ::
          commandParameter command)) = some (byteAt command 3, commandParameter command) := by
        rw [comPort, if_pos rfl]
      simp only [governing, about]
      by_cases controls : r.governor.controls = true
      · have gate : ((r.tnstate tncomPortOption).isWill || (r.tnstate tncomPortOption).isDo) =
            true := controls
        rw [if_pos controls, if_pos controls, if_pos (by rw [gate]; rfl)]
        exact handleCPCCommand_settles (r := r.record command) obeys complete sub
      · have gate : ((r.tnstate tncomPortOption).isWill || (r.tnstate tncomPortOption).isDo) ≠
            true := controls
        rw [if_neg controls, if_neg controls,
          if_neg fun both => gate ((Bool.and_eq_true _ _).mp both).1]
        exact .silent rfl rfl rfl
    · -- A subnegotiation about another option is only recorded.
      have about : comPort (.sub (byteAt command 2 :: byteAt command 3 ::
          commandParameter command)) = none := if_neg port
      simp only [governing, about]
      rw [if_neg fun both => port (beq_iff_eq.mp ((Bool.and_eq_true _ _).mp both).2)]
      exact .silent rfl rfl rfl
  next other =>
  have option : commandToken command = .option (byteAt command 1) (byteAt command 2) :=
    if_neg other
  rw [option]
  change Settles r (r.governor.agree _) [] _
  split
  · exact (handleWill_meets (r := r.record command) _).settles rfl rfl
  split
  · exact (handleDo_meets (r := r.record command) _).settles rfl rfl
  split
  · exact (handleDont_meets (r := r.record command) _).settles rfl rfl
  split
  · exact (handleWont_meets (r := r.record command) _).settles rfl rfl
  · exact .silent rfl rfl rfl

end Redirector

/-- What a part of a turn makes of the port, and what the client is told meanwhile. -/
structure Governs (platform : Platform) (r next : Redirector) (commands : List Bytes)
    (tokens : List Token) : Prop where
  handled : next.handled = r.handled ++ commands
  governor : next.governor = (governing platform).after r.governor (commands.map commandToken)
  contents : next.toNetBuf.contents = r.toNetBuf.contents ++ encode tokens
  valid : ∀ token ∈ tokens, token.Valid
  confirms : List.Forall₂ Confirms (tokens.filterMap reply)
    ((governing platform).answers r.governor (commands.map commandToken))

namespace Redirector

/-- What does not concern the client is not governed by it. -/
theorem governs_same (handled : next.handled = r.handled) (tnstate : next.tnstate = r.tnstate)
    (settings : next.port.settings = r.port.settings)
    (broken : next.breakSignaled = r.breakSignaled)
    (contents : next.toNetBuf.contents = r.toNetBuf.contents) : Governs platform r next [] [] where
  handled := by rw [handled, List.append_nil]
  governor := by
    -- The governor is made up of the options, the settings and the break.
    unfold Redirector.governor line
    rw [tnstate, settings, broken]
    rfl
  contents := by rw [contents]; exact (List.append_nil _).symm
  valid := by simp
  confirms := .nil

/-- A command that is handled is one that governs. -/
theorem handleIACCommand_governs (obeys : platform.driver.Obeys) {command : Bytes}
    (complete : Complete command) (passed : r.handleIACCommand platform command = .ok next) :
    ∃ tokens, Governs platform r next [command] tokens := by
  obtain ⟨after, answer, whole, handled⟩ := handleIACCommand_handled platform r command
  obtain ⟨other, tokens, result, toNetBuf, valid, line, broken, confirms⟩ :=
    handleIACCommand_settles (r := r) obeys complete
  -- Both say what the same command comes to, one about the options and one about the settings.
  have first : next.handled = after.handled ∧ next.tnstate = after.tnstate := by
    rw [whole] at passed
    obtain ⟨-, rfl⟩ := emit_eq_ok passed
    exact ⟨rfl, rfl⟩
  rw [result] at passed
  obtain ⟨room, rfl⟩ := emit_eq_ok passed
  refine ⟨tokens, first.1.trans handled.handled, ?_, ?_, valid, ?_⟩
  · have active : ∀ side : Side, (side.party (other.tnstate tncomPortOption)).active =
        ((governing platform).next r.governor (commandToken command)).active side := by
      intro side
      have same : other.tnstate = after.tnstate := first.2
      rw [same, handled.options, Side.partyAfter_active _ rfl]
      exact (governing_active platform r.governor side command).symm
    change (⟨fun side => (side.party (other.tnstate tncomPortOption)).active, other.line,
      other.breakSignaled⟩ : Governor) = (governing platform).next r.governor (commandToken command)
    rw [funext active, line, broken]
  · rw [toNetBuf] at room
    change (other.toNetBuf.append (encode tokens)).contents = _
    rw [toNetBuf, BufferType.append_contents room]
  · rw [List.map_singleton, Transducer.answers_cons, Transducer.answers_nil, List.append_nil]
    exact confirms

/-- A byte from the network governs if it completes a command. -/
theorem escRedirectChar_governs (obeys : platform.driver.Obeys) {c : UInt8}
    (sound : r.receiver.Sound) (passed : r.escRedirectChar platform c = .ok next) :
    ∃ commands tokens, Governs platform r next commands tokens := by
  obtain ⟨receiver, received, result, took⟩ :=
    Receiver.receive_took sound (r.tnstate tnTransmitBinary).isDo c
  unfold escRedirectChar at passed
  rw [result] at passed
  -- Only a command that is complete may reach the port.
  cases received with
  | nothing =>
    cases passed
    exact ⟨[], [], governs_same rfl rfl rfl rfl rfl⟩
  | data c =>
    obtain ⟨-, rfl⟩ := putDev_eq_ok passed
    exact ⟨[], [], governs_same rfl rfl rfl rfl rfl⟩
  | command command =>
    obtain ⟨tokens, governs⟩ := handleIACCommand_governs obeys (took.complete command rfl) passed
    exact ⟨[command], tokens, governs.handled, governs.governor, governs.contents, governs.valid,
      governs.confirms⟩

/-- A byte from the device is data, which is no reply. -/
theorem escWriteChar_governs (platform : Platform) {c : UInt8}
    (written : r.escWriteChar c = .ok next) :
    ∃ tokens, Governs platform r next [] tokens := by
  obtain ⟨room, rfl⟩ := escWriteChar_eq_ok written
  -- Data are no replies, be they padded or not.
  have silent : ((pad r.sendsBinary r.escWriteLast c).map Token.data).filterMap reply = [] := by
    rw [List.filterMap_map]
    exact List.filterMap_eq_nil_iff.mpr fun _ _ => rfl
  refine ⟨(pad r.sendsBinary r.escWriteLast c).map .data, (List.append_nil _).symm, rfl, ?_, ?_, ?_⟩
  · rw [Telnet.encode_data]
    exact BufferType.append_contents room
  · intro token listed
    obtain ⟨byte, -, rfl⟩ := List.mem_map.mp listed
    trivial
  · rw [silent]
    exact .nil

/-- A notification is no reply either. -/
theorem notify_governs (platform : Platform) {parm : UInt8}
    (written : r.sendCPCByteCommand tnascNotifyModemstate parm = .ok next) :
    ∃ tokens, Governs platform r next [] tokens := by
  obtain ⟨room, rfl⟩ := sendCPCByteCommand_eq_ok (by decide) written
  -- A notification has a code of its own, which is above those of the replies.
  refine ⟨[r.cpcToken tnascNotifyModemstate [parm]], (List.append_nil _).symm, rfl, ?_, ?_, .nil⟩
  · rw [encode, List.flatMap_singleton]
    exact BufferType.append_contents room
  · intro token listed
    rw [List.mem_singleton.mp listed]
    trivial

end Redirector

namespace Server

/-- What a client has been sent and will be sent from the buffer. -/
def told (s : Server) : List Token :=
  decode (s.toNet ++ s.redirector.toNetBuf.contents)

/-- The governor that begins when the device is opened. -/
def opening (platform : Platform) (broken : Bool) (s : Server) : Governor where
  active _ := false
  line := (Port.openPort platform.driver
    { settings := s.initialPortSettings.getD ⟨0, 0⟩, lines := 0 }).settings.line
  broken := broken

/-- The tokens of the commands that were handled. -/
def asked (s : Server) : List Token :=
  s.redirector.handled.map commandToken

end Server

/-- What is sent behind the tokens that were sent is read behind them. -/
theorem Sent.told_append {s next : Server} {tokens : List Token} (sent : Sent s tokens)
    {more : List Token} (valid : ∀ token ∈ more, token.Valid)
    (stream : next.toNet ++ next.redirector.toNetBuf.contents =
      s.toNet ++ s.redirector.toNetBuf.contents ++ encode more) : next.told = s.told ++ more := by
  -- Both parts are valid, so the stream is decoded in two parts.
  have all : ∀ token ∈ tokens ++ more, token.Valid := by
    intro token listed
    rcases List.mem_append.mp listed with before | new
    · exact sent.valid token before
    · exact valid token new
  rw [Server.told, Server.told, stream, sent.stream, ← Telnet.encode_append,
    Telnet.decode_encode all, Telnet.decode_encode sent.valid]

/-- The port is as the client has made it, and the client was told of that; `broken` is what earlier
clients have left of breaks. -/
structure Confirmed (platform : Platform) (broken : Bool) (s : Server) : Prop where
  known : s.deviceFd = true → s.initialPortSettings.isSome
  waiting : s.deviceFd = false → s.redirector.handled = [] ∧ s.redirector.breakSignaled = broken ∧
    ∀ side : Side, (side.party (s.redirector.tnstate tncomPortOption)).active = false
  governor : s.deviceFd = true → s.redirector.governor =
    (governing platform).after (s.opening platform broken) s.asked
  confirms : List.Forall₂ Confirms (s.told.filterMap reply)
    ((governing platform).answers (s.opening platform broken) s.asked)

namespace Confirmed

variable {platform : Platform} {round : Round} {flow : Bool} {s next : Server} {broken : Bool}

/-- What concerns neither the options nor the port confirms nothing. -/
theorem same (confirmed : Confirmed platform broken s)
    (tnstate : next.redirector.tnstate = s.redirector.tnstate)
    (handled : next.redirector.handled = s.redirector.handled)
    (settings : next.redirector.port.settings = s.redirector.port.settings)
    (signaled : next.redirector.breakSignaled = s.redirector.breakSignaled)
    (stream : next.toNet ++ next.redirector.toNetBuf.contents =
      s.toNet ++ s.redirector.toNetBuf.contents)
    (deviceFd : next.deviceFd = s.deviceFd)
    (initial : next.initialPortSettings = s.initialPortSettings) :
    Confirmed platform broken next := by
  -- All four parts of the statement are read from what stays the same.
  have opening : next.opening platform broken = s.opening platform broken := by
    rw [Server.opening, Server.opening, initial]
  have governor : next.redirector.governor = s.redirector.governor := by
    rw [Redirector.governor, Redirector.governor, Redirector.line, Redirector.line, tnstate,
      settings, signaled]
  have told : next.told = s.told := by
    rw [Server.told, Server.told, stream]
  have asked : next.asked = s.asked := by
    rw [Server.asked, Server.asked, handled]
  constructor
  · rw [deviceFd, initial]
    exact confirmed.known
  · rw [deviceFd, handled, tnstate, signaled]
    exact confirmed.waiting
  · rw [deviceFd, opening, governor, asked]
    exact confirmed.governor
  · rw [told, opening, asked]
    exact confirmed.confirms

/-- What is governed is confirmed, behind all that was confirmed before. -/
theorem governs (confirmed : Confirmed platform broken s) (sent : ∃ tokens, Sent s tokens)
    (open_ : s.deviceFd = true) {commands : List Bytes} {more : List Token}
    (governs : Governs platform s.redirector next.redirector commands more)
    (toNet : next.toNet = s.toNet) (deviceFd : next.deviceFd = s.deviceFd)
    (initial : next.initialPortSettings = s.initialPortSettings) :
    Confirmed platform broken next := by
  -- One side goes on by the tokens that were said, and the other by the replies to them.
  have opening : next.opening platform broken = s.opening platform broken := by
    rw [Server.opening, Server.opening, initial]
  have asked : next.asked = s.asked ++ commands.map commandToken := by
    rw [Server.asked, governs.handled, List.map_append]
    rfl
  have governor := confirmed.governor open_
  obtain ⟨tokens, sent⟩ := sent
  have told : next.told = s.told ++ more :=
    sent.told_append governs.valid (by rw [toNet, governs.contents, List.append_assoc])
  constructor
  · rw [deviceFd, initial]
    exact confirmed.known
  · rw [deviceFd]
    exact fun closed => absurd (closed.symm.trans open_) (by decide)
  · intro _
    rw [opening, governs.governor, asked, Transducer.after_append, governor]
  · have confirms := governs.confirms
    rw [governor] at confirms
    rw [told, List.filterMap_append, opening, asked, Transducer.answers_append]
    exact List.rel_append confirmed.confirms confirms

/-- A client that is accepted has made no request, and is sent no reply. -/
theorem start {r : Redirector} (well : Well s)
    (free : (s.inSocketFd && s.outSocketFd) = false)
    (written : Redirector.sendTelnetInitialOptions { s.redirector with
      toNetBuf := s.redirector.toNetBuf.initBuffer
      tnstate := fun _ => {}
      handled := [] } = .ok r) (redirector : next.redirector = r) (silent : next.toNet = [])
    (unread : next.fromDev = []) (deviceFd : next.deviceFd = s.deviceFd) :
    ∃ broken, Confirmed platform broken next := by
  obtain ⟨-, closed⟩ := well.free_closed free
  have closed : next.deviceFd = false := deviceFd.trans closed
  have first : Sent next Redirector.initialTokens := by
    refine .start ?_ ?_ ?_ written silent unread redirector
    · rfl
    · exact BufferType.initBuffer_contents _
    · rfl
  have told : next.told = Redirector.initialTokens := by
    rw [Server.told, first.stream, Telnet.decode_encode Redirector.initialTokens_valid]
  obtain ⟨-, rfl⟩ := Redirector.sendTelnetInitialOptions_eq_ok written
  have none_ : next.asked = [] := by
    rw [Server.asked, redirector]
    rfl
  refine ⟨s.redirector.breakSignaled, fun open_ => absurd (closed.symm.trans open_) (by decide),
    fun _ => ?_, fun open_ => absurd (closed.symm.trans open_) (by decide), ?_⟩
  · rw [redirector]
    refine ⟨rfl, rfl, fun side => ?_⟩
    cases side <;> rfl
  · -- The offers are no replies.
    rw [told, none_]
    exact .nil

/-- Whatever move is made while a client is connected, its requests are confirmed. -/
theorem move (obeys : platform.driver.Obeys) (well : Well s)
    (sent : s.inSocketFd = true → ∃ tokens, Sent s tokens)
    (confirmed : s.inSocketFd = true → ∃ broken, Confirmed platform broken s)
    (drained : round.writeNet ≠ .wouldBlock) (moved : Move platform round flow s next)
    (connected : next.inSocketFd = true) : ∃ broken, Confirmed platform broken next := by
  cases moved with
  | polled | stored | lines | toDevice | toDeviceBlocked =>
    obtain ⟨broken, confirmed⟩ := confirmed connected
    exact ⟨broken, confirmed.same rfl rfl rfl rfl rfl rfl rfl⟩
  | deviceByte c open_ flows written =>
    obtain ⟨broken, confirmed⟩ := confirmed connected
    obtain ⟨tokens, governs⟩ := Redirector.escWriteChar_governs platform written
    exact ⟨broken, confirmed.governs (sent connected) open_ governs rfl rfl rfl⟩
  | @toNetwork data open_ some_ first =>
    obtain ⟨broken, confirmed⟩ := confirmed connected
    refine ⟨broken, confirmed.same rfl rfl rfl rfl ?_ rfl rfl⟩
    -- What is written moves from the buffer to the network.
    rw [List.append_assoc, BufferType.popBytes_taken first]
  | toNetworkBlocked open_ blocked => exact absurd blocked drained
  | networkByte c open_ passed =>
    obtain ⟨broken, confirmed⟩ := confirmed connected
    obtain ⟨commands, tokens, governs⟩ := Redirector.escRedirectChar_governs obeys well.sound passed
    exact ⟨broken, confirmed.governs (sent connected) open_ governs rfl rfl rfl⟩
  | accepted free written => exact start well free written rfl rfl rfl rfl
  | opened settings lines waited =>
    simp only [Bool.and_eq_true, Bool.not_eq_true'] at waited
    obtain ⟨broken, before⟩ := confirmed connected
    obtain ⟨none_, signaled, idle⟩ := before.waiting waited.2
    have silent := before.confirms
    have asked : s.asked = [] := by
      rw [Server.asked, none_]
      rfl
    refine ⟨broken, fun _ => rfl, fun closed => (by cases closed), fun _ => ?_, ?_⟩
    · -- The device begins with the settings it was opened with.
      change (⟨fun side => (side.party (s.redirector.tnstate tncomPortOption)).active, _,
        s.redirector.breakSignaled⟩ : Governor) = (governing platform).after _ s.asked
      rw [asked, funext idle, signaled]
      rfl
    · rw [asked] at silent
      change List.Forall₂ Confirms (s.told.filterMap reply)
        ((governing platform).answers _ s.asked)
      rw [asked]
      exact silent
  | notified newstate open_ flows looked changed written =>
    obtain ⟨broken, confirmed⟩ := confirmed connected
    obtain ⟨tokens, governs⟩ := Redirector.notify_governs platform written
    exact ⟨broken, confirmed.governs (sent connected) open_ governs rfl rfl rfl⟩
  | dropped =>
    obtain ⟨port, dropped⟩ := Well.dropConnection_eq platform s
    rw [dropped] at connected
    cases connected

end Confirmed

/-- While a client is connected, its requests are confirmed in tokens. -/
def Server.Confirms (platform : Platform) (s : Server) : Prop :=
  s.inSocketFd = true → (∃ tokens, Sent s tokens) ∧ ∃ broken, Confirmed platform broken s

namespace Server.Confirms

variable {platform : Platform} {round : Round} {flow : Bool} {s next : Server}

/-- Every move keeps both, as long as no write to the client would block. -/
theorem move (obeys : platform.driver.Obeys) (well : Well s) (confirms : s.Confirms platform)
    (drained : round.writeNet ≠ .wouldBlock) (moved : Move platform round flow s next) :
    next.Confirms platform := by
  intro connected
  have sent (connected : s.inSocketFd = true) : ∃ tokens, Sent s tokens := (confirms connected).1
  exact ⟨Sent.move well sent drained moved connected,
    Confirmed.move obeys well sent (fun connected => (confirms connected).2) drained moved
      connected⟩

/-- A program that has stopped has still confirmed what it has. -/
theorem stops (confirms : s.Confirms platform) {status : Status} :
    { s with status := status }.Confirms platform := by
  intro connected
  obtain ⟨⟨tokens, sent⟩, broken, confirmed⟩ := confirms connected
  exact ⟨⟨tokens, sent.same rfl rfl rfl rfl rfl⟩, broken,
    confirmed.same rfl rfl rfl rfl rfl rfl rfl⟩

end Server.Confirms

variable {platform : Platform} {s : Server} {tokens : List Token} {token : Token} {part : Bytes}

end SerialPort.Sercd
