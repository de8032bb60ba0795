import SerialPort.Library.Negotiation
import SerialPort.Sercd.Sending
import SerialPort.Sercd.Server

/-! What the engine does about a command, said once for all that follows. -/

namespace SerialPort.Sercd

open Telnet (Token encode)
open Negotiation

/-- The two sides of an option: what the server does, and what the client does. -/
inductive Side where
  | server
  | client
  deriving DecidableEq

namespace Side

/-- The commands with which the client asks for it and refuses it. -/
def ask : Side → UInt8
  | server => tnDo
  | client => tnWill

def refuse : Side → UInt8
  | server => tnDont
  | client => tnWont

/-- The commands with which the server announces that it is done, or is not. -/
def affirm : Side → UInt8
  | server => tnWill
  | client => tnDo

def deny : Side → UInt8
  | server => tnWont
  | client => tnDont

/-- What the server keeps of the option on this side. -/
def party : Side → TnState → Party
  -- What was refused is kept as well, but never read.
  | server, state => { offered := state.sentWill, active := state.isWill }
  | client, state => { offered := state.sentDo, active := state.isDo }

def opposite : Side → Side
  | server => client
  | client => server

variable (side : Side) (option : UInt8)

/-- The command that makes a demand. -/
def verb : Demand → UInt8
  | .ask => side.ask
  | .refuse => side.refuse

/-- The token that announces whether an option is done. -/
def say (yes : Bool) : Token :=
  .option (if yes then side.affirm else side.deny) option

/-- The demand that a command makes on an option. -/
def demand (command : Bytes) : Option Demand :=
  if byteAt command 2 = option then
    if byteAt command 1 = side.ask then some .ask
    else if byteAt command 1 = side.refuse then some .refuse
    else none
  else none

/-- The announcement that a token makes on an option. -/
def announcement : Token → Option Bool
  | .option verb subject =>
    if subject = option then
      if verb = side.affirm then some true
      else if verb = side.deny then some false
      else none
    else none
  | _ => none

/-- All demands of some commands on an option. -/
def demands (commands : List Bytes) : List Demand :=
  commands.filterMap (side.demand option)

/-- All announcements of some tokens on an option. -/
def announcements (tokens : List Token) : List Bool :=
  tokens.filterMap (side.announcement option)

variable {side option} {other : Side}

/-- There are two sides. -/
theorem eq_opposite (different : other ≠ side) : other = side.opposite := by
  cases other <;> cases side <;> first | rfl | exact absurd rfl different

variable {subject : UInt8} {demand : Demand} {command : Bytes}

/-- A command makes a demand on one option and on one side of it. -/
theorem demand_eq (about : byteAt command 2 = subject)
    (spoken : byteAt command 1 = side.verb demand) :
    other.demand option command =
      if other = side ∧ option = subject then some demand else none := by
  -- The two sides have four different verbs.
  unfold Side.demand
  rw [about, spoken]
  by_cases same : subject = option
  · subst option
    cases other <;> cases side <;> cases demand <;> simp [verb, ask, refuse] <;> decide
  · simp [same, Ne.symm same]

/-- Only a command of negotiation makes a demand. -/
theorem demand_none (silent : ∀ side demand, byteAt command 1 ≠ Side.verb side demand) :
    other.demand option command = none := by
  have ask := silent other .ask
  have refuse := silent other .refuse
  simp only [verb] at ask refuse
  simp [Side.demand, ask, refuse]

/-- An announcement is one about one option and on one side of it. -/
theorem announcement_say (yes : Bool) :
    other.announcement option (side.say subject yes) =
      if other = side ∧ option = subject then some yes else none := by
  unfold announcement say
  dsimp only
  by_cases same : subject = option
  · subst option
    cases other <;> cases side <;> cases yes <;> simp [affirm, deny] <;> decide
  · simp [same, Ne.symm same]

/-- Announcements about one option on one side are none about any other. -/
theorem announcements_say (answers : List Bool) :
    other.announcements option (answers.map (side.say subject)) =
      if other = side ∧ option = subject then answers else [] := by
  unfold announcements
  rw [List.filterMap_map]
  split
  · next same =>
    -- About this side of this option every answer is heard, and about any other none.
    have all : other.announcement option ∘ side.say subject = some := by
      funext yes
      rw [Function.comp_apply, announcement_say, if_pos same]
    rw [all, List.filterMap_some]
  · next different =>
    refine List.filterMap_eq_nil_iff.mpr fun yes _ => ?_
    rw [Function.comp_apply, announcement_say, if_neg different]

/-- An announcement is a valid token. -/
theorem say_valid (yes : Bool) : (side.say option yes).Valid := by
  cases side <;> cases yes <;> rfl

variable (side option)

/-- The state of an option on this side behind a command. -/
def partyAfter (r : Redirector) (command : Bytes) : Party :=
  match side.demand option command with
  | some demand => demand.outcome (Redirector.supported option)
  | none => side.party (r.tnstate option)

/-- Whether an option that can be done is done on this side behind a command. -/
def activeAfter (active : Bool) (command : Bytes) : Bool :=
  match side.demand option command with
  | some .ask => true
  | some .refuse => false
  | none => active

variable {option} in
/-- An option that can be done is done on a side as the command demands. -/
theorem partyAfter_active (able : Redirector.supported option = true) (r : Redirector)
    (command : Bytes) :
    (side.partyAfter option r command).active =
      side.activeAfter option (side.party (r.tnstate option)).active command := by
  unfold partyAfter activeAfter
  cases side.demand option command with
  | none => rfl
  | some demand =>
    cases demand with
    | ask => exact able
    | refuse => rfl

/-- What is to be announced about an option on this side for a command. -/
def answerTo (r : Redirector) (command : Bytes) : List Bool :=
  match side.demand option command with
  | some demand => (side.party (r.tnstate option)).answer (Redirector.supported option) demand
  | none => []

end Side

/-- Whether the client has agreed to the control of the port. -/
def Redirector.controlled (r : Redirector) : Bool :=
  (r.tnstate tncomPortOption).isWill || (r.tnstate tncomPortOption).isDo

/-- What a command changes beside the options, and only for a client that may control the port. -/
structure Redirector.SamePort (r next : Redirector) : Prop where
  port : next.port = r.port
  modemStateMask : next.modemStateMask = r.modemStateMask
  lineStateMask : next.lineStateMask = r.lineStateMask
  breakSignaled : next.breakSignaled = r.breakSignaled
  inputFlow : next.inputFlow = r.inputFlow

/-- The modem state that a token gives notice of; there may be padding in front of it. -/
def notification : Token → Option UInt8
  | .sub (option :: command :: parameter) =>
    if option = tncomPortOption ∧ command = tnascNotifyModemstate then parameter.getLast? else none
  | _ => none

/-- The engine behind a command, before its answer has gone into the buffer, and the answer. -/
structure Handled (platform : Platform) (r : Redirector) (command : Bytes) (next : Redirector)
    (tokens : List Token) : Prop where
  toNetBuf : next.toNetBuf = r.toNetBuf
  toDevBuf : next.toDevBuf = r.toDevBuf
  receiver : next.receiver = r.receiver
  handled : next.handled = r.handled ++ [command]
  valid : ∀ token ∈ tokens, token.Valid
  quiet : Telnet.dataBytes tokens = []
  unnoticed : tokens.filterMap notification = []
  short : (encode tokens).length ≤ escRedirectCharBytesSockB platform
  enabled : r.portControlEnable = true → next.portControlEnable = true
  options : ∀ side option, Side.party side (next.tnstate option) = side.partyAfter option r command
  announced : ∀ side option, Side.announcements side option tokens = side.answerTo option r command
  samePort : byteAt command 1 ≠ tnSb ∨ r.controlled = false → r.SamePort next

/-- What one byte from the network may need is enough for every answer. -/
theorem escRedirectCharBytesSockB_eq (platform : Platform) :
    escRedirectCharBytesSockB platform = 516 := by
  rcases platform with ⟨_ | _, _, _, _⟩ <;> rfl

namespace Redirector

variable {platform : Platform} {r next : Redirector}

/-- What a CPC command leaves, and the answer to it, which is at most one subnegotiation. -/
structure Controls (platform : Platform) (r next : Redirector) (tokens : List Token) : Prop where
  toNetBuf : next.toNetBuf = r.toNetBuf
  toDevBuf : next.toDevBuf = r.toDevBuf
  receiver : next.receiver = r.receiver
  handled : next.handled = r.handled
  tnstate : next.tnstate = r.tnstate
  enabled : next.portControlEnable = r.portControlEnable
  sub : ∀ token ∈ tokens, ∃ payload, token = .sub payload
  unnoticed : tokens.filterMap notification = []
  short : (encode tokens).length ≤ escRedirectCharBytesSockB platform

/-- Whether handling a CPC command comes to such an answer. -/
def Answers (platform : Platform) (r : Redirector) (result : Except Abort Redirector) : Prop :=
  ∃ next tokens, result = next.emit (encode tokens) ∧ Controls platform r next tokens

/-- Either branch of a choice comes to such an answer. -/
theorem Answers.ite {condition : Prop} [Decidable condition]
    {result other : Except Abort Redirector} (yes : Answers platform r result)
    (no : Answers platform r other) : Answers platform r (if condition then result else other) := by
  split
  · exact yes
  · exact no

/-- What changes nothing of the engine but the port is answered by silence. -/
theorem Answers.silent {next : Redirector} (toNetBuf : next.toNetBuf = r.toNetBuf)
    (toDevBuf : next.toDevBuf = r.toDevBuf) (receiver : next.receiver = r.receiver)
    (handled : next.handled = r.handled) (tnstate : next.tnstate = r.tnstate)
    (enabled : next.portControlEnable = r.portControlEnable) : Answers platform r (.ok next) :=
  ⟨next, [], rfl, toNetBuf, toDevBuf, receiver, handled, tnstate, enabled, by simp, rfl,
    by simp [encode]⟩

/-- A CPC command of so many bytes takes at most twice as many and six. -/
theorem cpcToken_length_le (r : Redirector) (command : UInt8) (plain : command ≠ tnIac)
    (parameter : Bytes) :
    (encode [r.cpcToken command parameter]).length ≤ 6 + 2 * parameter.length := by
  -- The payload is padded and then doubled: twice its length covers both.
  have word := padder_length_le r.sendsBinary r.escWriteLast parameter
  have single : Telnet.stuff command = [command] := if_neg plain
  have option : Telnet.stuff tncomPortOption = [tncomPortOption] := rfl
  rw [encode, List.flatMap_singleton]
  simp only [cpcToken, Token.bytes, List.flatMap_cons, single, option, padded, List.length_append,
    List.length_cons, List.length_nil]
  omega

/-- A change of the settings or of the flags, and a CPC command that confirms it. -/
theorem Answers.sendCPC {changed : Redirector} {command : UInt8} {parameter : Bytes}
    (plain : command ≠ tnIac) (other : command ≠ tnascNotifyModemstate)
    (fits : parameter.length ≤ 255) (toNetBuf : changed.toNetBuf = r.toNetBuf)
    (toDevBuf : changed.toDevBuf = r.toDevBuf)
    (receiver : changed.receiver = r.receiver) (handled : changed.handled = r.handled)
    (tnstate : changed.tnstate = r.tnstate)
    (enabled : changed.portControlEnable = r.portControlEnable) :
    Answers platform r (changed.sendCPC command parameter) := by
  -- Twice 255 and six is the room that one byte of a client may need.
  refine ⟨changed.afterCPC parameter, [changed.cpcToken command parameter], ?_, ?_⟩
  · rw [sendCPC_eq _ _ _ plain, encode, List.flatMap_singleton]
  · have short := changed.cpcToken_length_le command plain parameter
    have room := escRedirectCharBytesSockB_eq platform
    have unnoticed : notification (changed.cpcToken command parameter) = none :=
      if_neg fun same => other same.2
    exact ⟨toNetBuf, toDevBuf, receiver, handled, tnstate, enabled, by simp [cpcToken],
      by simp [unnoticed], by omega⟩

/-- A number is short enough for any string. -/
theorem longBytes_length_le (size : LongSize) (number : Nat) :
    (longBytes size number).length ≤ 255 := by
  cases size <;> simp [longBytes, htonl]

/-- So is the signature. -/
theorem signature_length_le (platform : Platform) : (signature platform).length ≤ 255 := by
  rw [signature, List.length_take]
  omega

/-- The byte with which one byte is confirmed. -/
theorem Answers.sendByte {changed : Redirector} {reply parm : UInt8} (plain : reply ≠ tnIac)
    (other : reply ≠ tnascNotifyModemstate) (toNetBuf : changed.toNetBuf = r.toNetBuf)
    (toDevBuf : changed.toDevBuf = r.toDevBuf)
    (receiver : changed.receiver = r.receiver) (handled : changed.handled = r.handled)
    (tnstate : changed.tnstate = r.tnstate)
    (enabled : changed.portControlEnable = r.portControlEnable) :
    Answers platform r (changed.sendCPCByteCommand reply parm) :=
  .sendCPC plain other (by simp) toNetBuf toDevBuf receiver handled tnstate enabled

/-- A request about flow control, lines and breaks is answered by one byte. -/
theorem handleControl_answers (parm : UInt8) :
    Answers platform r (r.handleControl platform parm) := by
  unfold handleControl
  -- Each of the five branches sends one byte.
  refine .ite ?request (.ite ?breakRequest (.ite ?breakOn (.ite ?breakOff ?flow)))
  all_goals exact .sendByte (by decide) (by decide) rfl rfl rfl rfl rfl rfl

/-- A CPC command changes the settings or the flags, and is answered by at most one token. -/
theorem handleCPCCommand_answers (command : Bytes) :
    Answers platform r (r.handleCPCCommand platform command) := by
  unfold handleCPCCommand
  -- One case for each request, in the order of the switch.
  refine .ite ?signature (.ite ?baudRate (.ite ?dataSize (.ite ?parity (.ite ?stopSize
    (.ite (handleControl_answers _) (.ite ?lineMask (.ite ?modemMask (.ite ?purge
      (.ite ?suspend (.ite ?resume ?unknown))))))))))
  case signature =>
    refine .ite ?_ (.silent rfl rfl rfl rfl rfl rfl)
    rw [sendSignature, if_pos (signature_length_le platform)]
    exact .sendCPC (by decide) (by decide) (signature_length_le platform) rfl rfl rfl rfl rfl rfl
  case baudRate =>
    exact .sendCPC (by decide) (by decide) (longBytes_length_le _ _) rfl rfl rfl rfl rfl rfl
  case suspend | resume | unknown => exact .silent rfl rfl rfl rfl rfl rfl
  all_goals exact .sendByte (by decide) (by decide) rfl rfl rfl rfl rfl rfl

/-- A demand is answered in a few bytes. -/
theorem encode_answer_length_le (side : Side) (subject : UInt8) (supported : Bool) (party : Party)
    (demand : Demand) :
    (encode ((party.answer supported demand).map (side.say subject))).length ≤ 3 := by
  -- There is at most one answer, and an option takes three bytes.
  cases demand <;> simp only [Party.answer]
  all_goals split
  case ask.isTrue => split <;> simp [encode, Side.say, Token.bytes]
  all_goals simp [encode, Side.say, Token.bytes]

/-- The engine that has recorded a command. -/
def record (r : Redirector) (command : Bytes) : Redirector :=
  { r with handled := r.handled ++ [command] }

/-- A demand changes one side of one option. -/
theorem option_handled {side : Side} {demand : Demand} {command : Bytes} {subject : UInt8}
    {change : TnState → TnState} {enabled : Bool} (about : byteAt command 2 = subject)
    (spoken : byteAt command 1 = side.verb demand)
    (own : side.party (change (r.tnstate subject)) = demand.outcome (supported subject))
    (foreign : side.opposite.party (change (r.tnstate subject)) =
      side.opposite.party (r.tnstate subject))
    (stays : r.portControlEnable = true → enabled = true) :
    Handled platform r command
      ({ r.record command with portControlEnable := enabled }.setOption subject change)
      (((side.party (r.tnstate subject)).answer (supported subject) demand).map
        (side.say subject)) where
  toNetBuf := rfl
  toDevBuf := rfl
  receiver := rfl
  handled := rfl
  valid := by
    intro token listed
    obtain ⟨yes, -, rfl⟩ := List.mem_map.mp listed
    exact Side.say_valid yes
  quiet := by
    refine List.filterMap_eq_nil_iff.mpr fun token listed => ?_
    obtain ⟨yes, -, rfl⟩ := List.mem_map.mp listed
    rfl
  unnoticed := by
    refine List.filterMap_eq_nil_iff.mpr fun token listed => ?_
    obtain ⟨yes, -, rfl⟩ := List.mem_map.mp listed
    rfl
  short := by
    have short := encode_answer_length_le side subject (supported subject)
      (side.party (r.tnstate subject)) demand
    rw [escRedirectCharBytesSockB_eq]
    omega
  enabled := stays
  options := by
    intro other option
    simp only [Side.partyAfter, Side.demand_eq about spoken, setOption, record]
    -- Only one side of one option is changed.
    by_cases same : option = subject
    · subst option
      by_cases here : other = side
      · subst other
        simp [own]
      · obtain rfl := Side.eq_opposite here
        simp [here, foreign]
    · simp [same]
  announced := by
    intro other option
    rw [Side.announcements_say, Side.answerTo, Side.demand_eq about spoken]
    by_cases same : other = side ∧ option = subject
    · obtain ⟨rfl, rfl⟩ := same
      simp
    · simp [same]
  samePort := fun _ => ⟨rfl, rfl, rfl, rfl, rfl⟩

/-- A change of an option, once the announcement has gone into the buffer. -/
theorem announce_eq (command option : UInt8) (change : TnState → TnState) :
    r.announce command option change =
      (r.setOption option change).emit (encode [.option command option]) := by
  -- The option is changed after the announcement, which does not depend on it.
  rw [announce, sendTelnetOption_eq, encode, List.flatMap_singleton]
  exact emit_map r rfl fun _ => rfl

/-- Whether a demand on an option is met: the announcement, and the change of the option. -/
def Meets (side : Side) (demand : Demand) (r : Redirector) (option : UInt8)
    (result : Except Abort Redirector) : Prop :=
  ∃ enabled change,
    result = ({ r with portControlEnable := enabled }.setOption option change).emit
      (encode (((side.party (r.tnstate option)).answer (supported option) demand).map
        (side.say option))) ∧
    (r.portControlEnable = true → enabled = true) ∧
    side.party (change (r.tnstate option)) = demand.outcome (supported option) ∧
    side.opposite.party (change (r.tnstate option)) = side.opposite.party (r.tnstate option)

namespace Meets

variable {side : Side} {demand : Demand} {option : UInt8} {enabled : Bool}
  {change : TnState → TnState}

/-- A demand that needs no announcement only changes the option. -/
theorem silent
    (answer : (side.party (r.tnstate option)).answer (supported option) demand = [])
    (stays : r.portControlEnable = true → enabled = true)
    (own : side.party (change (r.tnstate option)) = demand.outcome (supported option))
    (foreign : side.opposite.party (change (r.tnstate option)) =
      side.opposite.party (r.tnstate option)) :
    Meets side demand r option
      (.ok ({ r with portControlEnable := enabled }.setOption option change)) := by
  refine ⟨enabled, change, ?_, stays, own, foreign⟩
  rw [answer]
  rfl

/-- Any other demand is answered by one announcement. -/
theorem announced (yes : Bool) {command : UInt8}
    (answer : (side.party (r.tnstate option)).answer (supported option) demand = [yes])
    (means : side.say option yes = .option command option)
    (stays : r.portControlEnable = true → enabled = true)
    (own : side.party (change (r.tnstate option)) = demand.outcome (supported option))
    (foreign : side.opposite.party (change (r.tnstate option)) =
      side.opposite.party (r.tnstate option)) :
    Meets side demand r option
      ({ r with portControlEnable := enabled }.announce command option change) := by
  refine ⟨enabled, change, ?_, stays, own, foreign⟩
  rw [answer, List.map_singleton, means]
  exact announce_eq _ _ _

variable {result : Except Abort Redirector} {accept reject leave : TnState → TnState}

/-- An option that is asked for is done and announced, or if there is no support for it denied. -/
theorem asked
    (whole : result =
      if supported option then
        if (side.party (r.tnstate option)).offered then
          .ok ((r.enablePortControl option).setOption option accept)
        else (r.enablePortControl option).announce side.affirm option accept
      else r.announce side.deny option reject)
    (accepts : ∀ state, side.party (accept state) = { offered := false, active := true })
    (rejects : ∀ state, side.party (reject state) = { offered := false, active := false })
    (accepts' : ∀ state, side.opposite.party (accept state) = side.opposite.party state)
    (rejects' : ∀ state, side.opposite.party (reject state) = side.opposite.party state) :
    Meets side .ask r option result := by
  have stays : r.portControlEnable = true →
      (option == tncomPortOption || r.portControlEnable) = true := by
    intro enabled
    rw [enabled, Bool.or_true]
  rw [whole]
  split
  · next able =>
    have own : side.party (accept (r.tnstate option)) = Demand.ask.outcome (supported option) := by
      rw [accepts, able]
      rfl
    -- The demand may answer an offer, which needs no announcement.
    split
    · next offered =>
      exact .silent (by simp [Party.answer, able, offered]) stays own (accepts' _)
    · next fresh =>
      exact .announced true (by simp [Party.answer, able, fresh]) rfl stays own (accepts' _)
  · next unable =>
    have own : side.party (reject (r.tnstate option)) = Demand.ask.outcome (supported option) := by
      rw [rejects, (Bool.not_eq_true _).mp unable]
      rfl
    exact .announced false (by simp [Party.answer, unable]) rfl id own (rejects' _)

/-- An option that is refused is not done, which is announced if it was. -/
theorem refused
    (whole : result =
      if (side.party (r.tnstate option)).active then r.announce side.deny option reject
      else .ok (r.setOption option leave))
    (rejects : ∀ state, side.party (reject state) = { offered := false, active := false })
    (leaves : ∀ state, side.party (leave state) =
      { offered := false, active := (side.party state).active })
    (rejects' : ∀ state, side.opposite.party (reject state) = side.opposite.party state)
    (leaves' : ∀ state, side.opposite.party (leave state) = side.opposite.party state) :
    Meets side .refuse r option result := by
  rw [whole]
  split
  · next active =>
    exact .announced false (by simp [Party.answer, active]) rfl id (rejects _) (rejects' _)
  · next idle =>
    -- Nothing was done, so that nothing changes but that no answer is waited for.
    refine .silent (by simp [Party.answer, idle]) id ?_ (leaves' _)
    rw [leaves, (Bool.not_eq_true _).mp idle]
    rfl

end Meets

/-- `WILL` asks for the option of the client. -/
theorem handleWill_meets (option : UInt8) : Meets .client .ask r option (r.handleWill option) :=
  .asked rfl (fun _ => rfl) (fun _ => rfl) (fun _ => rfl) fun _ => rfl

/-- `DO` asks for the option of the server. -/
theorem handleDo_meets (option : UInt8) : Meets .server .ask r option (r.handleDo option) :=
  .asked rfl (fun _ => rfl) (fun _ => rfl) (fun _ => rfl) fun _ => rfl

/-- `DONT` refuses the option of the server. -/
theorem handleDont_meets (option : UInt8) :
    Meets .server .refuse r option (r.handleDont option) :=
  .refused rfl (fun _ => rfl) (fun _ => rfl) (fun _ => rfl) fun _ => rfl

/-- `WONT` refuses the option of the client. -/
theorem handleWont_meets (option : UInt8) :
    Meets .client .refuse r option (r.handleWont option) :=
  .refused rfl (fun _ => rfl) (fun _ => rfl) (fun _ => rfl) fun _ => rfl

/-- A demand that is met is a command that is handled. -/
theorem Meets.toHandled {side : Side} {demand : Demand} {command : Bytes}
    {result : Except Abort Redirector}
    (meets : Meets side demand (r.record command) (byteAt command 2) result)
    (spoken : byteAt command 1 = side.verb demand) :
    ∃ next tokens, result = next.emit (encode tokens) ∧
      Handled platform r command next tokens := by
  obtain ⟨enabled, change, whole, stays, own, foreign⟩ := meets
  exact ⟨_, _, whole, option_handled rfl spoken own foreign stays⟩

/-- A command that changes no option and demands none. -/
theorem Controls.toHandled {command : Bytes} {tokens : List Token}
    (controls : Controls platform (r.record command) next tokens)
    (silent : ∀ side demand, byteAt command 1 ≠ Side.verb side demand)
    (samePort : byteAt command 1 ≠ tnSb ∨ r.controlled = false → r.SamePort next) :
    Handled platform r command next tokens where
  toNetBuf := controls.toNetBuf
  toDevBuf := controls.toDevBuf
  receiver := controls.receiver
  handled := controls.handled
  -- A control is answered by subnegotiations alone, which announce nothing.
  valid := by
    intro token listed
    obtain ⟨payload, rfl⟩ := controls.sub token listed
    trivial
  quiet := by
    refine List.filterMap_eq_nil_iff.mpr fun token listed => ?_
    obtain ⟨payload, rfl⟩ := controls.sub token listed
    rfl
  unnoticed := controls.unnoticed
  short := controls.short
  enabled := fun enabled => controls.enabled.trans enabled
  -- Its second byte is SB and not a verb, so both parties stay as they are.
  options := by
    intro side option
    rw [Side.partyAfter, Side.demand_none silent, controls.tnstate]
    rfl
  announced := by
    intro side option
    rw [Side.answerTo, Side.demand_none silent]
    refine List.filterMap_eq_nil_iff.mpr fun token listed => ?_
    obtain ⟨payload, rfl⟩ := controls.sub token listed
    rfl
  samePort := samePort

/-- Every command is answered by some tokens, and leaves the options as it demands. -/
theorem handleIACCommand_handled (platform : Platform) (r : Redirector) (command : Bytes) :
    ∃ next tokens, r.handleIACCommand platform command = next.emit (encode tokens) ∧
      Handled platform r command next tokens := by
  -- What is no demand and no request for the port is only recorded.
  have ignored (silent : ∀ side demand, byteAt command 1 ≠ Side.verb side demand) :
      ∃ next tokens, .ok (r.record command) = next.emit (encode tokens) ∧
        Handled platform r command next tokens := by
    have quiet : Controls platform (r.record command) (r.record command) [] :=
      ⟨rfl, rfl, rfl, rfl, rfl, rfl, by simp, rfl, by simp [encode]⟩
    exact ⟨_, [], rfl, quiet.toHandled silent fun _ => ⟨rfl, rfl, rfl, rfl, rfl⟩⟩
  -- The verbs of the four demands are the only ones that make one.
  have verbs (other : UInt8) (distinct : other ≠ tnWill ∧ other ≠ tnDo ∧ other ≠ tnDont ∧
      other ≠ tnWont) : ∀ side demand, other ≠ Side.verb side demand := by
    obtain ⟨will, do_, dont, wont⟩ := distinct
    intro side demand
    cases side <;> cases demand <;> assumption
  unfold handleIACCommand
  dsimp only
  split
  · next sub =>
    -- A subnegotiation makes no demand.
    have silent := verbs (byteAt command 1) (by rw [sub]; decide)
    split
    · next gate =>
      obtain ⟨next, tokens, result, controls⟩ : Answers platform (r.record command)
        ((r.record command).handleCPCCommand platform command) := handleCPCCommand_answers command
      refine ⟨next, tokens, result, controls.toHandled silent fun closed => ?_⟩
      rw [Bool.and_eq_true, beq_iff_eq] at gate
      obtain ⟨open_, port⟩ := gate
      rw [port] at open_
      -- The gate is open only for a client that controls the port.
      rcases closed with other | closed
      · exact absurd sub other
      · exact absurd (open_.symm.trans closed) (by decide)
    · exact ignored silent
  split
  · next will => exact (handleWill_meets _).toHandled will
  split
  · next do_ => exact (handleDo_meets _).toHandled do_
  split
  · next dont => exact (handleDont_meets _).toHandled dont
  split
  · next wont => exact (handleWont_meets _).toHandled wont
  · next will do_ dont wont => exact ignored (verbs _ ⟨will, do_, dont, wont⟩)

end Redirector

end SerialPort.Sercd
