import SerialPort.Sercd.Redirector

/-! What clients make of the settings of the port, whatever is kept in its flags. -/

namespace SerialPort.Sercd

open BitField

/-- The settings of a serial line, each of them apart. -/
@[ext]
structure Line where
  speed : Nat
  dataSize : UInt8
  parity : UInt8
  stopSize : UInt8
  outFlow : UInt8
  inFlow : UInt8
  deriving DecidableEq

/-- The settings that some flags stand for. -/
def Termios.line (ti : Termios) : Line where
  speed := ti.termios2TncomSpeed
  dataSize := ti.termios2TncomDataSize
  parity := ti.termios2TncomParity
  stopSize := ti.termios2TncomStopSize
  outFlow := ti.termios2TncomOutFlow
  inFlow := ti.termios2TncomInFlow

namespace Line

variable (line : Line)

/-- A speed that is not known is taken for 9600. -/
def setSpeed (baudRate : Nat) : Line :=
  { line with speed := if baudRate ∈ speeds.map Prod.fst then baudRate else 9600 }

/-- A data size that is not known is taken for 8. -/
def setDataSize (dataSize : UInt8) : Line :=
  { line with dataSize := if dataSize ∈ [5, 6, 7] then dataSize else 8 }

/-- A parity that is not known is taken for none. -/
def setParity (parity : UInt8) : Line :=
  { line with
    parity := if parity ∈ [tncomOddparity, tncomEvenparity] then parity else tncomNoparity }

/-- A number of stop bits that is not two is taken for one. -/
def setStopSize (stopSize : UInt8) : Line :=
  { line with
    stopSize := if stopSize = tncomTwostopbits then tncomTwostopbits else tncomOnestopbit }

/-- Flow control is set for both directions at once, and not at all for one of them. -/
def setFlow (how : UInt8) : Line :=
  if how = tncomCmdFlowNone then
    { line with outFlow := tncomCmdFlowNone, inFlow := tncomCmdInflowNone }
  else if how = tncomCmdFlowXonxoff then
    { line with outFlow := tncomCmdFlowXonxoff, inFlow := tncomCmdInflowXonxoff }
  else if how = tncomCmdFlowHardware then
    { line with outFlow := tncomCmdFlowHardware, inFlow := tncomCmdInflowHardware }
  else line

end Line

namespace Termios

variable {ti other : Termios}

/-! Each setting depends on its own fields of the flags only. -/

/-- The speed is kept in its own field. -/
theorem speed_congr (baud : ti.cCflag &&& cbaud = other.cCflag &&& cbaud) :
    ti.termios2TncomSpeed = other.termios2TncomSpeed := by
  unfold termios2TncomSpeed cfgetospeed
  rw [baud]

/-- The data size is kept in its own field. -/
theorem dataSize_congr (size : ti.cCflag &&& csize = other.cCflag &&& csize) :
    ti.termios2TncomDataSize = other.termios2TncomDataSize := by
  unfold termios2TncomDataSize
  rw [size]

/-- The parity is kept in two fields. -/
theorem parity_congr (enabled : ti.cCflag &&& parenb = other.cCflag &&& parenb)
    (odd : ti.cCflag &&& parodd = other.cCflag &&& parodd) :
    ti.termios2TncomParity = other.termios2TncomParity := by
  unfold termios2TncomParity
  rw [enabled, odd]

/-- The number of stop bits is kept in its own field. -/
theorem stopSize_congr (stop : ti.cCflag &&& cstopb = other.cCflag &&& cstopb) :
    ti.termios2TncomStopSize = other.termios2TncomStopSize := by
  unfold termios2TncomStopSize
  rw [stop]

/-- Flow control of the output is kept in two fields. -/
theorem outFlow_congr (software : ti.cIflag &&& ixon = other.cIflag &&& ixon)
    (hardware : ti.cCflag &&& crtscts = other.cCflag &&& crtscts) :
    ti.termios2TncomOutFlow = other.termios2TncomOutFlow := by
  unfold termios2TncomOutFlow
  rw [software, hardware]

/-- So is flow control of the input, and one of them is the same. -/
theorem inFlow_congr (software : ti.cIflag &&& ixoff = other.cIflag &&& ixoff)
    (hardware : ti.cCflag &&& crtscts = other.cCflag &&& crtscts) :
    ti.termios2TncomInFlow = other.termios2TncomInFlow := by
  unfold termios2TncomInFlow
  rw [software, hardware]

variable (ti)

/-- A field of `c_cflag` that is set leaves every other one as it is. -/
theorem kept {mask : BitVec 32} (value : BitVec 32) {field : BitVec 32}
    (apart : mask &&& field = 0) :
    replace ti.cCflag mask value &&& field = ti.cCflag &&& field :=
  replace_and_of_disjoint _ _ _ _ apart

/-- Each code stands for the speed that it belongs to. -/
theorem speeds_found : ∀ speed ∈ speeds,
    speeds.find? (fun other => other.2 = speed.2 &&& cbaud) = some speed := by
  decide

/-- Setting the speed sets nothing else. -/
theorem line_setSpeed (baudRate : Nat) :
    (ti.cfsetspeed (match speeds.find? fun speed => speed.1 = baudRate with
      | some speed => speed.2
      | none => b9600)).line = ti.line.setSpeed baudRate := by
  refine Line.ext ?_ (dataSize_congr (ti.kept _ (by decide)))
    (parity_congr (ti.kept _ (by decide)) (ti.kept _ (by decide)))
    (stopSize_congr (ti.kept _ (by decide))) (outFlow_congr rfl (ti.kept _ (by decide)))
    (inFlow_congr rfl (ti.kept _ (by decide)))
  change termios2TncomSpeed _ = if baudRate ∈ speeds.map Prod.fst then baudRate else 9600
  have decoded : ∀ speed ∈ speeds, (ti.cfsetspeed speed.2).termios2TncomSpeed = speed.1 := by
    intro speed listed
    have field : (ti.cfsetspeed speed.2).cfgetospeed = speed.2 &&& cbaud :=
      replace_and_self _ _ _
    rw [termios2TncomSpeed, field, speeds_found speed listed]
  -- A speed that the table has is found again by its code; any other one becomes 9600.
  cases found : speeds.find? fun speed => speed.1 = baudRate with
  | some speed =>
    have listed := List.mem_of_find?_eq_some found
    have same : speed.1 = baudRate := by simpa using List.find?_some found
    have known : baudRate ∈ speeds.map Prod.fst := List.mem_map.mpr ⟨speed, listed, same⟩
    rw [if_pos known, ← same]
    exact decoded speed listed
  | none =>
    have unknown : baudRate ∉ speeds.map Prod.fst := by
      intro known
      obtain ⟨speed, listed, same⟩ := List.mem_map.mp known
      exact List.find?_eq_none.mp found speed listed (by simpa using same)
    rw [if_neg unknown]
    exact decoded (9600, b9600) (by decide)

/-- Setting the data size sets nothing else. -/
theorem line_setDataSize (dataSize : UInt8) :
    line { ti with cCflag := replace ti.cCflag csize (Port.dataSizeCode dataSize) } =
      ti.line.setDataSize dataSize := by
  refine Line.ext (speed_congr (ti.kept _ (by decide))) ?_
    (parity_congr (ti.kept _ (by decide)) (ti.kept _ (by decide)))
    (stopSize_congr (ti.kept _ (by decide))) (outFlow_congr rfl (ti.kept _ (by decide)))
    (inFlow_congr rfl (ti.kept _ (by decide)))
  change termios2TncomDataSize _ = if dataSize ∈ [5, 6, 7] then dataSize else 8
  unfold termios2TncomDataSize
  dsimp only
  rw [replace_and_self]
  -- The codes of 5, 6 and 7 are decoded to themselves, and all others are that of 8.
  by_cases five : dataSize = 5
  · subst five; rfl
  by_cases six : dataSize = 6
  · subst six; rfl
  by_cases seven : dataSize = 7
  · subst seven; rfl
  simp [Port.dataSizeCode, five, six, seven]

/-- Setting the stop bits sets nothing else. -/
theorem line_setStopSize (stopSize : UInt8) :
    line { ti with cCflag :=
      if stopSize = tncomTwostopbits then ti.cCflag ||| cstopb else ti.cCflag &&& ~~~cstopb } =
      ti.line.setStopSize stopSize := by
  -- Both branches of the source set one and the same field.
  have field : (if stopSize = tncomTwostopbits then ti.cCflag ||| cstopb
      else ti.cCflag &&& ~~~cstopb) =
      replace ti.cCflag cstopb (if stopSize = tncomTwostopbits then cstopb else 0) := by
    split
    · exact or_eq_replace _ _
    · exact and_not_eq_replace _ _
  rw [field]
  refine Line.ext (speed_congr (ti.kept _ (by decide))) (dataSize_congr (ti.kept _ (by decide)))
    (parity_congr (ti.kept _ (by decide)) (ti.kept _ (by decide))) ?_
    (outFlow_congr rfl (ti.kept _ (by decide))) (inFlow_congr rfl (ti.kept _ (by decide)))
  change termios2TncomStopSize _ =
    if stopSize = tncomTwostopbits then tncomTwostopbits else tncomOnestopbit
  unfold termios2TncomStopSize
  dsimp only
  rw [replace_and_self]
  split <;> rfl

/-- The fields of the parity, as they are kept for it. -/
theorem termios2TncomParity_eq {parity : UInt8} {kept : Termios}
    (enabled : kept.cCflag &&& parenb =
      if parity ∈ [tncomOddparity, tncomEvenparity] then parenb else 0)
    (odd : parity ∈ [tncomOddparity, tncomEvenparity] →
      kept.cCflag &&& parodd = if parity = tncomOddparity then parodd else 0) :
    kept.termios2TncomParity =
      if parity ∈ [tncomOddparity, tncomEvenparity] then parity else tncomNoparity := by
  unfold termios2TncomParity
  rw [enabled]
  -- Odd and even are told apart by PARODD; anything else has PARENB off.
  by_cases known : parity ∈ [tncomOddparity, tncomEvenparity]
  · rw [odd known]
    rcases List.mem_pair.mp known with rfl | rfl <;> decide
  · simp only [if_neg known]
    rfl

/-- Setting the parity sets nothing else. -/
theorem line_setParity (parity : UInt8) :
    line { ti with cCflag :=
      if parity = tncomNoparity then ti.cCflag &&& ~~~parenb
      else if parity = tncomOddparity then ti.cCflag ||| parenb ||| parodd
      else if parity = tncomEvenparity then (ti.cCflag ||| parenb) &&& ~~~parodd
      else ti.cCflag &&& ~~~parenb } = ti.line.setParity parity := by
  -- The four branches of the source come down to two: with a parity, and without one.
  have value : (if parity = tncomNoparity then ti.cCflag &&& ~~~parenb
      else if parity = tncomOddparity then ti.cCflag ||| parenb ||| parodd
      else if parity = tncomEvenparity then (ti.cCflag ||| parenb) &&& ~~~parodd
      else ti.cCflag &&& ~~~parenb) =
      if parity ∈ [tncomOddparity, tncomEvenparity] then
        replace (replace ti.cCflag parenb parenb) parodd
          (if parity = tncomOddparity then parodd else 0)
      else replace ti.cCflag parenb 0 := by
    rw [or_eq_replace ti.cCflag, or_eq_replace, and_not_eq_replace, and_not_eq_replace]
    by_cases odd : parity = tncomOddparity
    · subst odd; rfl
    by_cases even : parity = tncomEvenparity
    · subst even; rfl
    simp only [List.mem_pair, odd, even, or_self, if_false, ite_self]
  rw [value]
  generalize kept_ : ({ ti with cCflag := _ } : Termios) = after
  -- What lies in neither of the two fields is kept in both cases.
  have other : ∀ field, parenb &&& field = 0 → parodd &&& field = 0 →
      after.cCflag &&& field = ti.cCflag &&& field := by
    intro field enabled odd
    subst kept_
    dsimp only
    split
    · rw [replace_and_of_disjoint _ _ _ _ odd, ti.kept _ enabled]
    · exact ti.kept _ enabled
  have same : after.cIflag = ti.cIflag := by subst kept_; rfl
  refine Line.ext (speed_congr (other _ (by decide) (by decide)))
    (dataSize_congr (other _ (by decide) (by decide))) ?_
    (stopSize_congr (other _ (by decide) (by decide)))
    (outFlow_congr (by rw [same]) (other _ (by decide) (by decide)))
    (inFlow_congr (by rw [same]) (other _ (by decide) (by decide)))
  refine termios2TncomParity_eq ?_ fun known => ?_
  · subst kept_
    dsimp only
    split
    · rw [replace_and_of_disjoint _ _ _ _ (by decide), replace_and_self]
      rfl
    · rw [replace_and_self]
      rfl
  · subst kept_
    dsimp only
    rw [if_pos known, replace_and_self]
    split <;> rfl

/-- Each kind of flow control has a field of its own, for both directions or for each. -/
theorem line_flow (software hardware : Bool) :
    line { cIflag := replace (replace ti.cIflag ixon (if software then ixon else 0)) ixoff
             (if software then ixoff else 0)
           cCflag := replace ti.cCflag crtscts (if hardware then crtscts else 0) } =
      { ti.line with
        outFlow := if software then tncomCmdFlowXonxoff
          else if hardware then tncomCmdFlowHardware else tncomCmdFlowNone
        inFlow := if software then tncomCmdInflowXonxoff
          else if hardware then tncomCmdInflowHardware else tncomCmdInflowNone } := by
  refine Line.ext (speed_congr (ti.kept _ (by decide))) (dataSize_congr (ti.kept _ (by decide)))
    (parity_congr (ti.kept _ (by decide)) (ti.kept _ (by decide)))
    (stopSize_congr (ti.kept _ (by decide))) ?_ ?_
  -- Output looks at IXON first and input at IXOFF, and both at the same hardware field.
  · change termios2TncomOutFlow _ = _
    unfold termios2TncomOutFlow
    dsimp only
    rw [replace_and_of_disjoint _ ixoff _ ixon (by decide), replace_and_self, replace_and_self]
    cases software <;> cases hardware <;> rfl
  · change termios2TncomInFlow _ = _
    unfold termios2TncomInFlow
    dsimp only
    rw [replace_and_self, replace_and_self]
    cases software <;> cases hardware <;> rfl

/-- Setting the flow control sets nothing else. -/
theorem line_setFlow (how : UInt8) : (Port.flowSettings ti how).line = ti.line.setFlow how := by
  -- Three of the requests set both kinds at once; all others leave the flags alone.
  have none_ := ti.line_flow false false
  have xonxoff := ti.line_flow true false
  have hardware := ti.line_flow false true
  simp only [Bool.false_eq_true, if_true, if_false] at none_ xonxoff hardware
  unfold Port.flowSettings Line.setFlow
  rw [and_not_eq_replace ti.cIflag, and_not_eq_replace _ ixoff, and_not_eq_replace ti.cCflag,
    or_eq_replace ti.cIflag, or_eq_replace _ ixoff, or_eq_replace ti.cCflag]
  split
  · exact none_
  split
  · exact xonxoff
  split
  · exact hardware
  · rfl

end Termios

end SerialPort.Sercd
