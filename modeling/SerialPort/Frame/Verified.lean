import SerialPort.Frame.Offer

/-! The two checksum verifiers and the generator, on frames without a footer. -/

namespace SerialPort

/-- The checksums that come with the library. -/
def Checksums.all : List Checksum := [None, Xor8, Sum8, Crc16Modbus]

/-- A checksum that always has as many bytes as that of the empty array. -/
def Checksum.Uniform (checksum : Checksum) : Prop :=
  ∀ data, (checksum data).length = (checksum []).length

/-- Every checksum of the library has a fixed width, and only the empty one has no byte at all. -/
theorem Checksums.all_uniform {checksum : Checksum} (builtIn : checksum ∈ Checksums.all) :
    checksum.Uniform ∧ (checksum []).length ≤ 2 ∧
      ((checksum []).length = 0 ↔ checksum = Checksums.None) := by
  simp only [all, List.mem_cons, List.not_mem_nil, or_false] at builtIn
  -- A checksum with a byte differs from the empty one already on the empty array.
  have differs : ∀ {other : Checksum}, (other []).length ≠ 0 →
      ((other []).length = 0 ↔ other = Checksums.None) := by
    intro other some
    refine ⟨fun zero => absurd zero some, fun same => ?_⟩
    rw [same]
    rfl
  rcases builtIn with rfl | rfl | rfl | rfl
  · exact ⟨fun _ => rfl, Nat.zero_le 2, fun _ => rfl, fun _ => rfl⟩
  · exact ⟨fun _ => rfl, Nat.le_succ 1, differs Nat.one_ne_zero⟩
  · exact ⟨fun _ => rfl, Nat.le_succ 1, differs Nat.one_ne_zero⟩
  · exact ⟨fun _ => rfl, Nat.le_refl 2, differs (Nat.succ_ne_zero 1)⟩

namespace Bytes

variable {checksum : Checksum} {frame : Bytes}

/-- A checksum is verified by comparing the last bytes with the checksum of the others. -/
theorem hasChecksum_eq (long : (checksum []).length ≤ frame.length) :
    frame.hasChecksum checksum =
      (checksum (frame.take (frame.length - (checksum []).length)) ==
        frame.drop (frame.length - (checksum []).length)) := by
  -- The frame is its body and its last bytes, and only the last bytes are in question.
  rw [hasChecksum, if_neg (Nat.not_lt.mpr long)]
  obtain ⟨cut, cutIs⟩ : ∃ cut, cut = frame.length - (checksum []).length := ⟨_, rfl⟩
  simp only [← cutIs, withChecksum]
  rw [Bool.eq_iff_iff, beq_iff_eq, beq_iff_eq]
  constructor
  · intro whole
    have tail : frame.take cut ++ checksum (frame.take cut) = frame.take cut ++ frame.drop cut := by
      rw [whole, List.take_append_drop]
    exact List.append_cancel_left tail
  · intro tail
    rw [tail, List.take_append_drop]

/-- A fixed-width checksum is verified exactly on what the generator builds. -/
theorem hasChecksum_iff (uniform : checksum.Uniform) :
    frame.hasChecksum checksum = true ↔ ∃ body : Bytes, frame = body.withChecksum checksum := by
  constructor
  · -- The body is what the verifier takes for it.
    intro verified
    unfold hasChecksum at verified
    split at verified
    · cases verified
    · exact ⟨_, (eq_of_beq verified).symm⟩
  · rintro ⟨body, rfl⟩
    exact hasChecksum_withChecksum uniform body

/-- With the checksum's own width and no offset, the two verifiers agree, unless it has no byte. -/
theorem hasChecksumAt_eq_hasChecksum (small : frame.length < 2 ^ 31)
    (narrow : (checksum []).length < 2 ^ 31) (positive : 0 < (checksum []).length) :
    frame.hasChecksumAt checksum (Int32.ofNat (checksum []).length) none =
      .ok (frame.hasChecksum checksum) := by
  -- A frame shorter than the checksum is refused by both.
  by_cases long : (checksum []).length ≤ frame.length
  · rw [FrameConfig.hasChecksumAt_default checksum positive long small, hasChecksum_eq long]
  · have size : (Int32.ofNat (checksum []).length).toInt = (checksum []).length :=
      toInt_ofNat_of_fits narrow
    rw [hasChecksumAt, if_pos (Or.inr (by omega)), hasChecksum, if_pos (by omega)]

end Bytes

namespace FrameConfig

/-- A checksum is configured, and its size and place are left at their defaults. -/
structure Defaulted (config : FrameConfig) (checksum : Checksum) : Prop where
  configured : config.checksum = some checksum
  size : config.checksumSize =
    (config.checksum.map fun calculate => Int32.ofNat (calculate []).length).getD 0
  place : config.checksumOffset = none

/-- The parser's test, the verifier and the generator say the same of a frame. -/
structure VerifiersAgree (config : FrameConfig) (checksum : Checksum) (frame : Bytes) : Prop where
  verified : config.checksumMatches frame = .ok true ↔ frame.hasChecksum checksum = true
  built : frame.hasChecksum checksum = true ↔ ∃ body : Bytes, frame = body.withChecksum checksum

variable {config : FrameConfig} {checksum : Checksum} {frame : Bytes}

/-- With the defaults, the parser's test is given the checksum's own width and no offset. -/
theorem Defaulted.checksumMatches_eq (defaulted : config.Defaulted checksum) :
    config.checksumMatches frame =
      frame.hasChecksumAt checksum (Int32.ofNat (checksum []).length) none := by
  simp only [checksumMatches, defaulted.configured, defaulted.size, defaulted.place,
    Option.map_some, Option.getD_some]

/-- Checksums without a byte never pass the parser's test. -/
theorem Defaulted.checksumMatches_empty (defaulted : config.Defaulted checksum)
    (empty : (checksum []).length = 0) : config.checksumMatches frame = .ok false := by
  -- The first guard refuses a size of zero.
  rw [defaulted.checksumMatches_eq, empty]
  exact if_pos (Or.inl rfl)

/-- A checksum without a byte is verified on every frame. -/
theorem hasChecksum_none : frame.hasChecksum Checksums.None = true := by
  have sized : Checksum.Uniform Checksums.None := fun _ => rfl
  exact (Bytes.hasChecksum_iff sized).mpr ⟨frame, by simp [Bytes.withChecksum, Checksums.None]⟩

/-- Of the library's checksums, only the empty one sets the parser's test and the verifier apart. -/
theorem verifiersAgree_iff (builtIn : checksum ∈ Checksums.all)
    (defaulted : config.Defaulted checksum) (small : frame.length < 2 ^ 31) :
    config.VerifiersAgree checksum frame ↔ checksum ≠ Checksums.None := by
  obtain ⟨uniform, narrow, empty⟩ := Checksums.all_uniform builtIn
  constructor
  · -- The parser refuses every frame for lack of a checksum byte, and the verifier accepts it.
    rintro agree rfl
    have passed := agree.verified.mpr hasChecksum_none
    rw [defaulted.checksumMatches_empty (empty.mpr rfl)] at passed
    cases passed
  · intro other
    have positive : 0 < (checksum []).length := Nat.pos_of_ne_zero fun zero => other (empty.mp zero)
    refine ⟨?_, Bytes.hasChecksum_iff uniform⟩
    rw [defaulted.checksumMatches_eq,
      Bytes.hasChecksumAt_eq_hasChecksum small (by omega) positive]
    exact ⟨fun same => Except.ok.inj same, fun same => congrArg Except.ok same⟩

/-- A frame of five bytes with the Modbus checksum at its end. -/
theorem verifiersAgree_modbus :
    VerifiersAgree { header := [0x55], lengthOffset := 1, checksum := some Checksums.Crc16Modbus }
      Checksums.Crc16Modbus [1, 2, 3, 0x61, 0x61] := by
  have other : Checksums.Crc16Modbus ≠ Checksums.None := by
    intro same
    exact absurd (congrFun same []) (by decide)
  exact (verifiersAgree_iff (by simp [Checksums.all]) ⟨rfl, rfl, rfl⟩ (by decide)).mpr other

/-- Configured without a checksum byte, the parser refuses a frame that the verifier accepts. -/
theorem verifiersAgree_fails_none :
    ¬VerifiersAgree { header := [0x55], lengthOffset := 1, checksum := some Checksums.None }
      Checksums.None [0x55, 0x01, 0x07] := by
  intro agree
  have passed := agree.verified.mpr (by decide)
  exact absurd passed (by decide)

/-- What the generator builds with a checksum of some bytes passes the parser's test. -/
theorem checksumMatches_withChecksum {body : Bytes} (uniform : checksum.Uniform)
    (defaulted : config.Defaulted checksum) (positive : 0 < (checksum []).length)
    (small : (body.withChecksum checksum).length < 2 ^ 31) :
    config.checksumMatches (body.withChecksum checksum) = .ok true := by
  have width := uniform body
  have fits : (checksum []).length < 2 ^ 31 := by
    rw [Bytes.withChecksum, List.length_append, width] at small
    omega
  rw [defaulted.checksumMatches_eq, Bytes.hasChecksumAt_eq_hasChecksum small fits positive,
    (Bytes.hasChecksum_iff uniform).mpr ⟨body, rfl⟩]

end FrameConfig

end SerialPort
