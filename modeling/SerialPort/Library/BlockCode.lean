import Mathlib.Data.List.Forall2

/-! Codes that write every item with the same number of symbols, item after item. -/

namespace BlockCodes

variable {α β ε : Type*}

/-- The first groups of a fixed width, one after another. -/
def groups (width count : Nat) (symbols : List α) : List (List α) :=
  (List.range count).map fun index => (symbols.drop (index * width)).take width

/-- The first group is cut off the front, and the others are the groups of the remainder. -/
theorem groups_succ (width count : Nat) (symbols : List α) :
    groups width (count + 1) symbols =
      symbols.take width :: groups width count (symbols.drop width) := by
  -- The later groups start one width further into the whole list.
  simp only [groups, List.range_succ_eq_map, List.map_cons, Nat.zero_mul, List.drop_zero,
    List.map_map, Function.comp_def, List.drop_drop, Nat.succ_mul, Nat.add_comm]

/-- There are as many groups as asked for. -/
theorem groups_length (width count : Nat) (symbols : List α) :
    (groups width count symbols).length = count := by
  rw [groups, List.length_map, List.length_range]

/-- Lists of one width are the groups of their concatenation. -/
theorem groups_flatten {width : Nat} {parts : List (List α)}
    (uniform : ∀ part ∈ parts, part.length = width) :
    groups width parts.length parts.flatten = parts := by
  -- Each part is exactly the next group.
  induction parts with
  | nil => rfl
  | cons part parts ih =>
    have wide := uniform part (by simp)
    rw [List.length_cons, groups_succ, List.flatten_cons, List.take_left' wide,
      List.drop_left' wide, ih (fun later member => uniform later (by simp [member]))]

/-- The groups of a list that they divide evenly make up the list again. -/
theorem flatten_groups {width count : Nat} {symbols : List α}
    (even : symbols.length = count * width) : (groups width count symbols).flatten = symbols := by
  -- What is left behind the first group is divided evenly by the others.
  induction count generalizing symbols with
  | zero =>
    have empty : symbols = [] := by simpa using even
    rw [empty]
    rfl
  | succ count ih =>
    have rest : (symbols.drop width).length = count * width := by
      rw [List.length_drop, even, Nat.succ_mul, Nat.add_sub_cancel]
    rw [groups_succ, List.flatten_cons, ih rest, List.take_append_drop]

/-- Every group of a list that they divide evenly has the full width. -/
theorem length_of_mem_groups {width count : Nat} {symbols group : List α}
    (even : symbols.length = count * width) (member : group ∈ groups width count symbols) :
    group.length = width := by
  -- A group starts at a multiple of the width below the end of the list.
  rw [groups, List.mem_map] at member
  obtain ⟨index, below, rfl⟩ := member
  have enough : (index + 1) * width ≤ count * width :=
    Nat.mul_le_mul_right width (List.mem_range.mp below)
  rw [Nat.succ_mul] at enough
  rw [List.length_take, List.length_drop]
  omega

/-- The symbols of a group are symbols of the list. -/
theorem mem_of_mem_group {width count : Nat} {symbols group : List α} {symbol : α}
    (member : group ∈ groups width count symbols) (inside : symbol ∈ group) : symbol ∈ symbols := by
  rw [groups, List.mem_map] at member
  obtain ⟨index, -, rfl⟩ := member
  exact List.mem_of_mem_drop (List.mem_of_mem_take inside)

/-- A mapping that may fail succeeds exactly when it relates the two lists item by item. -/
theorem mapM_eq_ok_iff {mapping : α → Except ε β} {inputs : List α} {outputs : List β} :
    inputs.mapM mapping = .ok outputs ↔
      List.Forall₂ (fun input output => mapping input = .ok output) inputs outputs := by
  -- One input at a time, and the first failure is the failure of the whole.
  induction inputs generalizing outputs with
  | nil =>
    rw [List.mapM_nil, List.forall₂_nil_left_iff]
    exact ⟨fun same => (Except.ok.inj same).symm, fun same => congrArg Except.ok same.symm⟩
  | cons input inputs ih =>
    rw [List.mapM_cons, List.forall₂_cons_left_iff]
    cases first : mapping input with
    | error failure =>
      constructor
      · intro done
        cases done
      · rintro ⟨output, rest, same, -⟩
        cases same
    | ok output =>
      cases others : inputs.mapM mapping with
      | error failure =>
        constructor
        · intro done
          cases done
        · rintro ⟨_, rest, -, related, -⟩
          have done := ih.mpr related
          rw [others] at done
          cases done
      | ok rest =>
        have related := ih.mp others
        constructor
        · intro done
          exact ⟨output, rest, rfl, related, (Except.ok.inj done).symm⟩
        · rintro ⟨_, more, same, moreRelated, rfl⟩
          cases same
          have agree := (ih.mpr moreRelated).symm.trans others
          cases agree
          rfl

/-- Mappings that agree on every input agree on the list. -/
theorem mapM_congr {mapping other : α → Except ε β} {inputs : List α}
    (agree : ∀ input ∈ inputs, mapping input = other input) :
    inputs.mapM mapping = inputs.mapM other := by
  induction inputs with
  | nil => rfl
  | cons input inputs ih =>
    rw [List.mapM_cons, List.mapM_cons, agree input (by simp),
      ih fun later member => agree later (by simp [member])]

/-- A mapping that succeeds on every input succeeds on the list. -/
theorem mapM_total {mapping : α → Except ε β} {inputs : List α}
    (total : ∀ input ∈ inputs, ∃ output, mapping input = .ok output) :
    ∃ outputs, inputs.mapM mapping = .ok outputs := by
  induction inputs with
  | nil => exact ⟨[], rfl⟩
  | cons input inputs ih =>
    obtain ⟨output, first⟩ := total input (by simp)
    obtain ⟨outputs, others⟩ := ih fun later member => total later (by simp [member])
    exact ⟨output :: outputs, by rw [List.mapM_cons, first, others]; rfl⟩

/-- A code that writes every item with the same number of symbols, and reads it back. -/
structure BlockCode (α β ε : Type*) where
  width : Nat
  write : β → List α
  read : List α → Except ε β
  positive : 0 < width
  write_length : ∀ item, (write item).length = width
  read_write : ∀ item, read (write item) = .ok item

namespace BlockCode

variable (code : BlockCode α β ε)

/-- Writes the items one after another. -/
def writeAll (items : List β) : List α :=
  items.flatMap code.write

/-- Reads as many items as the symbols have whole groups. -/
def readAll (symbols : List α) : Except ε (List β) :=
  (groups code.width (symbols.length / code.width) symbols).mapM code.read

/-- What is written has a group for every item. -/
theorem writeAll_length (items : List β) :
    (code.writeAll items).length = items.length * code.width := by
  induction items with
  | nil => rw [writeAll, List.flatMap_nil, List.length_nil, List.length_nil, Nat.zero_mul]
  | cons item items ih =>
    rw [writeAll] at ih ⊢
    rw [List.flatMap_cons, List.length_append, code.write_length, ih, List.length_cons,
      Nat.succ_mul, Nat.add_comm]

/-- The groups of what is written are the items as they were written. -/
theorem groups_writeAll (items : List β) :
    groups code.width items.length (code.writeAll items) = items.map code.write := by
  have uniform : ∀ part ∈ items.map code.write, part.length = code.width := by
    intro part member
    obtain ⟨item, -, rfl⟩ := List.mem_map.mp member
    exact code.write_length item
  have found := groups_flatten uniform
  rwa [List.length_map, ← List.flatMap_def] at found

/-- Reading what was written gives the items back. -/
theorem readAll_writeAll (items : List β) : code.readAll (code.writeAll items) = .ok items := by
  -- The groups are the written items, and each of them reads back.
  rw [readAll, code.writeAll_length, Nat.mul_div_cancel _ code.positive, code.groups_writeAll,
    mapM_eq_ok_iff, List.forall₂_map_left_iff, List.forall₂_same]
  exact fun item _ => code.read_write item

variable {code} {symbols : List α} {items : List β}

/-- What was read is written as the symbols were, up to how single symbols are spelled. -/
theorem writeAll_of_readAll {spelling : α → α} (even : code.width ∣ symbols.length)
    (spells : ∀ group ∈ groups code.width (symbols.length / code.width) symbols, ∀ item,
      code.read group = .ok item → code.write item = group.map spelling)
    (done : code.readAll symbols = .ok items) : code.writeAll items = symbols.map spelling := by
  -- The induction is on the groups and the items that were read from them.
  have general : ∀ {parts : List (List α)} {items : List β},
      List.Forall₂ (fun group item => code.read group = .ok item) parts items →
      (∀ part ∈ parts, ∀ item, code.read part = .ok item → code.write item = part.map spelling) →
      code.writeAll items = parts.flatten.map spelling := by
    intro parts items related
    induction related with
    | nil => exact fun _ => rfl
    | cons first others ih =>
      intro spells
      have rest := ih fun later member => spells later (by simp [member])
      rw [writeAll] at rest ⊢
      rw [List.flatMap_cons, rest, spells _ (by simp) _ first, List.flatten_cons, List.map_append]
  have divided : symbols.length = symbols.length / code.width * code.width :=
    (Nat.div_mul_cancel even).symm
  rw [general (mapM_eq_ok_iff.mp done) spells, flatten_groups divided]

/-- Reading succeeds exactly when every group can be read. -/
theorem readAll_ok_iff :
    (∃ items, code.readAll symbols = .ok items) ↔
      ∀ group ∈ groups code.width (symbols.length / code.width) symbols,
        ∃ item, code.read group = .ok item := by
  constructor
  · rintro ⟨items, done⟩ group member
    -- A member of the groups is related to the item at its own place.
    obtain ⟨index, inside, rfl⟩ := List.getElem_of_mem member
    have related := mapM_eq_ok_iff.mp done
    exact ⟨_, related.get inside (related.length_eq ▸ inside)⟩
  · exact fun total => mapM_total total

/-- The item read at an index is that of the group there. -/
theorem readAll_getElem (done : code.readAll symbols = .ok items) {index : Nat}
    (inside : index < items.length) :
    code.read ((symbols.drop (index * code.width)).take code.width) = .ok items[index] := by
  have related := mapM_eq_ok_iff.mp done
  have below : index < (groups code.width (symbols.length / code.width) symbols).length := by
    rwa [related.length_eq]
  have found := related.get below inside
  simpa only [groups, List.get_eq_getElem, List.getElem_map, List.getElem_range] using found

end BlockCode

end BlockCodes
