import ChipEight.Machine.Execute

/-! # The stages of a cycle

A cycle ends in one of four ways, and `Machine.cycle_cases` says everything about each: a strict
machine objects to the word, the counter cannot be moved on, the word is passed over, or an
instruction is started. Whatever is true of cycles is proved from these four cases.

* `Machine.started?`: the instruction that a cycle starts;
* `Machine.executed`: the machine after an instruction, also if the instruction failed;
* `Machine.error_perform`: only a skip fails, and only at the end of memory. -/

namespace ChipEight.Machine

/-- The machine with its counter moved over one instruction. -/
def advanced (m : Machine) : Machine := { m with counter := m.counter + wordSize }

/-- The instruction that a cycle starts: the one that the fetched word stands for, unless the
counter cannot be moved past it. -/
def started? (m : Machine) : Option Instruction :=
  if m.counter + wordSize < Memory.size then Instruction.ofWord? m.fetch else none

/-- The machine after an instruction, also if the instruction failed. -/
def executed (m : Machine) (i : Instruction) : Machine := (m.perform i).state

/-- A machine steps on while the next instruction lies in memory. -/
theorem advance_of_lt {m : Machine} (h : m.counter + wordSize < Memory.size) :
    m.advance = .ok m.advanced :=
  if_pos h

/-- Stepping over the last instruction fails, and names the counter. -/
theorem advance_of_le {m : Machine} (h : Memory.size ≤ m.counter + wordSize) :
    m.advance = .error (.outOfMemory m.counter) :=
  if_neg (Nat.not_lt.2 h)

/-- A cycle starts an instruction if and only if the counter can be moved on and the word stands for
that instruction. -/
theorem started?_eq_some_iff {m : Machine} {i : Instruction} :
    m.started? = some i ↔
      m.counter + wordSize < Memory.size ∧ Instruction.ofWord? m.fetch = some i := by
  rw [started?, Option.ite_none_right_eq_some]

/-! ### The four ends of a cycle -/

/-- A strict machine objects to a word that stands for nothing, wherever its counter is. -/
theorem cycle_of_objects {m : Machine} (h : Instruction.ofWord? m.fetch = none) :
    m.cycle true = .fail m (.unknownInstruction m.fetch) := by
  simp [cycle, Instruction.resolve, h]

/-- At the end of memory the counter stays where it is, and no instruction is started. -/
theorem cycle_of_outOfMemory {strict : Bool} {m : Machine}
    (h : strict = true → Instruction.ofWord? m.fetch ≠ none)
    (hle : Memory.size ≤ m.counter + wordSize) :
    m.cycle strict =
      ⟨m, Instruction.resolveEntries strict m.fetch, some (.outOfMemory m.counter)⟩ := by
  cases hw : Instruction.ofWord? m.fetch with
  | none =>
    have hstrict : strict = false := by
      cases strict with
      | false => rfl
      | true => exact absurd hw (h rfl)
    subst hstrict
    simp [cycle, Instruction.resolve, Instruction.resolveEntries, hw, advance_of_le hle,
      Outcome.ofExcept, Outcome.fail, Outcome.noting]
  | some i =>
    simp [cycle, Instruction.resolve, Instruction.resolveEntries, hw, advance_of_le hle,
      Outcome.ofExcept, Outcome.fail, Outcome.andThen]

/-- A permissive machine passes over a word that stands for nothing. -/
theorem cycle_of_ignores {m : Machine} (h : Instruction.ofWord? m.fetch = none)
    (hlt : m.counter + wordSize < Memory.size) :
    m.cycle false = ⟨m.advanced, [.ignored m.fetch], none⟩ := by
  simp [cycle, Instruction.resolve, h, advance_of_lt hlt, Outcome.ofExcept, Outcome.done,
    Outcome.noting]

/-- A cycle that starts an instruction has moved the counter before. -/
theorem cycle_of_started? {strict : Bool} {m : Machine} {i : Instruction}
    (h : m.started? = some i) :
    m.cycle strict = (m.advanced.perform i).noting [.started m.counter m.fetch i] := by
  obtain ⟨hlt, hw⟩ := started?_eq_some_iff.1 h
  simp [cycle, Instruction.resolve, hw, advance_of_lt hlt, Outcome.ofExcept]

/-- **All that a cycle can do.** -/
theorem cycle_cases (strict : Bool) (m : Machine) :
    (strict = true ∧ Instruction.ofWord? m.fetch = none ∧
        m.cycle strict = .fail m (.unknownInstruction m.fetch)) ∨
      ((strict = true → Instruction.ofWord? m.fetch ≠ none) ∧
        Memory.size ≤ m.counter + wordSize ∧ m.cycle strict =
          ⟨m, Instruction.resolveEntries strict m.fetch, some (.outOfMemory m.counter)⟩) ∨
      (strict = false ∧ Instruction.ofWord? m.fetch = none ∧
        m.counter + wordSize < Memory.size ∧
        m.cycle strict = ⟨m.advanced, [.ignored m.fetch], none⟩) ∨
      ∃ i, m.started? = some i ∧
        m.cycle strict = (m.advanced.perform i).noting [.started m.counter m.fetch i] := by
  -- Inside memory the word decides, and at its end only whether the machine objects before that.
  by_cases hlt : m.counter + wordSize < Memory.size
  · cases hw : Instruction.ofWord? m.fetch with
    | some i =>
      have hi : m.started? = some i := started?_eq_some_iff.2 ⟨hlt, hw⟩
      exact Or.inr (Or.inr (Or.inr ⟨i, hi, cycle_of_started? hi⟩))
    | none =>
      cases strict with
      | true => exact Or.inl ⟨rfl, rfl, cycle_of_objects hw⟩
      | false => exact Or.inr (Or.inr (Or.inl ⟨rfl, rfl, hlt, cycle_of_ignores hw hlt⟩))
  · have hle : Memory.size ≤ m.counter + wordSize := Nat.not_lt.1 hlt
    by_cases hobjects : strict = true ∧ Instruction.ofWord? m.fetch = none
    · obtain ⟨rfl, hw⟩ := hobjects
      exact Or.inl ⟨rfl, hw, cycle_of_objects hw⟩
    · have h : strict = true → Instruction.ofWord? m.fetch ≠ none :=
        fun hs hw => hobjects ⟨hs, hw⟩
      exact Or.inr (Or.inl ⟨h, hle, cycle_of_outOfMemory h hle⟩)

/-- The machine after a cycle is what the started instruction makes of the moved counter; without
one at most the counter has moved. -/
theorem state_cycle (strict : Bool) (m : Machine) :
    (∃ i, m.started? = some i ∧ (m.cycle strict).state = m.advanced.executed i) ∨
      (m.started? = none ∧ ((m.cycle strict).state = m ∨
        m.counter + wordSize < Memory.size ∧ (m.cycle strict).state = m.advanced)) := by
  rcases cycle_cases strict m with ⟨-, hw, h⟩ | ⟨-, hle, h⟩ | ⟨-, hw, hlt, h⟩ | ⟨i, hi, h⟩
  · refine Or.inr ⟨?_, Or.inl (by rw [h]; rfl)⟩
    rw [started?, hw, ite_self]
  · exact Or.inr ⟨if_neg (Nat.not_lt.2 hle), Or.inl (by rw [h])⟩
  · refine Or.inr ⟨?_, Or.inr ⟨hlt, by rw [h]⟩⟩
    rw [started?, hw, ite_self]
  · exact Or.inl ⟨i, hi, by rw [h]; rfl⟩

end ChipEight.Machine
