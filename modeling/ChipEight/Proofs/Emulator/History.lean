import ChipEight.Proofs.Emulator.Runs
import ChipEight.Proofs.Machine.Effects

/-! # What a run executes

Between two commands of a run at most one instruction is executed. `Emulator.history` lists the
instructions of a run in order, each with the machine that its cycle found, so that a statement
about a whole run can count them or look at the last one.

* `Emulator.started?`: the instruction that a command executes;
* `Machine.IsSheltered`: a part of the machine that only instructions, ticks and the taking of tones
  can change, and `Machine.IsSheltered.next`: such a part after a command;
* `Machine.IsInternal`: a part of the machine that only instructions can change, and
  `Machine.IsInternal.next`: such a part after a command. -/

namespace ChipEight

namespace Machine

/-- A part of the machine that neither the step over a word nor a load nor a key changes. -/
structure IsSheltered {α : Type} (part : Machine → α) : Prop where
  advanced : ∀ m : Machine, part m.advanced = part m
  memory : ∀ (m : Machine) (memory : Memory), part { m with memory } = part m
  keypad : ∀ (m : Machine) (keypad : Keypad), part { m with keypad } = part m

/-- A part of the machine that nothing but an instruction changes: neither the step over a word, nor
anything that is done to the machine from outside. -/
structure IsInternal {α : Type} (part : Machine → α) : Prop extends IsSheltered part where
  tick : ∀ m : Machine, part m.tick = part m
  takeTone : ∀ m : Machine, part m.takeTone = part m

/-- Only instructions change the return addresses. -/
theorem isInternal_stack : IsInternal stack :=
  ⟨⟨fun _ => rfl, fun _ _ => rfl, fun _ _ => rfl⟩, fun _ => rfl, fun _ => rfl⟩

end Machine

/-- The execution of an instruction. -/
structure Execution where
  /-- The machine as the cycle found it, with its counter at the instruction. -/
  machine : Machine
  instruction : Instruction

namespace Emulator

/-- The instruction that a command executes. -/
def started? (e : Emulator) : Command → Option Instruction
  | .cycle => e.machine.started?
  | _ => none

/-- The instructions that a run executes, in order. -/
def history (e : Emulator) : List Command → List Execution
  | [] => []
  | c :: rest =>
    (e.started? c).toList.map (Execution.mk e.machine) ++ (e.next c).history rest

@[simp] theorem history_nil (e : Emulator) : e.history [] = [] := rfl

/-- The history of a command list begins with the instruction that the first command executes, if
any. -/
theorem history_cons (e : Emulator) (c : Command) (rest : List Command) :
    e.history (c :: rest) =
      (e.started? c).toList.map (Execution.mk e.machine) ++ (e.next c).history rest := rfl

/-- Only a cycle executes an instruction. -/
theorem started?_eq_some_iff {e : Emulator} {c : Command} {i : Instruction} :
    e.started? c = some i ↔ c = .cycle ∧ e.machine.started? = some i := by
  cases c <;> simp [started?]

/-- Only cycles add to the history of a run. -/
theorem history_cons_of_ne_cycle (e : Emulator) {c : Command} (hc : c ≠ .cycle)
    (rest : List Command) : e.history (c :: rest) = (e.next c).history rest := by
  cases c with
  | cycle => exact absurd rfl hc
  | _ => rfl

/-- A run that begins with a cycle that executes an instruction. -/
theorem history_cycle_of_started? {e : Emulator} {i : Instruction}
    (hi : e.machine.started? = some i) (rest : List Command) :
    e.history (.cycle :: rest) = ⟨e.machine, i⟩ :: (e.next .cycle).history rest := by
  rw [history_cons, started?, hi]
  rfl

/-- What a cycle leaves that executes an instruction. -/
theorem next_cycle_of_started? {e : Emulator} {i : Instruction} (hi : e.machine.started? = some i) :
    e.next .cycle = { e with machine := e.machine.advanced.executed i } := by
  show ({ e with machine := (e.machine.cycle e.settings.strict).state } : Emulator) = _
  rw [Machine.cycle_of_started? hi]
  rfl

end Emulator

/-- **A sheltered part of the machine is changed by instructions, ticks and the taking of tones
alone.** -/
theorem Machine.IsSheltered.next {α : Type} {part : Machine → α} (h : IsSheltered part)
    (e : Emulator) (c : Command) :
    part (e.next c).machine =
      match c with
      | .cycle =>
        match e.machine.started? with
        | some i => part (e.machine.advanced.executed i)
        | none => part e.machine
      | .tick => part e.machine.tick
      | .takeTone => part e.machine.takeTone
      | _ => part e.machine := by
  cases c with
  | load data offset =>
    obtain ⟨memory, hnext⟩ := e.next_of_isLoad (c := .load data offset) trivial
    rw [hnext]
    exact h.memory e.machine memory
  | loadProgram source =>
    obtain ⟨memory, hnext⟩ := e.next_of_isLoad (c := .loadProgram source) trivial
    rw [hnext]
    exact h.memory e.machine memory
  | press key =>
    rw [Emulator.next_press]
    exact h.keypad e.machine _
  | release key =>
    rw [Emulator.next_release]
    exact h.keypad e.machine _
  | cycle =>
    -- A cycle that starts nothing changes nothing, or steps over a word.
    show part (e.machine.cycle e.settings.strict).state = _
    rcases Machine.state_cycle e.settings.strict e.machine with
      ⟨i, hi, hstate⟩ | ⟨hnone, hstate | ⟨-, hstate⟩⟩
    · simp [hi, hstate]
    · simp [hnone, hstate]
    · simp [hnone, hstate, h.advanced]
  | tick => rfl
  | takeTone => rfl

/-- **An internal part of the machine is changed by instructions alone.** What a command leaves in
it is what the executed instruction makes of it. -/
theorem Machine.IsInternal.next {α : Type} {part : Machine → α} (h : IsInternal part)
    (e : Emulator) (c : Command) :
    part (e.next c).machine =
      match e.started? c with
      | some i => part (e.machine.advanced.executed i)
      | none => part e.machine := by
  rw [h.toIsSheltered.next]
  cases c with
  | tick => exact h.tick e.machine
  | takeTone => exact h.takeTone e.machine
  | _ => rfl

end ChipEight
