import ChipEight.Emulator.Basic
import ChipEight.Proofs.Checked.Registers
import ChipEight.Proofs.Machine.Drawing
import ChipEight.Proofs.Machine.Effects

/-! # The footprint of a cycle

Every instruction has a footprint: the parts of the machine that it may leave changed. For most
parts `Machine.executed_of_isLocal` and the equations after it say which instructions have the part
in their footprint. Registers and memory are looked at register by register and byte by byte here,
because an instruction that reaches them reaches a few of them only.

* `Instruction.written`: the registers in the footprint of an instruction;
* `Machine.v_executed_of_not_mem_written` and `Machine.exists_of_read_executed_ne`: no other
  register is changed, and no byte but those that are stored at the index;
* `Emulator.cycle_within_footprint`: a cycle changes no more than the instruction that it starts. -/

namespace ChipEight

/-- Whether an operation leaves a flag. -/
def Operation.setsFlag : Operation → Bool
  | .copy | .or | .and | .xor => false
  | .add | .subtract | .subtractFrom => true

/-- The registers that an instruction may change. -/
def Instruction.written : Instruction → List Register
  | .setByte x _ | .addByte x _ | .random x _ | .getDelay x | .waitKey x => [x]
  | .combine operation x _ => if operation.setsFlag then [x, Machine.flagRegister] else [x]
  | .shift _ x => [x, Machine.flagRegister]
  | .draw _ _ _ => [Machine.flagRegister]
  | .load x => Machine.registersUpTo x
  | _ => []

namespace Machine

variable {m : Machine} {x r : Register}

/-! ### Registers -/

/-- A byte that is put into a register leaves the others as they were. -/
theorem v_setV_of_ne (h : r ≠ x) (value : UInt8) : (m.setV x value).v r = m.v r := by
  rw [v_setV, if_neg h.symm]

/-- Storing the flag leaves the other registers alone. -/
theorem v_setFlag_of_ne (h : r ≠ flagRegister) (on : Bool) : (m.setFlag on).v r = m.v r :=
  v_setV_of_ne h _

/-- A shift changes the register that it shifts, and the flag. -/
theorem v_shift_of_ne (hx : r ≠ x) (hflag : r ≠ flagRegister) (direction : Direction) :
    (m.shift direction x).v r = m.v r := by
  rw [shift, v_setV_of_ne hx, v_setFlag_of_ne hflag]

/-- An operation changes its first register, and the flag if it leaves one. -/
theorem v_combine_of_not_mem {operation : Operation} {y : Register}
    (h : r ∉ (Instruction.combine operation x y).written) :
    (m.combine operation x y).v r = m.v r := by
  cases operation with
  | copy | or | and | xor => exact v_setV_of_ne (List.ne_of_not_mem_cons h) _
  | add | subtract | subtractFrom =>
    have hflag : r ≠ flagRegister := List.ne_of_not_mem_cons (List.not_mem_of_not_mem_cons h)
    exact (v_setFlag_of_ne hflag _).trans (v_setV_of_ne (List.ne_of_not_mem_cons h) _)

/-- Registers are loaded from memory as far as memory goes. -/
theorem v_loadRegisters (m : Machine) (x r : Register) :
    (m.loadRegisters x).v r =
      if r ≤ x ∧ m.index + r < Memory.size then m.memory.read (m.index + r) else m.v r := by
  simp [loadRegisters, v]

/-- **An instruction changes no register outside its footprint.** -/
theorem v_executed_of_not_mem_written {i : Instruction} (h : r ∉ i.written) :
    (m.executed i).v r = m.v r := by
  cases i with
  | setByte x nn => exact v_setV_of_ne (List.ne_of_not_mem_cons h) _
  | addByte x nn => exact v_setV_of_ne (List.ne_of_not_mem_cons h) _
  | combine operation x y => exact v_combine_of_not_mem h
  | shift direction x =>
    have hflag : r ≠ flagRegister := List.ne_of_not_mem_cons (List.not_mem_of_not_mem_cons h)
    exact v_shift_of_ne (List.ne_of_not_mem_cons h) hflag direction
  | random x mask => exact v_setV_of_ne (List.ne_of_not_mem_cons h) _
  | draw x y height => exact v_draw_of_ne m x y height (List.ne_of_not_mem_cons h)
  | getDelay x => exact v_setV_of_ne (List.ne_of_not_mem_cons h) _
  | waitKey x =>
    rw [executed_waitKey]
    split
    · exact v_setV_of_ne (List.ne_of_not_mem_cons h) _
    · rfl
  | load x =>
    have hx : ¬r ≤ x := fun hle => h (mem_registersUpTo.2 hle)
    exact (v_loadRegisters m x r).trans (if_neg fun hr => hx hr.1)
  -- The instructions that are left write no register at all.
  | ret => rw [executed_ret]; rfl
  | skip c =>
    rw [executed_skip]
    split <;> rfl
  | store x => rw [executed_store]; rfl
  | _ => rfl

/-! ### Memory -/

/-- Registers are stored nowhere but at their places behind the index. -/
theorem read_storeRegisters_of_forall_ne {a : Nat} {registers : List Register}
    (h : ∀ r ∈ registers, m.index + r ≠ a) :
    (m.storeRegisters registers).memory.read a = m.memory.read a := by
  induction registers generalizing m with
  | nil => rfl
  | cons r rest ih =>
    obtain ⟨hr, hrest⟩ := List.forall_mem_cons.1 h
    let written : Machine := { m with memory := m.memory.write (m.index + r) (m.v r) }
    calc
      (written.storeRegisters rest).memory.read a = written.memory.read a := ih hrest
      _ = m.memory.read a := by rw [Memory.read_write, if_neg fun ha => hr ha.1]

/-- Digits are stored nowhere but in the three bytes from the index on. -/
theorem read_storeDigits_of_forall_ne {a : Nat} (h : ∀ k ≤ 2, m.index + k ≠ a) (value : UInt8) :
    (m.storeDigits value).memory.read a = m.memory.read a := by
  have h0 : m.index ≠ a := h 0 (by decide)
  have h1 := h 1 (by decide)
  have h2 := h 2 (by decide)
  simp only [storeDigits, Memory.read_write, h0, h1, h2, false_and, if_false]

/-- **An instruction changes no byte outside its footprint**: only digits and registers are stored,
and only from the index on. -/
theorem exists_of_read_executed_ne {i : Instruction} {a : Nat}
    (h : (m.executed i).memory.read a ≠ m.memory.read a) :
    (∃ x, i = .digits x ∧ m.index ≤ a ∧ a ≤ m.index + 2) ∨
      ∃ x, i = .store x ∧ m.index ≤ a ∧ a ≤ m.index + x := by
  -- In the first two cases a byte outside of the footprint has not changed after all.
  cases i with
  | digits x =>
    refine Or.inl ⟨x, rfl, Classical.byContradiction fun hout => ?_⟩
    refine h (read_storeDigits_of_forall_ne (fun k hk hka => hout ?_) (m.v x))
    omega
  | store x =>
    refine Or.inr ⟨x, rfl, Classical.byContradiction fun hout => ?_⟩
    refine h (read_storeRegisters_of_forall_ne fun r hr hra => hout ?_)
    have hle : r.val ≤ x.val := mem_registersUpTo.1 hr
    omega
  | ret => exact absurd (by rw [executed_ret]) h
  | load x => exact absurd (by rw [executed_load]) h
  | skip c =>
    refine absurd ?_ h
    rw [executed_skip]
    split <;> rfl
  | combine operation x y => cases operation <;> exact absurd rfl h
  | waitKey x =>
    refine absurd ?_ h
    rw [executed_waitKey]
    split <;> rfl
  | _ => exact absurd rfl h

/-! ### Cycles -/

/-- Only the instruction that a cycle starts changes a part of the machine, apart from the
counter. -/
theorem exists_started?_of_cycle_ne {α : Type} (part : Machine → α) {strict : Bool}
    (hadvanced : part m.advanced = part m) (h : part (m.cycle strict).state ≠ part m) :
    ∃ i, m.started? = some i ∧ part (m.advanced.executed i) ≠ part m.advanced := by
  rcases state_cycle strict m with ⟨i, hi, hstate⟩ | ⟨-, hstate | ⟨-, hstate⟩⟩
  · rw [hstate] at h
    exact ⟨i, hi, hadvanced.symm ▸ h⟩
  · exact absurd (congrArg part hstate) h
  · exact absurd ((congrArg part hstate).trans hadvanced) h

variable {strict : Bool}

/-- A cycle changes memory only where digits or registers are stored. -/
theorem started?_of_read_cycle_ne {a : Nat}
    (h : (m.cycle strict).state.memory.read a ≠ m.memory.read a) :
    (∃ x, m.started? = some (.digits x) ∧ m.index ≤ a ∧ a ≤ m.index + 2) ∨
      ∃ x, m.started? = some (.store x) ∧ m.index ≤ a ∧ a ≤ m.index + x := by
  obtain ⟨i, hi, hne⟩ := exists_started?_of_cycle_ne (fun m => m.memory.read a) rfl h
  rcases exists_of_read_executed_ne hne with ⟨x, rfl, ha⟩ | ⟨x, rfl, ha⟩
  · exact Or.inl ⟨x, hi, ha⟩
  · exact Or.inr ⟨x, hi, ha⟩

/-- A cycle changes the screen only by clearing it or drawing on it. -/
theorem started?_of_screen_cycle_ne (h : (m.cycle strict).state.screen ≠ m.screen) :
    m.started? = some .clear ∨ ∃ x y height, m.started? = some (.draw x y height) := by
  obtain ⟨i, hi, hne⟩ := exists_started?_of_cycle_ne screen rfl h
  rw [screen_executed] at hne
  cases i with
  | clear => exact Or.inl hi
  | draw x y height => exact Or.inr ⟨x, y, height, hi⟩
  | _ => exact absurd rfl hne

/-- A cycle changes the stack only by a call or a return. -/
theorem started?_of_stack_cycle_ne (h : (m.cycle strict).state.stack ≠ m.stack) :
    m.started? = some .ret ∨ ∃ target, m.started? = some (.call target) := by
  obtain ⟨i, hi, hne⟩ := exists_started?_of_cycle_ne stack rfl h
  rw [stack_executed] at hne
  cases i with
  | ret => exact Or.inl hi
  | call target => exact Or.inr ⟨target, hi⟩
  | _ => exact absurd rfl hne

/-- A cycle changes the delay timer only by setting it. -/
theorem started?_of_delay_cycle_ne (h : (m.cycle strict).state.delay ≠ m.delay) :
    ∃ x, m.started? = some (.setDelay x) := by
  obtain ⟨i, hi, hne⟩ := exists_started?_of_cycle_ne delay rfl h
  rw [delay_executed] at hne
  cases i with
  | setDelay x => exact ⟨x, hi⟩
  | _ => exact absurd rfl hne

/-- A cycle changes the sound timer and the tone request only by setting the timer. -/
theorem started?_of_sound_cycle_ne
    (h : (m.cycle strict).state.sound ≠ m.sound ∨ (m.cycle strict).state.pending ≠ m.pending) :
    ∃ x, m.started? = some (.setSound x) := by
  have hboth : ((m.cycle strict).state.sound, (m.cycle strict).state.pending) ≠
      (m.sound, m.pending) := by
    intro heq
    obtain ⟨hsound, hpending⟩ := Prod.mk.inj heq
    exact h.elim (· hsound) (· hpending)
  obtain ⟨i, hi, hne⟩ := exists_started?_of_cycle_ne (fun m => (m.sound, m.pending)) rfl hboth
  rw [sound_executed, pending_executed] at hne
  cases i with
  | setSound x => exact ⟨x, hi⟩
  | _ => exact absurd rfl hne

/-- A cycle changes the index only by one of the instructions that set it. -/
theorem started?_of_index_cycle_ne (h : (m.cycle strict).state.index ≠ m.index) :
    (∃ target, m.started? = some (.setIndex target)) ∨
      (∃ x, m.started? = some (.addIndex x)) ∨ ∃ x, m.started? = some (.glyph x) := by
  obtain ⟨i, hi, hne⟩ := exists_started?_of_cycle_ne index rfl h
  rw [index_executed] at hne
  cases i with
  | setIndex target => exact Or.inl ⟨target, hi⟩
  | addIndex x => exact Or.inr (Or.inl ⟨x, hi⟩)
  | glyph x => exact Or.inr (Or.inr ⟨x, hi⟩)
  | _ => exact absurd rfl hne

/-- A cycle draws a random byte only by the instruction that does so, and then exactly one. -/
theorem started?_of_random_cycle_ne (h : (m.cycle strict).state.random ≠ m.random) :
    (m.cycle strict).state.random = m.random.advance ∧
      ∃ x mask, m.started? = some (.random x mask) := by
  obtain ⟨i, hi, hne⟩ := exists_started?_of_cycle_ne Machine.random rfl h
  rw [random_executed] at hne
  cases i with
  | random x mask =>
    refine ⟨?_, x, mask, hi⟩
    rw [cycle_of_started? hi]
    exact random_executed m.advanced _
  | _ => exact absurd rfl hne

/-- A cycle changes a register only by an instruction that may do so. -/
theorem started?_of_v_cycle_ne (h : (m.cycle strict).state.v r ≠ m.v r) :
    ∃ i, m.started? = some i ∧ r ∈ i.written := by
  obtain ⟨i, hi, hne⟩ := exists_started?_of_cycle_ne (fun m => m.v r) rfl h
  refine ⟨i, hi, Classical.byContradiction fun hr => ?_⟩
  exact hne (v_executed_of_not_mem_written hr)

/-- No cycle moves a key. -/
theorem keypad_cycle (m : Machine) (strict : Bool) : (m.cycle strict).state.keypad = m.keypad := by
  refine Classical.byContradiction fun h => ?_
  obtain ⟨i, -, hne⟩ := exists_started?_of_cycle_ne keypad rfl h
  exact hne (keypad_executed _ i)

end Machine

/-- **A cycle changes no more than its instruction may.** Whether the cycle succeeds or fails, every
part of the machine that it leaves changed, the counter apart, is in the footprint of the
instruction that it has started:

* a byte of memory only if digits or registers are stored over it;
* the screen only if it is cleared or drawn on, the stack only by a call or a return, each timer
  only by the instruction that sets it, and with the sound timer the tone request;
* the index only by the three instructions that set it, and the random bytes only by the instruction
  that draws one of them;
* a register only if it is among those that the instruction may change.

The keypad stays as it is. -/
theorem Emulator.cycle_within_footprint (e : Emulator) :
    let m := e.machine
    let m' := e.cycle.state.machine
    (∀ a, m'.memory.read a ≠ m.memory.read a → a < 4096 ∧
      ((∃ x, m.started? = some (.digits x) ∧ m.index ≤ a ∧ a ≤ m.index + 2) ∨
        ∃ x, m.started? = some (.store x) ∧ m.index ≤ a ∧ a ≤ m.index + x)) ∧
    (m'.screen ≠ m.screen →
      m.started? = some .clear ∨ ∃ x y height, m.started? = some (.draw x y height)) ∧
    (m'.stack ≠ m.stack →
      m.started? = some .ret ∨ ∃ target, m.started? = some (.call target)) ∧
    (m'.delay ≠ m.delay → ∃ x, m.started? = some (.setDelay x)) ∧
    (m'.sound ≠ m.sound ∨ m'.pending ≠ m.pending → ∃ x, m.started? = some (.setSound x)) ∧
    (m'.index ≠ m.index →
      (∃ target, m.started? = some (.setIndex target)) ∨
        (∃ x, m.started? = some (.addIndex x)) ∨ ∃ x, m.started? = some (.glyph x)) ∧
    (m'.random ≠ m.random →
      m'.random = m.random.advance ∧ ∃ x mask, m.started? = some (.random x mask)) ∧
    (∀ r, m'.v r ≠ m.v r → ∃ i, m.started? = some i ∧ r ∈ i.written) ∧
    m'.keypad = m.keypad := by
  intro m m'
  refine ⟨fun a h => ⟨?_, Machine.started?_of_read_cycle_ne h⟩, Machine.started?_of_screen_cycle_ne,
    Machine.started?_of_stack_cycle_ne, Machine.started?_of_delay_cycle_ne,
    Machine.started?_of_sound_cycle_ne, Machine.started?_of_index_cycle_ne,
    Machine.started?_of_random_cycle_ne, fun r h => Machine.started?_of_v_cycle_ne h,
    m.keypad_cycle e.settings.strict⟩
  -- Past the end of memory every byte reads as zero, before the cycle and after it.
  refine Nat.lt_of_not_le fun hle => h ?_
  rw [m'.memory.read_of_size_le hle, m.memory.read_of_size_le hle]

end ChipEight
