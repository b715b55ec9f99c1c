import ChipEight.Proofs.Machine.Stages

/-! # What instructions and time do to the parts of the machine

For each part of the machine one equation says what an instruction leaves in it, so that no later
proof has to go through the instructions again.

Most instructions work on registers, memory and the flow of control alone (`Instruction.IsLocal`);
`Machine.executed_of_isLocal` says so once for all of them, and for every other part of the machine
only the few remaining instructions have to be looked at.

Time passes for a machine in ticks, each of which takes one from both timers until they are at zero;
and now and then its tone request is taken. Neither reaches anything else, so all ticks and takes of
a while can be told at once: `Machine.elapse` is a machine some ticks later, and by
`Machine.elapse_elapse` one while after another is a longer one. -/

namespace ChipEight

/-- Whether an instruction works on memory, registers and the flow of control alone. -/
def Instruction.IsLocal : Instruction → Prop
  | .clear | .setIndex _ | .random .. | .draw .. | .setDelay _ | .setSound _ | .addIndex _
  | .glyph _ => False
  | _ => True

namespace Machine

/-! ### Single instructions -/

/-- To store registers changes memory alone. -/
theorem storeRegisters_eq (m : Machine) (registers : List Register) :
    m.storeRegisters registers = { m with memory := (m.storeRegisters registers).memory } := by
  induction registers generalizing m with
  | nil => rfl
  | cons r rest ih => rw [storeRegisters, ih]

/-- To load registers changes the registers alone. -/
theorem loadRegisters_eq (m : Machine) (x : Register) :
    m.loadRegisters x = { m with registers := (m.loadRegisters x).registers } := by
  simp only [loadRegisters]

/-- A return takes the latest return address, if there is one. -/
theorem executed_ret (m : Machine) :
    m.executed .ret = { m with counter := m.stack.headD m.counter, stack := m.stack.tail } := by
  cases m with | mk memory registers index counter stack _ _ _ _ _ _ =>
  cases stack <;> rfl

/-- A skip moves the counter on if its condition holds and memory goes on. -/
theorem executed_skip (m : Machine) (c : Condition) :
    m.executed (.skip c) =
      if c.holds m = true ∧ m.counter + wordSize < Memory.size then m.advanced else m := by
  rw [executed, perform, execute, skipIf]
  by_cases hc : c.holds m = true
  · by_cases hlt : m.counter + wordSize < Memory.size
    · rw [if_pos hc, advance_of_lt hlt, if_pos ⟨hc, hlt⟩]
      rfl
    · rw [if_pos hc, advance_of_le (Nat.not_lt.1 hlt), if_neg fun h => hlt h.2]
      rfl
  · rw [if_neg hc, if_neg fun h => hc h.1]
    rfl

/-- A machine that waits for a key takes one that is down, or else steps back. -/
theorem executed_waitKey (m : Machine) (x : Register) :
    m.executed (.waitKey x) =
      match m.keypad.lowest? with
      | some key => m.setV x key
      | none => m.rewind :=
  rfl

/-- To store registers up to `VX` is to store them one after the other. -/
theorem executed_store (m : Machine) (x : Register) :
    m.executed (.store x) = { m with memory := (m.storeRegisters (registersUpTo x)).memory } :=
  storeRegisters_eq m (registersUpTo x)

/-- To load registers up to `VX` is to load what memory has for them. -/
theorem executed_load (m : Machine) (x : Register) :
    m.executed (.load x) = { m with registers := (m.loadRegisters x).registers } :=
  loadRegisters_eq m x

/-- **Only a skip fails**, and only where it would leave memory. -/
theorem error_perform (m : Machine) (i : Instruction) :
    (m.perform i).error =
      match i with
      | .skip c =>
        if c.holds m = true ∧ Memory.size ≤ m.counter + wordSize then
          some (.outOfMemory m.counter)
        else none
      | _ => none := by
  cases i with
  | skip c =>
    rw [perform, execute, skipIf]
    by_cases hc : c.holds m = true
    · by_cases hlt : m.counter + wordSize < Memory.size
      · rw [if_pos hc, advance_of_lt hlt]
        exact (if_neg fun h => Nat.not_lt.2 h.2 hlt).symm
      · rw [if_pos hc, advance_of_le (Nat.not_lt.1 hlt)]
        exact (if_pos ⟨hc, Nat.not_lt.1 hlt⟩).symm
    · rw [if_neg hc]
      exact (if_neg fun h => hc h.1).symm
  | _ => rfl

/-- **A local instruction leaves all other parts of the machine as they were.** -/
theorem executed_of_isLocal (m : Machine) {i : Instruction} (hi : i.IsLocal) :
    m.executed i =
      { m with
        memory := (m.executed i).memory
        registers := (m.executed i).registers
        counter := (m.executed i).counter
        stack := (m.executed i).stack } := by
  cases i with
  | clear | setIndex | random | draw | setDelay | setSound | addIndex | glyph => exact hi.elim
  -- The cases named next branch on the machine; in the others both sides are the same record.
  | ret => rw [executed_ret]
  | skip c =>
    rw [executed_skip]
    split <;> rfl
  | combine operation x y => cases operation <;> rfl
  | waitKey x =>
    rw [executed_waitKey]
    split <;> rfl
  | store x =>
    rw [executed_store]
  | _ => rfl

/-! ### The parts of the machine -/

/-- Where an instruction leaves the counter. -/
theorem counter_executed (m : Machine) (i : Instruction) :
    (m.executed i).counter =
      match i with
      | .ret => m.stack.headD m.counter
      | .jump target | .call target => target
      | .jumpOffset base => ((m.v offsetRegister).toNat + base) % 4096
      | .skip c =>
        if c.holds m = true ∧ m.counter + wordSize < Memory.size then m.counter + wordSize
        else m.counter
      | .waitKey _ => if m.keypad.lowest? = none then m.counter - wordSize else m.counter
      | _ => m.counter := by
  cases i with
  | ret => rw [executed_ret]
  | jump target => exact Nat.mod_eq_of_lt target.isLt
  | call target => exact Nat.mod_eq_of_lt target.isLt
  | skip c =>
    rw [executed_skip]
    exact apply_ite counter _ _ _
  | combine operation x y => cases operation <;> rfl
  | waitKey x =>
    rw [executed_waitKey]
    cases m.keypad.lowest? <;> rfl
  | store x => rw [executed_store]
  | load x => rw [executed_load]
  | _ => rfl

/-- Which return addresses an instruction leaves. -/
theorem stack_executed (m : Machine) (i : Instruction) :
    (m.executed i).stack =
      match i with
      | .ret => m.stack.tail
      | .call _ => m.counter :: m.stack
      | _ => m.stack := by
  cases i with
  | ret => rw [executed_ret]
  | skip c =>
    rw [executed_skip]
    split <;> rfl
  | combine operation x y => cases operation <;> rfl
  | waitKey x =>
    rw [executed_waitKey]
    cases m.keypad.lowest? <;> rfl
  | store x => rw [executed_store]
  | load x => rw [executed_load]
  | _ => rfl

/-- Where an instruction leaves the index. -/
theorem index_executed (m : Machine) (i : Instruction) :
    (m.executed i).index =
      match i with
      | .setIndex target => target
      | .addIndex x => (m.index + (m.v x).toNat) % 4096
      | .glyph x => (m.v x).toNat * glyphSize % 4096
      | _ => m.index := by
  cases i with
  | setIndex target => exact Nat.mod_eq_of_lt target.isLt
  | clear | random | draw | setDelay | setSound | addIndex | glyph => rfl
  | _ => rw [executed_of_isLocal m (by trivial)]

/-- What an instruction leaves on the screen. -/
theorem screen_executed (m : Machine) (i : Instruction) :
    (m.executed i).screen =
      match i with
      | .clear => Screen.blank
      | .draw x y height => (m.draw x y height).screen
      | _ => m.screen := by
  cases i with
  | clear | setIndex | random | draw | setDelay | setSound | addIndex | glyph => rfl
  | _ => rw [executed_of_isLocal m (by trivial)]

/-- Which random bytes an instruction leaves to be drawn. -/
theorem random_executed (m : Machine) (i : Instruction) :
    (m.executed i).random =
      match i with
      | .random _ _ => m.random.advance
      | _ => m.random := by
  cases i with
  | clear | setIndex | random | draw | setDelay | setSound | addIndex | glyph => rfl
  | _ => rw [executed_of_isLocal m (by trivial)]

/-- Where an instruction leaves the delay timer. -/
theorem delay_executed (m : Machine) (i : Instruction) :
    (m.executed i).delay =
      match i with
      | .setDelay x => m.v x
      | _ => m.delay := by
  cases i with
  | clear | setIndex | random | draw | setDelay | setSound | addIndex | glyph => rfl
  | _ => rw [executed_of_isLocal m (by trivial)]

/-- No instruction moves a key. -/
theorem keypad_executed (m : Machine) (i : Instruction) : (m.executed i).keypad = m.keypad := by
  cases i with
  | clear | setIndex | random | draw | setDelay | setSound | addIndex | glyph => rfl
  | _ => rw [executed_of_isLocal m (by trivial)]

/-- Where an instruction leaves the sound timer. -/
theorem sound_executed (m : Machine) (i : Instruction) :
    (m.executed i).sound =
      match i with
      | .setSound x => m.v x
      | _ => m.sound := by
  cases i with
  | clear | setIndex | random | draw | setDelay | setSound | addIndex | glyph => rfl
  | _ => rw [executed_of_isLocal m (by trivial)]

/-- Which tone request an instruction leaves. -/
theorem pending_executed (m : Machine) (i : Instruction) :
    (m.executed i).pending =
      match i with
      | .setSound x => if 0 < m.v x then some ⟨m.v x⟩ else m.pending
      | _ => m.pending := by
  cases i with
  | clear | setIndex | random | draw | setDelay | setSound | addIndex | glyph => rfl
  | _ => rw [executed_of_isLocal m (by trivial)]

end Machine

/-! ### Time -/

/-- A timer some ticks later: each tick takes one from it, as far as there is one to take. -/
def countDown (timer : UInt8) (ticks : Nat) : UInt8 := UInt8.ofNat (timer.toNat - ticks)

/-- A timer counts down by subtraction, and stays at zero. -/
@[simp] theorem toNat_countDown (timer : UInt8) (ticks : Nat) :
    (countDown timer ticks).toNat = timer.toNat - ticks :=
  UInt8.toNat_ofNat_of_lt' (Nat.lt_of_le_of_lt (Nat.sub_le _ _) timer.toNat_lt)

/-- No ticks leave a timer where it is. -/
@[simp] theorem countDown_zero (timer : UInt8) : countDown timer 0 = timer := by
  apply UInt8.toNat_inj.1
  rw [toNat_countDown, Nat.sub_zero]

/-- One tick takes one from a timer that is not at zero. -/
theorem countDown_one (timer : UInt8) :
    countDown timer 1 = if timer = 0 then 0 else timer - 1 := by
  apply UInt8.toNat_inj.1
  rw [toNat_countDown]
  by_cases hzero : timer = 0
  · rw [if_pos hzero, hzero]
    rfl
  · have hpos : 0 < timer := UInt8.pos_iff_ne_zero.2 hzero
    have hone : 1 ≤ timer := UInt8.le_iff_toNat_le.2 (UInt8.lt_iff_toNat_lt.1 hpos)
    rw [if_neg hzero, UInt8.toNat_sub_of_le _ _ hone]
    rfl

/-- Ticks add up. -/
theorem countDown_countDown (timer : UInt8) (ticks ticks' : Nat) :
    countDown (countDown timer ticks) ticks' = countDown timer (ticks + ticks') := by
  apply UInt8.toNat_inj.1
  rw [toNat_countDown, toNat_countDown, toNat_countDown, Nat.sub_sub]

namespace Machine

/-- A machine some ticks later, after its tone request has been taken or not. -/
def elapse (m : Machine) (ticks : Nat) (taken : Bool) : Machine :=
  { m with
    delay := countDown m.delay ticks
    sound := countDown m.sound ticks
    pending := if taken then none else m.pending }

variable (m : Machine)

/-- Nothing happens while no time passes and no tone is taken. -/
@[simp] theorem elapse_zero_false : m.elapse 0 false = m := by
  simp [elapse]

/-- A tick of the timers lets one tick pass. -/
theorem tick_eq_elapse : m.tick = m.elapse 1 false := by
  simp [tick, elapse, countDown_one]

/-- Taking a tone lets no time pass. -/
theorem takeTone_eq_elapse : m.takeTone = m.elapse 0 true := by
  simp [takeTone, elapse]

/-- One while after another is a longer one. -/
theorem elapse_elapse (ticks ticks' : Nat) (taken taken' : Bool) :
    (m.elapse ticks taken).elapse ticks' taken' = m.elapse (ticks + ticks') (taken || taken') := by
  cases taken <;> cases taken' <;> simp [elapse, countDown_countDown]

end Machine

end ChipEight
