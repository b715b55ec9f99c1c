import ChipEight.Machine.Execute
import ChipEight.Proofs.Checked.Registers
import ChipEight.Proofs.Emulator.Runs
import ChipEight.Proofs.Machine.Bounds

/-! # Cycles with checked arithmetic

The machine computes addresses as natural numbers. A processor has no such numbers: it adds two
addresses in a word of sixteen bits, and indexes an array by a number of sixty-four.
`Machine.cycle?` is a cycle in which every sum and every product is formed in a type of limited size
before it is cut down, and every register, every pixel and every key bit is looked up by a number
that is checked. It has no result if a number does not fit its type or its array.

* `Machine.execute?` and `Machine.cycle?`: instructions and cycles with checked arithmetic;
* `Machine.execute?_eq` and `Machine.cycle?_eq`: within bounds they have a result, which is that of
  the unchecked instruction or cycle;
* `Emulator.Reachable.withinBounds`: whatever commands an emulator is given, the addresses that its
  machine holds lie in memory, and so its next cycle forms no number that its type cannot hold and
  looks nothing up that is not there. -/

namespace ChipEight

/-- Whether a key is down. The bit of a key is found by a shift of less than sixteen. -/
def Keypad.isPressed? (p : Keypad) (key : UInt8) : Option Bool :=
  if key.toNat < size then do
    let shift ← within 16 key.toNat
    some (p.mask.getLsbD shift)
  else some false

/-- The shift that finds the bit of a key always fits. -/
@[simp] theorem Keypad.isPressed?_eq (p : Keypad) (key : UInt8) :
    p.isPressed? key = some (p.isPressed key) := by
  rw [isPressed?]
  split
  · rename_i h
    rw [within_of_lt h]
    rfl
  · rename_i h
    rw [isPressed_of_size_le p (Nat.not_lt.1 h)]

namespace Machine

/-! ### Parts of instructions -/

/-- The word at the program counter. -/
def fetch? (m : Machine) : Option Word := do
  let second ← within indexLimit (m.counter + 1)
  some (Word.ofBytes (m.memory.read m.counter) (m.memory.read second))

/-- Step over one instruction, unless that leaves memory. -/
def advance? (m : Machine) : Option (Except Fault Machine) := do
  let next ← within wordLimit (m.counter + wordSize)
  some (if next < Memory.size then .ok { m with counter := next }
    else .error (.outOfMemory m.counter))

/-- Whether the condition of a skip holds. -/
def holds? (m : Machine) : Condition → Option Bool
  | .equalsByte x nn => do
    let a ← m.register? x
    some (a == nn)
  | .differsByte x nn => do
    let a ← m.register? x
    some (a != nn)
  | .equals x y => do
    let a ← m.register? x
    let b ← m.register? y
    some (a == b)
  | .differs x y => do
    let a ← m.register? x
    let b ← m.register? y
    some (a != b)
  | .keyDown x => do
    let key ← m.register? x
    m.keypad.isPressed? key
  | .keyUp x => do
    let key ← m.register? x
    let down ← m.keypad.isPressed? key
    some (!down)

/-- Combine two registers into the first one, and then store the flag. -/
def combine? (m : Machine) (operation : Operation) (x y : Nat) : Option Machine := do
  let a ← m.register? x
  let b ← m.register? y
  match operation.apply a b with
  | (result, none) => m.setRegister? x result
  | (result, some flag) => do
    let next ← m.setRegister? x result
    next.setFlag? flag

/-- Store the flag, and then shift what the register holds. -/
def shift? (m : Machine) (direction : Direction) (x : Nat) : Option Machine := do
  let a ← m.register? x
  let flagged ← m.setFlag? (direction.lost a)
  let b ← flagged.register? x
  flagged.setRegister? x (direction.apply b)

/-- Clear the flag, draw the sprite at the index row by row, and set the flag if it collided. -/
def draw? (m : Machine) (x y height : Nat) : Option Machine := do
  let left ← m.register? x
  let top ← m.register? y
  let cleared ← m.setFlag? false
  let (screen, collided) ← cleared.screen.drawRows? cleared.memory cleared.index left.toNat
    top.toNat (List.range height)
  let drawn := { cleared with screen }
  if collided then drawn.setFlag? true else some drawn

/-- Store the decimal digits of a byte at the index. -/
def storeDigits? (m : Machine) (value : UInt8) : Option Machine := do
  let second ← within indexLimit (m.index + 1)
  let third ← within indexLimit (m.index + 2)
  some { m with
    memory := ((m.memory.write m.index (value / 100)).write second (value / 10 % 10)).write third
      (value % 10) }

section

variable {m : Machine}

/-- A word is fetched from two addresses that an index can hold. -/
theorem fetch?_eq (h : m.counter < 4096) : m.fetch? = some m.fetch := by
  rw [fetch?, within_indexLimit (by omega)]
  rfl

/-- Stepping on does not overflow a counter that lies in memory. -/
theorem advance?_eq (h : m.counter < 4096) : m.advance? = some m.advance := by
  have hword : m.counter + wordSize < wordLimit :=
    Nat.lt_trans (Nat.add_lt_add_right h 2) (by decide)
  rw [advance?, within_of_lt hword]
  rfl

/-- At the end of its type the counter cannot even be compared with the end of memory. -/
example : { Machine.start 0 0 with counter := 65534 }.advance? = none := rfl

/-- The condition of a skip looks up registers and keys that exist. -/
@[simp] theorem holds?_eq (m : Machine) (c : Condition) : m.holds? c = some (c.holds m) := by
  cases c <;> simp [holds?, Condition.holds]

/-- Combining registers looks up registers that exist. -/
@[simp] theorem combine?_eq (m : Machine) (operation : Operation) (x y : Register) :
    m.combine? operation x y = some (m.combine operation x y) := by
  cases operation <;> simp [combine?, combine, Operation.apply]

/-- Shifting a register looks up registers that exist. -/
@[simp] theorem shift?_eq (m : Machine) (direction : Direction) (x : Register) :
    m.shift? direction x = some (m.shift direction x) := by
  simp [shift?, shift]

/-- The flag register is cleared before a sprite is drawn, and the screen does not notice. -/
theorem draw?_eq (h : m.index < 4096) (x y : Register) (height : Fin 16) :
    m.draw? x y height = some (m.draw x y height) := by
  have hleft : (m.v x).toNat + 8 ≤ indexLimit :=
    Nat.le_trans (Nat.add_le_add_right (Nat.le_of_lt (m.v x).toNat_lt) 8) (by decide)
  have htop : (m.v y).toNat + (0 + height) ≤ indexLimit := by
    have hy := (m.v y).toNat_lt
    exact Nat.le_trans (by omega : _ ≤ 4096) (by decide)
  have hindex : m.index + (0 + height) ≤ indexLimit :=
    Nat.le_trans (by omega : _ ≤ 65536) (by decide)
  have hrows := m.screen.drawRows?_eq m.memory hleft 0 height hindex htop
  rw [← List.range_eq_range', Nat.add_zero] at hrows
  have hcleared : (m.setFlag false).screen.drawRows? (m.setFlag false).memory
      (m.setFlag false).index (m.v x).toNat (m.v y).toNat (List.range height) =
        some (m.screen.flipSprite (m.v x).toNat (m.v y).toNat (m.sprite height),
          m.screen.collidesSprite (m.v x).toNat (m.v y).toNat (m.sprite height)) := hrows
  simp only [draw?, register?_eq, setFlag?_eq, Option.bind_eq_bind, Option.bind_some, hcleared]
  cases hcollides : m.screen.collidesSprite (m.v x).toNat (m.v y).toNat (m.sprite height) with
  | true => simp [draw, hcollides, setFlag, setV]
  | false => simp [draw, hcollides, setFlag, setV]

/-- The three digits go to addresses that an index can hold. -/
theorem storeDigits?_eq (h : m.index < 4096) (value : UInt8) :
    m.storeDigits? value = some (m.storeDigits value) := by
  rw [storeDigits?, within_indexLimit (by omega), within_indexLimit (by omega)]
  rfl

end

/-! ### Instructions and cycles -/

/-- The machine after an instruction. -/
def execute? (m : Machine) : Instruction → Option (Except Fault Machine)
  | .clear => some (.ok { m with screen := Screen.blank })
  | .ret => some (.ok (m.ret?.getD m))
  | .jump target => some (.ok (m.jump target))
  | .call target => some (.ok (m.call target))
  | .skip condition => do
    let holds ← m.holds? condition
    if holds then m.advance? else some (.ok m)
  | .setByte x nn => Except.ok <$> m.setRegister? x nn
  | .addByte x nn => do
    let a ← m.register? x
    Except.ok <$> m.setRegister? x (a + nn)
  | .combine operation x y => Except.ok <$> m.combine? operation x y
  | .shift direction x => Except.ok <$> m.shift? direction x
  | .setIndex target => some (.ok (m.setIndex target))
  | .jumpOffset base => do
    let a ← m.register? 0
    let target ← within wordLimit (a.toNat + base)
    some (.ok (m.jump target))
  | .random x mask => Except.ok <$> m.drawByte.setRegister? x (m.random.next &&& mask)
  | .draw x y height => Except.ok <$> m.draw? x y height
  | .getDelay x => Except.ok <$> m.setRegister? x m.delay
  | .waitKey x =>
    match m.keypad.lowest? with
    | some key => Except.ok <$> m.setRegister? x key
    | none => some (.ok m.rewind)
  | .setDelay x => do
    let a ← m.register? x
    some (.ok (m.setDelay a))
  | .setSound x => do
    let a ← m.register? x
    some (.ok (m.setSound a))
  | .addIndex x => do
    let a ← m.register? x
    let target ← within wordLimit (m.index + a.toNat)
    some (.ok (m.setIndex target))
  | .glyph x => do
    let a ← m.register? x
    let target ← within wordLimit (a.toNat * glyphSize)
    some (.ok (m.setIndex target))
  | .digits x => do
    let a ← m.register? x
    Except.ok <$> m.storeDigits? a
  | .store x => Except.ok <$> m.storeRegisters? (List.range (x + 1))
  | .load x => Except.ok <$> m.loadRegisters? (List.range (x + 1))

/-- The outcome of one cycle. -/
def cycle? (strict : Bool) (m : Machine) : Option (Outcome Fault Machine) := do
  let w ← m.fetch?
  match Instruction.resolve strict w with
  | .error fault => some (.fail m fault)
  | .ok none => do
    let advanced ← m.advance?
    some ((Outcome.ofExcept m advanced).noting [.ignored w])
  | .ok (some i) => do
    match ← m.advance? with
    | .error fault => some (.fail m fault)
    | .ok next => do
      let result ← next.execute? i
      some (((Outcome.ofExcept next result).noting (next.executeEntries i)).noting
        [.started m.counter w i])

/-- **An instruction with checked arithmetic** has a result if the addresses of the machine lie in
memory, and it is that of the unchecked instruction. -/
theorem execute?_eq {m : Machine} (h : m.WithinBounds) (i : Instruction) :
    m.execute? i = some (m.execute i) := by
  have hcounter : m.counter < 4096 := h.counter_lt
  have hindex : m.index < 4096 := h.index_lt
  have hloop : m.index + 16 ≤ indexLimit := Nat.le_trans (by omega : _ ≤ 65536) (by decide)
  -- Only the cases named here look beyond the registers; the simp set closes the others.
  cases i with
  | skip c =>
    simp only [execute?, execute, holds?_eq, Option.bind_eq_bind, Option.bind_some, skipIf]
    split
    · exact advance?_eq hcounter
    · rfl
  | jumpOffset base =>
    have hsum : (m.v offsetRegister).toNat + base < wordLimit := by
      have hv := (m.v offsetRegister).toNat_lt
      have hbase := base.isLt
      exact Nat.lt_trans (by omega : _ < 8192) (by decide)
    rw [execute?, show m.register? 0 = some (m.v offsetRegister) from register?_eq m offsetRegister]
    simp only [Option.bind_eq_bind, Option.bind_some, within_of_lt hsum]
    rfl
  | draw x y height =>
    rw [execute?, draw?_eq hindex]
    rfl
  | waitKey x =>
    rw [execute?, execute, waitKey]
    cases m.keypad.lowest? with
    | none => rfl
    | some key => simp only [setRegister?_eq, Option.map_eq_map, Option.map_some]
  | addIndex x =>
    have hsum : m.index + (m.v x).toNat < wordLimit := by
      have hv := (m.v x).toNat_lt
      exact Nat.lt_trans (by omega : _ < 8192) (by decide)
    simp only [execute?, register?_eq, Option.bind_eq_bind, Option.bind_some, within_of_lt hsum]
    rfl
  | glyph x =>
    have hproduct : (m.v x).toNat * glyphSize < wordLimit :=
      Nat.lt_trans (Nat.mul_lt_mul_of_pos_right (m.v x).toNat_lt (by decide)) (by decide)
    simp only [execute?, register?_eq, Option.bind_eq_bind, Option.bind_some, within_of_lt hproduct]
    rfl
  | digits x =>
    simp only [execute?, register?_eq, Option.bind_eq_bind, Option.bind_some,
      storeDigits?_eq hindex]
    rfl
  | store x =>
    rw [execute?, ← map_val_registersUpTo,
      storeRegisters?_eq m (pairwise_registersUpTo x) hloop]
    rfl
  | load x =>
    rw [execute?, loadRegisters?_eq m x hloop]
    rfl
  | _ => simp [execute?, execute]

/-- **A cycle with checked arithmetic** has a result if the addresses of the machine lie in memory,
and it is that of the unchecked cycle. -/
theorem cycle?_eq {m : Machine} (h : m.WithinBounds) (strict : Bool) :
    m.cycle? strict = some (m.cycle strict) := by
  have hcounter : m.counter < 4096 := h.counter_lt
  rw [cycle?, fetch?_eq hcounter, cycle, advance?_eq hcounter]
  simp only [Option.bind_eq_bind, Option.bind_some]
  cases Instruction.resolve strict m.fetch with
  | error fault => rfl
  | ok instruction =>
    cases instruction with
    | none => rfl
    | some i =>
      by_cases hlt : m.counter + wordSize < Memory.size
      · rw [advance_of_lt hlt]
        simp only [execute?_eq (h.advanced hlt) i, Option.bind_some]
        rfl
      · rw [advance_of_le (Nat.not_lt.1 hlt)]
        rfl

end Machine

/-! ### Runs -/

namespace Emulator

/-- Every command keeps the machine within bounds, also if it fails. -/
theorem withinBounds_next {e : Emulator} (h : e.machine.WithinBounds) (c : Command) :
    (e.next c).machine.WithinBounds := by
  rcases e.next_cases c with ⟨-, memory, hc⟩ | ⟨keypad, hc⟩ | ⟨-, hc⟩ | ⟨-, hc⟩ | ⟨-, hc⟩
  · rw [hc]
    exact h.of_eq rfl rfl rfl
  · rw [hc]
    exact h.of_eq rfl rfl rfl
  · rw [hc]
    exact h.cycle e.settings.strict
  · rw [hc]
    exact h.of_eq rfl rfl rfl
  · rw [hc]
    exact h.of_eq rfl rfl rfl

/-- The machine of every reachable emulator is within bounds. -/
theorem Reachable.withinBounds {e : Emulator} (h : e.Reachable) : e.machine.WithinBounds :=
  h.induction (P := fun e => e.machine.WithinBounds)
    (fun settings entropy =>
      Machine.WithinBounds.start settings.programAddress (settings.key entropy))
    fun _ c he => withinBounds_next he c

/-- **No run leaves memory, and no cycle of it overflows.** Under any settings and after any
commands the counter, the index and all return addresses are at most `0xFFF` and memory has its 4096
bytes; and the next cycle, whatever memory then holds, has a result also if every sum and product is
formed in a type of limited size and every index is checked. -/
theorem after_boot_within_bounds_and_cycle_checked (settings : Settings) (entropy : Random.Key)
    (commands : List Command) (memory : Memory) (strict : Bool) :
    let m := ((boot settings entropy).after commands).machine
    (m.counter ≤ 0xFFF ∧ m.index ≤ 0xFFF ∧ (∀ address ∈ m.stack, address ≤ 0xFFF) ∧
        m.memory.bytes.toList.length = 4096) ∧
      { m with memory }.cycle? strict = some ({ m with memory }.cycle strict) := by
  intro m
  have h : m.WithinBounds := Reachable.withinBounds ⟨settings, entropy, commands, rfl⟩
  -- The invariant says nothing of what memory holds, so any bytes may stand there.
  have hmemory : { m with memory }.WithinBounds := h.of_eq rfl rfl rfl
  refine ⟨⟨?_, ?_, ?_, Vector.length_toList⟩, Machine.cycle?_eq hmemory strict⟩
  · exact Nat.le_of_lt_succ h.counter_lt
  · exact Nat.le_of_lt_succ h.index_lt
  · exact fun address hmem => Nat.le_of_lt_succ (h.stack_lt address hmem)

end Emulator

end ChipEight
