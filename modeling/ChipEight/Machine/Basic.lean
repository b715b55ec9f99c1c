import ChipEight.Keypad.Basic
import ChipEight.Memory.Basic
import ChipEight.Random
import ChipEight.Screen.Basic
import ChipEight.Outcome

/-! # The machine

All that a program can see or touch, and the operations out of which instructions are made.

The program counter and the index are addresses. They are kept as natural numbers and cut down to
twelve bits wherever a program sets them; `Machine.advance` alone moves the counter without cutting,
and refuses to move it out of memory. Return addresses are restored as they were pushed.

Setting the sound timer to a positive value asks for a tone. Timers count sixtieths of a second, so
a tone of `n` ticks lasts `n / 60` seconds; `Tone.nanoseconds` is that length to the nearest
nanosecond. -/

namespace ChipEight

/-! ### Tones -/

/-- How often in a second the timers tick. -/
def ticksPerSecond : Nat := 60

/-- A request to sound for a number of timer ticks. -/
structure Tone where
  /-- The length of the tone. -/
  ticks : UInt8
deriving DecidableEq, Repr

namespace Tone

/-- The length in nanoseconds: the rounded quotient of `ticks * 10 ^ 9` by the tick rate. -/
def nanoseconds (tone : Tone) : Nat :=
  (tone.ticks.toNat * 1000000000 + ticksPerSecond / 2) / ticksPerSecond

/-- A tone in a report. -/
def outline (tone : Tone) : Text.Outline :=
  .record "ToneRequest" [("ticks", .number tone.ticks.toNat)]

end Tone

/-! ### The state -/

/-- The state of the machine. -/
structure Machine where
  memory : Memory
  /-- The byte registers `V0` to `VF`. -/
  registers : Vector UInt8 16
  /-- The address that memory instructions work at. -/
  index : Nat
  /-- The address of the instruction that runs next. -/
  counter : Nat
  /-- The return addresses of the calls that have not returned, the latest first. -/
  stack : List Nat
  /-- The ticks left on the delay timer. -/
  delay : UInt8
  /-- The ticks left on the sound timer. -/
  sound : UInt8
  keypad : Keypad
  screen : Screen
  random : RandomSource
  /-- The latest tone that was asked for and has not been taken. -/
  pending : Option Tone
deriving DecidableEq

/-- How many bytes an instruction takes in memory. -/
abbrev wordSize : Nat := 2

namespace Machine

/-- The register that arithmetic and drawing leave their flag in. -/
def flagRegister : Register := ⟨15, by decide⟩

/-- The register that a jump with an offset adds to its address. -/
def offsetRegister : Register := ⟨0, by decide⟩

/-- A machine before its first instruction. -/
def start (programAddress : UInt16) (key : Random.Key) : Machine where
  memory := Memory.withFont
  registers := Vector.replicate 16 0
  index := 0
  counter := programAddress.toNat % 4096
  stack := []
  delay := 0
  sound := 0
  keypad := Keypad.released
  screen := Screen.blank
  random := RandomSource.ofKey key
  pending := none

/-! ### The program counter -/

/-- The word at the program counter. -/
def fetch (m : Machine) : Word := m.memory.word m.counter

/-- Step over one instruction, unless that leaves memory. -/
def advance (m : Machine) : Except Fault Machine :=
  if m.counter + wordSize < Memory.size then .ok { m with counter := m.counter + wordSize }
  else .error (.outOfMemory m.counter)

/-- Step over one instruction if the condition holds. -/
def skipIf (m : Machine) (condition : Bool) : Except Fault Machine :=
  if condition then m.advance else .ok m

/-- Step back, so that the current instruction runs again. -/
def rewind (m : Machine) : Machine := { m with counter := m.counter - wordSize }

/-- Go on at an address. -/
def jump (m : Machine) (target : Nat) : Machine := { m with counter := target % 4096 }

/-- Go on at an address, and remember where to return to. -/
def call (m : Machine) (target : Nat) : Machine :=
  { m with stack := m.counter :: m.stack }.jump target

/-- Return from the latest call, if there is one to return from. -/
def ret? (m : Machine) : Option Machine :=
  match m.stack with
  | [] => none
  | address :: rest => some { m with counter := address, stack := rest }

/-! ### Registers -/

/-- The byte in a register. -/
def v (m : Machine) (x : Register) : UInt8 := m.registers[x]

/-- Put a byte into a register. -/
def setV (m : Machine) (x : Register) (value : UInt8) : Machine :=
  { m with registers := m.registers.set x value }

/-- A byte that was put into a register is found there, and the other registers are as they were. -/
theorem v_setV (m : Machine) (x y : Register) (value : UInt8) :
    (m.setV x value).v y = if x = y then value else m.v y := by
  by_cases h : x = y
  · subst h
    simp [v, setV]
  · have hne : x.val ≠ y.val := fun e => h (Fin.ext e)
    simp [v, setV, h, hne]

/-- A register holds what was stored there. -/
@[simp] theorem v_setV_self (m : Machine) (x : Register) (value : UInt8) :
    (m.setV x value).v x = value := by
  rw [v_setV, if_pos rfl]

/-- Put a truth value into the flag register. -/
def setFlag (m : Machine) (on : Bool) : Machine := m.setV flagRegister (if on then 1 else 0)

/-- Point the index at an address. -/
def setIndex (m : Machine) (target : Nat) : Machine := { m with index := target % 4096 }

/-! ### Timers -/

/-- Set the delay timer. -/
def setDelay (m : Machine) (value : UInt8) : Machine := { m with delay := value }

/-- Set the sound timer. A positive value asks for a tone of that many ticks. -/
def setSound (m : Machine) (value : UInt8) : Machine :=
  { m with
    sound := value
    pending := if 0 < value then some ⟨value⟩ else m.pending }

/-- What setting the sound timer notes in the log. -/
def soundEntries (value : UInt8) : List LogEntry :=
  if 0 < value then [.toneRequested value] else []

/-- One tick: both timers fall by one, and stay at zero. -/
def tick (m : Machine) : Machine :=
  { m with
    delay := if m.delay = 0 then 0 else m.delay - 1
    sound := if m.sound = 0 then 0 else m.sound - 1 }

/-- The machine after its tone request, `m.pending`, has been taken. -/
def takeTone (m : Machine) : Machine := { m with pending := none }

/-! ### Keys and random bytes -/

/-- Put a key down or let it up. -/
def setKey (m : Machine) (key : UInt8) (down : Bool) : Except Fault Machine :=
  (m.keypad.set key down).map fun keypad => { m with keypad }

/-- The machine after a random byte, `m.random.next`, has been drawn. -/
def drawByte (m : Machine) : Machine := { m with random := m.random.advance }

/-! ### Loading -/

/-- Load data into memory, and count the bytes that fitted. -/
def load (m : Machine) (data : Array UInt8) (offset : Int) : Except Fault (Nat × Machine) :=
  (m.memory.load data offset).map fun (count, memory) => (count, { m with memory })

/-- Load all the data of a source into memory. -/
def loadFrom (m : Machine) (source : ByteSource) (offset : Int) : Except Fault (Nat × Machine) :=
  (m.memory.loadFrom source offset).map fun (count, memory) => (count, { m with memory })

end Machine

end ChipEight
