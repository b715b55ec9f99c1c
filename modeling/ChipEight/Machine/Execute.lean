import ChipEight.Instruction.Decode
import ChipEight.Machine.Basic

/-! # Executing instructions and running cycles

`Machine.execute m i` is the machine after instruction `i`. The counter has been moved past the
instruction before, so an instruction that goes elsewhere only overwrites it. Only a skip can fail,
at the end of memory, and then the machine stays as it was.

The flag register may also be an operand. For the register-to-register operations the flag is stored
after the result and wins; a shift stores its flag first and then shifts what its register holds by
then.

A cycle fetches the word at the program counter, finds out which instruction it stands for, moves
the counter past it, and executes the instruction. Each stage can fail, and then nothing of the
later stages happens: a strict machine objects to a word that stands for nothing before the counter
is moved, and the counter is moved before anything is executed. -/

namespace ChipEight

/-- The result of an operation, and the flag for the operations that have one. -/
def Operation.apply : Operation → UInt8 → UInt8 → UInt8 × Option Bool
  | .copy, _, b => (b, none)
  | .or, a, b => (a ||| b, none)
  | .and, a, b => (a &&& b, none)
  | .xor, a, b => (a ^^^ b, none)
  | .add, a, b => (a + b, some (a + b < a))
  | .subtract, a, b => (a - b, some (a - b ≤ a))
  | .subtractFrom, a, b => (b - a, some (b - a ≤ b))

namespace Direction

/-- Whether a shift moves a set bit out of a byte. -/
def lost : Direction → UInt8 → Bool
  | .left, a => a &&& 0x80 != 0
  | .right, a => a &&& 0x01 != 0

/-- A byte moved by one bit. -/
def apply : Direction → UInt8 → UInt8
  | .left, a => a <<< 1
  | .right, a => a >>> 1

end Direction

/-- Whether the condition of a skip holds. -/
def Condition.holds (m : Machine) : Condition → Bool
  | .equalsByte x nn => m.v x == nn
  | .differsByte x nn => m.v x != nn
  | .equals x y => m.v x == m.v y
  | .differs x y => m.v x != m.v y
  | .keyDown x => m.keypad.isPressed (m.v x)
  | .keyUp x => !m.keypad.isPressed (m.v x)

namespace Machine

/-- Combine two registers into the first one, and then store the flag. -/
def combine (m : Machine) (operation : Operation) (x y : Register) : Machine :=
  match operation.apply (m.v x) (m.v y) with
  | (result, none) => m.setV x result
  | (result, some flag) => (m.setV x result).setFlag flag

/-- Store the flag, and then shift what the register holds. -/
def shift (m : Machine) (direction : Direction) (x : Register) : Machine :=
  let flagged := m.setFlag (direction.lost (m.v x))
  flagged.setV x (direction.apply (flagged.v x))

/-- The rows of the sprite that the index points at. -/
def sprite (m : Machine) (height : Nat) : List UInt8 :=
  (List.range height).map fun r => m.memory.read (m.index + r)

/-- Draw the sprite at the index with its top left corner where two registers say. The flag tells
whether a lit pixel was switched off. -/
def draw (m : Machine) (x y : Register) (height : Nat) : Machine :=
  let (left, top, rows) := ((m.v x).toNat, (m.v y).toNat, m.sprite height)
  { m with screen := m.screen.flipSprite left top rows }.setFlag
    (m.screen.collidesSprite left top rows)

/-- Wait for a key: take the lowest one that is down, or else run this instruction again. -/
def waitKey (m : Machine) (x : Register) : Machine :=
  match m.keypad.lowest? with
  | some key => m.setV x key
  | none => m.rewind

/-- Store the decimal digits of a byte at the index. -/
def storeDigits (m : Machine) (value : UInt8) : Machine :=
  { m with
    memory :=
      ((m.memory.write m.index (value / 100)).write (m.index + 1) (value / 10 % 10)).write
        (m.index + 2) (value % 10) }

/-- Store registers at the index, one after the other. -/
def storeRegisters (m : Machine) : List Register → Machine
  | [] => m
  | r :: rest => { m with memory := m.memory.write (m.index + r) (m.v r) }.storeRegisters rest

/-- Load the registers up to `VX` from the index on, as far as memory goes. -/
def loadRegisters (m : Machine) (x : Register) : Machine :=
  { m with
    registers := Vector.ofFn fun r =>
      if r ≤ x ∧ m.index + r < Memory.size then m.memory.read (m.index + r) else m.v r }

/-- The registers from `V0` to `VX`. -/
def registersUpTo (x : Register) : List Register := (List.finRange 16).filter (· ≤ x)

/-- The machine after an instruction. -/
def execute (m : Machine) : Instruction → Except Fault Machine
  | .clear => .ok { m with screen := Screen.blank }
  | .ret => .ok (m.ret?.getD m)
  | .jump target => .ok (m.jump target)
  | .call target => .ok (m.call target)
  | .skip condition => m.skipIf (condition.holds m)
  | .setByte x nn => .ok (m.setV x nn)
  | .addByte x nn => .ok (m.setV x (m.v x + nn))
  | .combine operation x y => .ok (m.combine operation x y)
  | .shift direction x => .ok (m.shift direction x)
  | .setIndex target => .ok (m.setIndex target)
  | .jumpOffset base => .ok (m.jump ((m.v offsetRegister).toNat + base))
  | .random x mask => .ok (m.drawByte.setV x (m.random.next &&& mask))
  | .draw x y height => .ok (m.draw x y height)
  | .getDelay x => .ok (m.setV x m.delay)
  | .waitKey x => .ok (m.waitKey x)
  | .setDelay x => .ok (m.setDelay (m.v x))
  | .setSound x => .ok (m.setSound (m.v x))
  | .addIndex x => .ok (m.setIndex (m.index + (m.v x).toNat))
  | .glyph x => .ok (m.setIndex ((m.v x).toNat * glyphSize))
  | .digits x => .ok (m.storeDigits (m.v x))
  | .store x => .ok (m.storeRegisters (registersUpTo x))
  | .load x => .ok (m.loadRegisters x)

/-- What an instruction notes in the log besides that it was started. -/
def executeEntries (m : Machine) : Instruction → List LogEntry
  | .setSound x => soundEntries (m.v x)
  | _ => []

/-- The outcome of an instruction. -/
def perform (m : Machine) (i : Instruction) : Outcome Fault Machine :=
  (Outcome.ofExcept m (m.execute i)).noting (m.executeEntries i)

end Machine

/-! ### Cycles -/

namespace Instruction

/-- The instruction that a word stands for. A strict machine objects if there is none. -/
def resolve (strict : Bool) (w : Word) : Except Fault (Option Instruction) :=
  match ofWord? w with
  | some i => .ok (some i)
  | none => if strict then .error (.unknownInstruction w) else .ok none

/-- What resolving a word notes in the log: that it stands for nothing, unless that is a fault. -/
def resolveEntries (strict : Bool) (w : Word) : List LogEntry :=
  if strict || (ofWord? w).isSome then [] else [.ignored w]

end Instruction

namespace Machine

/-- The outcome of one cycle. -/
def cycle (strict : Bool) (m : Machine) : Outcome Fault Machine :=
  match Instruction.resolve strict m.fetch with
  | .error fault => .fail m fault
  | .ok none => (Outcome.ofExcept m m.advance).noting [.ignored m.fetch]
  | .ok (some i) =>
    (Outcome.ofExcept m m.advance).andThen fun next =>
      (next.perform i).noting [.started m.counter m.fetch i]

end Machine

end ChipEight
