import ChipEight.Instruction.Basic

/-! # Decoding

`Instruction.ofWord? w` is the instruction that a word stands for. The first digit of the word
selects a family. In four families (0, 8, E and F) a secondary code selects the instruction, and a
word whose code is not in use stands for nothing. -/

namespace ChipEight

namespace Operation

/-- The operation that a secondary code of the arithmetic family stands for, shifts apart. -/
def ofCode? : Nat → Option Operation
  | 0x0 => some .copy
  | 0x1 => some .or
  | 0x2 => some .and
  | 0x3 => some .xor
  | 0x4 => some .add
  | 0x5 => some .subtract
  | 0x7 => some .subtractFrom
  | _ => none

end Operation

namespace Instruction

/-- Family 0 is told apart by its last digit alone. -/
def ofSystemCode? : Nat → Option Instruction
  | 0x0 => some .clear
  | 0xe => some .ret
  | _ => none

/-- Family 8 combines two registers, except for the two codes that shift one. -/
def ofArithmeticCode? (x y : Register) : Nat → Option Instruction
  | 0x6 => some (.shift .right x)
  | 0xe => some (.shift .left x)
  | code => (Operation.ofCode? code).map fun operation => .combine operation x y

/-- Family E looks at the keypad. -/
def ofKeyCode? (x : Register) : Nat → Option Instruction
  | 0x9e => some (.skip (.keyDown x))
  | 0xa1 => some (.skip (.keyUp x))
  | _ => none

/-- Family F reaches the timers, the index and memory. -/
def ofRegisterCode? (x : Register) : Nat → Option Instruction
  | 0x07 => some (.getDelay x)
  | 0x0a => some (.waitKey x)
  | 0x15 => some (.setDelay x)
  | 0x18 => some (.setSound x)
  | 0x1e => some (.addIndex x)
  | 0x29 => some (.glyph x)
  | 0x33 => some (.digits x)
  | 0x55 => some (.store x)
  | 0x65 => some (.load x)
  | _ => none

/-- The instruction that a word stands for, or `none` if its family leaves its secondary code
unused. -/
def ofWord? (w : Word) : Option Instruction :=
  match w.family.val with
  | 0x0 => ofSystemCode? w.n
  | 0x1 => some (.jump w.nnn)
  | 0x2 => some (.call w.nnn)
  | 0x3 => some (.skip (.equalsByte w.x w.nn))
  | 0x4 => some (.skip (.differsByte w.x w.nn))
  | 0x5 => some (.skip (.equals w.x w.y))
  | 0x6 => some (.setByte w.x w.nn)
  | 0x7 => some (.addByte w.x w.nn)
  | 0x8 => ofArithmeticCode? w.x w.y w.n
  | 0x9 => some (.skip (.differs w.x w.y))
  | 0xa => some (.setIndex w.nnn)
  | 0xb => some (.jumpOffset w.nnn)
  | 0xc => some (.random w.x w.nn)
  | 0xd => some (.draw w.x w.y w.n)
  | 0xe => ofKeyCode? w.x w.nn.toNat
  | _ => ofRegisterCode? w.x w.nn.toNat

end Instruction

end ChipEight
