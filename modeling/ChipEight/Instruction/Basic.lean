import ChipEight.Word
import ChipEight.Text.Outline

/-! # Instructions

The instructions of the machine as data. What the families of the instruction set have in common is
factored out: every conditional skip carries a `Condition`, every register-to-register operation an
`Operation`, and both shifts a `Direction`. An instruction's operands are bounded by their types, so
an instruction that exists names only registers and addresses that exist.

`Instruction.outline` is the form in which instructions appear in reports. -/

namespace ChipEight

/-- What a conditional skip looks at. -/
inductive Condition where
  /-- The register holds this byte. -/
  | equalsByte (x : Register) (nn : UInt8)
  /-- The register holds another byte than this. -/
  | differsByte (x : Register) (nn : UInt8)
  /-- The two registers hold the same byte. -/
  | equals (x y : Register)
  /-- The two registers hold different bytes. -/
  | differs (x y : Register)
  /-- The key that the register names is down. -/
  | keyDown (x : Register)
  /-- The key that the register names is up. -/
  | keyUp (x : Register)
deriving DecidableEq, Repr

/-- A register-to-register operation: it combines the bytes of `VX` and `VY` into `VX`. -/
inductive Operation where
  | copy
  | or
  | and
  | xor
  | add
  | subtract
  /-- `VY` less `VX`, rather than `VX` less `VY`. -/
  | subtractFrom
deriving DecidableEq, Repr

/-- The way in which the bits of a register move. -/
inductive Direction where
  | left
  | right
deriving DecidableEq, Repr

/-- One instruction of the machine. -/
inductive Instruction where
  /-- Switch every pixel off. -/
  | clear
  /-- Go back to the most recent call. -/
  | ret
  | jump (target : Address)
  | call (target : Address)
  /-- Pass over the next word if the condition holds. -/
  | skip (condition : Condition)
  | setByte (x : Register) (nn : UInt8)
  /-- Add a byte to a register, without a carry. -/
  | addByte (x : Register) (nn : UInt8)
  | combine (operation : Operation) (x y : Register)
  | shift (direction : Direction) (x : Register)
  | setIndex (target : Address)
  /-- Jump to an address plus `V0`. -/
  | jumpOffset (base : Address)
  /-- A random byte, of which only the bits in the mask are kept. -/
  | random (x : Register) (mask : UInt8)
  /-- Draw a sprite of the given height at the place that two registers name. -/
  | draw (x y : Register) (height : Fin 16)
  | getDelay (x : Register)
  /-- Stay at this instruction until some key is down. -/
  | waitKey (x : Register)
  | setDelay (x : Register)
  | setSound (x : Register)
  | addIndex (x : Register)
  /-- Point the index at the glyph of a digit. -/
  | glyph (x : Register)
  /-- Store the three decimal digits of a register. -/
  | digits (x : Register)
  /-- Store the registers from `V0` to `VX`. -/
  | store (x : Register)
  /-- Load the registers from `V0` to `VX`. -/
  | load (x : Register)
deriving DecidableEq, Repr

namespace Condition

/-- The name under which a skip on this condition appears in reports. -/
def name : Condition → String
  | .equalsByte .. => "SkipIfEqualImm"
  | .differsByte .. => "SkipIfNotEqualImm"
  | .equals .. => "SkipIfEqual"
  | .differs .. => "SkipIfNotEqual"
  | .keyDown .. => "SkipIfKey"
  | .keyUp .. => "SkipIfNotKey"

/-- The operands of a condition, in reading order. -/
def operands : Condition → List Nat
  | .equalsByte x nn | .differsByte x nn => [x, nn.toNat]
  | .equals x y | .differs x y => [x, y]
  | .keyDown x | .keyUp x => [x]

end Condition

/-- The name under which an operation appears in reports. -/
def Operation.name : Operation → String
  | .copy => "Set"
  | .or => "Or"
  | .and => "And"
  | .xor => "Xor"
  | .add => "Add"
  | .subtract => "Sub"
  | .subtractFrom => "SubReverse"

/-- The name under which a shift appears in reports. -/
def Direction.name : Direction → String
  | .left => "ShiftLeft"
  | .right => "ShiftRight"

namespace Instruction

/-- The name under which an instruction appears in reports. -/
def name : Instruction → String
  | .clear => "ClearScreen"
  | .ret => "Return"
  | .jump .. => "Jump"
  | .call .. => "Call"
  | .skip condition => condition.name
  | .setByte .. => "SetImm"
  | .addByte .. => "AddImm"
  | .combine operation .. => operation.name
  | .shift direction .. => direction.name
  | .setIndex .. => "SetAddress"
  | .jumpOffset .. => "JumpOffset"
  | .random .. => "Random"
  | .draw .. => "Draw"
  | .getDelay .. => "GetDelay"
  | .waitKey .. => "WaitKey"
  | .setDelay .. => "SetDelay"
  | .setSound .. => "SetSound"
  | .addIndex .. => "AddAddress"
  | .glyph .. => "FontAddress"
  | .digits .. => "Bcd"
  | .store .. => "StoreRegisters"
  | .load .. => "LoadRegisters"

/-- The operands of an instruction, in reading order. -/
def operands : Instruction → List Nat
  | .clear | .ret => []
  | .jump target | .call target | .setIndex target | .jumpOffset target => [target]
  | .skip condition => condition.operands
  | .setByte x nn | .addByte x nn | .random x nn => [x, nn.toNat]
  | .combine _ x y => [x, y]
  | .draw x y height => [x, y, height]
  | .shift _ x | .getDelay x | .waitKey x | .setDelay x | .setSound x | .addIndex x | .glyph x
  | .digits x | .store x | .load x => [x]

/-- An instruction in a report: its name, and its operands in decimal if it has any. -/
def outline (i : Instruction) : Text.Outline :=
  match i.operands with
  | [] => .name i.name
  | operands => .apply i.name (operands.map fun k : Nat => .number k)

end Instruction

/-- A word in a report. -/
def Word.outline (w : Word) : Text.Outline := .apply "Opcode" [.number w.toNat]

end ChipEight
