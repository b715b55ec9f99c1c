import ChipEight.CommandLine.Arguments

/-! # Arguments as far as they are known

There are options under fixed names, and some of them are given numbers. A draft holds the choices
that have been settled while a command line is read. Each choice is settled once. `Draft.finish`
turns a draft into arguments: the name of the file is required, and the other choices have
defaults. -/

namespace ChipEight.CommandLine

/-! ### Options -/

/-- An option that is given or not. -/
inductive Switch where
  | strict
  | mute
  | literalKeys
deriving DecidableEq, Repr

/-- An option with a number. -/
inductive Quantity where
  | cyclesPerFrame
  | seed
  | frames
deriving DecidableEq, Repr

/-- The greatest number that an option takes: the cycles have 32 bits, the others 64. -/
def Quantity.maximum : Quantity → Nat
  | .cyclesPerFrame => UInt32.size - 1
  | .seed | .frames => UInt64.size - 1

/-- What an option's name can stand for. -/
inductive Meaning where
  | switch (s : Switch)
  | quantity (q : Quantity)
  /-- A request for information, in place of a run. -/
  | request (e : UsageError)
deriving DecidableEq, Repr

/-- The meaning of an option's name. Names are not abbreviated. -/
def Meaning.ofName? : String → Option Meaning
  | "cycles-per-frame" => some (.quantity .cyclesPerFrame)
  | "strict" => some (.switch .strict)
  | "seed" => some (.quantity .seed)
  | "mute" => some (.switch .mute)
  | "literal-keys" => some (.switch .literalKeys)
  | "frames" => some (.quantity .frames)
  | "help" => some (.request .help)
  | "version" => some (.request .version)
  | _ => none

/-- The meaning of a letter behind one dash. -/
def Meaning.ofLetter? : Char → Option Meaning
  | 'h' => some (.request .help)
  | 'V' => some (.request .version)
  | _ => none

/-! ### Numbers -/

/-- The number that decimal digits stand for. -/
def digitsValue (digits : List Char) : Nat :=
  digits.foldl (fun n d => 10 * n + (d.toNat - '0'.toNat)) 0

/-- The number that decimal digits stand for, if there is a digit and nothing else, up to a
maximum. -/
def readDigits? (maximum : Nat) (digits : List Char) : Option Nat :=
  if digits.isEmpty ∨ !digits.all Char.isDigit ∨ maximum < digitsValue digits then none
  else some (digitsValue digits)

/-- Whether the number of an option is read as a signed one. Its range starts at zero all the same,
so a minus sign can stand only in front of zero. -/
def Quantity.isSigned : Quantity → Bool
  | .cyclesPerFrame => true
  | .seed | .frames => false

/-- The number that is given to an option: decimal digits, with a plus sign in front or without, or
with a minus sign where the number is a signed one. -/
def Quantity.read? (q : Quantity) (text : String) : Option Nat :=
  match text.toList with
  | '+' :: digits => readDigits? q.maximum digits
  | '-' :: digits => if q.isSigned then readDigits? 0 digits else none
  | digits => readDigits? q.maximum digits

/-! ### Drafts -/

/-- The choices that have been settled. -/
structure Draft where
  rom : Option String := none
  cyclesPerFrame : Option Nat := none
  strict : Bool := false
  seed : Option Nat := none
  mute : Bool := false
  literalKeys : Bool := false
  frames : Option Nat := none
deriving DecidableEq, Repr

/-- What a value on the command line is for. -/
inductive Purpose where
  | rom
  | quantity (q : Quantity)
deriving DecidableEq, Repr

namespace Draft

/-- Whether a choice has already been settled. -/
def has (d : Draft) : Purpose → Bool
  | .rom => d.rom.isSome
  | .quantity .cyclesPerFrame => d.cyclesPerFrame.isSome
  | .quantity .seed => d.seed.isSome
  | .quantity .frames => d.frames.isSome

/-- Settle a number. -/
def setNumber (d : Draft) (n : Nat) : Quantity → Draft
  | .cyclesPerFrame => { d with cyclesPerFrame := some n }
  | .seed => { d with seed := some n }
  | .frames => { d with frames := some n }

/-- Whether a switch is on. -/
def isOn (d : Draft) : Switch → Bool
  | .strict => d.strict
  | .mute => d.mute
  | .literalKeys => d.literalKeys

/-- Turn a switch on, which can be done once. -/
def turnOn (d : Draft) (s : Switch) : Except UsageError Draft :=
  if d.isOn s then .error .repeated
  else match s with
    | .strict => .ok { d with strict := true }
    | .mute => .ok { d with mute := true }
    | .literalKeys => .ok { d with literalKeys := true }

/-- Settle a choice, which can be done once. A value that is missing is found out first, then a
repeated choice, and then a value of the wrong form. -/
def settle (d : Draft) (purpose : Purpose) : (value : Option String) → Except UsageError Draft
  | none => .error .missingValue
  | some text =>
    if d.has purpose then .error .repeated
    else match purpose with
      | .rom => if text = "" then .error .missingValue else .ok { d with rom := some text }
      | .quantity q =>
        match q.read? text with
        | none => .error .invalidNumber
        | some n => .ok (d.setNumber n q)

/-- The arguments, when all choices have been settled. -/
def finish (d : Draft) : Except UsageError Arguments :=
  match d.rom with
  | none => .error .missingRom
  | some rom => .ok {
      rom
      cyclesPerFrame := d.cyclesPerFrame.getD defaultCyclesPerFrame
      strict := d.strict
      seed := d.seed
      mute := d.mute
      literalKeys := d.literalKeys
      frames := d.frames }

end Draft

end ChipEight.CommandLine
