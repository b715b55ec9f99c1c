import ChipEight.CommandLine.Draft

/-! # Reading a command line

A word of a command line is an option with two dashes in front, with or without a value behind an
equals sign; a letter with one dash in front; the two dashes alone, after which no word is an option
any more; or plain text.

A command line is read word by word. A value that stands in a word of its own is first only kept,
and looked at when the next thing on the command line has been recognised, or at the end. So of two
errors in a command line, one that concerns the shape of the line wins over one in a kept value:
`Reading.settle` looks at the kept value, and the words that are refused for their shape are refused
without it. -/

namespace ChipEight.CommandLine

/-! ### Words -/

/-- A word of the command line, by its shape. -/
inductive Token where
  /-- Two dashes alone. -/
  | endOfOptions
  /-- An option, and its value if one is attached. -/
  | long (name : String) (value : Option String)
  /-- A dash and letters, of which the first one counts. -/
  | short (letter : Char)
  /-- Anything else. A single dash is plain text, and so is the empty word. -/
  | plain (text : String)
deriving DecidableEq, Repr

namespace Token

/-- An option after its two dashes: the name reaches up to the first equals sign. -/
def ofOption (rest : List Char) : Token :=
  let name := String.ofList (rest.takeWhile (· ≠ '='))
  match rest.dropWhile (· ≠ '=') with
  | [] => .long name none
  | _ :: value => .long name (some (String.ofList value))

/-- The shape of a word. -/
def ofString (text : String) : Token :=
  match text.toList with
  | ['-', '-'] => .endOfOptions
  | '-' :: '-' :: rest => ofOption rest
  | '-' :: letter :: _ => .short letter
  | _ => .plain text

end Token

/-! ### Lines -/

/-- A value that has been kept and not yet looked at. It may still be missing. -/
structure Kept where
  purpose : Purpose
  value : Option String
deriving DecidableEq, Repr

/-- How far a command line has been read. -/
structure Reading where
  draft : Draft := {}
  /-- The value that is looked at next. -/
  kept : Option Kept := none
  /-- Whether every further word is plain. -/
  optionsEnded : Bool := false
deriving DecidableEq, Repr

namespace Reading

/-- Look at the value that was kept. -/
def settle (r : Reading) : Except UsageError Reading :=
  match r.kept with
  | none => .ok r
  | some ⟨purpose, value⟩ => (r.draft.settle purpose value).map fun draft =>
      { r with draft, kept := none }

/-- The option that the next plain word is the value of. -/
def awaiting? (r : Reading) : Option Quantity :=
  match r.kept with
  | some ⟨.quantity q, none⟩ => some q
  | _ => none

/-- Whether the name of the file has been given. -/
def hasRom (r : Reading) : Bool :=
  r.draft.rom.isSome || r.kept.any (·.purpose == .rom)

/-- A word that stands for itself is the name of the file, of which there is only one. -/
def readPositional (r : Reading) (text : String) : Except UsageError Reading :=
  if r.hasRom then .error .unknownArgument
  else r.settle.map fun r => { r with kept := some ⟨.rom, some text⟩ }

/-- A plain word is the value of an option that waits for one, or else stands for itself. -/
def readPlain (r : Reading) (text : String) : Except UsageError Reading :=
  match r.awaiting? with
  | some q => .ok { r with kept := some ⟨.quantity q, some text⟩ }
  | none => r.readPositional text

/-- An option, with the value that is attached to it. -/
def readOption (r : Reading) (meaning : Option Meaning) (value : Option String) :
    Except UsageError Reading :=
  match meaning, value with
  | none, _ => .error .unknownArgument
  | some (.switch s), none => do
    let r ← r.settle
    let draft ← r.draft.turnOn s
    return { r with draft }
  | some (.request e), none => do
    let _ ← r.settle
    throw e
  | some (.switch _), some _ | some (.request _), some _ => .error .unexpectedValue
  | some (.quantity q), none => do
    let r ← r.settle
    return { r with kept := some ⟨.quantity q, none⟩ }
  | some (.quantity q), some text => do
    let r ← r.settle
    let draft ← r.draft.settle (.quantity q) (some text)
    return { r with draft }

/-- One more word. -/
def read (r : Reading) (text : String) : Except UsageError Reading :=
  if r.optionsEnded then r.readPositional text
  else match Token.ofString text with
    | .endOfOptions => .ok { r with optionsEnded := true }
    | .long name value => r.readOption (Meaning.ofName? name) value
    | .short letter => r.readOption (Meaning.ofLetter? letter) none
    | .plain text => r.readPlain text

/-- The end of the command line. -/
def finish (r : Reading) : Except UsageError Arguments :=
  r.settle.bind fun r => r.draft.finish

end Reading

/-- The arguments that a command line gives, or why it is not carried out. -/
def parse (words : List String) : Except UsageError Arguments :=
  (words.foldlM Reading.read {}).bind Reading.finish

end ChipEight.CommandLine
