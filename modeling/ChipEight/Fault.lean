import ChipEight.Word
import ChipEight.Text.Outline

/-! # Faults

Everything that can stop the machine, by cause. `Fault.message` is the sentence a person reads, and
`Fault.outline` the diagnostic form, which names the cause and its value. -/

namespace ChipEight

/-- Why bytes could not be read from outside the machine. -/
inductive ReadFailure where
  /-- There is no such file. -/
  | notFound
  /-- The name is that of a directory. -/
  | isDirectory
  /-- The name goes on behind the name of a file, as if that were a directory. -/
  | notDirectory
  /-- The name has too many bytes, in one of its parts or as a whole. -/
  | nameTooLong
  /-- The file may not be read. -/
  | permissionDenied
  /-- The name has a character in it that ends a name for the system. -/
  | nulInName
  /-- Another reason, in words. -/
  | other (message : String)
deriving DecidableEq, Repr

namespace ReadFailure

/-- The reason in words. The system's own reasons also carry their number. -/
def message : ReadFailure → String
  | .notFound => "No such file or directory (os error 2)"
  | .isDirectory => "Is a directory (os error 21)"
  | .notDirectory => "Not a directory (os error 20)"
  | .nameTooLong => "File name too long (os error 36)"
  | .permissionDenied => "Permission denied (os error 13)"
  | .nulInName => "file name contained an unexpected NUL byte"
  | .other message => message

/-- The diagnostic form of a reason given by the system. -/
def systemOutline (code : Nat) (kind message : String) : Text.Outline :=
  .record "Os" [("code", .number code), ("kind", .name kind), ("message", .quoted message)]

/-- The diagnostic form. -/
def outline : ReadFailure → Text.Outline
  | .notFound => systemOutline 2 "NotFound" "No such file or directory"
  | .isDirectory => systemOutline 21 "IsADirectory" "Is a directory"
  | .notDirectory => systemOutline 20 "NotADirectory" "Not a directory"
  | .nameTooLong => systemOutline 36 "InvalidFilename" "File name too long"
  | .permissionDenied => systemOutline 13 "PermissionDenied" "Permission denied"
  | .nulInName =>
    .record "Error" [("kind", .name "InvalidInput"),
      ("message", .quoted "file name contained an unexpected NUL byte")]
  | .other message => .record "Custom" [("kind", .name "Other"), ("error", .quoted message)]

end ReadFailure

/-- Why the machine stopped. -/
inductive Fault where
  /-- The word belongs to no family of instructions. -/
  | invalidOpcode (word : Word)
  /-- The family of the word is known and its secondary code is not. Only a strict machine objects.
  -/
  | unknownInstruction (word : Word)
  /-- Stepping over the instruction at `counter` would leave memory. -/
  | outOfMemory (counter : Nat)
  /-- A program cannot be loaded in front of memory. -/
  | negativeOffset (offset : Int)
  /-- There is no such key. -/
  | invalidKey (key : UInt8)
  /-- The bytes to load could not be read. -/
  | unreadable (failure : ReadFailure)
deriving DecidableEq, Repr

namespace Fault

/-- The sentence that tells a person what happened. -/
def message : Fault → String
  | .invalidOpcode word => "invalid opcode " ++ Text.hex 4 word.toNat
  | .unknownInstruction word =>
    "unknown instruction " ++ Text.hex 4 word.toNat ++ " in a known opcode family"
  | .outOfMemory counter =>
    "program counter " ++ Text.hex 4 counter ++ " would run past the end of memory"
  | .negativeOffset offset => "load offset " ++ toString offset ++ " must be non-negative"
  | .invalidKey key => "key " ++ Text.hex 2 key.toNat ++ " is not on the hex keypad"
  | .unreadable failure => "io error: " ++ failure.message

/-- The diagnostic form: the cause and its value, in decimal. -/
def outline : Fault → Text.Outline
  | .invalidOpcode word => .record "DecodeFault" [("opcode", .number word.toNat)]
  | .unknownInstruction word => .record "UnknownInstruction" [("opcode", .number word.toNat)]
  | .outOfMemory counter => .record "BoundsFault" [("pc", .number counter)]
  | .negativeOffset offset => .record "LoadRange" [("offset", .number offset)]
  | .invalidKey key => .record "InvalidKey" [("key", .number key.toNat)]
  | .unreadable failure => .apply "Io" [failure.outline]

end Fault

end ChipEight
