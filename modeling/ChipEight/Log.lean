import ChipEight.Fault
import ChipEight.Instruction.Basic

/-! # The log

A run leaves an account of itself. Each entry is a fact of the run, kept as data; `LogEntry.level`
says how much it matters and `LogEntry.message` how it reads. -/

namespace ChipEight

/-- How much an entry of the log matters, most first. -/
inductive LogLevel where
  | error
  | warning
  | info
  | debug
  | trace
deriving DecidableEq, Repr

namespace LogLevel

/-- The word in front of an entry. -/
def name : LogLevel → String
  | .error => "ERROR"
  | .warning => "WARN"
  | .info => "INFO"
  | .debug => "DEBUG"
  | .trace => "TRACE"

end LogLevel

/-- One fact in the account of a run. -/
inductive LogEntry where
  /-- A program of `count` bytes was loaded, its first byte meant for `address`. -/
  | loaded (count address : Nat)
  /-- The instruction at `counter` was started. -/
  | started (counter : Nat) (word : Word) (instruction : Instruction)
  /-- A word that stands for nothing was passed over. -/
  | ignored (word : Word)
  /-- The sound timer was set to a positive value. -/
  | toneRequested (ticks : UInt8)
  /-- A run ended by a breakdown, with the counter at `counter` and `frames` frames completed. -/
  | halted (counter frames : Nat) (reason : String)
  /-- A run ended because it was asked to. -/
  | stopped (frames : Nat)
  /-- A character was typed that stands for no key of the keypad. -/
  | unmappedCharacter (character : Char)
  /-- A key of the keyboard was struck that types no character. -/
  | unknownKey (name : String)
  /-- Something happened at the terminal that was no key stroke. -/
  | notAKey
deriving DecidableEq, Repr

namespace LogEntry

/-- How much the entry matters. -/
def level : LogEntry → LogLevel
  | .loaded .. | .stopped .. => .info
  | .started .. => .trace
  | .ignored .. | .toneRequested .. | .notAKey => .debug
  | .halted .. => .error
  | .unmappedCharacter .. | .unknownKey .. => .warning

/-- How the entry reads, without its level. -/
def message : LogEntry → String
  | .loaded count address => s!"loaded {count} byte program at " ++ Text.hex 3 address
  | .started counter word instruction =>
    Text.hex 3 counter ++ ": " ++ Text.hex 4 word.toNat ++ " " ++ instruction.outline.render
  | .ignored word => "ignoring unknown instruction " ++ Text.hex 4 word.toNat
  | .toneRequested ticks => "tone requested for " ++ toString ticks.toNat ++ " ticks"
  | .halted counter frames reason =>
    "halted at " ++ Text.hex 3 counter ++ s!" after {frames} frames: " ++ reason
  | .stopped frames => s!"stopped after {frames} frames"
  | .unmappedCharacter character =>
    "can't map " ++ Text.Outline.quoteChar character ++ " to a COSMAC key"
  | .unknownKey name => "unknown key event received: " ++ name
  | .notAKey => "ignoring non-key terminal event"

/-- The entry as one line. -/
def render (entry : LogEntry) : String := entry.level.name ++ " " ++ entry.message

end LogEntry

end ChipEight
