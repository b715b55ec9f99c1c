import ChipEight.Console.Basic

/-! # Command line arguments

What a person says on the command line, once it has been understood, and the reasons for which a
command line is not carried out. Two of these are no errors: a person may ask for help or for the
version. The module ends with what a person is told who asks how the program is called, or who
called it wrongly. -/

namespace ChipEight.CommandLine

/-- The choices made on the command line. -/
structure Arguments where
  /-- The file that holds the program. -/
  rom : String
  /-- How many machine cycles a frame has. -/
  cyclesPerFrame : Nat := defaultCyclesPerFrame
  /-- Whether a word that stands for nothing ends the run. -/
  strict : Bool := false
  /-- The seed of the random bytes. -/
  seed : Option Nat := none
  /-- Whether tones are left out. -/
  mute : Bool := false
  /-- Whether a key is typed as its own digit. -/
  literalKeys : Bool := false
  /-- After how many frames the run ends. -/
  frames : Option Nat := none
deriving DecidableEq, Repr

namespace Arguments

/-- The arguments in a report. -/
def outline (a : Arguments) : Text.Outline :=
  let number (n : Nat) : Text.Outline := .number n
  .record "Cli"
    [("rom", .quoted a.rom),
     ("cycles_per_frame", number a.cyclesPerFrame),
     ("strict", .truth a.strict),
     ("seed", .optional number a.seed),
     ("mute", .truth a.mute),
     ("literal_keys", .truth a.literalKeys),
     ("frames", .optional number a.frames)]

/-- The settings of the emulator that the arguments ask for. -/
def settings (a : Arguments) : Settings where
  strict := a.strict
  seed := a.seed.map UInt64.ofNat

/-- The keyboard layout that the arguments ask for. -/
def layout (a : Arguments) : Layout := if a.literalKeys then .digits else .block

end Arguments

/-- Why a command line is not carried out. -/
inductive UsageError where
  /-- There is no file to run. -/
  | missingRom
  /-- There is no such option, or a file too many. -/
  | unknownArgument
  /-- An option has no value, or the file has no name. -/
  | missingValue
  /-- The value of an option is no number in its range. -/
  | invalidNumber
  /-- A switch was given a value. -/
  | unexpectedValue
  /-- An option or a switch was given twice. -/
  | repeated
  /-- A person asked for help. -/
  | help
  /-- A person asked for the version. -/
  | version
deriving DecidableEq, Repr

/-- The name of the kind of a usage error. -/
def UsageError.kind : UsageError → String
  | .missingRom => "MissingRequiredArgument"
  | .unknownArgument => "UnknownArgument"
  | .missingValue => "InvalidValue"
  | .invalidNumber => "ValueValidation"
  | .unexpectedValue => "TooManyValues"
  | .repeated => "ArgumentConflict"
  | .help => "DisplayHelp"
  | .version => "DisplayVersion"

/-- Whether a person only asked for information. -/
def UsageError.isRequest : UsageError → Bool
  | .help | .version => true
  | _ => false

/-! ### Usage and help -/

/-- The version of the program. -/
def versionNumber : String := "0.1.0"

/-- How the program is called. -/
def usage : String := "Usage: chip-eight [OPTIONS] <ROM>"

/-- What the program does and which options it has. -/
def helpText : String := "\n".intercalate
  ["Run a CHIP-8 program in the terminal", "", usage, "",
   "Arguments:",
   "  <ROM>  ROM to load at 0x200", "",
   "Options:",
   "      --cycles-per-frame <CYCLES_PER_FRAME>",
   "          instructions per 60Hz frame [default: 9]",
   "      --strict          halt on unknown instructions instead of skipping them",
   "      --seed <SEED>     seed for the random-number instruction",
   "      --mute            no PC speaker beeps",
   "      --literal-keys    map keys 0-9 and a-f literally, instead of the usual block",
   "      --frames <FRAMES> stop after this many frames",
   "  -h, --help            Print help",
   "  -V, --version         Print version"]

/-- What is wrong with a command line, in words. -/
def UsageError.message : UsageError → String
  | .missingRom => "the following required arguments were not provided: <ROM>"
  | .unknownArgument => "unexpected argument found"
  | .missingValue => "a value is required but none was supplied"
  | .invalidNumber => "invalid number"
  | .unexpectedValue => "unexpected value for an option that takes none"
  | .repeated => "an option cannot be used multiple times"
  | .help => helpText
  | .version => "chip-eight " ++ versionNumber

end ChipEight.CommandLine
