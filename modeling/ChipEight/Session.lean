import ChipEight.CommandLine.Reading
import ChipEight.Console.Basic
import ChipEight.Device.Basic
import ChipEight.Directory
import ChipEight.Terminal.Keyboard
import ChipEight.Terminal.Monitor

/-! # Sessions

A session is the program as a person starts it: a command line, a file with a program for the
machine, and what happens at the keyboard. `Session.run` is all that is left of it when it has
ended: an exit status, a diagnostic, and the terminal. -/

namespace ChipEight

namespace FileEntry

/-- What is read from an entry, if it can be opened. A directory can be opened and not read. -/
def open? : FileEntry → Except ReadFailure ByteSource
  | .directory => .ok ⟨#[], some .isDirectory⟩
  | .file bytes => .ok (.ofBytes bytes)
  | .nothing why => .error why

end FileEntry

namespace Session

/-- Why a session did not end well. -/
inductive Failure where
  /-- The command line was not carried out. -/
  | usage (error : CommandLine.UsageError)
  /-- The file could not be opened. -/
  | file (failure : ReadFailure)
  /-- The console broke down. -/
  | breakdown (b : Breakdown)
deriving DecidableEq, Repr

namespace Failure

/-- The exit status. To ask for help or for the version is not an error. -/
def status : Failure → Nat
  | .usage error => if error.isRequest then 0 else 2
  | .file _ | .breakdown _ => 1

/-- The diagnostic form of a failure in a report; a usage error has a text of its own. -/
def outline? : Failure → Option Text.Outline
  | .usage _ => none
  | .file failure => some failure.outline
  | .breakdown b => some b.outline

/-- What is written as the reason of a failure. -/
def diagnostic? (f : Failure) : Option String :=
  f.outline?.map fun outline => "Error: " ++ outline.render ++ "\n"

end Failure

/-- What is left when a session has ended. -/
structure Report where
  /-- The exit status. -/
  status : Nat
  /-- What was written as the reason of a failure; nothing is known of the text of a usage error. -/
  diagnostic : Option String
  /-- The terminal. -/
  monitor : Terminal.Monitor

namespace Report

/-- The report of a session that failed, or else of one that ended well. -/
def of (monitor : Terminal.Monitor) : Option Failure → Report
  | some failure => ⟨failure.status, failure.diagnostic?, monitor⟩
  | none => ⟨0, some "", monitor⟩

end Report

/-- The terminal before a session. -/
def terminalBefore : Terminal.Monitor := ⟨Terminal.Grid.blank, true⟩

/-- Set an emulator up as the arguments say, and load the program into it. -/
def load (a : CommandLine.Arguments) (entry : FileEntry) (entropy : Random.Key) :
    Except Failure Emulator :=
  match entry.open? with
  | .error failure => .error (.file failure)
  | .ok source =>
    match (Emulator.boot a.settings entropy).loadProgram source with
    | .error fault => .error (.breakdown (.machine fault))
    | .ok (_, emulator) => .ok emulator

/-- Connect an emulator to the terminal. -/
def connect (a : CommandLine.Arguments) (emulator : Emulator) (sound : σ) :
    Console Terminal.Monitor Terminal.Keyboard σ where
  emulator
  display := .opened
  input := { layout := a.layout }
  sound
  cyclesPerFrame := a.cyclesPerFrame

/-- Run a console at which some events have already happened, and report on it. -/
def play [Sound σ] (a : CommandLine.Arguments) (emulator : Emulator) (sound : σ)
    (events : List Terminal.Event) (patience : Nat) : Report :=
  let console := connect a emulator sound
  let o := { console with input := console.input.type events }.run a.frames patience
  .of o.state.display.close (o.error.map .breakdown)

/-- A whole session. All the events happen before the first frame. -/
def run (words : List String) (find : String → FileEntry) (events : List Terminal.Event)
    (entropy : Random.Key) (patience : Nat) : Report :=
  match CommandLine.parse words with
  | .error error => .of terminalBefore (some (.usage error))
  | .ok a =>
    match load a (find a.rom) entropy with
    | .error failure => .of terminalBefore (some failure)
    | .ok emulator =>
      if a.mute then play a emulator ({} : Mute) events patience
      else play a emulator ({} : Beeper) events patience

end Session

end ChipEight
