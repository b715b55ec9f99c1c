import ChipEight.CommandLine.Arguments
import ChipEight.Session
import ChipEight.Terminal.Monitor
import ChipEight.Terminal.Event

/-! # The program

The outer layer: it looks at the world, hands what it sees to a session, and shows what the session
answers. The terminal is expected to pass on every key as it is struck. -/

namespace ChipEight.Program

/-- What keeps a file from being opened, as the system tells it. -/
def openFailure : IO.Error → ReadFailure
  | .inappropriateType .. => .notDirectory
  | .permissionDenied .. => .permissionDenied
  | .invalidArgument .. => .nameTooLong
  | _ => .notFound

/-- What is found behind a handle. A directory is opened as a file is, and fails to be read. -/
def readEntry (handle : IO.FS.Handle) : IO FileEntry := do
  try return .file (← handle.readBinToEnd).data
  catch _ => return .directory

/-- What is found under the name of a file. -/
def findFile (name : String) : IO FileEntry := do
  try readEntry (← IO.FS.Handle.mk name .read)
  catch failure => return .nothing (openFailure failure)

/-- A key that nobody can foresee. -/
def entropy : IO Random.Key := do
  let bytes ← IO.getRandomBytes 32
  let word (i : Nat) : UInt32 :=
    (bytes.data.extract (4 * i) (4 * i + 4)).foldl (fun n b => n * 256 + b.toUInt32) 0
  return ⟨Vector.ofFn fun i => word i⟩

/-- Collect what is typed, character by character, up to the end of the input. -/
partial def collectKeys (input : IO.FS.Stream) (typed : IO.Ref ByteArray) : IO Unit := do
  let bytes ← input.read 1
  unless bytes.isEmpty do
    typed.modify (· ++ bytes)
    collectKeys input typed

/-- The events that have been typed since the last time. -/
def takeEvents (typed : IO.Ref ByteArray) : IO (List Terminal.Event) := do
  let bytes ← typed.swap ByteArray.empty
  return ((String.fromUTF8? bytes).getD "").toList.map Terminal.Event.ofTyped

/-- Wait for the start of the next frame. -/
def waitUntil (due : Nat) : IO Unit := do
  let now ← IO.monoMsNow
  if now < due then IO.sleep (UInt32.ofNat (due - now))

/-- Run frames, sixty in a second, until none is due any more or one breaks off. -/
partial def play [Sound σ] (limit : Option Nat) (typed : IO.Ref ByteArray) (output : IO.FS.Stream)
    (console : Console Terminal.Monitor Terminal.Keyboard σ) : IO (Option Breakdown) := do
  if !console.goesOn limit then return none
  let start ← IO.monoMsNow
  let events ← takeEvents typed
  let o := { console with input := console.input.type events }.frame
  if o.error.isSome then return o.error
  if Sound.isPlaying o.state.sound && !Sound.isPlaying console.sound then output.putStr "\x07"
  output.putStr (o.state.display.grid.paint (Screen.width + 2) (Screen.height + 2))
  output.flush
  waitUntil (start + 1000 / ticksPerSecond)
  play limit typed output o.state

/-- Run an emulator at the terminal. -/
def run [Sound σ] (a : CommandLine.Arguments) (emulator : Emulator) (sound : σ) :
    IO (Option Session.Failure) := do
  let output ← IO.getStdout
  let typed ← IO.mkRef ByteArray.empty
  let _ ← IO.asTask (collectKeys (← IO.getStdin) typed) Task.Priority.dedicated
  output.putStr Terminal.opening
  let ended ← play a.frames typed output (Session.connect a emulator sound)
  output.putStr Terminal.closing
  if ended.isNone then output.putStr "\n\n\n\n"
  output.flush
  return ended.map .breakdown

/-- A whole session, and the reason why it failed. -/
def session (words : List String) : IO (Option Session.Failure) := do
  match CommandLine.parse words with
  | .error error => return some (.usage error)
  | .ok a =>
    match Session.load a (← findFile a.rom) (← entropy) with
    | .error failure => return some failure
    | .ok emulator =>
      if a.mute then run a emulator ({} : Mute) else run a emulator ({} : Beeper)

/-- Say why a session failed. -/
def explain : Session.Failure → IO Unit
  | .usage error =>
    if error.isRequest then IO.println error.message
    else IO.eprintln ("error: " ++ error.message ++ "\n\n" ++ CommandLine.usage)
  | failure => IO.eprint (failure.diagnostic?.getD "")

end ChipEight.Program

/-- Run the program of the command line, and end with the status of the session. -/
def main (words : List String) : IO UInt32 := do
  match ← ChipEight.Program.session words with
  | none => return 0
  | some failure =>
    ChipEight.Program.explain failure
    return UInt32.ofNat failure.status
