import ChipEight.Emulator.Basic

/-! # Commands

Everything that the world outside can do to an emulator is a `Command`. `Emulator.perform` is the
response to one: the emulator afterwards, what it noted in the log, and a reply or a fault. -/

namespace ChipEight

/-- What the world outside can do to an emulator. -/
inductive Command where
  | load (data : Array UInt8) (offset : Int)
  | loadProgram (source : ByteSource)
  | press (key : UInt8)
  | release (key : UInt8)
  | cycle
  | tick
  | takeTone

/-- What a command that succeeds answers. -/
inductive Reply where
  /-- Nothing but that it succeeded. -/
  | done
  /-- How many bytes were loaded. -/
  | count (n : Nat)
  /-- The tone request that was taken, if there was one. -/
  | tone (tone : Option Tone)
deriving DecidableEq, Repr

/-- What a command leaves behind. -/
structure Response where
  emulator : Emulator
  /-- What it noted in the log. -/
  entries : List LogEntry
  /-- Its answer. -/
  reply : Except Fault Reply

namespace Response

/-- The response to a command that leaves the emulator as it was unless it succeeds. -/
def ofExcept (e : Emulator) (entries : α → List LogEntry) (answer : α → Emulator × Reply) :
    Except Fault α → Response
  | .ok a => ⟨(answer a).1, entries a, .ok (answer a).2⟩
  | .error fault => ⟨e, [], .error fault⟩

/-- The response of an activity that has no more to say than that it ended or broke off. -/
def ofOutcome (o : Outcome Fault Emulator) : Response :=
  ⟨o.state, o.entries, match o.error with
    | none => .ok .done
    | some fault => .error fault⟩

end Response

/-- The response of an emulator to a command. -/
def Emulator.perform (e : Emulator) : Command → Response
  | .load data offset =>
    .ofExcept e (fun _ => []) (fun (count, next) => (next, .count count)) (e.load data offset)
  | .loadProgram source =>
    .ofExcept e (fun (count, _) => [.loaded count e.settings.programAddress.toNat])
      (fun (count, next) => (next, .count count)) (e.loadProgram source)
  | .press key => .ofExcept e (fun _ => []) (fun next => (next, .done)) (e.setKey key true)
  | .release key => .ofExcept e (fun _ => []) (fun next => (next, .done)) (e.setKey key false)
  | .cycle => .ofOutcome e.cycle
  | .tick => ⟨e.tick, [], .ok .done⟩
  | .takeTone => ⟨e.takeTone, [], .ok (.tone e.machine.pending)⟩

end ChipEight
