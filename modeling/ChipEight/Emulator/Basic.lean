import ChipEight.Machine.Execute

/-! # The emulator

An emulator is a machine together with its settings, which a person decides about before it starts:
they say where a program is loaded, whether the machine is strict, and which random bytes it
draws. -/

namespace ChipEight

/-- The choices that hold for a whole run. -/
structure Settings where
  /-- Whether a word that stands for nothing is a fault, rather than passed over. -/
  strict : Bool := false
  /-- The seed of the random bytes, if they are to be the same in every run. -/
  seed : Option UInt64 := none
  /-- Where a program is loaded and started. -/
  programAddress : UInt16 := defaultProgramAddress
deriving DecidableEq, Repr

/-- The key of the random bytes: that of the seed, or else the entropy. -/
def Settings.key (s : Settings) (entropy : Random.Key) : Random.Key :=
  match s.seed with
  | some seed => seed
  | none => entropy

/-- The settings in a report. -/
def Settings.outline (s : Settings) : Text.Outline :=
  .record "Chip8Config"
    [("strict", .truth s.strict),
     ("seed", .optional (fun seed => .number seed.toNat) s.seed),
     ("program_addr", .number s.programAddress.toNat)]

/-- A machine and the settings that it runs under. -/
structure Emulator where
  settings : Settings
  machine : Machine
deriving DecidableEq

namespace Emulator

/-- An emulator before its first cycle. The entropy is used if the settings name no seed. -/
def boot (settings : Settings) (entropy : Random.Key) : Emulator :=
  ⟨settings, Machine.start settings.programAddress (settings.key entropy)⟩

/-- One machine cycle. -/
def cycle (e : Emulator) : Outcome Fault Emulator :=
  (e.machine.cycle e.settings.strict).map (fun machine => { e with machine }) id

/-- Up to `n` machine cycles; the first fault ends them. -/
def cycles (n : Nat) (e : Emulator) : Outcome Fault Emulator := Outcome.iterate cycle n e

/-- Load data into memory, and count the bytes that fitted. -/
def load (e : Emulator) (data : Array UInt8) (offset : Int) : Except Fault (Nat × Emulator) :=
  (e.machine.load data offset).map fun (count, machine) => (count, { e with machine })

/-- Load a program at the address that the settings name. -/
def loadProgram (e : Emulator) (source : ByteSource) : Except Fault (Nat × Emulator) :=
  (e.machine.loadFrom source e.settings.programAddress.toNat).map fun (count, machine) =>
    (count, { e with machine })

/-- Put a key down or let it up. -/
def setKey (e : Emulator) (key : UInt8) (down : Bool) : Except Fault Emulator :=
  (e.machine.setKey key down).map fun machine => { e with machine }

/-- One tick of the timers. -/
def tick (e : Emulator) : Emulator := { e with machine := e.machine.tick }

/-- The emulator after its tone request has been taken. -/
def takeTone (e : Emulator) : Emulator := { e with machine := e.machine.takeTone }

end Emulator

end ChipEight
