import ChipEight.Device.Basic
import ChipEight.Emulator.Basic

/-! # The console

A console is an emulator with a display, an input and a sound device, and drives them all at their
rates. It works in frames of a sixtieth of a second: keys in, a number of machine cycles, sound out,
one tick of the timers, picture out. A tone of `n` ticks sounds for `n` frames.

* `Breakdown`: why a frame breaks off, which is that the machine stops or a device fails;
* `Console.frame`: one frame. It breaks off at the first failure, and everything up to there has
  happened;
* `Console.run`: frame after frame, until someone asks to quit, a limit is reached or a frame breaks
  off. The last entry in the log says which. -/

namespace ChipEight

/-- Why a frame broke off. -/
inductive Breakdown where
  /-- The machine stopped, or the input could not be read. -/
  | machine (fault : Fault)
  /-- The display failed. -/
  | display (reason : String)
  /-- The sound device failed. -/
  | sound (reason : String)
deriving DecidableEq, Repr

namespace Breakdown

/-- The sentence that tells a person what happened. -/
def message : Breakdown → String
  | .machine fault => fault.message
  | .display reason => reason
  | .sound reason => reason

/-- The diagnostic form. -/
def outline : Breakdown → Text.Outline
  | .machine fault => fault.outline
  | .display reason => (ReadFailure.other reason).outline
  | .sound reason => .quoted reason

end Breakdown

/-- How many machine cycles a frame has, unless someone chooses otherwise. -/
def defaultCyclesPerFrame : Nat := 9

/-- An emulator and its devices. -/
structure Console (δ ι σ : Type) where
  emulator : Emulator
  display : δ
  input : ι
  sound : σ
  /-- How many machine cycles a frame has. -/
  cyclesPerFrame : Nat := defaultCyclesPerFrame
  /-- How many frames have been completed. -/
  frames : Nat := 0

namespace Console

variable {δ ι σ : Type} [Display δ] [Input ι] [Sound σ]

/-! ### The stages of a frame -/

/-- Put the keys that the input saw down on the keypad, and let all others up. -/
def readKeys (c : Console δ ι σ) : Outcome Breakdown (Console δ ι σ) :=
  let (input, o) := Input.sync
    (fun key down e => Outcome.ofExcept e (e.setKey key down)) c.input c.emulator
  o.map (fun emulator => { c with input, emulator }) .machine

/-- Run the cycles of the frame. -/
def runCycles (c : Console δ ι σ) : Outcome Breakdown (Console δ ι σ) :=
  (c.emulator.cycles c.cyclesPerFrame).map (fun emulator => { c with emulator }) .machine

/-- Hand a tone request over to the sound device. The request is taken also if the device then
fails. -/
def playTone (c : Console δ ι σ) : Outcome Breakdown (Console δ ι σ) :=
  match c.emulator.machine.pending with
  | none => .done c
  | some tone =>
    (Sound.play c.sound tone).map
      (fun sound => { c with sound, emulator := c.emulator.takeTone }) .sound

/-- Silence the sound device when the sound timer has run out. -/
def stopTone (c : Console δ ι σ) : Outcome Breakdown (Console δ ι σ) :=
  if c.emulator.machine.sound = 0 ∧ Sound.isPlaying c.sound then
    (Sound.stop c.sound).map (fun sound => { c with sound }) .sound
  else .done c

/-- Let the timers tick. -/
def tickTimers (c : Console δ ι σ) : Outcome Breakdown (Console δ ι σ) :=
  .done { c with emulator := c.emulator.tick }

/-- Show the screen. -/
def showScreen (c : Console δ ι σ) : Outcome Breakdown (Console δ ι σ) :=
  (Display.draw c.display c.emulator.machine.screen).map
    (fun display => { c with display }) .display

/-- Count the frame as completed. -/
def countFrame (c : Console δ ι σ) : Outcome Breakdown (Console δ ι σ) :=
  .done { c with frames := c.frames + 1 }

/-- One frame. -/
def frame (c : Console δ ι σ) : Outcome Breakdown (Console δ ι σ) :=
  c.readKeys.andThen fun c => c.runCycles.andThen fun c => c.playTone.andThen fun c =>
    c.stopTone.andThen fun c => c.tickTimers.andThen fun c => c.showScreen.andThen countFrame

/-! ### Runs -/

/-- Whether another frame is due: nobody has asked to quit, and the limit is not reached. -/
def goesOn (limit : Option Nat) (c : Console δ ι σ) : Bool :=
  !Input.quitRequested c.input && limit.all (c.frames < ·)

/-- What the end of a run notes in the log. A run that is only interrupted notes nothing. -/
def endEntries (limit : Option Nat) (c : Console δ ι σ) : Option Breakdown → List LogEntry
  | some e => [.halted c.emulator.machine.counter c.frames e.message]
  | none => if c.goesOn limit then [] else [.stopped c.frames]

/-- Run frames as long as another one is due. A run is interrupted after `patience` frames; whether
it was can be told from `goesOn`. -/
def run (limit : Option Nat) (patience : Nat) (c : Console δ ι σ) :
    Outcome Breakdown (Console δ ι σ) :=
  let o := Outcome.repeatWhile (goesOn limit) frame patience c
  { o with entries := o.entries ++ endEntries limit o.state o.error }

end Console

end ChipEight
