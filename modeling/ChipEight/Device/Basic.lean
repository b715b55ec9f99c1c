import ChipEight.Machine.Basic

/-! # Devices

What an emulator is connected to: a display that shows the screen, an input that sees keys, and a
sound device that plays tones. A device is any type of states with the operations of its kind. Every
operation also says what state the device is in after it failed.

* `Display`, `Sound`, `Input`: what devices of each kind can do;
* `Input.sync`: an input device is asked once for the keys it saw, and then every key of the keypad
  is reported in rising order, as down if it was seen and up if not. Whoever receives the reports
  may refuse one, which ends them;
* `FrameCounter`, `Replay`, `Mute`, `Beeper`: simple devices, which need nothing around them. -/

namespace ChipEight

/-- A device that shows screens. -/
class Display (δ : Type) where
  /-- Show a screen. It may fail, with a reason in words. -/
  draw : δ → Screen → Outcome String δ

/-- A device that plays tones. -/
class Sound (σ : Type) where
  /-- Start a tone. It may fail, with a reason in words. -/
  play : σ → Tone → Outcome String σ
  /-- Fall silent. It may fail, with a reason in words. -/
  stop : σ → Outcome String σ
  /-- Whether a tone is sounding. -/
  isPlaying : σ → Bool

/-- What an input device saw since it was last asked. -/
structure Poll (ι : Type) where
  /-- The device after it was asked. -/
  device : ι
  /-- What it noted in the log. -/
  entries : List LogEntry
  /-- The keys that it saw, or why it could not see any. -/
  keys : Except Fault (List UInt8)

/-- A device that sees keys. -/
class Input (ι : Type) where
  /-- The keys seen since the last time. -/
  poll : ι → Poll ι
  /-- Whether a person has asked to leave. -/
  quitRequested : ι → Bool

/-! ### Key synchronisation -/

variable {ι τ : Type}

/-- Report the given keys of the keypad, one after the other, as down if they are among those
seen. -/
def reportKeys (onKey : UInt8 → Bool → τ → Outcome Fault τ) (seen : List UInt8) :
    List UInt8 → τ → Outcome Fault τ
  | [], t => .done t
  | key :: rest, t => (onKey key (seen.contains key) t).andThen (reportKeys onKey seen rest)

/-- All keys of the keypad, in rising order. -/
def Keypad.keys : List UInt8 := (List.range Keypad.size).map UInt8.ofNat

/-- Ask an input device for the keys it saw, and report every key of the keypad. -/
def Input.sync [Input ι] (onKey : UInt8 → Bool → τ → Outcome Fault τ) (device : ι) (t : τ) :
    ι × Outcome Fault τ :=
  let seen := Input.poll device
  (seen.device, match seen.keys with
    | .error fault => (Outcome.fail t fault).noting seen.entries
    | .ok keys => (reportKeys onKey keys Keypad.keys t).noting seen.entries)

/-! ### Simple devices -/

/-- A display that shows nothing and counts. -/
structure FrameCounter where
  /-- How many screens have been drawn. -/
  frames : Nat := 0
deriving DecidableEq, Repr

instance : Display FrameCounter where
  draw d _ := .done ⟨d.frames + 1⟩

/-- An input that replays one list of keys each time it is asked. When the last list has been
replayed it asks to quit, and sees no keys from then on. -/
structure Replay where
  /-- The lists that are still to be replayed. -/
  upcoming : List (List UInt8)
deriving DecidableEq, Repr

instance : Input Replay where
  poll d := ⟨⟨d.upcoming.tail⟩, [], .ok (d.upcoming.headD [])⟩
  quitRequested d := d.upcoming.isEmpty

/-- A sound device that makes no sound and remembers which tone it would be playing. -/
structure Mute where
  /-- The tone that would be sounding. -/
  last : Option Tone := none
deriving DecidableEq, Repr

instance : Sound Mute where
  play _ tone := .done ⟨some tone⟩
  stop _ := .done ⟨none⟩
  isPlaying d := d.last.isSome

/-- A sound device with a single pitch, which sounds until it is told to stop. -/
structure Beeper where
  /-- Whether it sounds. -/
  sounding : Bool := false
deriving DecidableEq, Repr

instance : Sound Beeper where
  play _ _ := .done ⟨true⟩
  stop _ := .done ⟨false⟩
  isPlaying d := d.sounding

end ChipEight
