import ChipEight.Device.Basic

/-! # Faulty devices

Devices that fail at a time fixed beforehand and otherwise do what the device inside them does. A
failed operation leaves the device inside as it was. They show what a console makes of a broken
device. -/

namespace ChipEight

/-- A counting display that breaks for good once it has shown a number of screens. -/
structure FaultyDisplay where
  inner : FrameCounter := {}
  /-- After how many screens it breaks, and the reason it then gives. -/
  breaksAfter : Option (Nat × String) := none

instance : Display FaultyDisplay where
  draw d screen :=
    match d.breaksAfter with
    | some (n, reason) =>
      if n ≤ d.inner.frames then .fail d reason
      else (Display.draw d.inner screen).map (fun inner => { d with inner }) id
    | none => (Display.draw d.inner screen).map (fun inner => { d with inner }) id

/-- An input that fails once, at a given time of asking. -/
structure FaultyInput (ι : Type) where
  inner : ι
  /-- How often it has been asked. -/
  asked : Nat := 0
  /-- At which time of asking it fails, counted from zero, and the reason it then gives. -/
  failsAt : Option (Nat × String) := none

namespace FaultyInput

/-- The reason to fail now, if there is one. -/
def failure? (d : FaultyInput ι) : Option String :=
  d.failsAt.bind fun (n, reason) => if n = d.asked then some reason else none

end FaultyInput

instance [Input ι] : Input (FaultyInput ι) where
  poll d :=
    match d.failure? with
    | some reason => ⟨{ d with asked := d.asked + 1 }, [], .error (.unreadable (.other reason))⟩
    | none =>
      let seen := Input.poll d.inner
      ⟨{ d with inner := seen.device, asked := d.asked + 1 }, seen.entries, seen.keys⟩
  quitRequested d := Input.quitRequested d.inner

/-- A sound device that may be unable to start a tone, or to stop one. -/
structure FaultySound (σ : Type) where
  inner : σ
  /-- Why it cannot start a tone. -/
  playFailure : Option String := none
  /-- Why it cannot fall silent. -/
  stopFailure : Option String := none

instance [Sound σ] : Sound (FaultySound σ) where
  play d tone :=
    match d.playFailure with
    | some reason => .fail d reason
    | none => (Sound.play d.inner tone).map (fun inner => { d with inner }) id
  stop d :=
    match d.stopFailure with
    | some reason => .fail d reason
    | none => (Sound.stop d.inner).map (fun inner => { d with inner }) id
  isPlaying d := Sound.isPlaying d.inner

end ChipEight
