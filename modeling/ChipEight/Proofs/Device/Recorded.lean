import ChipEight.Proofs.Console.Frame

/-! # Recorded sound devices

A device with a record of what it was told behaves as the device does without one: a console with
the recorded device takes the same course, and forgetting the record afterwards or before makes no
difference (`Console.forget_afterFrames`). So the record tells what a console says to its device. -/

namespace ChipEight

/-- What a sound device can be told. -/
inductive SoundCall where
  | play (tone : Tone)
  | stop
deriving DecidableEq, Repr

/-- A sound device and what it has been told, the latest last. -/
structure Recorded (σ : Type) where
  device : σ
  calls : List SoundCall := []
deriving DecidableEq, Repr

instance {σ : Type} [Sound σ] : Sound (Recorded σ) where
  play d tone := (Sound.play d.device tone).map (⟨·, d.calls ++ [.play tone]⟩) id
  stop d := (Sound.stop d.device).map (⟨·, d.calls ++ [.stop]⟩) id
  isPlaying d := Sound.isPlaying d.device

namespace Console

variable {δ ι σ : Type}

/-- The console with a record, still empty, of what its sound device is told. -/
def recorded (c : Console δ ι σ) : Console δ ι (Recorded σ) :=
  ⟨c.emulator, c.display, c.input, { device := c.sound }, c.cyclesPerFrame, c.frames⟩

/-- The console without the record. -/
def forget (c : Console δ ι (Recorded σ)) : Console δ ι σ :=
  ⟨c.emulator, c.display, c.input, c.sound.device, c.cyclesPerFrame, c.frames⟩

@[simp] theorem forget_recorded (c : Console δ ι σ) : c.recorded.forget = c := rfl

/-! ### Stage by stage -/

/-- Reading the keys does not depend on the record of the sound. -/
theorem forget_readKeys [Input ι] (c : Console δ ι (Recorded σ)) :
    c.readKeys.map forget id = c.forget.readKeys := by
  show (Outcome.map _ _ _).map _ _ = _
  rw [Outcome.map_map]
  rfl

/-- Running cycles does not depend on it. -/
theorem forget_runCycles (c : Console δ ι (Recorded σ)) :
    c.runCycles.map forget id = c.forget.runCycles :=
  Outcome.map_map _ _ _ _ _

/-- A recorded sound plays a tone as the sound itself does. -/
theorem forget_playTone [Sound σ] (c : Console δ ι (Recorded σ)) :
    c.playTone.map forget id = c.forget.playTone := by
  have hpending : c.forget.emulator.machine.pending = c.emulator.machine.pending := rfl
  rw [playTone, playTone, hpending]
  cases c.emulator.machine.pending with
  | none => rfl
  | some tone =>
    show (Outcome.map _ _ ((Sound.play c.sound.device tone).map _ id)).map _ _ = _
    rw [Outcome.map_map, Outcome.map_map]
    rfl

/-- A recorded sound stops its tone as the sound itself does. -/
theorem forget_stopTone [Sound σ] (c : Console δ ι (Recorded σ)) :
    c.stopTone.map forget id = c.forget.stopTone := by
  rw [stopTone, stopTone, apply_ite (Outcome.map forget id), Outcome.map_map]
  show ite _ (((Sound.stop c.sound.device).map _ id).map _ _) _ = _
  rw [Outcome.map_map]
  rfl

/-- Showing the screen does not depend on the record. -/
theorem forget_showScreen [Display δ] (c : Console δ ι (Recorded σ)) :
    c.showScreen.map forget id = c.forget.showScreen :=
  Outcome.map_map _ _ _ _ _

/-! ### Whole frames -/

variable [Display δ] [Input ι] [Sound σ]

/-- **A frame takes the same course with a record and without.** -/
theorem forget_frame (c : Console δ ι (Recorded σ)) :
    c.frame.map forget id = c.forget.frame := by
  refine Outcome.map_andThen c.forget_readKeys fun c => ?_
  refine Outcome.map_andThen c.forget_runCycles fun c => ?_
  refine Outcome.map_andThen c.forget_playTone fun c => ?_
  refine Outcome.map_andThen c.forget_stopTone fun c => ?_
  -- The timers tick without a failure, and so does the count of frames.
  refine Outcome.map_andThen rfl fun c => ?_
  exact Outcome.map_andThen c.forget_showScreen fun _ => rfl

/-- A run of frames takes the same course with a record and without. -/
theorem forget_afterFrames (c : Console δ ι (Recorded σ)) (n : Nat) :
    (c.afterFrames n).forget = c.forget.afterFrames n := by
  induction n with
  | zero => rfl
  | succ n ih =>
    rw [afterFrames, afterFrames, ← ih, ← forget_frame]
    rfl

end Console

end ChipEight
