import ChipEight.Proofs.Device.Recorded
import ChipEight.Proofs.Emulator.Audio

/-! # Silent runs

The sound device hears of a program only through the values that the program sets the sound timer
to. While none of them is positive, a console that is silent stays so and leaves its device alone,
whatever device that is.

* `Console.soundSettings`: what the program sets the sound timer to in the next frame;
* `Console.Silent`: no tone sounds, is asked for or is left on the timer. -/

namespace ChipEight.Console

variable {δ ι σ : Type}

/-! ### Settings -/

section Settings

variable [Input ι]

/-- The values that the program sets the sound timer to in the next frame, in order. -/
def soundSettings (c : Console δ ι σ) : List UInt8 :=
  if c.readKeys.error = none then c.readKeys.state.emulator.soundSettings c.cyclesPerFrame else []

/-- **The first half of a frame is heard only through its settings.** -/
theorem audio_readAndRun (c : Console δ ι σ) :
    c.readAndRun.state.emulator.machine.audio =
      (c.emulator.machine.setSounds c.soundSettings).audio := by
  obtain ⟨input, keypad, h⟩ := c.state_readKeys
  have haudio : c.readKeys.state.emulator.machine.audio = c.emulator.machine.audio := by
    rw [h]
    rfl
  have hcycles : c.readKeys.state.cyclesPerFrame = c.cyclesPerFrame := by rw [h]
  rw [readAndRun, soundSettings]
  cases herror : c.readKeys.error with
  | some b =>
    rw [Outcome.andThen_of_error_eq_some herror, if_neg (Option.some_ne_none b)]
    exact haudio
  | none =>
    rw [Outcome.andThen_of_error_eq_none herror, if_pos rfl]
    show (c.readKeys.state.emulator.cycles c.readKeys.state.cyclesPerFrame).state.machine.audio = _
    rw [hcycles, Emulator.audio_cycles]
    exact Machine.audio_setSounds_congr haudio _

/-- A record makes no difference to what the program sets the timer to. -/
theorem soundSettings_forget (c : Console δ ι (Recorded σ)) :
    c.forget.soundSettings = c.soundSettings := by
  have herror : (c.readKeys.map forget id).error = none ↔ c.readKeys.error = none :=
    Outcome.error_map_eq_none_iff
  rw [soundSettings, soundSettings, ← forget_readKeys]
  simp only [herror]
  rfl

end Settings

/-! ### Silence -/

variable [Sound σ]

/-- Nothing sounds, nothing has been asked for, and the timer stands at zero. -/
structure Silent (c : Console δ ι σ) : Prop where
  sound : c.emulator.machine.sound = 0
  pending : c.emulator.machine.pending = none
  playing : Sound.isPlaying c.sound = false

/-- The second half of a silent frame does not turn to the device. -/
theorem Silent.respond [Display δ] {c : Console δ ι σ} (h : c.Silent) :
    ∃ display frames, c.respond.state =
      { c with display, frames, emulator := c.emulator.tick } := by
  have hplay : c.playTone = .done c := by rw [playTone, h.pending]
  have hstop : c.stopTone = .done c :=
    if_neg fun hboth => Bool.false_ne_true (h.playing.symm.trans hboth.2)
  rw [Console.respond, hplay, Outcome.andThen_done, hstop, Outcome.andThen_done]
  exact c.state_tickAndShow

variable [Display δ] [Input ι]

/-- **A silent console without a positive setting stays silent**, and its device is left alone. -/
theorem Silent.frame {c : Console δ ι σ} (h : c.Silent)
    (hsettings : ∀ value ∈ c.soundSettings, value = 0) :
    c.frame.state.Silent ∧ c.frame.state.sound = c.sound := by
  have haudio : c.readAndRun.state.emulator.machine.audio = c.emulator.machine.audio :=
    c.audio_readAndRun.trans (Machine.audio_setSounds_of_forall_eq_zero h.sound hsettings)
  obtain ⟨input, emulator, hrun⟩ := c.state_readAndRun
  rw [hrun] at haudio
  have hran : Silent { c with input, emulator } :=
    ⟨(congrArg Prod.fst haudio).trans h.sound, (congrArg Prod.snd haudio).trans h.pending,
      h.playing⟩
  -- The second half finds the console as silent as the first half did.
  cases herror : c.readAndRun.error with
  | some b =>
    rw [frame_of_error herror, hrun]
    exact ⟨hran, rfl⟩
  | none =>
    obtain ⟨display, frames, hrespond⟩ := hran.respond
    rw [state_frame herror, hrun, hrespond]
    refine ⟨⟨?_, hran.pending, h.playing⟩, rfl⟩
    exact if_pos hran.sound

/-- A run without a positive setting leaves the device alone. -/
theorem Silent.afterFrames {c : Console δ ι σ} (h : c.Silent) (n : Nat)
    (hsettings : ∀ k < n, ∀ value ∈ (c.afterFrames k).soundSettings, value = 0) :
    (c.afterFrames n).Silent ∧ (c.afterFrames n).sound = c.sound := by
  induction n with
  | zero => exact ⟨h, rfl⟩
  | succ n ih =>
    obtain ⟨hsilent, hsound⟩ := ih fun k hk => hsettings k (Nat.lt_succ_of_lt hk)
    obtain ⟨hsilent', hsound'⟩ := hsilent.frame (hsettings n (Nat.lt_succ_self n))
    exact ⟨hsilent', hsound'.trans hsound⟩

end ChipEight.Console
