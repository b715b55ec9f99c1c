import ChipEight.Console.Basic
import ChipEight.Proofs.Device.Mirror
import ChipEight.Proofs.Emulator.Runs
import ChipEight.Proofs.Outcome.Chains

/-! # The two halves of a frame

A frame first reads the keys and runs its cycles (`Console.readAndRun`), and then sees to the sound,
the timers and the picture (`Console.respond`). The first half reaches the input and the emulator
alone, and if it breaks off there is no second half.

* `Console.frame_eq`: a frame is its two halves;
* `Console.afterFrames`: the console after a number of frames, also if some of them broke off. -/

namespace ChipEight

namespace Console

variable {δ ι σ : Type}

/-! ### The first half -/

section Reading

variable [Input ι]

/-- The first half of a frame: the keys and the cycles. -/
def readAndRun (c : Console δ ι σ) : Outcome Breakdown (Console δ ι σ) :=
  c.readKeys.andThen runCycles

/-- To read the keys changes the input and the keypad. -/
theorem state_readKeys (c : Console δ ι σ) :
    ∃ input keypad, c.readKeys.state =
      { c with
        input, emulator := { c.emulator with machine := { c.emulator.machine with keypad } } } := by
  rw [readKeys, Input.sync]
  -- The input device has been asked in either case, also if it saw no keys.
  cases hkeys : (Input.poll c.input).keys with
  | error fault => exact ⟨_, c.emulator.machine.keypad, rfl⟩
  | ok seen =>
    refine ⟨(Input.poll c.input).device, Keypad.holding seen, ?_⟩
    show { c with input := _, emulator := (reportKeys _ seen Keypad.keys c.emulator).state } = _
    rw [Emulator.reportKeys_eq]
    rfl

/-- If the input can be read, the keypad mirrors what it saw. -/
theorem readKeys_of_poll {c : Console δ ι σ} {seen : List UInt8}
    (h : (Input.poll c.input).keys = .ok seen) :
    c.readKeys =
      ⟨{ c with input := (Input.poll c.input).device, emulator := c.emulator.holding seen },
        (Input.poll c.input).entries, none⟩ := by
  rw [readKeys, Input.sync]
  simp only [h]
  rw [Emulator.reportKeys_eq]
  simp [Outcome.map, Outcome.noting, Outcome.done]

/-- The first half changes the input and the emulator. -/
theorem state_readAndRun (c : Console δ ι σ) :
    ∃ input emulator, c.readAndRun.state = { c with input, emulator } := by
  obtain ⟨input, keypad, h⟩ := c.state_readKeys
  cases herror : c.readKeys.error with
  | some b =>
    rw [readAndRun, Outcome.andThen_of_error_eq_some herror]
    exact ⟨input, _, h⟩
  | none =>
    rw [readAndRun, Outcome.andThen_of_error_eq_none herror, h]
    exact ⟨input, _, rfl⟩

/-- A first half that succeeds has put the keys that the input saw on the keypad, and has run all
the cycles. -/
theorem emulator_readAndRun {c : Console δ ι σ} (h : c.readAndRun.error = none) :
    ∃ seen, (Input.poll c.input).keys = .ok seen ∧
      c.readAndRun.state.emulator =
        (c.emulator.holding seen).after (List.replicate c.cyclesPerFrame .cycle) := by
  obtain ⟨hread, hrun⟩ := Outcome.error_andThen_eq_none_iff.1 h
  cases hkeys : (Input.poll c.input).keys with
  | error fault =>
    -- An input that cannot be read breaks the frame off before its first cycle.
    have hfails : c.readKeys.error = some (.machine fault) := by
      rw [readKeys, Input.sync, hkeys]
      rfl
    exact absurd (hfails.symm.trans hread) (Option.some_ne_none _)
  | ok seen =>
    rw [readKeys_of_poll hkeys] at hrun
    refine ⟨seen, rfl, ?_⟩
    rw [readAndRun, Outcome.state_andThen_of_error_eq_none hread, readKeys_of_poll hkeys]
    exact Outcome.state_iterate
      (fun n => (c.emulator.holding seen).after (List.replicate n .cycle))
      (fun n => (c.emulator.holding seen).after_replicate_succ .cycle n)
      (Outcome.error_map_eq_none_iff.1 hrun)

end Reading

/-! ### The sound -/

section Playing

variable [Sound σ]

/-- To play a tone takes the tone request, if there is one, also if the device then fails. -/
theorem emulator_playTone (c : Console δ ι σ) :
    c.playTone.state.emulator = c.emulator.takeTone := by
  rw [playTone]
  cases hpending : c.emulator.machine.pending with
  | none => exact (Emulator.takeTone_of_pending_eq_none hpending).symm
  | some tone => rfl

/-- To stop the sound device does not reach the emulator. -/
theorem emulator_stopTone (c : Console δ ι σ) : c.stopTone.state.emulator = c.emulator := by
  rw [stopTone]
  split <;> rfl

end Playing

/-! ### The last stages -/

section Showing

variable [Display δ]

/-- The last stages of a frame: the timers, the picture and the count of frames. -/
def tickAndShow (c : Console δ ι σ) : Outcome Breakdown (Console δ ι σ) :=
  c.tickTimers.andThen fun c => c.showScreen.andThen countFrame

/-- The last stages let the timers tick, also if the display then fails. -/
theorem state_tickAndShow (c : Console δ ι σ) :
    ∃ display frames, c.tickAndShow.state =
      { c with display, frames, emulator := c.emulator.tick } := by
  rw [tickAndShow, tickTimers, Outcome.andThen_done]
  cases herror : (showScreen { c with emulator := c.emulator.tick }).error with
  | some b =>
    rw [Outcome.andThen_of_error_eq_some herror]
    exact ⟨_, c.frames, rfl⟩
  | none =>
    rw [Outcome.andThen_of_error_eq_none herror]
    exact ⟨_, c.frames + 1, rfl⟩

/-- Of the turns after the sound, only the tick of the timers touches the emulator. -/
theorem emulator_tickAndShow (c : Console δ ι σ) :
    c.tickAndShow.state.emulator = c.emulator.tick := by
  obtain ⟨display, frames, h⟩ := c.state_tickAndShow
  rw [h]

end Showing

/-! ### Whole frames -/

variable [Display δ] [Input ι] [Sound σ]

/-- The second half of a frame: the sound, and then the last stages. -/
def respond (c : Console δ ι σ) : Outcome Breakdown (Console δ ι σ) :=
  c.playTone.andThen fun c => c.stopTone.andThen tickAndShow

/-- The console after `n` frames, also if some of them broke off. -/
def afterFrames (c : Console δ ι σ) : Nat → Console δ ι σ
  | 0 => c
  | n + 1 => (c.afterFrames n).frame.state

/-- **A frame is its two halves.** -/
theorem frame_eq (c : Console δ ι σ) : c.frame = c.readAndRun.andThen respond :=
  (Outcome.andThen_assoc _ _ _).symm

/-- A frame whose first half breaks off has no second half. -/
theorem frame_of_error {c : Console δ ι σ} {b : Breakdown} (h : c.readAndRun.error = some b) :
    c.frame = c.readAndRun := by
  rw [frame_eq, Outcome.andThen_of_error_eq_some h]

/-- The second half starts where the first one has ended. -/
theorem state_frame {c : Console δ ι σ} (h : c.readAndRun.error = none) :
    c.frame.state = c.readAndRun.state.respond.state := by
  rw [frame_eq, Outcome.state_andThen_of_error_eq_none h]

/-- A frame that succeeds has run all its cycles. -/
theorem error_readAndRun {c : Console δ ι σ} (h : c.frame.error = none) :
    c.readAndRun.error = none := by
  rw [frame_eq] at h
  exact (Outcome.error_andThen_eq_none_iff.1 h).1

/-- **All that a frame that succeeds does to the emulator**, whatever its devices are: the keys are
put on the keypad, the cycles run, the tone request is taken, and the timers tick. -/
theorem emulator_frame {c : Console δ ι σ} (h : c.frame.error = none) :
    ∃ seen, (Input.poll c.input).keys = .ok seen ∧
      c.frame.state.emulator =
        ((c.emulator.holding seen).after
          (List.replicate c.cyclesPerFrame .cycle)).takeTone.tick := by
  have hran := error_readAndRun h
  rw [frame_eq, Outcome.error_andThen_eq_none_iff, respond, Outcome.error_andThen_eq_none_iff,
    Outcome.error_andThen_eq_none_iff] at h
  obtain ⟨-, hplay, hstop, -⟩ := h
  obtain ⟨seen, hkeys, hemulator⟩ := emulator_readAndRun hran
  refine ⟨seen, hkeys, ?_⟩
  rw [state_frame hran, respond, Outcome.state_andThen_of_error_eq_none hplay,
    Outcome.state_andThen_of_error_eq_none hstop, emulator_tickAndShow, emulator_stopTone,
    emulator_playTone, hemulator]

end Console

end ChipEight
