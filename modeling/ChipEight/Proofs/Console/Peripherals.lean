import ChipEight.Proofs.Console.Completion
import ChipEight.Terminal.Monitor

/-! # Peripherals do not reach the program

A console turns to its display and to its sound device, and asks the sound device whether a tone
sounds. As long as neither fails, nothing that they do or answer decides what becomes of the rest of
the console: the tone request is taken, the timers tick and the cycles run in any case.

* `ReliableDisplay` and `ReliableSound`: devices that never fail;
* `Console.Alike`: two consoles that differ in these devices alone;
* `Console.Alike.frame` and `Console.Alike.runOut`: a frame, and a run, of both leaves them alike;
* `Console.peripherals_do_not_interfere`: nor can two consoles be told apart by a sequence of
  both. -/

namespace ChipEight

/-! ### Reliable devices -/

/-- A display that never fails. -/
class ReliableDisplay (δ : Type) [Display δ] : Prop where
  error_draw : ∀ (d : δ) (screen : Screen), (Display.draw d screen).error = none

/-- A sound device that never fails. -/
class ReliableSound (σ : Type) [Sound σ] : Prop where
  error_play : ∀ (d : σ) (tone : Tone), (Sound.play d tone).error = none
  error_stop : ∀ d : σ, (Sound.stop d).error = none

instance : ReliableDisplay FrameCounter := ⟨fun _ _ => rfl⟩

instance : ReliableDisplay Terminal.Monitor := ⟨fun _ _ => rfl⟩

instance : ReliableSound Mute := ⟨fun _ _ => rfl, fun _ => rfl⟩

instance : ReliableSound Beeper := ⟨fun _ _ => rfl, fun _ => rfl⟩

namespace Console

variable {δ δ' ι σ σ' : Type}

/-- To play a tone on a reliable device takes the tone request, if there is one. -/
theorem playTone_of_reliable [Sound σ] [ReliableSound σ] (c : Console δ ι σ) :
    c.playTone.error = none ∧
      ∃ sound, c.playTone.state = { c with sound, emulator := c.emulator.takeTone } := by
  rw [playTone]
  cases hpending : c.emulator.machine.pending with
  | none =>
    refine ⟨rfl, c.sound, ?_⟩
    rw [Emulator.takeTone_of_pending_eq_none hpending]
    rfl
  | some tone =>
    exact ⟨Outcome.error_map_eq_none_iff.2 (ReliableSound.error_play c.sound tone), _, rfl⟩

/-- To stop a reliable device reaches nothing else, whether it was playing or not. -/
theorem stopTone_of_reliable [Sound σ] [ReliableSound σ] (c : Console δ ι σ) :
    c.stopTone.error = none ∧ ∃ sound, c.stopTone.state = { c with sound } := by
  rw [stopTone]
  split
  · exact ⟨Outcome.error_map_eq_none_iff.2 (ReliableSound.error_stop c.sound), _, rfl⟩
  · exact ⟨rfl, c.sound, rfl⟩

/-- To show the screen on a reliable display reaches nothing else. -/
theorem showScreen_of_reliable [Display δ] [ReliableDisplay δ] (c : Console δ ι σ) :
    c.showScreen.error = none ∧ ∃ display, c.showScreen.state = { c with display } :=
  ⟨Outcome.error_map_eq_none_iff.2 (ReliableDisplay.error_draw c.display _), _, rfl⟩

/-! ### Consoles with different devices -/

/-- Two consoles that differ in their displays and their sound devices alone. -/
structure Alike (c : Console δ ι σ) (c' : Console δ' ι σ') : Prop where
  emulator_eq : c.emulator = c'.emulator
  input_eq : c.input = c'.input
  cyclesPerFrame_eq : c.cyclesPerFrame = c'.cyclesPerFrame
  frames_eq : c.frames = c'.frames

namespace Alike

variable {c : Console δ ι σ} {c' : Console δ' ι σ'}

/-- Consoles that are alike have the same parts but for two. -/
theorem exists_eq (h : Alike c c') :
    ∃ display sound, c' = ⟨c.emulator, display, c.input, sound, c.cyclesPerFrame, c.frames⟩ := by
  obtain ⟨hemulator, hinput, hcycles, hframes⟩ := h
  refine ⟨c'.display, c'.sound, ?_⟩
  rw [hemulator, hinput, hcycles, hframes]

/-- Consoles alike remain so when they read their keys. -/
theorem readKeys [Input ι] (h : Alike c c') : Outcome.Related Alike c.readKeys c'.readKeys := by
  obtain ⟨display, sound, rfl⟩ := h.exists_eq
  exact ⟨rfl, rfl, rfl, rfl, rfl⟩

/-- Consoles alike run the same cycles. -/
theorem runCycles (h : Alike c c') : Outcome.Related Alike c.runCycles c'.runCycles := by
  obtain ⟨display, sound, rfl⟩ := h.exists_eq
  exact ⟨rfl, rfl, rfl, rfl, rfl⟩

/-- Consoles alike take the same tone. -/
theorem playTone [Sound σ] [Sound σ'] [ReliableSound σ] [ReliableSound σ'] (h : Alike c c') :
    Outcome.Related Alike c.playTone c'.playTone := by
  obtain ⟨herror, sound, hstate⟩ := c.playTone_of_reliable
  obtain ⟨herror', sound', hstate'⟩ := c'.playTone_of_reliable
  refine ⟨herror.trans herror'.symm, ?_⟩
  rw [hstate, hstate']
  exact ⟨congrArg Emulator.takeTone h.emulator_eq, h.input_eq, h.cyclesPerFrame_eq, h.frames_eq⟩

/-- Consoles alike stop their tones together. -/
theorem stopTone [Sound σ] [Sound σ'] [ReliableSound σ] [ReliableSound σ'] (h : Alike c c') :
    Outcome.Related Alike c.stopTone c'.stopTone := by
  obtain ⟨herror, sound, hstate⟩ := c.stopTone_of_reliable
  obtain ⟨herror', sound', hstate'⟩ := c'.stopTone_of_reliable
  refine ⟨herror.trans herror'.symm, ?_⟩
  rw [hstate, hstate']
  exact ⟨h.emulator_eq, h.input_eq, h.cyclesPerFrame_eq, h.frames_eq⟩

/-- Consoles alike count their timers down together. -/
theorem tickTimers (h : Alike c c') : Outcome.Related Alike c.tickTimers c'.tickTimers :=
  ⟨rfl, congrArg Emulator.tick h.emulator_eq, h.input_eq, h.cyclesPerFrame_eq, h.frames_eq⟩

/-- Consoles alike remain so when they show their screens. -/
theorem showScreen [Display δ] [Display δ'] [ReliableDisplay δ] [ReliableDisplay δ']
    (h : Alike c c') : Outcome.Related Alike c.showScreen c'.showScreen := by
  obtain ⟨herror, display, hstate⟩ := c.showScreen_of_reliable
  obtain ⟨herror', display', hstate'⟩ := c'.showScreen_of_reliable
  refine ⟨herror.trans herror'.symm, ?_⟩
  rw [hstate, hstate']
  exact ⟨h.emulator_eq, h.input_eq, h.cyclesPerFrame_eq, h.frames_eq⟩

/-- Consoles alike count their frames together. -/
theorem countFrame (h : Alike c c') : Outcome.Related Alike c.countFrame c'.countFrame :=
  ⟨rfl, h.emulator_eq, h.input_eq, h.cyclesPerFrame_eq, congrArg (· + 1) h.frames_eq⟩

variable [Display δ] [Display δ'] [ReliableDisplay δ] [ReliableDisplay δ'] [Sound σ] [Sound σ']
  [ReliableSound σ] [ReliableSound σ']

/-- **A frame leaves consoles alike** that were so before, and both frames succeed or neither. -/
theorem frame [Input ι] (h : Alike c c') : Outcome.Related Alike c.frame c'.frame := by
  refine h.readKeys.andThen fun c c' h => ?_
  refine h.runCycles.andThen fun c c' h => ?_
  refine h.playTone.andThen fun c c' h => ?_
  refine h.stopTone.andThen fun c c' h => ?_
  refine h.tickTimers.andThen fun c c' h => ?_
  exact h.showScreen.andThen fun c c' h => h.countFrame

/-- **So does a run**, up to any limit. -/
theorem runOut {c : Console δ Replay σ} {c' : Console δ' Replay σ'} (h : Alike c c')
    (limit : Option Nat) : Outcome.Related Alike (c.runOut limit) (c'.runOut limit) := by
  have hgoesOn : ∀ (c : Console δ Replay σ) (c' : Console δ' Replay σ'), Alike c c' →
      c.goesOn limit = c'.goesOn limit := by
    intro c c' h
    rw [goesOn, goesOn, h.input_eq, h.frames_eq]
  have hrepeat := Outcome.Related.repeatWhile hgoesOn (fun c c' h => h.frame)
    c.input.upcoming.length h
  rw [Console.runOut, Console.runOut, ← h.input_eq]
  exact ⟨hrepeat.error_eq, hrepeat.state⟩

end Alike

/-! ### Sequences of calls -/

/-- What can be asked of a console: one frame, or a run up to a limit. -/
inductive Call where
  | frame
  | run (limit : Option Nat)
deriving DecidableEq, Repr

/-- What is known of a console after a call. -/
structure Report where
  /-- Why the call broke off, if it did. -/
  error : Option Breakdown
  /-- How many frames have been counted. -/
  frames : Nat
  emulator : Emulator
deriving DecidableEq

variable [Display δ] [Display δ'] [Sound σ] [Sound σ']

/-- The outcome of a call. -/
def perform (c : Console δ Replay σ) : Call → Outcome Breakdown (Console δ Replay σ)
  | .frame => c.frame
  | .run limit => c.runOut limit

/-- What is known after each of some calls. A call that breaks off does not end the sequence. -/
def reports (c : Console δ Replay σ) : List Call → List Report
  | [] => []
  | call :: rest =>
    let o := c.perform call
    ⟨o.error, o.state.frames, o.state.emulator⟩ :: o.state.reports rest

/-- **Peripherals do not interfere.** Two consoles with the same emulator, the same lists of keys,
the same number of cycles in a frame and the same count of frames may have different displays and
sound devices: as long as these do not fail, every sequence of frames and runs breaks off at the
same calls and for the same reasons, and leaves the same count of frames and the same emulator after
each of them. -/
theorem peripherals_do_not_interfere [ReliableDisplay δ] [ReliableDisplay δ'] [ReliableSound σ]
    [ReliableSound σ'] {c : Console δ Replay σ} {c' : Console δ' Replay σ'}
    (hemulator : c.emulator = c'.emulator) (hinput : c.input = c'.input)
    (hcycles : c.cyclesPerFrame = c'.cyclesPerFrame) (hframes : c.frames = c'.frames)
    (calls : List Call) : c.reports calls = c'.reports calls := by
  have halike : Alike c c' := ⟨hemulator, hinput, hcycles, hframes⟩
  clear hemulator hinput hcycles hframes
  induction calls generalizing c c' with
  | nil => rfl
  | cons call rest ih =>
    have hcall : Outcome.Related Alike (c.perform call) (c'.perform call) := by
      cases call with
      | frame => exact halike.frame
      | run limit => exact halike.runOut limit
    obtain ⟨herror, hstate⟩ := hcall
    rw [reports, reports]
    simp only [herror, hstate.frames_eq, hstate.emulator_eq, ih hstate]

/-- A program that asks for a tone of two ticks does not notice whether its tone is swallowed, or
heard on a device that sounded before. -/
theorem peripherals_do_not_interfere_with_tone :
    let memory := (((Memory.blank.write 0 0x60).write 1 0x02).write 2 0xf0).write 3 0x18
    let emulator : Emulator := ⟨{}, { Machine.start 0 0 with memory }⟩
    let c : Console FrameCounter Replay Mute := ⟨emulator, {}, ⟨[[], [3], [], []]⟩, {}, 2, 0⟩
    let c' : Console Terminal.Monitor Replay Beeper :=
      ⟨emulator, Terminal.Monitor.opened, ⟨[[], [3], [], []]⟩, ⟨true⟩, 2, 0⟩
    let calls : List Call := [.frame, .run (some 3), .frame]
    Sound.isPlaying c.sound ≠ Sound.isPlaying c'.sound ∧ c.emulator = c'.emulator ∧
      c.input = c'.input ∧ c.cyclesPerFrame = c'.cyclesPerFrame ∧ c.frames = c'.frames ∧
      c.reports calls = c'.reports calls := by
  intro memory emulator c c' calls
  have hplaying : Sound.isPlaying c.sound ≠ Sound.isPlaying c'.sound := Bool.false_ne_true
  have hemulator : c.emulator = c'.emulator := rfl
  have hinput : c.input = c'.input := rfl
  have hcycles : c.cyclesPerFrame = c'.cyclesPerFrame := rfl
  have hframes : c.frames = c'.frames := rfl
  exact ⟨hplaying, hemulator, hinput, hcycles, hframes,
    peripherals_do_not_interfere hemulator hinput hcycles hframes calls⟩

end Console

end ChipEight
