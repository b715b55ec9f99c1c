import ChipEight.Device.Basic
import ChipEight.Proofs.Console.Silence

/-! # When the sound device plays

A tone is asked for during the cycles of a frame and starts after them; it stops after the cycles
that find the sound timer at zero; and only then the timers tick. Hence a device plays after a frame
if and only if the timer was positive between the cycles and the tick, and a timer set to `n` is
heard after `n` frames.

The invariant behind this is `Machine.Accounted`: a positive timer has been asked for, or sounds
already.

* `Console.state_frame_mute`: all that a frame does to a device without failures;
* `Console.isPlaying_frame` and `Console.last_afterFrames`: one frame, and the frames of one tone;
* `Console.sound_follows_timer`: the law for a console that has just been built. -/

namespace ChipEight

namespace Console

variable {δ ι : Type}

/-! ### What the second half does to the device -/

/-- After the cycles the latest tone request is played, if there is one. -/
theorem playTone_mute (c : Console δ ι Mute) :
    c.playTone = .done
      { c with
        sound := ⟨c.emulator.machine.pending.or c.sound.last⟩
        emulator := c.emulator.takeTone } := by
  rw [playTone]
  cases hpending : c.emulator.machine.pending with
  | none =>
    rw [Emulator.takeTone_of_pending_eq_none hpending]
    rfl
  | some tone => rfl

/-- At zero the device falls silent, whether a tone sounded or not. -/
theorem stopTone_mute (c : Console δ ι Mute) :
    c.stopTone = .done
      { c with sound := ⟨if c.emulator.machine.sound = 0 then none else c.sound.last⟩ } := by
  rw [stopTone]
  by_cases hzero : c.emulator.machine.sound = 0
  · rw [if_pos hzero]
    cases hlast : c.sound.last with
    | some tone =>
      have hplaying : Sound.isPlaying c.sound = true := by
        show c.sound.last.isSome = true
        rw [hlast, Option.isSome_some]
      rw [if_pos ⟨hzero, hplaying⟩]
      rfl
    | none =>
      have hplaying : Sound.isPlaying c.sound = false := by
        show c.sound.last.isSome = false
        rw [hlast, Option.isSome_none]
      rw [if_neg fun h => Bool.false_ne_true (hplaying.symm.trans h.2), ← hlast]
  · rw [if_neg fun h => hzero h.1, if_neg hzero]

/-- **All that the second half of a frame does** with a device that does not fail. -/
theorem state_respond_mute [Display δ] (c : Console δ ι Mute) :
    ∃ display frames, c.respond.state =
      { c with
        display, frames
        sound :=
          ⟨if c.emulator.machine.sound = 0 then none
            else c.emulator.machine.pending.or c.sound.last⟩
        emulator := c.emulator.takeTone.tick } := by
  rw [respond, playTone_mute, Outcome.andThen_done, stopTone_mute, Outcome.andThen_done]
  exact state_tickAndShow _

/-- The cycles of a frame leave a positive timer accounted for. -/
theorem accounted_readAndRun [Input ι] {c : Console δ ι Mute}
    (h : c.emulator.machine.Accounted (Sound.isPlaying c.sound)) :
    c.readAndRun.state.emulator.machine.Accounted (Sound.isPlaying c.sound) :=
  Machine.accounted_of_audio_eq c.audio_readAndRun (h.setSounds _)

variable [Display δ] [Input ι]

/-- What a frame leaves of the tone once its cycles have run. -/
theorem state_frame_mute {c : Console δ ι Mute} (h : c.readAndRun.error = none) :
    let m := c.readAndRun.state.emulator.machine
    c.frame.state.sound.last = (if m.sound = 0 then none else m.pending.or c.sound.last) ∧
      c.frame.state.emulator.machine = m.takeTone.tick := by
  obtain ⟨input, emulator, hrun⟩ := c.state_readAndRun
  obtain ⟨display, frames, hrespond⟩ := state_respond_mute { c with input, emulator }
  rw [state_frame h, hrun, hrespond]
  exact ⟨rfl, rfl⟩

/-! ### The law -/

/-- After a frame the device plays if and only if the timer was positive before it ticked. -/
theorem isPlaying_frame {c : Console δ ι Mute}
    (haccounted : c.emulator.machine.Accounted (Sound.isPlaying c.sound))
    (h : c.readAndRun.error = none) :
    Sound.isPlaying c.frame.state.sound = true ↔
      0 < c.readAndRun.state.emulator.machine.sound := by
  show c.frame.state.sound.last.isSome = true ↔ _
  rw [(state_frame_mute h).1]
  by_cases hzero : c.readAndRun.state.emulator.machine.sound = 0
  · rw [if_pos hzero, hzero]
    decide
  · have hpos : 0 < c.readAndRun.state.emulator.machine.sound := UInt8.pos_iff_ne_zero.2 hzero
    rw [if_neg hzero, Option.isSome_or, Bool.or_eq_true]
    refine ⟨fun _ => hpos, fun _ => ?_⟩
    exact (accounted_readAndRun haccounted hpos).imp_left Option.isSome_iff_ne_none.2

/-- **Every frame keeps a positive timer accounted for**, also if it breaks off. -/
theorem accounted_frame {c : Console δ ι Mute}
    (haccounted : c.emulator.machine.Accounted (Sound.isPlaying c.sound)) :
    c.frame.state.emulator.machine.Accounted (Sound.isPlaying c.frame.state.sound) := by
  cases herror : c.readAndRun.error with
  | some b =>
    have hran := accounted_readAndRun haccounted
    obtain ⟨input, emulator, hstate⟩ := c.state_readAndRun
    rw [frame_of_error herror]
    rw [hstate] at hran ⊢
    exact hran
  | none =>
    -- The tick leaves a positive timer only where there was one, and then the device plays.
    intro hpos
    refine Or.inr ((isPlaying_frame haccounted herror).2 ?_)
    rw [(state_frame_mute herror).2] at hpos
    rw [UInt8.lt_iff_toNat_lt, Machine.toNat_sound_tick] at hpos
    exact UInt8.lt_iff_toNat_lt.2 (Nat.lt_of_lt_of_le hpos (Nat.sub_le _ 1))

/-- Every run of frames keeps a positive timer accounted for. -/
theorem accounted_afterFrames {c : Console δ ι Mute}
    (haccounted : c.emulator.machine.Accounted (Sound.isPlaying c.sound)) (n : Nat) :
    (c.afterFrames n).emulator.machine.Accounted (Sound.isPlaying (c.afterFrames n).sound) := by
  induction n with
  | zero => exact haccounted
  | succ n ih => exact accounted_frame ih

/-- A frame whose last setting is positive starts that tone, and one tick of it is over. -/
theorem frame_of_getLast? {c : Console δ ι Mute} {value : UInt8} (h : c.frame.error = none)
    (hlast : c.soundSettings.getLast? = some value) (hpos : 0 < value) :
    c.frame.state.sound.last = some ⟨value⟩ ∧
      c.frame.state.emulator.machine.sound.toNat = value.toNat - 1 ∧
      c.frame.state.emulator.machine.pending = none := by
  have haudio : c.readAndRun.state.emulator.machine.audio = (value, some ⟨value⟩) :=
    c.audio_readAndRun.trans (Machine.audio_setSounds_of_getLast? _ hlast hpos)
  have hsound : c.readAndRun.state.emulator.machine.sound = value := congrArg Prod.fst haudio
  have hpending : c.readAndRun.state.emulator.machine.pending = some ⟨value⟩ :=
    congrArg Prod.snd haudio
  obtain ⟨htone, hmachine⟩ := state_frame_mute (error_readAndRun h)
  rw [htone, hmachine, Machine.toNat_sound_tick]
  refine ⟨?_, congrArg (·.toNat - 1) hsound, rfl⟩
  rw [hsound, hpending, if_neg (UInt8.pos_iff_ne_zero.1 hpos), Option.some_or]

/-- A frame without a setting keeps the tone on, or switches it off at zero. -/
theorem frame_of_no_settings {c : Console δ ι Mute} (h : c.frame.error = none)
    (hnone : c.soundSettings = []) (hpending : c.emulator.machine.pending = none) :
    c.frame.state.sound.last =
        (if c.emulator.machine.sound = 0 then none else c.sound.last) ∧
      c.frame.state.emulator.machine.sound.toNat = c.emulator.machine.sound.toNat - 1 ∧
      c.frame.state.emulator.machine.pending = none := by
  have haudio : c.readAndRun.state.emulator.machine.audio = c.emulator.machine.audio := by
    rw [audio_readAndRun, hnone, Machine.setSounds_nil]
  have hsound : c.readAndRun.state.emulator.machine.sound = c.emulator.machine.sound :=
    congrArg Prod.fst haudio
  have hran : c.readAndRun.state.emulator.machine.pending = none :=
    (congrArg Prod.snd haudio).trans hpending
  obtain ⟨htone, hmachine⟩ := state_frame_mute (error_readAndRun h)
  rw [htone, hmachine, Machine.toNat_sound_tick]
  refine ⟨?_, congrArg (·.toNat - 1) hsound, rfl⟩
  rw [hsound, hran, Option.none_or]

/-- **A timer set to `n` sounds for `n` frames.** The tone starts in the frame that sets it, and
stops in the `n`-th frame after that, if none of these frames sets the timer again. -/
theorem last_afterFrames {c : Console δ ι Mute} {f : Nat} {value : UInt8} (hpos : 0 < value)
    (h : (c.afterFrames f).frame.error = none)
    (hlast : (c.afterFrames f).soundSettings.getLast? = some value)
    (hlater : ∀ k, 1 ≤ k → k ≤ value.toNat →
      (c.afterFrames (f + k)).frame.error = none ∧ (c.afterFrames (f + k)).soundSettings = [])
    (k : Nat) (hk : k ≤ value.toNat) :
    (c.afterFrames (f + k + 1)).sound.last = (if k < value.toNat then some ⟨value⟩ else none) ∧
      (c.afterFrames (f + k + 1)).emulator.machine.sound.toNat = value.toNat - (k + 1) ∧
      (c.afterFrames (f + k + 1)).emulator.machine.pending = none := by
  -- After `k + 1` frames the tone still sounds, and `value - (k + 1)` ticks of it are left.
  induction k with
  | zero =>
    obtain ⟨htone, hsound, hpending⟩ := frame_of_getLast? h hlast hpos
    have hlt : 0 < value.toNat := UInt8.lt_iff_toNat_lt.1 hpos
    rw [if_pos hlt]
    exact ⟨htone, hsound, hpending⟩
  | succ k ih =>
    obtain ⟨htone, hsound, hpending⟩ := ih (Nat.le_of_succ_le hk)
    obtain ⟨hframe, hnone⟩ := hlater (k + 1) (Nat.succ_pos k) hk
    rw [← Nat.add_assoc] at hframe hnone ⊢
    obtain ⟨htone', hsound', hpending'⟩ := frame_of_no_settings hframe hnone hpending
    have hbefore : k < value.toNat := hk
    rw [if_pos hbefore] at htone
    rw [hsound, Nat.sub_sub] at hsound'
    refine ⟨?_, hsound', hpending'⟩
    show (c.afterFrames (f + k + 1)).frame.state.sound.last = _
    rw [htone', htone]
    -- The timer stands at zero before the tick exactly in the last of these frames.
    by_cases hlt : k + 1 < value.toNat
    · have hne : (c.afterFrames (f + k + 1)).emulator.machine.sound ≠ 0 := by
        intro hzero
        rw [hzero] at hsound
        exact Nat.sub_ne_zero_of_lt hlt hsound.symm
      rw [if_neg hne, if_pos hlt]
    · have hzero : (c.afterFrames (f + k + 1)).emulator.machine.sound = 0 := by
        rw [← UInt8.toNat_inj, hsound]
        exact Nat.sub_eq_zero_of_le (Nat.not_lt.1 hlt)
      rw [if_pos hzero, if_neg hlt]

/-! ### A console that has just been built -/

/-- A console around an emulator that has not run: any bytes may have been loaded into memory, and
the device is silent. -/
def fresh (settings : Settings) (entropy : Random.Key) (memory : Memory) (display : δ) (input : ι)
    (cyclesPerFrame : Nat) : Console δ ι Mute where
  emulator := ⟨settings, { (Emulator.boot settings entropy).machine with memory }⟩
  display
  input
  sound := {}
  cyclesPerFrame

/-- **The device follows the sound timer.** For a console that has just been built:

* after every frame that succeeds the device plays if and only if the sound timer was positive after
  the cycles of the frame and before its tick;
* if the last setting of a frame is `value > 0` and the next `value` frames succeed and set nothing,
  then the tone of that length sounds after the first `value` of these frames, and none after the
  last;
* if no frame sets the timer to a positive value, the device is told nothing at all, to go by a
  record that makes no difference to the run. -/
theorem sound_follows_timer (settings : Settings) (entropy : Random.Key) (memory : Memory)
    (display : δ) (input : ι) (cyclesPerFrame : Nat) :
    let c := fresh settings entropy memory display input cyclesPerFrame
    (∀ n, (c.afterFrames n).frame.error = none →
      (Sound.isPlaying (c.afterFrames (n + 1)).sound = true ↔
        0 < (c.afterFrames n).readAndRun.state.emulator.machine.sound)) ∧
    (∀ f value, 0 < value → (c.afterFrames f).frame.error = none →
      (c.afterFrames f).soundSettings.getLast? = some value →
      (∀ k, 1 ≤ k → k ≤ value.toNat → (c.afterFrames (f + k)).frame.error = none ∧
        (c.afterFrames (f + k)).soundSettings = []) →
      ∀ k ≤ value.toNat,
        Sound.isPlaying (c.afterFrames (f + k + 1)).sound = decide (k < value.toNat) ∧
        (c.afterFrames (f + k + 1)).sound.last =
          if k < value.toNat then some ⟨value⟩ else none) ∧
    ∀ n, (∀ k < n, ∀ value ∈ (c.afterFrames k).soundSettings, value = 0) →
      (c.recorded.afterFrames n).forget = c.afterFrames n ∧
        (c.recorded.afterFrames n).sound.calls = [] := by
  intro c
  refine ⟨fun n h => ?_, fun f value hpos h hlast hlater k hk => ?_, fun n hsettings => ?_⟩
  · -- The timer of a fresh console is zero, so there is no tone to account for yet.
    have hstart : c.emulator.machine.Accounted (Sound.isPlaying c.sound) :=
      fun hpos => absurd hpos (UInt8.lt_irrefl 0)
    exact isPlaying_frame (accounted_afterFrames hstart n) (error_readAndRun h)
  · have htone := (last_afterFrames hpos h hlast hlater k hk).1
    refine ⟨?_, htone⟩
    show (c.afterFrames (f + k + 1)).sound.last.isSome = _
    rw [htone]
    by_cases hlt : k < value.toNat
    · rw [if_pos hlt, decide_eq_true hlt, Option.isSome_some]
    · rw [if_neg hlt, decide_eq_false hlt, Option.isSome_none]
  · have hforget : ∀ k, (c.recorded.afterFrames k).forget = c.afterFrames k := by
      intro k
      rw [forget_afterFrames, forget_recorded]
    refine ⟨hforget n, ?_⟩
    -- The console with a record starts silent, and a frame that sets no timer keeps it so.
    have hsilent : c.recorded.Silent := ⟨rfl, rfl, rfl⟩
    have hcalls := (hsilent.afterFrames n fun k hk => ?_).2
    · rw [hcalls]
      rfl
    · rw [← soundSettings_forget, hforget]
      exact hsettings k hk

/-- A program that asks for a tone of two ticks, and then clears the screen for ever, is heard after
two frames. -/
theorem sound_follows_timer_of_two_ticks :
    let memory := (((Memory.blank.write 0 0x60).write 1 0x02).write 2 0xf0).write 3 0x18
    let c := fresh { programAddress := 0 } 0 memory ({} : FrameCounter) (⟨[]⟩ : Replay) 2
    (∀ k ≤ 2, (c.afterFrames k).frame.error = none) ∧
      (c.afterFrames 0).soundSettings.getLast? = some 2 ∧
      (c.afterFrames 1).soundSettings = [] ∧ (c.afterFrames 2).soundSettings = [] ∧
      (c.afterFrames 1).sound.last = some ⟨2⟩ ∧ (c.afterFrames 2).sound.last = some ⟨2⟩ ∧
      (c.afterFrames 3).sound.last = none := by
  intro memory c
  have hframes : (∀ k ≤ 2, (c.afterFrames k).frame.error = none) ∧
      (c.afterFrames 0).soundSettings.getLast? = some 2 ∧
      (c.afterFrames 1).soundSettings = [] ∧ (c.afterFrames 2).soundSettings = [] := by
    decide +kernel
  obtain ⟨herror, hlast, hnone, hnone'⟩ := hframes
  have hlater : ∀ k, 1 ≤ k → k ≤ (2 : UInt8).toNat →
      (c.afterFrames (0 + k)).frame.error = none ∧ (c.afterFrames (0 + k)).soundSettings = [] := by
    intro k hpos hk
    have hcases : k = 1 ∨ k = 2 := by
      have hle : k ≤ 2 := hk
      omega
    rcases hcases with rfl | rfl
    · exact ⟨herror 1 (by decide), hnone⟩
    · exact ⟨herror 2 (by decide), hnone'⟩
  have htone := (sound_follows_timer { programAddress := 0 } 0 memory ({} : FrameCounter)
    (⟨[]⟩ : Replay) 2).2.1 0 2 (by decide) (herror 0 (by decide)) hlast hlater
  refine ⟨herror, hlast, hnone, hnone', ?_, ?_, ?_⟩
  · exact (htone 0 (by decide)).2
  · exact (htone 1 (by decide)).2
  · exact (htone 2 (by decide)).2

end Console

end ChipEight
