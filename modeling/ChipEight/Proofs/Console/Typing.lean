import ChipEight.Proofs.Console.Completion
import ChipEight.Proofs.Emulator.KeyMoves
import ChipEight.Proofs.Terminal.Listening

/-! # Typing at a console

What is typed between two frames is heard in the second of them, and in no other. A key of the
keypad is down during a whole frame if its character was typed for this frame, and up otherwise,
since cycles do not move keys. An Escape lets the frame in which it is heard go on to its end, and
is the end of a run.

* `Console.keypad_readKeys`: which keys are down once a frame has asked its input;
* `Emulator.keypad_after_cycles`: they stay where they are during the cycles;
* `Console.typed_keys_reach_their_frame`: what becomes of batches of events, at the keyboard and in
  the frames of a run. -/

namespace ChipEight

/-- Cycles do not move keys. -/
theorem Emulator.keypad_after_cycles (e : Emulator) (n : Nat) :
    (e.after (List.replicate n .cycle)).machine.keypad = e.machine.keypad := by
  rw [keypad_after, List.filterMap_replicate_of_none rfl, Keypad.afterMoves_nil]

namespace Console

variable {δ ι σ : Type}

/-- Once a frame has asked its input, the keys that were seen are down, and no others. -/
theorem keypad_readKeys [Input ι] {c : Console δ ι σ} {seen : List UInt8}
    (h : (Input.poll c.input).keys = .ok seen) :
    c.readKeys.state.emulator.machine.keypad = Keypad.holding seen := by
  rw [readKeys_of_poll h]
  rfl

open Terminal

variable [Display δ] [Sound σ]

/-- **A key is down during a whole frame if its character was typed for this frame**, and up during
the whole frame otherwise. -/
theorem isPressed_in_frame_iff (c : Console δ Keyboard σ) (n cycles : Nat) (key : UInt8) :
    ((c.afterFrames n).readKeys.state.emulator.after
        (List.replicate cycles .cycle)).machine.keypad.isPressed key = true ↔
      ∃ character, c.input.layout.characters[key.toNat]? = some character ∧
        ∃ modifier, .stroke modifier (.character character) ∈ c.input.upcoming.getD n [] := by
  have hseen := (Keyboard.poll_afterPolls c.input n).1
  rw [← input_afterFrames] at hseen
  rw [Emulator.keypad_after_cycles, keypad_readKeys hseen, Keypad.isPressed_holding,
    Bool.and_eq_true, List.contains_iff_mem, Event.mem_filterMap_key?_iff, decide_eq_true_eq]
  -- A key that has a character exists.
  refine ⟨fun h => h.2, fun h => ⟨?_, h⟩⟩
  obtain ⟨character, hcharacter, -⟩ := h
  rw [← c.input.layout.length_characters]
  exact (List.getElem?_eq_some_iff.1 hcharacter).1

/-- **A run ends with the frame in which the first Escape is heard**, if none breaks off. -/
theorem run_of_first_escape {c : Console δ Keyboard σ} (hquit : c.input.quit = false) {n : Nat}
    (hescape : ∃ modifier, .stroke modifier .escape ∈ c.input.upcoming.getD n [])
    (hfirst : ∀ m < n, ∀ modifier, .stroke modifier .escape ∉ c.input.upcoming.getD m [])
    (hframes : ∀ m ≤ n, (c.afterFrames m).frame.error = none) {patience : Nat}
    (hpatience : n < patience) :
    let o := c.run none patience
    o.error = none ∧ o.state = c.afterFrames (n + 1) ∧ o.state.frames = c.frames + (n + 1) ∧
      o.state.goesOn none = false ∧ o.entries.getLast? = some (.stopped o.state.frames) := by
  intro o
  -- Without a limit a run goes on for as long as the keyboard does not want to quit.
  have hgoesOn : ∀ k, (c.afterFrames k).goesOn none =
      !Input.quitRequested (Input.afterPolls c.input k) := by
    intro k
    rw [goesOn, input_afterFrames, Option.all_none, Bool.and_true]
  have hdue : ∀ k < n + 1, (c.afterFrames k).goesOn none = true := by
    intro k hk
    rw [hgoesOn, Bool.not_eq_true', Bool.eq_false_iff, Ne,
      Keyboard.quitRequested_afterPolls_iff hquit]
    rintro ⟨m, hm, modifier, hmem⟩
    exact hfirst m (Nat.lt_of_lt_of_le hm (Nat.le_of_lt_succ hk)) modifier hmem
  have hends : (c.afterFrames (n + 1)).goesOn none = false := by
    rw [hgoesOn, Bool.not_eq_false', Keyboard.quitRequested_afterPolls_iff hquit]
    exact ⟨n, Nat.lt_succ_self n, hescape⟩
  have hsucceed : ∀ k < n + 1, (c.afterFrames k).frame.error = none :=
    fun k hk => hframes k (Nat.le_of_lt_succ hk)
  obtain ⟨herror, hstate, hlast⟩ := run_of_due hdue hends hsucceed hpatience
  have hcount : o.state.frames = c.frames + (n + 1) := by
    rw [hstate, frames_afterFrames hsucceed]
  refine ⟨herror, hstate, hcount, ?_, ?_⟩
  · rw [hstate, hends]
  · rw [hcount]
    exact hlast

/-- **Typed keys reach the keypad in their own frame.** Let a new keyboard be asked again and again,
with one batch of events before each time, and nothing more once the batches are used up.

* When it is asked for the `n`-th time, counted from zero, it has seen the keys that the characters
  of batch `n` stand for, in order and as often as they were typed, and nothing else; it notes every
  other character and every other key but Escape as a warning, and every other event for debugging;
  and it wants to quit if and only if one of the first `n` batches has an Escape.
* In frame `n` of a console with this keyboard, a key is down during all cycles if and only if its
  character is in batch `n`, whatever became of the frames before.
* If batch `n` is the first one with an Escape, and no frame up to this one breaks off, then a run
  without a limit completes frame `n`, and ends there. -/
theorem typed_keys_reach_their_frame (layout : Layout) (batches : List (List Event)) :
    let keyboard : Keyboard := { layout, upcoming := batches }
    let batch := fun n => batches.getD n []
    (∀ n,
      let poll := Input.poll (Input.afterPolls keyboard n)
      poll.keys = .ok (((batch n).filterMap Event.character?).filterMap layout.key?) ∧
        poll.entries = (batch n).filterMap (Event.entry? layout) ∧
        (∀ event ∈ batch n, ∀ entry, event.entry? layout = some entry →
          entry.level = if event = .other then .debug else .warning) ∧
        (Input.quitRequested (Input.afterPolls keyboard n) = true ↔
          ∃ m < n, ∃ modifier, .stroke modifier .escape ∈ batch m)) ∧
    ∀ c : Console δ Keyboard σ, c.input = keyboard →
      (∀ n cycles key,
        let e := (c.afterFrames n).readKeys.state.emulator.after (List.replicate cycles .cycle)
        e.machine.keypad.isPressed key = true ↔
          ∃ character, layout.characters[key.toNat]? = some character ∧
            ∃ modifier, .stroke modifier (.character character) ∈ batch n) ∧
      ∀ n, (∃ modifier, .stroke modifier .escape ∈ batch n) →
        (∀ m < n, ∀ modifier, .stroke modifier .escape ∉ batch m) →
        (∀ m ≤ n, (c.afterFrames m).frame.error = none) → ∀ patience, n < patience →
          let o := c.run none patience
          o.error = none ∧ o.state = c.afterFrames (n + 1) ∧ o.state.frames = c.frames + (n + 1) ∧
            o.state.goesOn none = false ∧
            o.entries.getLast? = some (.stopped o.state.frames) := by
  intro keyboard batch
  refine ⟨fun n => ?_, fun c hc => ⟨fun n cycles key => ?_,
    fun n hescape hfirst hframes patience hpatience => ?_⟩⟩
  · obtain ⟨hkeys, hentries⟩ := Keyboard.poll_afterPolls keyboard n
    exact ⟨hkeys, hentries, fun _ _ _ h => Event.level_of_entry? h,
      Keyboard.quitRequested_afterPolls_iff rfl⟩
  · have hdown := c.isPressed_in_frame_iff n cycles key
    rw [hc] at hdown
    exact hdown
  · have hquit : c.input.quit = false := by rw [hc]
    refine run_of_first_escape hquit ?_ ?_ hframes hpatience
    · rw [hc]
      exact hescape
    · rw [hc]
      exact hfirst

/-- Keys that are typed before and behind an Escape are down in the frame that hears it, and those
of the frame before are up again. The run ends with this frame, although more has been typed. -/
theorem typed_keys_reach_their_frame_around_escape :
    let batches : List (List Event) :=
      [[.stroke none (.character 'q'), .other],
        [.stroke none (.character '1'), .stroke none .escape, .stroke (some .alt) (.character 'v'),
          .stroke none .enter],
        [.stroke none (.character 'x')]]
    let c : Console FrameCounter Keyboard Mute :=
      { emulator := ⟨{}, { Machine.start 0 0 with memory := Memory.blank.write 0 0x10 }⟩
        display := {}
        input := { layout := .block, upcoming := batches }
        sound := {} }
    let e := (c.afterFrames 1).readKeys.state.emulator.after (List.replicate 9 .cycle)
    let o := c.run none 5
    (Input.poll (Input.afterPolls c.input 1)).keys = .ok [1, 15] ∧
      (Input.poll (Input.afterPolls c.input 1)).entries = [.unknownKey "Enter"] ∧
      (∀ m ≤ 1, (c.afterFrames m).frame.error = none) ∧
      e.machine.keypad.isPressed 15 = true ∧ ¬e.machine.keypad.isPressed 4 = true ∧
      o.error = none ∧ o.state.frames = 2 ∧
      o.entries.getLast? = some (.stopped o.state.frames) := by
  intro batches c e o
  have hframes : ∀ m ≤ 1, (c.afterFrames m).frame.error = none := by decide +kernel
  have hescape : ∃ modifier, .stroke modifier .escape ∈ batches.getD 1 [] := ⟨none, by decide⟩
  have hfirst : ∀ m < 1, ∀ modifier, .stroke modifier .escape ∉ batches.getD m [] := by
    intro m hm modifier
    obtain rfl := Nat.lt_one_iff.1 hm
    simp [batches]
  obtain ⟨hpolls, hconsoles⟩ :=
    typed_keys_reach_their_frame (δ := FrameCounter) (σ := Mute) .block batches
  obtain ⟨hkeys, hentries, -, -⟩ := hpolls 1
  obtain ⟨hdown, hends⟩ := hconsoles c rfl
  obtain ⟨herror, -, hcount, -, hlast⟩ := hends 1 hescape hfirst hframes 5 (by decide)
  have hpressed : e.machine.keypad.isPressed 15 = true :=
    (hdown 1 9 15).2 ⟨'v', by decide, some .alt, by decide⟩
  have hreleased : ¬e.machine.keypad.isPressed 4 = true := by
    intro hpressed
    -- The character of this key is typed in the first frame only.
    obtain ⟨character, hcharacter, modifier, hmem⟩ := (hdown 1 9 4).1 hpressed
    obtain rfl : 'q' = character := Option.some.inj hcharacter
    simp [batches] at hmem
  exact ⟨hkeys, hentries, hframes, hpressed, hreleased, herror, hcount, hlast⟩

end Console

end ChipEight
