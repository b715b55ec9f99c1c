import ChipEight.Proofs.Console.Peripherals
import ChipEight.Proofs.Emulator.Faults
import ChipEight.Proofs.Emulator.Tones

/-! # Frames that break off

A fault may strike in any cycle of a frame, after others have changed the machine. What they have
done stays done, and the frame goes no further: its tone is not played, its tick and its picture are
left out and it is not counted. So the pictures shown and the frames counted stay in step, whichever
frames break off.

* `Console.readAndRun_of_fault`: the first half of a frame, up to the cycle that fails;
* `Console.InStep`: as many pictures have been shown as frames have been counted;
* `Console.afterCalls`: the console after some calls, also if some of them broke off;
* `Console.frame_cut_off_by_fault`: what a frame leaves that a fault cuts off. -/

namespace ChipEight

/-- The first cycle that fails is the last one. -/
theorem Emulator.cycles_of_fault {e : Emulator} {n k : Nat} {fault : Fault} (hk : k < n)
    (hbefore : ∀ j < k, (e.after (List.replicate j .cycle)).cycle.error = none)
    (hfails : (e.after (List.replicate k .cycle)).cycle.error = some fault) :
    (e.cycles n).error = some fault ∧
      (e.cycles n).state = e.after (List.replicate (k + 1) .cycle) :=
  Outcome.iterate_of_first (fun j => e.after (List.replicate j .cycle))
    (fun j => e.after_replicate_succ .cycle j) hk hbefore hfails

namespace Console

variable {δ ι σ : Type}

/-! ### The cycle that fails -/

/-- **The first half of a frame ends at the first cycle that fails.** The input has been asked, and
the emulator is left as its cycles leave it. -/
theorem readAndRun_of_fault [Input ι] {c : Console δ ι σ} {seen : List UInt8} {k : Nat}
    {fault : Fault} (hkeys : (Input.poll c.input).keys = .ok seen) (hk : k < c.cyclesPerFrame)
    (hbefore : ∀ j < k,
      ((c.emulator.holding seen).after (List.replicate j .cycle)).cycle.error = none)
    (hfails :
      ((c.emulator.holding seen).after (List.replicate k .cycle)).cycle.error = some fault) :
    c.readAndRun.error = some (.machine fault) ∧
      c.readAndRun.state =
        { c with
          input := (Input.poll c.input).device
          emulator := (c.emulator.holding seen).after (List.replicate (k + 1) .cycle) } := by
  obtain ⟨herror, hstate⟩ := Emulator.cycles_of_fault hk hbefore hfails
  rw [readAndRun, readKeys_of_poll hkeys, Outcome.andThen_of_error_eq_none rfl]
  constructor
  · show ((c.emulator.holding seen).cycles c.cyclesPerFrame).error.map Breakdown.machine = _
    rw [herror, Option.map_some]
  · show Console.mk ((c.emulator.holding seen).cycles c.cyclesPerFrame).state .. = _
    rw [hstate]

/-! ### Pictures and frames -/

/-- As many pictures have been shown as frames have been counted. -/
def InStep (c : Console FrameCounter ι σ) : Prop := c.display.frames = c.frames

variable [Sound σ]

/-- **A frame keeps the pictures in step**, also if it breaks off: a picture is shown right before
the frame is counted, and nothing else touches either number. -/
theorem InStep.frame [Input ι] {c : Console FrameCounter ι σ} (h : c.InStep) :
    c.frame.state.InStep := by
  refine Outcome.state_andThen h fun c h => ?_
  refine Outcome.state_andThen h fun c h => ?_
  refine Outcome.state_andThen ?_ fun c h => ?_
  · rw [playTone]
    cases c.emulator.machine.pending <;> exact h
  refine Outcome.state_andThen ?_ fun c h => ?_
  · rw [stopTone]
    split <;> exact h
  refine Outcome.state_andThen h fun c h => ?_
  exact congrArg (· + 1) h

/-- The console after some calls. A call that breaks off does not end the sequence. -/
def afterCalls [Display δ] (c : Console δ Replay σ) (calls : List Call) : Console δ Replay σ :=
  calls.foldl (fun c call => (c.perform call).state) c

/-- A call keeps the pictures in step. -/
theorem InStep.perform {c : Console FrameCounter Replay σ} (h : c.InStep) (call : Call) :
    (c.perform call).state.InStep := by
  cases call with
  | frame => exact h.frame
  | run limit => exact Outcome.state_repeatWhile (fun _ h => InStep.frame h) _ h

/-- Every sequence of calls keeps the pictures in step. -/
theorem InStep.afterCalls {c : Console FrameCounter Replay σ} (h : c.InStep) (calls : List Call) :
    (c.afterCalls calls).InStep := by
  induction calls generalizing c with
  | nil => exact h
  | cons call rest ih => exact ih (h.perform call)

/-- **A fault cuts a frame off.** If cycle `k` of a frame, counted from zero, is the first to fail,
the frame breaks off with its fault, and leaves the emulator on whose keypad just the keys of this
frame have been put down, and which has run its cycles up to this one; this one has moved the
counter at most. No timer has ticked, and the tone that was asked for last, in this frame or before
it, is still to be taken. One list of keys has been used up, and nothing else has changed: neither
the sound device nor the display nor the count of frames.

Hence as many pictures are shown as frames are counted, by every sequence of frames and runs on a
console for which the two numbers are equal at the start, whether these succeed or break off. -/
theorem frame_cut_off_by_fault (c : Console FrameCounter Replay σ) :
    (∀ k fault,
      let seen := c.input.upcoming.headD []
      let ready := c.emulator.holding seen
      let ran := fun n => ready.after (List.replicate n .cycle)
      k < c.cyclesPerFrame → (∀ j < k, (ran j).cycle.error = none) →
      (ran k).cycle.error = some fault →
        c.frame.error = some (.machine fault) ∧
        c.frame.state = { c with input := ⟨c.input.upcoming.tail⟩, emulator := ran (k + 1) } ∧
        (∀ key, ready.machine.keypad.isPressed key =
          (decide (key.toNat < 16) && seen.contains key)) ∧
        (∃ counter, ran (k + 1) = { ran k with machine := { (ran k).machine with counter } }) ∧
        (ran (k + 1)).machine.pending =
          (ready.tones (List.replicate k .cycle)).getLast?.or c.emulator.machine.pending) ∧
    (c.display.frames = c.frames →
      ∀ calls, (c.afterCalls calls).display.frames = (c.afterCalls calls).frames) := by
  refine ⟨fun k fault => ?_, fun h calls => InStep.afterCalls h calls⟩
  intro seen ready ran hk hbefore hfails
  have hkeys : (Input.poll c.input).keys = .ok seen := rfl
  obtain ⟨herror, hstate⟩ := readAndRun_of_fault hkeys hk hbefore hfails
  have hlast : ran (k + 1) = (ran k).cycle.state := ready.after_replicate_succ .cycle k
  obtain ⟨counter, hcounter⟩ := Emulator.state_cycle_of_error hfails
  -- The cycle that failed has asked for no tone, so the requests of the others are all there are.
  have hpending : (ran (k + 1)).machine.pending = (ran k).machine.pending := by
    rw [hlast, hcounter]
  have hno : Command.takeTone ∉ List.replicate k Command.cycle :=
    fun hmem => Command.noConfusion (List.eq_of_mem_replicate hmem)
  rw [frame_of_error herror]
  refine ⟨herror, hstate, fun key => Keypad.isPressed_holding seen key,
    ⟨counter, hlast.trans hcounter⟩, ?_⟩
  exact hpending.trans (Emulator.pending_after ready hno)

/-- A program that asks for a tone of five ticks and then jumps to the end of memory is cut off in
its fourth cycle. Frames and runs that follow are cut off as well, and show nothing. -/
theorem frame_cut_off_by_fault_at_end_of_memory :
    let memory := (((((Memory.blank.write 0 0x60).write 1 0x05).write 2 0xf0).write 3 0x18).write 4
      0x1f).write 5 0xfe
    let c : Console FrameCounter Replay Mute :=
      { emulator := ⟨{}, { Machine.start 0 0 with memory }⟩
        display := {}
        input := ⟨[[7, 0x2c], [3], []]⟩
        sound := {} }
    let ready := c.emulator.holding [7, 0x2c]
    let ran := fun n => ready.after (List.replicate n .cycle)
    let calls : List Call := [.frame, .run (some 3), .frame]
    3 < c.cyclesPerFrame ∧ (∀ j < 3, (ran j).cycle.error = none) ∧
      (ran 3).cycle.error = some (.outOfMemory 0xffe) ∧
      c.frame.error = some (.machine (.outOfMemory 0xffe)) ∧
      c.frame.state = { c with input := ⟨[[3], []]⟩, emulator := ran 4 } ∧
      (ran 4).machine.pending = some ⟨5⟩ ∧ c.display.frames = c.frames ∧
      (c.afterCalls calls).display.frames = (c.afterCalls calls).frames := by
  intro memory c ready ran calls
  have hbefore : ∀ j < 3, (ran j).cycle.error = none := by decide +kernel
  have hfails : (ran 3).cycle.error = some (.outOfMemory 0xffe) := by decide +kernel
  have htones : (ready.tones (List.replicate 3 .cycle)).getLast? = some ⟨5⟩ := by decide +kernel
  -- The two counters agree at the start, and no call makes them differ.
  obtain ⟨hfault, hcalls⟩ := frame_cut_off_by_fault c
  obtain ⟨herror, hstate, -, -, hpending⟩ := hfault 3 _ (by decide) hbefore hfails
  refine ⟨by decide, hbefore, hfails, herror, hstate, ?_, rfl, hcalls rfl calls⟩
  exact hpending.trans (congrArg (Option.or · _) htones)

end Console

end ChipEight
