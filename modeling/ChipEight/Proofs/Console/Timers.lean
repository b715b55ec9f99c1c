import ChipEight.Device.Basic
import ChipEight.Proofs.Console.Frame
import ChipEight.Proofs.Emulator.Loading
import ChipEight.Proofs.Emulator.Timers

/-! # Timers fall by one in every frame

A frame lets the timers tick once, after its cycles, however many there are. So a frame that
succeeds takes one from a timer: from what it stood at before the frame, or from what the last cycle
that set it has put on it.

* `Timer.value_frame`: a frame takes one from what its cycles leave on a timer;
* `Console.timers_count_ticks`: the law of the timers, for an emulator and for a console. -/

namespace ChipEight

variable {δ ι σ : Type}

/-- **A frame that succeeds takes one from what its cycles leave on a timer.** -/
theorem Timer.value_frame [Display δ] [Input ι] [Sound σ] {c : Console δ ι σ}
    (h : c.frame.error = none) :
    ∃ seen, (Input.poll c.input).keys = .ok seen ∧ ∀ timer : Timer,
      timer.value c.frame.state.emulator.machine =
        countDown (timer.value ((c.emulator.holding seen).after
          (List.replicate c.cyclesPerFrame .cycle)).machine) 1 := by
  obtain ⟨seen, hkeys, hemulator⟩ := Console.emulator_frame h
  refine ⟨seen, hkeys, fun timer => ?_⟩
  rw [hemulator]
  show timer.value (Machine.takeTone _).tick = _
  rw [Machine.takeTone_eq_elapse, Machine.tick_eq_elapse, Machine.elapse_elapse, value_elapse]

namespace Console

variable [Display δ] [Input ι] [Sound σ]

/-- **Timers count ticks, not cycles.** For any run from the start, whatever commands it consists of
and whether they succeed or fail:

* a timer that no executed instruction has set stands at zero. Otherwise it stands at the value that
  the register held when the timer was set last, less the ticks since then, and never below zero;
* an executed instruction that reads the delay timer puts just that into its register.

For any console, whatever its devices are and however many cycles its frames have, a frame that
succeeds takes one from each timer, and nothing from a timer at zero: from what the timer stood at
before, if the cycles of the frame do not set it, and otherwise from the value that they set it to
last. -/
theorem timers_count_ticks (settings : Settings) (entropy : Random.Key) (c : Console δ ι σ) :
    (∀ (timer : Timer) (commands : List Command),
      let e := Emulator.boot settings entropy
      let left := (timer.value (e.after commands).machine).toNat
      (timer.Unset e commands → left = 0) ∧
        (∀ value ticks, timer.LastSet e commands value ticks → left = value.toNat - ticks) ∧
        (timer.Unset e commands ∨ ∃ value ticks, timer.LastSet e commands value ticks)) ∧
    (∀ (commands : List Command) (x : Register),
      let e := (Emulator.boot settings entropy).after commands
      e.machine.started? = some (.getDelay x) →
        (e.next .cycle).machine.v x = Timer.delay.value e.machine) ∧
    (c.frame.error = none → ∃ seen, (Input.poll c.input).keys = .ok seen ∧ ∀ timer : Timer,
      let ready := c.emulator.holding seen
      let cycles := List.replicate c.cyclesPerFrame Command.cycle
      let left := (timer.value c.frame.state.emulator.machine).toNat
      (timer.Unset ready cycles → left = (timer.value c.emulator.machine).toNat - 1) ∧
        ∀ value ticks, timer.LastSet ready cycles value ticks → left = value.toNat - 1) := by
  refine ⟨fun timer commands => ?_, fun commands x => ?_, fun h => ?_⟩
  · intro e left
    refine ⟨fun hunset => ?_, fun value ticks hset => ?_, timer.unset_or_exists_lastSet e commands⟩
    · have hstart : timer.value e.machine = 0 := by cases timer <;> rfl
      show (timer.value (e.after commands).machine).toNat = 0
      rw [timer.value_after_of_unset hunset, toNat_countDown, hstart]
      exact Nat.zero_sub _
    · show (timer.value (e.after commands).machine).toNat = _
      rw [timer.value_after_of_lastSet hset, toNat_countDown]
  · intro e hreads
    rw [Emulator.next_cycle_of_started? hreads]
    exact Machine.v_setV_self _ _ _
  · obtain ⟨seen, hkeys, hframe⟩ := Timer.value_frame h
    refine ⟨seen, hkeys, fun timer => ?_⟩
    intro ready cycles left
    have hleft : left = (timer.value (ready.after cycles).machine).toNat - 1 := by
      show (timer.value c.frame.state.emulator.machine).toNat = _
      rw [hframe, toNat_countDown]
    -- The keys of the frame do not reach the timers, and its cycles do not tick.
    have hready : timer.value ready.machine = timer.value c.emulator.machine :=
      timer.isSheltered_value.keypad c.emulator.machine (Keypad.holding seen)
    have hcycles : cycles.countP Command.isTick = 0 := by simp [cycles, Command.isTick]
    refine ⟨fun hunset => ?_, fun value ticks hset => ?_⟩
    · rw [hleft, timer.value_after_of_unset hunset, hcycles, countDown_zero, hready]
    · have hticks : ticks = 0 := Nat.le_zero.1 (hcycles ▸ hset.ticks_le)
      rw [hleft, timer.value_after_of_lastSet hset, hticks, countDown_zero]

/-- A program that sets the delay timer to five and reads it two ticks later finds three; and a
frame whose cycles set it to five leaves four. -/
theorem timers_count_ticks_of_delay :
    let data : Array UInt8 := #[0x60, 0x05, 0xf0, 0x15, 0xf1, 0x07]
    let commands : List Command := [.load data 0x200, .cycle, .cycle, .tick, .tick]
    let start := Emulator.boot {} 0
    let memory := (((Memory.blank.write 0 0x60).write 1 0x05).write 2 0xf0).write 3 0x15
    let c : Console FrameCounter Replay Mute :=
      { emulator := ⟨{}, { Machine.start 0 0 with memory }⟩
        display := {}
        input := ⟨[]⟩
        sound := {}
        cyclesPerFrame := 2 }
    Timer.delay.LastSet start commands 5 2 ∧
      (start.after commands).machine.started? = some (.getDelay 1) ∧
      ((start.after commands).next .cycle).machine.v 1 = 3 ∧
      c.frame.error = none ∧ Timer.delay.LastSet (c.emulator.holding []) [.cycle, .cycle] 5 0 ∧
      c.frame.state.emulator.machine.delay = 4 := by
  intro data commands start memory c
  obtain ⟨hlaw, hread, hframe⟩ := timers_count_ticks {} 0 c
  -- Of what has been loaded only that the counter is over it matters.
  obtain ⟨loaded, hloaded, hover⟩ : ∃ loaded : Emulator,
      start.next (.load data 0x200) = loaded ∧ loaded.machine.IsOver data 0x200 0 :=
    ⟨_, rfl, Emulator.isOver_next_load rfl data⟩
  have hfive : loaded.machine.started? = some (.setByte 0 5) :=
    hover.started? rfl rfl (by decide) (by decide)
  have hset := Emulator.isOver_next_cycle hover hfive rfl
  have hsets : (loaded.next .cycle).machine.started? = some (.setDelay 0) :=
    hset.started? rfl rfl (by decide) (by decide)
  have hafter : start.after commands =
      (((loaded.next .cycle).next .cycle).next .tick).next .tick := hloaded ▸ rfl
  have hreads : (start.after commands).machine.started? = some (.getDelay 1) := by
    rw [hafter]
    exact (Emulator.isOver_next_tick (Emulator.isOver_next_tick
      (Emulator.isOver_next_cycle hset hsets rfl))).started? rfl rfl (by decide) (by decide)
  have hlast : Timer.delay.LastSet start commands 5 2 := by
    have hbefore : start.after [.load data 0x200, .cycle] = loaded.next .cycle := hloaded ▸ rfl
    refine ⟨[.load data 0x200, .cycle], [.tick, .tick], 0, rfl, ?_, ?_, ?_, rfl⟩
    · rw [hbefore]
      exact hsets
    · rw [hbefore, Emulator.next_cycle_of_started? hfive]
      exact Machine.v_setV_self _ _ _
    · exact fun x hx => absurd hx List.not_mem_nil
  have herror : c.frame.error = none := by decide +kernel
  have hcycles : Timer.delay.LastSet (c.emulator.holding []) [.cycle, .cycle] 5 0 :=
    ⟨[.cycle], [], 0, rfl, by decide +kernel, by decide +kernel, Timer.delay.unset_nil _, rfl⟩
  refine ⟨hlast, hreads, ?_, herror, hcycles, ?_⟩
  · rw [hread commands 1 hreads, ← UInt8.toNat_inj]
    exact (hlaw .delay commands).2.1 5 2 hlast
  · obtain ⟨seen, hseen, htimers⟩ := hframe herror
    obtain rfl : [] = seen := Except.ok.inj hseen
    exact UInt8.toNat_inj.1 ((htimers .delay).2 5 0 hcycles)

end Console

end ChipEight
