import ChipEight.Proofs.Emulator.History
import ChipEight.Proofs.Machine.Effects

/-! # Timers count ticks

A program sets a timer through a single instruction, each tick takes one from it as far as there is
one to take, and nothing else moves it. So after any run a timer stands at the value that it was set
to last, less the ticks since then; how many cycles have run, and whether they failed, makes no
difference.

Both timers obey one law, which is stated for either `Timer`.

* `Timer.Unset` and `Timer.LastSet`: no cycle of a run sets the timer, and a cycle that sets it
  last;
* `Timer.value_next_of_set` and `Timer.value_next_of_unset`: what one command leaves on a timer;
* `Timer.value_after_of_unset` and `Timer.value_after_of_lastSet`: what a run leaves on a timer;
* `Timer.unset_or_exists_lastSet`: there is no third kind of run. -/

namespace ChipEight

/-- The timers of the machine. -/
inductive Timer where
  | delay
  | sound
deriving DecidableEq, Repr

namespace Timer

/-- The ticks left on a timer. -/
def value : Timer → Machine → UInt8
  | .delay => Machine.delay
  | .sound => Machine.sound

/-- The instruction that sets a timer to what a register holds. -/
def setter : Timer → Register → Instruction
  | .delay => .setDelay
  | .sound => .setSound

/-- No instruction that is executed in a run sets the timer. -/
def Unset (timer : Timer) (e : Emulator) (commands : List Command) : Prop :=
  ∀ x ∈ e.history commands, ∀ r, x.instruction ≠ timer.setter r

/-- The last cycle of a run that sets the timer finds the value in its register, and the given
number of ticks follow it. -/
def LastSet (timer : Timer) (e : Emulator) (commands : List Command) (value : UInt8)
    (ticks : Nat) : Prop :=
  ∃ before since r, commands = before ++ .cycle :: since ∧
    (e.after before).machine.started? = some (timer.setter r) ∧
    (e.after before).machine.v r = value ∧
    timer.Unset ((e.after before).next .cycle) since ∧ since.countP Command.isTick = ticks

variable (timer : Timer)

/-! ### Single steps -/

/-- Neither loads nor keys reach a timer. -/
theorem isSheltered_value : Machine.IsSheltered timer.value := by
  cases timer <;> exact ⟨fun _ => rfl, fun _ _ => rfl, fun _ _ => rfl⟩

/-- A timer counts down by the ticks that pass. -/
theorem value_elapse (m : Machine) (ticks : Nat) (taken : Bool) :
    timer.value (m.elapse ticks taken) = countDown (timer.value m) ticks := by
  cases timer <;> rfl

/-- The instruction that sets a timer puts what the register holds on it. -/
theorem value_executed_setter (m : Machine) (r : Register) :
    timer.value (m.executed (timer.setter r)) = m.v r := by
  cases timer <;> rfl

/-- The other instructions leave a timer as it is. -/
theorem value_executed_of_ne (m : Machine) {i : Instruction} (h : ∀ r, i ≠ timer.setter r) :
    timer.value (m.executed i) = timer.value m := by
  cases timer with
  | delay =>
    refine (m.delay_executed i).trans ?_
    cases i with
    | setDelay r => exact absurd rfl (h r)
    | _ => rfl
  | sound =>
    refine (m.sound_executed i).trans ?_
    cases i with
    | setSound r => exact absurd rfl (h r)
    | _ => rfl

/-- **A cycle that sets a timer** puts what the register held on it. -/
theorem value_next_of_set {e : Emulator} {r : Register}
    (h : e.machine.started? = some (timer.setter r)) :
    timer.value (e.next .cycle).machine = e.machine.v r := by
  rw [Emulator.next_cycle_of_started? h]
  exact timer.value_executed_setter e.machine.advanced r

/-- **Any other command** takes one from a timer if it is a tick, and else leaves it as it is. -/
theorem value_next_of_unset {e : Emulator} {c : Command}
    (h : ∀ r, e.started? c ≠ some (timer.setter r)) :
    timer.value (e.next c).machine =
      countDown (timer.value e.machine) (if c.isTick then 1 else 0) := by
  rw [timer.isSheltered_value.next]
  -- Ticks and takes are time that elapses, and no cycle that is left sets the timer.
  cases c with
  | tick =>
    show timer.value e.machine.tick = countDown (timer.value e.machine) 1
    rw [e.machine.tick_eq_elapse, value_elapse]
  | takeTone =>
    show timer.value e.machine.takeTone = countDown (timer.value e.machine) 0
    rw [e.machine.takeTone_eq_elapse, value_elapse]
  | cycle =>
    refine Eq.trans ?_ (countDown_zero _).symm
    cases hi : e.machine.started? with
    | none => rfl
    | some i =>
      have hne : ∀ r, i ≠ timer.setter r := fun r hr => h r (hi.trans (congrArg some hr))
      exact (timer.value_executed_of_ne e.machine.advanced hne).trans
        (timer.isSheltered_value.advanced e.machine)
  | _ => exact (countDown_zero _).symm

/-! ### Runs -/

/-- A run of no commands sets no timer. -/
theorem unset_nil (e : Emulator) : timer.Unset e [] := fun _ hx => absurd hx List.not_mem_nil

/-- A run does not set a timer if and only if neither its first command nor the rest does. -/
theorem unset_cons_iff {e : Emulator} {c : Command} {rest : List Command} :
    timer.Unset e (c :: rest) ↔
      (∀ r, e.started? c ≠ some (timer.setter r)) ∧ timer.Unset (e.next c) rest := by
  rw [Unset, Emulator.history_cons, List.forall_mem_append]
  refine and_congr ?_ Iff.rfl
  cases e.started? c <;> simp

/-- **A run that does not set a timer counts its ticks down from it.** -/
theorem value_after_of_unset {e : Emulator} {commands : List Command}
    (h : timer.Unset e commands) :
    timer.value (e.after commands).machine =
      countDown (timer.value e.machine) (commands.countP Command.isTick) := by
  induction commands generalizing e with
  | nil => exact (countDown_zero _).symm
  | cons c rest ih =>
    -- The rest counts down what the first command has left, and that adds up.
    obtain ⟨hc, hrest⟩ := timer.unset_cons_iff.1 h
    rw [Emulator.after_cons, ih hrest, timer.value_next_of_unset hc, countDown_countDown,
      List.countP_cons, Nat.add_comm]

/-- **After a run a timer stands at what it was set to last, less the ticks since then.** -/
theorem value_after_of_lastSet {e : Emulator} {commands : List Command} {value : UInt8}
    {ticks : Nat} (h : timer.LastSet e commands value ticks) :
    timer.value (e.after commands).machine = countDown value ticks := by
  obtain ⟨before, since, r, rfl, hset, rfl, hsince, rfl⟩ := h
  rw [Emulator.after_append, Emulator.after_cons, timer.value_after_of_unset hsince,
    timer.value_next_of_set hset]

/-- No more ticks follow the last setting than the run has. -/
theorem LastSet.ticks_le {timer : Timer} {e : Emulator} {commands : List Command} {value : UInt8}
    {ticks : Nat} (h : timer.LastSet e commands value ticks) :
    ticks ≤ commands.countP Command.isTick := by
  obtain ⟨before, since, r, rfl, -, -, -, rfl⟩ := h
  rw [List.countP_append, List.countP_cons]
  omega

/-- **A run that sets a timer has a cycle that sets it last.** -/
theorem unset_or_exists_lastSet (e : Emulator) (commands : List Command) :
    timer.Unset e commands ∨ ∃ value ticks, timer.LastSet e commands value ticks := by
  induction commands generalizing e with
  | nil => exact Or.inl (timer.unset_nil e)
  | cons c rest ih =>
    -- What the rest sets, it sets later than the first command.
    rcases ih (e.next c) with hrest | ⟨_, _, before, since, r, rfl, hset, hvalue, hsince, hticks⟩
    · by_cases hc : ∃ r, e.started? c = some (timer.setter r)
      · obtain ⟨r, hr⟩ := hc
        obtain ⟨rfl, hset⟩ := Emulator.started?_eq_some_iff.1 hr
        exact Or.inr ⟨_, _, [], rest, r, rfl, hset, rfl, hrest, rfl⟩
      · exact Or.inl (timer.unset_cons_iff.2 ⟨fun r hr => hc ⟨r, hr⟩, hrest⟩)
    · exact Or.inr ⟨_, _, c :: before, since, r, rfl, hset, hvalue, hsince, hticks⟩

end Timer

end ChipEight
