import ChipEight.Proofs.Emulator.Faults
import ChipEight.Proofs.Emulator.Loading

/-! # Runs that go straight on

A program that hands control over nowhere, by a jump, a call, a return or a wait, goes through
memory from the lower end to the upper one. Each of its cycles moves the counter on, and memory
ends, so that a program has to hand control over now and then if it is to run for long.

* `Machine.Transfers`: whether the next instruction hands control over;
* `Emulator.GoesStraight.counter_next`: by how much a cycle that does not moves the counter on;
* `Emulator.RunsStraight`: a run of such cycles, with anything but cycles in between;
* `Emulator.countP_isCycle_le`: how many cycles such a run can have;
* `Emulator.straight_runs_leave_memory`: all of it together. -/

namespace ChipEight

/-- Whether a command is a cycle. -/
def Command.isCycle : Command → Bool
  | .cycle => true
  | _ => false

namespace Machine

/-- The next instruction hands control over: it jumps, calls, returns to an address, or waits for a
key while none is down. -/
def Transfers (m : Machine) : Prop :=
  match m.started? with
  | some (.jump _) | some (.call _) | some (.jumpOffset _) => True
  | some .ret => m.stack ≠ []
  | some (.waitKey _) => ∀ key, m.keypad.isPressed key = false
  | _ => False

variable {m : Machine} {i : Instruction}

/-- A word that does not stand for a skip is not skipped over. -/
theorem skips_eq_false (h : ∀ c, Instruction.ofWord? m.fetch ≠ some (.skip c)) :
    m.skips = false := by
  unfold skips
  split
  · rename_i c hw
    exact absurd hw (h c)
  · rfl

/-- A skip that does not fail moves the counter on once or twice, and not out of memory. -/
theorem counter_executed_skip {c : Condition} (hi : m.started? = some (.skip c))
    (herror : (m.advanced.perform (.skip c)).error = none) :
    (m.advanced.executed (.skip c)).counter = m.counter + (if m.skips then 4 else 2) ∧
      (m.advanced.executed (.skip c)).counter ≤ 0xFFF := by
  obtain ⟨hlt, hw⟩ := started?_eq_some_iff.1 hi
  have hskips : m.skips = c.holds m.advanced := by
    rw [skips, hw]
    exact (c.holds_advanced m).symm
  rw [error_perform] at herror
  rw [counter_executed, hskips]
  by_cases hc : c.holds m.advanced = true
  · -- Had there been no room to skip the next word, the skip would have failed.
    have hroom : m.advanced.counter + wordSize < Memory.size :=
      Nat.lt_of_not_le fun hle => Option.some_ne_none _ ((if_pos ⟨hc, hle⟩).symm.trans herror)
    dsimp only
    rw [if_pos ⟨hc, hroom⟩, if_pos hc]
    exact ⟨rfl, Nat.le_of_lt_succ hroom⟩
  · dsimp only
    rw [if_neg fun h => hc h.1, if_neg hc]
    exact ⟨rfl, Nat.le_of_lt_succ hlt⟩

/-- **An instruction that does not hand control over** and does not fail moves the counter on by a
word, or by two if it skips the next one. -/
theorem counter_executed_of_not_transfers (hi : m.started? = some i) (h : ¬m.Transfers)
    (herror : (m.advanced.perform i).error = none) :
    (m.advanced.executed i).counter = m.counter + (if m.skips then 4 else 2) ∧
      (m.advanced.executed i).counter ≤ 0xFFF := by
  obtain ⟨hlt, hw⟩ := started?_eq_some_iff.1 hi
  -- All but the skips leave the counter where the step over the word has moved it.
  have hgoesOn (hskip : ∀ c, i ≠ .skip c)
      (hcounter : (m.advanced.executed i).counter = m.advanced.counter) :
      (m.advanced.executed i).counter = m.counter + (if m.skips then 4 else 2) ∧
        (m.advanced.executed i).counter ≤ 0xFFF := by
    have hskips : m.skips = false :=
      skips_eq_false fun c hc => hskip c (Option.some.inj (hw.symm.trans hc))
    rw [hcounter, hskips]
    exact ⟨rfl, Nat.le_of_lt_succ hlt⟩
  unfold Transfers at h
  rw [hi] at h
  cases i with
  | skip c => exact counter_executed_skip hi herror
  | jump target | call target | jumpOffset base => exact absurd trivial h
  | ret =>
    have hstack : m.stack = [] := Classical.not_not.1 h
    refine hgoesOn (fun c => nofun) ?_
    rw [counter_executed]
    show m.stack.headD m.advanced.counter = m.advanced.counter
    rw [hstack, List.headD_nil]
  | waitKey x =>
    refine hgoesOn (fun c => nofun) ?_
    rw [counter_executed]
    exact if_neg fun hnone => h (Keypad.lowest?_eq_none_iff.1 hnone)
  | _ => exact hgoesOn (fun c => nofun) (counter_executed _ _)

end Machine

namespace Emulator

variable {e : Emulator} {commands : List Command}

/-! ### Single commands -/

/-- The next cycle succeeds and does not hand control over. -/
def GoesStraight (e : Emulator) : Prop := e.cycle.error = none ∧ ¬e.machine.Transfers

/-- **A cycle that goes straight on** moves the counter on by a word, or by two if it skips the next
one, and not out of memory. -/
theorem GoesStraight.counter_next (h : e.GoesStraight) :
    (e.next .cycle).machine.counter = e.machine.counter + (if e.machine.skips then 4 else 2) ∧
      (e.next .cycle).machine.counter ≤ 0xFFF := by
  obtain ⟨herror, htransfers⟩ := h
  rw [error_cycle] at herror
  show (e.machine.cycle e.settings.strict).state.counter = _ ∧
    (e.machine.cycle e.settings.strict).state.counter ≤ 0xFFF
  rcases Machine.cycle_cases e.settings.strict e.machine with
    ⟨-, -, hcycle⟩ | ⟨-, -, hcycle⟩ | ⟨-, hw, hlt, hcycle⟩ | ⟨i, hi, hcycle⟩
  · rw [hcycle] at herror
    exact absurd herror (Option.some_ne_none _)
  · rw [hcycle] at herror
    exact absurd herror (Option.some_ne_none _)
  · -- A word that stands for nothing is passed over, and asks for no skip.
    have hskips : e.machine.skips = false :=
      Machine.skips_eq_false fun c hc => Option.some_ne_none _ (hc.symm.trans hw)
    rw [hcycle, hskips]
    exact ⟨rfl, Nat.le_of_lt_succ hlt⟩
  · rw [hcycle] at herror ⊢
    exact Machine.counter_executed_of_not_transfers hi htransfers herror

/-- An instruction that does not hand control over goes straight on if there is room to skip the
word after it. -/
theorem goesStraight_of_started? {i : Instruction} (hi : e.machine.started? = some i)
    (hroom : e.machine.counter < 0xFFC) (h : ¬e.machine.Transfers) : e.GoesStraight := by
  refine ⟨error_cycle_of_started? hi fun hskips => ?_, h⟩
  obtain ⟨hend | hend, -⟩ := hskips <;> omega

/-- Only a cycle moves the counter. -/
theorem counter_next_of_ne_cycle (e : Emulator) {c : Command} (hc : c ≠ .cycle) :
    (e.next c).machine.counter = e.machine.counter := by
  rcases e.next_cases c with ⟨-, memory, h⟩ | ⟨keypad, h⟩ | ⟨rfl, -⟩ | ⟨-, h⟩ | ⟨-, h⟩
  · rw [h]
  · rw [h]
  · exact absurd rfl hc
  · rw [h]
    rfl
  · rw [h]
    rfl

/-! ### Runs -/

/-- Every cycle of a run goes straight on. -/
def RunsStraight (e : Emulator) (commands : List Command) : Prop :=
  ∀ sofar rest, commands = sofar ++ .cycle :: rest → (e.after sofar).GoesStraight

/-- A run of no commands is straight. -/
theorem runsStraight_nil (e : Emulator) : e.RunsStraight [] :=
  fun sofar _ h => absurd h.symm (by simp)

/-- A run goes straight on if its first command does, in case it is a cycle, and the rest does. -/
theorem runsStraight_cons_iff {c : Command} {rest : List Command} :
    e.RunsStraight (c :: rest) ↔ (c = .cycle → e.GoesStraight) ∧ (e.next c).RunsStraight rest := by
  constructor
  · intro h
    refine ⟨fun hc => h [] rest (by rw [hc]; rfl), fun sofar later heq => ?_⟩
    exact h (c :: sofar) later (by rw [heq]; rfl)
  · rintro ⟨hhere, hrest⟩ sofar later heq
    cases sofar with
    | nil => exact hhere (List.cons.inj heq).1
    | cons d sofar =>
      obtain ⟨rfl, rfl⟩ := List.cons.inj heq
      exact hrest sofar later rfl

/-- **A run that goes straight on has no more cycles than there are words ahead of it.** -/
theorem countP_isCycle_le (h : e.RunsStraight commands) :
    commands.countP Command.isCycle ≤ (0xFFF - e.machine.counter) / 2 := by
  induction commands generalizing e with
  | nil => exact Nat.zero_le _
  | cons c rest ih =>
    obtain ⟨hhere, hrest⟩ := runsStraight_cons_iff.1 h
    have hle := ih hrest
    by_cases hc : c = .cycle
    · -- The cycle has used up at least a word of those that are ahead.
      subst hc
      obtain ⟨hcounter, hin⟩ := (hhere rfl).counter_next
      have hmoved : e.machine.counter + 2 ≤ (e.next .cycle).machine.counter := by
        rw [hcounter]
        split <;> omega
      rw [List.countP_cons_of_pos rfl]
      omega
    · rw [counter_next_of_ne_cycle e hc] at hle
      have hcycle : ¬c.isCycle = true := by
        cases c with
        | cycle => exact absurd rfl hc
        | _ => exact Bool.false_ne_true
      rwa [List.countP_cons_of_neg hcycle]

/-- A run goes straight on up to its end, or up to a cycle that does not. -/
theorem runsStraight_or_exists (e : Emulator) (commands : List Command) :
    e.RunsStraight commands ∨
      ∃ sofar rest, commands = sofar ++ .cycle :: rest ∧ e.RunsStraight sofar ∧
        ¬(e.after sofar).GoesStraight := by
  induction commands generalizing e with
  | nil => exact Or.inl e.runsStraight_nil
  | cons c rest ih =>
    by_cases hhere : c = .cycle → e.GoesStraight
    · rcases ih (e.next c) with hrest | ⟨sofar, later, rfl, hsofar, hends⟩
      · exact Or.inl (runsStraight_cons_iff.2 ⟨hhere, hrest⟩)
      · exact Or.inr ⟨c :: sofar, later, rfl, runsStraight_cons_iff.2 ⟨hhere, hsofar⟩, hends⟩
    · obtain ⟨rfl, hends⟩ := Classical.not_imp.1 hhere
      exact Or.inr ⟨[], rest, rfl, e.runsStraight_nil, hends⟩

/-- Past as many cycles as there are words ahead, a run hands control over or fails: one of its
cycles does, and those before it went straight on. -/
theorem exists_not_goesStraight (e : Emulator) {commands : List Command}
    (h : (0xFFF - e.machine.counter) / 2 < commands.countP Command.isCycle) :
    ∃ sofar rest, commands = sofar ++ .cycle :: rest ∧ e.RunsStraight sofar ∧
      ¬(e.after sofar).GoesStraight := by
  rcases runsStraight_or_exists e commands with hstraight | hends
  · exact absurd (countP_isCycle_le hstraight) (Nat.not_le_of_lt h)
  · exact hends

/-- What a cycle does that does not go straight on. -/
theorem not_goesStraight_iff : ¬e.GoesStraight ↔ e.cycle.error ≠ none ∨ e.machine.Transfers := by
  rw [GoesStraight, Classical.not_and_iff_not_or_not, Classical.not_not]

/-- A run that goes straight on and one more cycle that does make up a run that goes straight on. -/
theorem RunsStraight.concat (h : e.RunsStraight commands)
    (hnext : (e.after commands).GoesStraight) : e.RunsStraight (commands ++ [.cycle]) := by
  induction commands generalizing e with
  | nil => exact runsStraight_cons_iff.2 ⟨fun _ => hnext, runsStraight_nil _⟩
  | cons c rest ih =>
    obtain ⟨hhere, hrest⟩ := runsStraight_cons_iff.1 h
    exact runsStraight_cons_iff.2 ⟨hhere, ih hrest hnext⟩

/-- **Code that goes straight on leaves memory in bounded time.** While no cycle of a run fails or
hands control over, each of them moves the counter on by two, or by four if it skips the next
instruction, and not past the last address; no other command moves the counter. Such a run has at
most as many cycles as there are words ahead of the counter it starts from, and once it has had that
many, the next cycle fails or hands control over. In any run with more cycles than that one of them
does, and those before it go straight on. -/
theorem straight_runs_leave_memory (e : Emulator) (commands : List Command) :
    let most := (0xFFF - e.machine.counter) / 2
    (e.RunsStraight commands →
      (∀ sofar c rest, commands = sofar ++ c :: rest →
        let before := (e.after sofar).machine
        let after := ((e.after sofar).next c).machine
        if c.isCycle then
          after.counter = before.counter + (if before.skips then 4 else 2) ∧ after.counter ≤ 0xFFF
        else after.counter = before.counter) ∧
      commands.countP Command.isCycle ≤ most ∧
      (commands.countP Command.isCycle = most →
        (e.after commands).cycle.error ≠ none ∨ (e.after commands).machine.Transfers)) ∧
    (most < commands.countP Command.isCycle →
      ∃ sofar rest, commands = sofar ++ .cycle :: rest ∧ e.RunsStraight sofar ∧
        sofar.countP Command.isCycle ≤ most ∧
        ((e.after sofar).cycle.error ≠ none ∨ (e.after sofar).machine.Transfers)) := by
  intro most
  refine ⟨fun hstraight => ⟨fun sofar c rest heq => ?_, countP_isCycle_le hstraight,
    fun hmost => ?_⟩, fun hmore => ?_⟩
  · cases c with
    | cycle => exact (hstraight sofar rest heq).counter_next
    | _ => exact counter_next_of_ne_cycle _ nofun
  · -- Otherwise one more cycle would go straight on than there are words ahead.
    refine not_goesStraight_iff.1 fun hnext => ?_
    have hle := countP_isCycle_le (hstraight.concat hnext)
    rw [List.countP_append, hmost] at hle
    exact Nat.not_succ_le_self _ hle
  · obtain ⟨sofar, rest, heq, hsofar, hends⟩ := exists_not_goesStraight e hmore
    exact ⟨sofar, rest, heq, hsofar, countP_isCycle_le hsofar, not_goesStraight_iff.1 hends⟩

/-- A program at the end of memory goes straight on for two cycles, with a tick in between, and
skips what is left of memory in the second of them. It has no room for four. -/
theorem straight_runs_leave_memory_by_a_skip :
    let data : Array UInt8 := #[0x60, 0x05, 0x30, 0x05]
    let e := boot { programAddress := 0xFF9 } 0
    let commands : List Command := [.load data 0xFF9, .cycle, .tick, .cycle]
    e.RunsStraight commands ∧ (e.after commands).machine.counter = 0xFFF ∧
      3 < (commands ++ [Command.cycle, .cycle]).countP Command.isCycle ∧
      ∃ sofar rest, commands ++ [Command.cycle, .cycle] = sofar ++ .cycle :: rest ∧
        e.RunsStraight sofar ∧ sofar.countP Command.isCycle ≤ 3 ∧
        ((e.after sofar).cycle.error ≠ none ∨ (e.after sofar).machine.Transfers) := by
  intro data e commands
  obtain ⟨loaded, hloaded, hover⟩ : ∃ loaded : Emulator,
      e.next (.load data 0xFF9) = loaded ∧ loaded.machine.IsOver data 0xFF9 0 :=
    ⟨_, rfl, isOver_next_load rfl data⟩
  have hfive : loaded.machine.started? = some (.setByte 0 5) :=
    hover.started? rfl rfl (by decide) (by decide)
  -- The first cycle and the tick leave the counter at the skip, whose condition then holds.
  have hset := isOver_next_tick (isOver_next_cycle hover hfive rfl)
  have hasks : ((loaded.next .cycle).next .tick).machine.started? =
      some (.skip (.equalsByte 0 5)) :=
    hset.started? rfl rfl (by decide) (by decide)
  have hv : ((loaded.next .cycle).next .tick).machine.v 0 = 5 := by
    show (loaded.next .cycle).machine.v 0 = 5
    rw [next_cycle_of_started? hfive]
    exact (Machine.v_setV _ _ _ _).trans (if_pos rfl)
  have hskips : ((loaded.next .cycle).next .tick).machine.skips = true := by
    rw [Machine.skips, (Machine.started?_eq_some_iff.1 hasks).2]
    exact decide_eq_true hv
  have hroom : loaded.machine.counter = 0xFF9 := hover.counter
  have hroom' : ((loaded.next .cycle).next .tick).machine.counter = 0xFFB := hset.counter
  have hfirst : loaded.GoesStraight := by
    refine goesStraight_of_started? hfive (by omega) ?_
    rw [Machine.Transfers, hfive]
    exact id
  have hsecond : ((loaded.next .cycle).next .tick).GoesStraight := by
    refine goesStraight_of_started? hasks (by omega) ?_
    rw [Machine.Transfers, hasks]
    exact id
  have hstraight : e.RunsStraight commands := by
    refine runsStraight_cons_iff.2 ⟨Command.noConfusion, ?_⟩
    rw [hloaded]
    refine runsStraight_cons_iff.2 ⟨fun _ => hfirst, ?_⟩
    refine runsStraight_cons_iff.2 ⟨Command.noConfusion, ?_⟩
    exact runsStraight_cons_iff.2 ⟨fun _ => hsecond, runsStraight_nil _⟩
  obtain ⟨hcounter, -⟩ := ((straight_runs_leave_memory e commands).1 hstraight).1
    [.load data 0xFF9, .cycle, .tick] .cycle [] rfl
  -- With two more there are four cycles, and three words ahead of where the run starts.
  have hends := (straight_runs_leave_memory e (commands ++ [.cycle, .cycle])).2 (by decide)
  rw [show (0xFFF - e.machine.counter) / 2 = 3 by decide] at hends
  refine ⟨hstraight, ?_, by decide, hends⟩
  have hbefore : e.after [.load data 0xFF9, .cycle, .tick] = (loaded.next .cycle).next .tick :=
    hloaded ▸ rfl
  rw [hbefore, hskips, hroom'] at hcounter
  have hafter : e.after commands = ((loaded.next .cycle).next .tick).next .cycle := hloaded ▸ rfl
  rw [hafter]
  exact hcounter

end Emulator

end ChipEight
