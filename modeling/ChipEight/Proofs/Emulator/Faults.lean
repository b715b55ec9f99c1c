import ChipEight.Proofs.Emulator.Runs
import ChipEight.Proofs.Instruction.Decoding
import ChipEight.Proofs.Machine.Effects

/-! # Faults end a run

A cycle fails in three situations, and in each of them next to nothing has happened:

* `Emulator.Objects`: the emulator is strict and the word at the counter stands for nothing;
* `Emulator.AtEnd`: the counter cannot be moved on inside memory;
* `Emulator.SkipsOut`: the counter can be moved on, but not over the next word as well, which the
  word at the counter asks for.

The first two are stable: an emulator in one of them is `Emulator.Halted`. The third leads to the
second, so that after any fault the emulator is halted, and stays so. -/

namespace ChipEight

/-- Whether the word at the counter is a skip whose condition holds. -/
def Machine.skips (m : Machine) : Bool :=
  match Instruction.ofWord? m.fetch with
  | some (.skip c) => c.holds m
  | _ => false

/-- No condition looks at the counter. -/
theorem Condition.holds_advanced (m : Machine) (c : Condition) :
    c.holds m.advanced = c.holds m := by
  cases c <;> rfl

namespace Emulator

/-- The emulator is strict, and the word at its counter has an unknown secondary code. -/
def Objects (e : Emulator) : Prop := e.settings.strict = true ∧ e.machine.fetch.HasUnknownCode

/-- The counter is at one of the last two addresses, or behind them. -/
def AtEnd (e : Emulator) : Prop := 0xFFE ≤ e.machine.counter

/-- The word is the last but one, and asks to be skipped over the last. -/
def SkipsOut (e : Emulator) : Prop :=
  (e.machine.counter = 0xFFC ∨ e.machine.counter = 0xFFD) ∧ e.machine.skips = true

instance (e : Emulator) : Decidable e.Objects := inferInstanceAs (Decidable (_ ∧ _))

instance (e : Emulator) : Decidable e.AtEnd := inferInstanceAs (Decidable (_ ≤ _))

instance (e : Emulator) : Decidable e.SkipsOut := inferInstanceAs (Decidable (_ ∧ _))

/-- The emulator can neither run the word at its counter nor pass over it. -/
def Halted (e : Emulator) : Prop := e.Objects ∨ e.AtEnd

/-- An emulator objects if it is strict and its next word is no instruction. -/
theorem objects_iff (e : Emulator) :
    e.Objects ↔ e.settings.strict = true ∧ Instruction.ofWord? e.machine.fetch = none := by
  rw [Objects, Instruction.ofWord?_eq_none_iff]

/-- An emulator is at the end if no instruction follows the next one in memory. -/
theorem atEnd_iff (e : Emulator) : e.AtEnd ↔ Memory.size ≤ e.machine.counter + wordSize := by
  show 0xFFE ≤ e.machine.counter ↔ 4096 ≤ e.machine.counter + 2
  omega

/-! ### When a cycle fails -/

/-- A cycle of an emulator fails as its machine's does. -/
theorem error_cycle (e : Emulator) :
    e.cycle.error = (e.machine.cycle e.settings.strict).error :=
  Option.map_id_apply

/-- A cycle of an emulator changes its machine only. -/
theorem state_cycle (e : Emulator) :
    e.cycle.state = { e with machine := (e.machine.cycle e.settings.strict).state } :=
  rfl

/-- An emulator that objects does nothing else. -/
theorem cycle_of_objects {e : Emulator} (h : e.Objects) :
    e.cycle = .fail e (.unknownInstruction e.machine.fetch) := by
  obtain ⟨hstrict, hw⟩ := e.objects_iff.1 h
  rw [cycle, hstrict, Machine.cycle_of_objects hw]
  rfl

/-- At the end of memory an emulator that does not object fails without doing anything. -/
theorem cycle_of_atEnd {e : Emulator} (hobjects : ¬e.Objects) (h : e.AtEnd) :
    e.cycle.error = some (.outOfMemory e.machine.counter) ∧ e.cycle.state = e := by
  have hw : e.settings.strict = true → Instruction.ofWord? e.machine.fetch ≠ none :=
    fun hstrict hnone => hobjects (e.objects_iff.2 ⟨hstrict, hnone⟩)
  rw [error_cycle, state_cycle, Machine.cycle_of_outOfMemory hw (e.atEnd_iff.1 h)]
  exact ⟨rfl, rfl⟩

/-- A skip out of memory moves the counter once, and fails to move it again. -/
theorem cycle_of_skipsOut {e : Emulator} (h : e.SkipsOut) :
    e.cycle.error = some (.outOfMemory (e.machine.counter + 2)) ∧
      e.cycle.state =
        { e with machine := { e.machine with counter := e.machine.counter + 2 } } := by
  obtain ⟨hcounter, hskips⟩ := h
  -- There is room to move the counter over the skip itself, and none to move it once more.
  have hlt : e.machine.counter + wordSize < Memory.size := by
    show e.machine.counter + 2 < 4096
    omega
  have hle : Memory.size ≤ e.machine.advanced.counter + wordSize := by
    show 4096 ≤ e.machine.counter + 2 + 2
    omega
  unfold Machine.skips at hskips
  split at hskips
  case h_1 c hw =>
    have hi : e.machine.started? = some (.skip c) := Machine.started?_eq_some_iff.2 ⟨hlt, hw⟩
    have hc : c.holds e.machine.advanced = true := by rw [Condition.holds_advanced, hskips]
    rw [error_cycle, state_cycle, Machine.cycle_of_started? hi]
    constructor
    · show (e.machine.advanced.perform (.skip c)).error = _
      rw [Machine.error_perform]
      exact if_pos ⟨hc, hle⟩
    · show { e with machine := e.machine.advanced.executed (.skip c) } = _
      rw [Machine.executed_skip, if_neg fun h => Nat.not_lt.2 hle h.2]
      rfl
  case h_2 => exact absurd hskips Bool.false_ne_true

/-- An instruction that is started fails only if it skips out of memory. -/
theorem error_cycle_of_started? {e : Emulator} {i : Instruction}
    (hi : e.machine.started? = some i) (h : ¬e.SkipsOut) : e.cycle.error = none := by
  obtain ⟨hlt, hw⟩ := Machine.started?_eq_some_iff.1 hi
  rw [error_cycle, Machine.cycle_of_started? hi]
  show (e.machine.advanced.perform i).error = none
  rw [Machine.error_perform]
  cases i with
  | skip c =>
    -- A skip that fails has a condition that holds and no room for a second word.
    refine if_neg fun ⟨hc, hle⟩ => h ⟨?_, ?_⟩
    · have hcounter : e.machine.counter + 2 < 4096 := hlt
      have hadvanced : 4096 ≤ e.machine.counter + 2 + 2 := hle
      omega
    · rw [Machine.skips, hw]
      exact (Condition.holds_advanced _ c).symm.trans hc
  | _ => rfl

/-- In all other situations a cycle succeeds. -/
theorem error_cycle_eq_none {e : Emulator} (hobjects : ¬e.Objects) (hend : ¬e.AtEnd)
    (hskips : ¬e.SkipsOut) : e.cycle.error = none := by
  rcases Machine.cycle_cases e.settings.strict e.machine with
    ⟨hstrict, hw, -⟩ | ⟨-, hle, -⟩ | ⟨-, -, -, h⟩ | ⟨i, hi, -⟩
  · exact absurd (e.objects_iff.2 ⟨hstrict, hw⟩) hobjects
  · exact absurd (e.atEnd_iff.2 hle) hend
  · rw [error_cycle, h]
  · exact error_cycle_of_started? hi hskips

/-- A cycle that fails has moved the counter at most. -/
theorem state_cycle_of_error {e : Emulator} {fault : Fault} (h : e.cycle.error = some fault) :
    ∃ counter, e.cycle.state = { e with machine := { e.machine with counter } } := by
  by_cases hobjects : e.Objects
  · rw [cycle_of_objects hobjects]
    exact ⟨e.machine.counter, rfl⟩
  by_cases hend : e.AtEnd
  · exact ⟨e.machine.counter, (cycle_of_atEnd hobjects hend).2⟩
  by_cases hskips : e.SkipsOut
  · exact ⟨e.machine.counter + 2, (cycle_of_skipsOut hskips).2⟩
  · rw [error_cycle_eq_none hobjects hend hskips] at h
    exact absurd h.symm (Option.some_ne_none fault)

/-- **A cycle fails in exactly three situations.** The equation also gives their precedence and all
that has changed: nothing, except that a skip out of memory has moved the counter once. The word is
read with its high byte first, and bytes past the end of memory read as zero. -/
theorem cycle_fails_in_three_situations (e : Emulator) :
    let p := e.machine.counter
    let w := e.machine.fetch
    (w.toNat = 256 * (e.machine.memory.read p).toNat + (e.machine.memory.read (p + 1)).toNat ∧
        ∀ address, 0xFFF < address → e.machine.memory.read address = 0) ∧
      (e.cycle.error, e.cycle.state) =
        (if e.Objects then (some (.unknownInstruction w), e)
        else if e.AtEnd then (some (.outOfMemory p), e)
        else if e.SkipsOut then
          (some (.outOfMemory (p + 2)), { e with machine := { e.machine with counter := p + 2 } })
        else (none, e.cycle.state)) ∧
      ∀ fault ∈ e.cycle.error,
        (∃ word, fault = .unknownInstruction word) ∨ ∃ counter, fault = .outOfMemory counter := by
  intro p w
  have hword := Word.toNat_ofBytes (e.machine.memory.read p) (e.machine.memory.read (p + 1))
  refine ⟨⟨hword, fun a ha => e.machine.memory.read_of_size_le ha⟩, ?_⟩
  -- The cases are taken in the order in which a cycle looks for a reason to fail.
  by_cases hobjects : e.Objects
  · rw [if_pos hobjects, cycle_of_objects hobjects]
    refine ⟨rfl, fun fault hfault => Or.inl ⟨w, ?_⟩⟩
    exact (Option.some.inj hfault).symm
  rw [if_neg hobjects]
  by_cases hend : e.AtEnd
  · obtain ⟨herror, hstate⟩ := cycle_of_atEnd hobjects hend
    rw [if_pos hend, herror, hstate]
    refine ⟨rfl, fun fault hfault => Or.inr ⟨p, ?_⟩⟩
    exact (Option.some.inj hfault).symm
  rw [if_neg hend]
  by_cases hskips : e.SkipsOut
  · obtain ⟨herror, hstate⟩ := cycle_of_skipsOut hskips
    rw [if_pos hskips, herror, hstate]
    refine ⟨rfl, fun fault hfault => Or.inr ⟨p + 2, ?_⟩⟩
    exact (Option.some.inj hfault).symm
  · rw [if_neg hskips, error_cycle_eq_none hobjects hend hskips]
    exact ⟨rfl, fun fault hfault => absurd hfault (Option.not_mem_none fault)⟩

/-! ### After a fault -/

/-- **A halted emulator only fails.** Its cycles have no other effect. -/
theorem Halted.cycle {e : Emulator} (h : e.Halted) :
    e.cycle.state = e ∧
      (e.cycle.error = some (.unknownInstruction e.machine.fetch) ∨
        e.cycle.error = some (.outOfMemory e.machine.counter)) := by
  by_cases hobjects : e.Objects
  · rw [cycle_of_objects hobjects]
    exact ⟨rfl, Or.inl rfl⟩
  · obtain ⟨herror, hstate⟩ := cycle_of_atEnd hobjects (h.resolve_left hobjects)
    exact ⟨hstate, Or.inr herror⟩

/-- A fault leaves the emulator halted: at the same word if it objected to that, and at the end of
memory otherwise. -/
theorem halted_of_error_cycle {e : Emulator} {fault : Fault} (h : e.cycle.error = some fault) :
    (e.cycle.state.Objects ∧ ∃ word, fault = .unknownInstruction word) ∨ e.cycle.state.AtEnd := by
  by_cases hobjects : e.Objects
  · rw [cycle_of_objects hobjects] at h ⊢
    exact Or.inl ⟨hobjects, _, (Option.some.inj h).symm⟩
  by_cases hend : e.AtEnd
  · rw [(cycle_of_atEnd hobjects hend).2]
    exact Or.inr hend
  by_cases hskips : e.SkipsOut
  · rw [(cycle_of_skipsOut hskips).2]
    right
    show 0xFFE ≤ e.machine.counter + 2
    have hcounter := hskips.1
    omega
  · rw [error_cycle_eq_none hobjects hend hskips] at h
    exact absurd h.symm (Option.some_ne_none fault)

/-- No command brings the counter back from the end of memory, not even a load. -/
theorem AtEnd.next {e : Emulator} (h : e.AtEnd) (c : Command) : (e.next c).AtEnd := by
  rcases e.next_cases c with ⟨-, memory, hc⟩ | ⟨keypad, hc⟩ | ⟨-, hc⟩ | ⟨-, hc⟩ | ⟨-, hc⟩
  · rw [hc]
    exact h
  · rw [hc]
    exact h
  · rw [hc, (Halted.cycle (Or.inr h)).1]
    exact h
  · rw [hc]
    exact h
  · rw [hc]
    exact h

/-- Only a load can give the emulator another word to look at. -/
theorem Objects.next {e : Emulator} (h : e.Objects) {c : Command} (hload : ¬c.IsLoad) :
    (e.next c).Objects := by
  rcases e.next_cases c with ⟨hc, -⟩ | ⟨keypad, hc⟩ | ⟨-, hc⟩ | ⟨-, hc⟩ | ⟨-, hc⟩
  · exact absurd hc hload
  · rw [hc]
    exact h
  · rw [hc, (Halted.cycle (Or.inl h)).1]
    exact h
  · rw [hc]
    exact h
  · rw [hc]
    exact h

/-- At the end of memory an emulator stays halted whatever it is told. -/
theorem AtEnd.after {e : Emulator} (h : e.AtEnd) (commands : List Command) :
    (e.after commands).AtEnd :=
  after_induction (P := AtEnd) (fun _ c (_ : True) he => he.next c) commands (fun _ _ => trivial) h

/-- An emulator that objects does so until something is loaded. -/
theorem Objects.after {e : Emulator} (h : e.Objects) {commands : List Command}
    (hload : ∀ c ∈ commands, ¬c.IsLoad) : (e.after commands).Objects :=
  after_induction (P := Objects) (fun _ _ hc he => he.next hc) commands hload h

/-- **Faults are terminal.** When a cycle has failed, then after any further commands another cycle
fails too and changes nothing. The further commands may load bytes only if the counter was at
fault. -/
theorem cycle_after_fault_fails {e : Emulator} {fault : Fault} (h : e.cycle.error = some fault)
    (later : List Command)
    (hload : (∃ c ∈ later, c.IsLoad) → ∃ counter, fault = .outOfMemory counter) :
    let stopped := e.cycle.state.after later
    stopped.cycle.state = stopped ∧
      ∃ again, stopped.cycle.error = some again ∧
        ((∃ word, again = .unknownInstruction word) ∨ ∃ counter, again = .outOfMemory counter) := by
  intro stopped
  -- The fault has left a halted state behind, and what it was says which commands keep it so.
  have hstopped : stopped.Halted := by
    rcases halted_of_error_cycle h with ⟨hobjects, word, hword⟩ | hend
    · refine Or.inl (hobjects.after fun c hc hcload => ?_)
      obtain ⟨counter, hcounter⟩ := hload ⟨c, hc, hcload⟩
      exact absurd (hword.symm.trans hcounter) Fault.noConfusion
    · exact Or.inr (hend.after later)
  obtain ⟨hstate, herror | herror⟩ := hstopped.cycle
  · exact ⟨hstate, _, herror, Or.inl ⟨_, rfl⟩⟩
  · exact ⟨hstate, _, herror, Or.inr ⟨_, rfl⟩⟩

/-- A permissive emulator that starts at the last word of memory runs out of memory at once, and
does so again after a jump has been loaded there. -/
theorem cycle_after_load_at_end_fails :
    let e := boot { programAddress := 0xFFE } 0
    let later := [.load #[0x12, 0x00] 0xFFE, .cycle, .press 3, .tick, .takeTone]
    e.cycle.error = some (.outOfMemory 0xFFE) ∧
      ((∃ c ∈ later, c.IsLoad) → ∃ counter, Fault.outOfMemory 0xFFE = .outOfMemory counter) ∧
      (e.cycle.state.after later).cycle.state = e.cycle.state.after later ∧
      ∃ again, (e.cycle.state.after later).cycle.error = some again ∧
        ((∃ word, again = .unknownInstruction word) ∨ ∃ counter, again = .outOfMemory counter) := by
  intro e later
  have herror : e.cycle.error = some (.outOfMemory 0xFFE) :=
    (cycle_of_atEnd (fun h => Bool.false_ne_true h.1) (by decide)).1
  exact ⟨herror, fun _ => ⟨_, rfl⟩, cycle_after_fault_fails herror later fun _ => ⟨_, rfl⟩⟩

end Emulator

end ChipEight
