import ChipEight.Proofs.Emulator.Faults
import ChipEight.Proofs.Emulator.Tones

/-! # The account of a run

What the cycles of a run note in the log can be told from the words that they find: nothing is left
out when a cycle fails later on, and nothing is noted of what a cycle does not come to. So the log
names the instructions that a run starts, each of them once and in order.

* `Execution.entries`: what the log tells of an execution;
* `Machine.entries_cycle`: all that one cycle notes;
* `Emulator.entries`: all that a run notes, and `Emulator.filter_entries`: the executions in it. -/

namespace ChipEight

namespace LogEntry

/-- An entry as it is handed to whoever reads the log: its level, and how it reads. -/
def line (entry : LogEntry) : LogLevel × String := (entry.level, entry.message)

/-- Whether an entry tells of an instruction that was started. -/
def isTrace (entry : LogEntry) : Bool := entry.level == .trace

end LogEntry

namespace Execution

/-- The entry that names an execution: where the instruction stands, its word, and what it is. -/
def entry (x : Execution) : LogEntry :=
  .started x.machine.counter x.machine.fetch x.instruction

/-- All that the log tells of an execution: which one it is, and the tone that it asks for. -/
def entries (x : Execution) : List LogEntry :=
  x.entry :: (x.tone?.map fun tone => .toneRequested tone.ticks).toList

/-- What the log tells of an execution names it once. -/
theorem filter_entries (x : Execution) : x.entries.filter LogEntry.isTrace = [x.entry] := by
  rw [entries, List.filter_cons_of_pos rfl]
  cases x.tone? <;> rfl

end Execution

/-! ### Single cycles -/

namespace Instruction

/-- A word is noted as passed over if and only if it stands for nothing and the machine is
permissive. -/
theorem resolveEntries_eq (strict : Bool) (w : Word) :
    resolveEntries strict w =
      match ofWord? w with
      | none => if strict then [] else [.ignored w]
      | some _ => [] := by
  rw [resolveEntries]
  cases ofWord? w <;> cases strict <;> rfl

end Instruction

namespace Machine

/-- An instruction notes the same whether it fails or not. -/
theorem entries_perform (m : Machine) (i : Instruction) :
    (m.perform i).entries = m.executeEntries i := by
  rw [perform]
  cases m.execute i <;> exact List.append_nil _

/-- Besides that it was started, an instruction notes the tone that it asks for. -/
theorem executeEntries_advanced (m : Machine) (i : Instruction) :
    m.advanced.executeEntries i =
      ((Execution.mk m i).tone?.map fun tone => .toneRequested tone.ticks).toList := by
  cases i with
  | setSound x =>
    show soundEntries (m.v x) = _
    rw [soundEntries, Execution.tone?_setSound]
    split <;> rfl
  | _ => rfl

/-- **All that a cycle notes**: the word, if it is passed over, and the execution, if an instruction
is started. -/
theorem entries_cycle (strict : Bool) (m : Machine) :
    (m.cycle strict).entries =
      Instruction.resolveEntries strict m.fetch ++
        m.started?.toList.flatMap fun i => (Execution.mk m i).entries := by
  rw [Instruction.resolveEntries_eq]
  rcases cycle_cases strict m with
    ⟨rfl, hw, h⟩ | ⟨-, hle, h⟩ | ⟨rfl, hw, -, h⟩ | ⟨i, hi, h⟩
  · rw [h, started?, hw, ite_self]
    rfl
  · rw [h, started?, if_neg (Nat.not_lt.2 hle), Instruction.resolveEntries_eq]
    exact (List.append_nil _).symm
  · rw [h, started?, hw, ite_self]
    rfl
  · rw [h, hi, (started?_eq_some_iff.1 hi).2]
    show .started m.counter m.fetch i :: (m.advanced.perform i).entries = _
    rw [entries_perform, executeEntries_advanced]
    exact (List.append_nil _).symm

/-- **A cycle names the instruction that it starts**, and no other. -/
theorem filter_entries_cycle (strict : Bool) (m : Machine) :
    (m.cycle strict).entries.filter LogEntry.isTrace =
      (m.started?.map fun i => (Execution.mk m i).entry).toList := by
  have hresolve : (Instruction.resolveEntries strict m.fetch).filter LogEntry.isTrace = [] := by
    rw [Instruction.resolveEntries_eq]
    cases Instruction.ofWord? m.fetch <;> cases strict <;> rfl
  rw [entries_cycle, List.filter_append, hresolve, List.nil_append]
  cases m.started? with
  | none => rfl
  | some i =>
    show ((Execution.mk m i).entries ++ []).filter LogEntry.isTrace = _
    rw [List.append_nil, Execution.filter_entries]
    rfl

end Machine

namespace Emulator

/-- What a cycle of an emulator notes is what its machine notes. -/
theorem entries_cycle (e : Emulator) :
    e.cycle.entries = (e.machine.cycle e.settings.strict).entries := rfl

/-- **The lines of a cycle.** They follow from the word that the cycle finds and from where it finds
it, and not from how the cycle ends. -/
theorem lines_cycle (e : Emulator) :
    e.cycle.entries.map LogEntry.line =
      match Instruction.ofWord? e.machine.fetch with
      | none =>
        if e.settings.strict then []
        else [(.debug, "ignoring unknown instruction " ++ Text.hex 4 e.machine.fetch.toNat)]
      | some i =>
        if e.machine.counter < 0xFFE then
          (.trace, Text.hex 3 e.machine.counter ++ ": " ++ Text.hex 4 e.machine.fetch.toNat ++
            " " ++ i.outline.render) ::
          match i with
          | .setSound x =>
            if 0 < e.machine.v x then
              [(.debug, "tone requested for " ++ toString (e.machine.v x).toNat ++ " ticks")]
            else []
          | _ => []
        else [] := by
  rw [entries_cycle, Machine.entries_cycle, Instruction.resolveEntries_eq, Machine.started?]
  cases Instruction.ofWord? e.machine.fetch with
  | none =>
    rw [ite_self]
    cases e.settings.strict <;> rfl
  | some i =>
    have hroom : e.machine.counter + wordSize < Memory.size ↔ e.machine.counter < 0xFFE := by
      show e.machine.counter + 2 < 4096 ↔ _
      omega
    dsimp only
    by_cases hlt : e.machine.counter < 0xFFE
    · rw [if_pos (hroom.2 hlt), if_pos hlt]
      show ((Execution.mk e.machine i).entries ++ []).map LogEntry.line = _
      rw [List.append_nil, Execution.entries, List.map_cons]
      refine congrArg (List.cons _) ?_
      cases i with
      | setSound x =>
        rw [Execution.tone?_setSound]
        dsimp only
        split <;> rfl
      | _ => rfl
    · rw [if_neg fun h => hlt (hroom.1 h), if_neg hlt]
      rfl

/-- **What a cycle names it has executed**, and what it does not name it has not: either it names
the instruction at the counter, and the machine is left as that instruction leaves it, or it names
none, and at most the counter has moved. -/
theorem state_cycle_of_entries (e : Emulator) :
    let named := e.cycle.entries.filter LogEntry.isTrace
    (∃ i, named = [.started e.machine.counter e.machine.fetch i] ∧
        e.cycle.state = { e with machine := e.machine.advanced.executed i }) ∨
      (named = [] ∧
        ∃ counter, e.cycle.state = { e with machine := { e.machine with counter } }) := by
  intro named
  have hnamed : named = (e.machine.started?.map fun i => (Execution.mk e.machine i).entry).toList :=
    e.machine.filter_entries_cycle e.settings.strict
  rw [hnamed, state_cycle]
  rcases Machine.state_cycle e.settings.strict e.machine with
    ⟨i, hi, hstate⟩ | ⟨hnone, hstate | ⟨-, hstate⟩⟩
  · rw [hi, hstate]
    exact Or.inl ⟨i, rfl, rfl⟩
  · rw [hnone, hstate]
    exact Or.inr ⟨rfl, e.machine.counter, rfl⟩
  · rw [hnone, hstate]
    exact Or.inr ⟨rfl, e.machine.counter + wordSize, rfl⟩

/-! ### Runs -/

/-- All that a run notes in the log, in order. -/
def entries (e : Emulator) : List Command → List LogEntry
  | [] => []
  | c :: rest => (e.perform c).entries ++ (e.next c).entries rest

/-- Only cycles start instructions, and a load is noted as something else. -/
theorem filter_entries_perform (e : Emulator) (c : Command) :
    (e.perform c).entries.filter LogEntry.isTrace =
      ((e.started? c).toList.map (Execution.mk e.machine)).map Execution.entry := by
  cases c with
  | cycle =>
    show (e.machine.cycle e.settings.strict).entries.filter LogEntry.isTrace = _
    rw [Machine.filter_entries_cycle, started?]
    cases e.machine.started? <;> rfl
  | load data offset =>
    rw [perform]
    cases e.load data offset <;> rfl
  | loadProgram source =>
    rw [perform]
    cases e.loadProgram source <;> rfl
  | press key =>
    rw [perform]
    cases e.setKey key true <;> rfl
  | release key =>
    rw [perform]
    cases e.setKey key false <;> rfl
  | tick => rfl
  | takeTone => rfl

/-- **The log names the executions of a run**, each of them once and in order. -/
theorem filter_entries (e : Emulator) (commands : List Command) :
    (e.entries commands).filter LogEntry.isTrace = (e.history commands).map Execution.entry := by
  induction commands generalizing e with
  | nil => rfl
  | cons c rest ih =>
    rw [entries, history_cons, List.filter_append, filter_entries_perform, ih, List.map_append]

/-- A skip out of memory is named although it fails. What stands behind it cannot be started, and is
not named. -/
example :
    let memory := Memory.blank.write 0xFFC 0x30
    let e : Emulator := ⟨{}, { Machine.start 0xFFC 0 with memory }⟩
    (e.entries [.cycle, .cycle]).filter LogEntry.isTrace =
      [.started 0xFFC 0x3000 (.skip (.equalsByte 0 0))] := by
  decide +kernel

end Emulator

end ChipEight
