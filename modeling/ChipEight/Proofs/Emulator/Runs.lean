import ChipEight.Emulator.Command
import ChipEight.Proofs.Keypad.Keys

/-! # Runs of an emulator

A run gives an emulator commands, one after the other. A command that fails does not end the run:
the emulator goes on from the state in which the failure left it.

* `Emulator.next` and `Emulator.after`: the emulator after one command and after a list of them;
* `Emulator.replies`: the answers to the commands of a run;
* `Emulator.Reachable`: the emulators that some run leads to from the start;
* `Emulator.next_cases`: all that one command can do;
* `Emulator.after_induction`: what the commands of a run preserve, the run preserves. -/

namespace ChipEight

namespace Command

/-- Whether a command writes bytes from outside into memory. -/
def IsLoad : Command → Prop
  | .load .. | .loadProgram .. => True
  | _ => False

/-- Whether a command is a tick of the timers. -/
def isTick : Command → Bool
  | .tick => true
  | _ => false

/-- Whether a command takes the tone request. -/
def isTakeTone : Command → Bool
  | .takeTone => true
  | _ => false

end Command

namespace Emulator

/-- The emulator after a command, also if the command failed. -/
def next (e : Emulator) (c : Command) : Emulator := (e.perform c).emulator

/-- The emulator after some commands. -/
def after (e : Emulator) (commands : List Command) : Emulator := commands.foldl next e

/-- The answers to the commands of a run, in order. -/
def replies (e : Emulator) : List Command → List (Except Fault Reply)
  | [] => []
  | c :: rest => (e.perform c).reply :: (e.next c).replies rest

/-- An emulator is reachable if some commands lead to it from the start. -/
def Reachable (e : Emulator) : Prop :=
  ∃ settings entropy commands, (boot settings entropy).after commands = e

@[simp] theorem after_nil (e : Emulator) : e.after [] = e := rfl

@[simp] theorem after_cons (e : Emulator) (c : Command) (rest : List Command) :
    e.after (c :: rest) = (e.next c).after rest := rfl

/-- A run goes on where its first part has ended. -/
theorem after_append (e : Emulator) (first second : List Command) :
    e.after (first ++ second) = (e.after first).after second :=
  List.foldl_append

/-- To repeat a command once more is to give it again at the end. -/
theorem after_replicate_succ (e : Emulator) (c : Command) (n : Nat) :
    e.after (List.replicate (n + 1) c) = (e.after (List.replicate n c)).next c := by
  rw [List.replicate_succ', after_append, after_cons, after_nil]

@[simp] theorem replies_nil (e : Emulator) : e.replies [] = [] := rfl

@[simp] theorem replies_cons (e : Emulator) (c : Command) (rest : List Command) :
    e.replies (c :: rest) = (e.perform c).reply :: (e.next c).replies rest := rfl

/-- A command of a run is answered by the emulator that the commands before it have led to. -/
theorem getElem?_replies (e : Emulator) (commands : List Command) (n : Nat) :
    (e.replies commands)[n]? =
      commands[n]?.map fun c => ((e.after (commands.take n)).perform c).reply := by
  induction commands generalizing e n with
  | nil => rfl
  | cons c rest ih =>
    cases n with
    | zero => rfl
    | succ n => exact ih (e.next c) n

/-! ### Single commands -/

/-- A command that loads bytes changes memory alone, or nothing. -/
theorem next_of_isLoad (e : Emulator) {c : Command} (hc : c.IsLoad) :
    ∃ memory, e.next c = { e with machine := { e.machine with memory } } := by
  cases c with
  | load data offset =>
    simp only [next, perform, load, Machine.load]
    cases e.machine.memory.load data offset with
    | error fault => exact ⟨e.machine.memory, rfl⟩
    | ok result => exact ⟨result.2, rfl⟩
  | loadProgram source =>
    simp only [next, perform, loadProgram, Machine.loadFrom]
    cases e.machine.memory.loadFrom source e.settings.programAddress.toNat with
    | error fault => exact ⟨e.machine.memory, rfl⟩
    | ok result => exact ⟨result.2, rfl⟩
  | _ => exact hc.elim

/-- To move a key changes the keypad alone, also if it is refused. -/
theorem emulator_setKey (e : Emulator) (key : UInt8) (down : Bool) :
    (Response.ofExcept e (fun _ => []) (fun next => (next, .done)) (e.setKey key down)).emulator =
      { e with machine := { e.machine with keypad := e.machine.keypad.moved key down } } := by
  rw [setKey, Machine.setKey, Keypad.moved]
  cases e.machine.keypad.set key down <;> rfl

/-- Pressing a key changes the keypad only. -/
theorem next_press (e : Emulator) (key : UInt8) :
    e.next (.press key) =
      { e with machine := { e.machine with keypad := e.machine.keypad.moved key true } } :=
  e.emulator_setKey key true

/-- So does releasing one. -/
theorem next_release (e : Emulator) (key : UInt8) :
    e.next (.release key) =
      { e with machine := { e.machine with keypad := e.machine.keypad.moved key false } } :=
  e.emulator_setKey key false

/-- To take the tone request has no effect where there is none. -/
theorem takeTone_of_pending_eq_none {e : Emulator} (h : e.machine.pending = none) :
    e.takeTone = e := by
  rw [takeTone, Machine.takeTone, ← h]

/-- **All that a command can do.** It loads, moves a key, runs a cycle, ticks or takes the tone
request, and the settings stay as they are. -/
theorem next_cases (e : Emulator) (c : Command) :
    (c.IsLoad ∧ ∃ memory, e.next c = { e with machine := { e.machine with memory } }) ∨
      (∃ keypad, e.next c = { e with machine := { e.machine with keypad } }) ∨
      (c = .cycle ∧ e.next c = e.cycle.state) ∨ (c = .tick ∧ e.next c = e.tick) ∨
      (c = .takeTone ∧ e.next c = e.takeTone) := by
  cases c with
  | load data offset => exact Or.inl ⟨trivial, next_of_isLoad e trivial⟩
  | loadProgram source => exact Or.inl ⟨trivial, next_of_isLoad e trivial⟩
  | press key => exact Or.inr (Or.inl ⟨_, e.next_press key⟩)
  | release key => exact Or.inr (Or.inl ⟨_, e.next_release key⟩)
  | cycle => exact Or.inr (Or.inr (Or.inl ⟨rfl, rfl⟩))
  | tick => exact Or.inr (Or.inr (Or.inr (Or.inl ⟨rfl, rfl⟩)))
  | takeTone => exact Or.inr (Or.inr (Or.inr (Or.inr ⟨rfl, rfl⟩)))

/-- No command changes the settings. -/
@[simp] theorem settings_next (e : Emulator) (c : Command) : (e.next c).settings = e.settings := by
  rcases e.next_cases c with ⟨-, memory, hc⟩ | ⟨keypad, hc⟩ | ⟨-, hc⟩ | ⟨-, hc⟩ | ⟨-, hc⟩
  all_goals
    have hsettings := congrArg Emulator.settings hc
    exact hsettings

/-- No run changes the settings. -/
theorem settings_after (e : Emulator) (commands : List Command) :
    (e.after commands).settings = e.settings := by
  induction commands generalizing e with
  | nil => rfl
  | cons c rest ih => rw [after_cons, ih, settings_next]

/-! ### Induction -/

/-- **Induction over a run.** A property that every allowed command preserves is preserved by every
run of allowed commands. -/
theorem after_induction {P : Emulator → Prop} {allowed : Command → Prop}
    (step : ∀ e c, allowed c → P e → P (e.next c)) (commands : List Command)
    (hallowed : ∀ c ∈ commands, allowed c) {e : Emulator} (h : P e) : P (e.after commands) := by
  induction commands generalizing e with
  | nil => exact h
  | cons c rest ih =>
    rw [after_cons]
    refine ih (fun d hd => hallowed d (List.mem_cons_of_mem c hd)) ?_
    exact step e c (hallowed c List.mem_cons_self) h

/-- A property of the start that every command preserves holds of every reachable emulator. -/
theorem Reachable.induction {P : Emulator → Prop}
    (start : ∀ settings entropy, P (boot settings entropy))
    (step : ∀ e c, P e → P (e.next c)) {e : Emulator} (h : e.Reachable) : P e := by
  obtain ⟨settings, entropy, commands, rfl⟩ := h
  exact after_induction (fun e c (_ : True) => step e c) commands (fun _ _ => trivial)
    (start settings entropy)

end Emulator

end ChipEight
