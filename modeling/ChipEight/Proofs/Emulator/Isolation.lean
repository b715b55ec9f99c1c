import ChipEight.Proofs.Emulator.Faults
import ChipEight.Proofs.Emulator.History

/-! # What a program can see of the world outside

Keys, ticks and the taking of tones reach a machine from outside. They change its timers, its keypad
and its tone request, and a program looks at these through four instructions only. So a program that
executes none of the four runs alike whatever happens outside; and since no instruction looks at the
tone request, it makes no difference to any program whether tones are taken.

* `Machine.interior`: the parts of a machine that its program and loads reach, and nothing else;
* `Instruction.looksOutside`: the four instructions that look at anything but these parts;
* `Emulator.observed`: what someone sees of a run who sees some of its commands only;
* `Emulator.Unwinds`: conditions on single commands under which nothing that is seen depends on a
  command that is not seen, and `Emulator.Unwinds.observed_eq`: this holds of whole runs then;
* `Emulator.world_does_not_interfere`: the two statements above. -/

namespace ChipEight

/-- Whether an instruction looks at the delay timer or at the keypad. -/
def Instruction.looksOutside : Instruction → Bool
  | .getDelay _ | .waitKey _ | .skip (.keyDown _) | .skip (.keyUp _) => true
  | _ => false

/-- All of a machine but its timers, its keypad and its tone request. -/
structure Interior where
  memory : Memory
  registers : Vector UInt8 16
  index : Nat
  counter : Nat
  stack : List Nat
  screen : Screen
  random : RandomSource
deriving DecidableEq

/-- The parts of a machine that only its program and loads reach. -/
def Machine.interior (m : Machine) : Interior :=
  ⟨m.memory, m.registers, m.index, m.counter, m.stack, m.screen, m.random⟩

/-- Machines with the same interior differ in what is reached from outside. -/
theorem Machine.exists_of_interior_eq {m m' : Machine} (h : m.interior = m'.interior) :
    ∃ delay sound keypad pending, m' = { m with delay, sound, keypad, pending } := by
  simp only [interior, Interior.mk.injEq] at h
  obtain ⟨hmemory, hregisters, hindex, hcounter, hstack, hscreen, hrandom⟩ := h
  refine ⟨m'.delay, m'.sound, m'.keypad, m'.pending, ?_⟩
  rw [hmemory, hregisters, hindex, hcounter, hstack, hscreen, hrandom]

/-- A condition depends on the interior, and on the keypad if it asks for a key. -/
theorem Condition.holds_congr {m m' : Machine} {c : Condition} (h : m.interior = m'.interior)
    (hlooks : (Instruction.skip c).looksOutside = true → m.keypad = m'.keypad) :
    c.holds m = c.holds m' := by
  obtain ⟨delay, sound, keypad, pending, rfl⟩ := Machine.exists_of_interior_eq h
  cases c with
  | keyDown x => exact congrArg (fun p : Keypad => p.isPressed (m.v x)) (hlooks rfl)
  | keyUp x => exact congrArg (fun p : Keypad => !p.isPressed (m.v x)) (hlooks rfl)
  | _ => rfl

namespace Machine

variable {m m' : Machine} {i : Instruction}

/-! ### What an instruction looks at -/

/-- What registers are stored depends on the interior alone. -/
theorem interior_storeRegisters_congr (h : m.interior = m'.interior) (registers : List Register) :
    (m.storeRegisters registers).interior = (m'.storeRegisters registers).interior := by
  induction registers generalizing m m' with
  | nil => exact h
  | cons r rest ih =>
    obtain ⟨delay, sound, keypad, pending, rfl⟩ := exists_of_interior_eq h
    rw [storeRegisters, storeRegisters]
    exact ih rfl

/-- **An instruction depends on the interior**, and on the delay timer and the keypad if it looks
outside. -/
theorem interior_executed_congr (h : m.interior = m'.interior)
    (hlooks : i.looksOutside = true → m.delay = m'.delay ∧ m.keypad = m'.keypad) :
    (m.executed i).interior = (m'.executed i).interior := by
  cases i with
  | skip c =>
    have hholds : c.holds m = c.holds m' := Condition.holds_congr h fun hc => (hlooks hc).2
    obtain ⟨delay, sound, keypad, pending, rfl⟩ := exists_of_interior_eq h
    rw [executed_skip, executed_skip, hholds]
    split <;> rfl
  | waitKey x =>
    have hkeypad : m.keypad = m'.keypad := (hlooks rfl).2
    obtain ⟨delay, sound, keypad, pending, rfl⟩ := exists_of_interior_eq h
    rw [executed_waitKey, executed_waitKey, ← hkeypad]
    split <;> rfl
  | getDelay x =>
    have hdelay : m.delay = m'.delay := (hlooks rfl).1
    obtain ⟨delay, sound, keypad, pending, rfl⟩ := exists_of_interior_eq h
    exact congrArg (fun value => (m.setV x value).interior) hdelay
  | store x => exact interior_storeRegisters_congr h (registersUpTo x)
  -- The others look at the interior alone, so that both sides are the same.
  | ret =>
    obtain ⟨delay, sound, keypad, pending, rfl⟩ := exists_of_interior_eq h
    rw [executed_ret, executed_ret]
    rfl
  | combine operation x y =>
    obtain ⟨delay, sound, keypad, pending, rfl⟩ := exists_of_interior_eq h
    cases operation <;> rfl
  | _ =>
    obtain ⟨delay, sound, keypad, pending, rfl⟩ := exists_of_interior_eq h
    rfl

/-- So does its failure. -/
theorem error_perform_congr (h : m.interior = m'.interior)
    (hlooks : i.looksOutside = true → m.keypad = m'.keypad) :
    (m.perform i).error = (m'.perform i).error := by
  have hcounter : m.counter = m'.counter := congrArg Interior.counter h
  rw [error_perform, error_perform]
  cases i with
  | skip c => simp only [hcounter, Condition.holds_congr h hlooks]
  | _ => rfl

/-- Machines with the same interior start the same instruction, and their cycles agree as far as the
instruction does. -/
theorem cycle_congr {α : Type} {view : Machine → α} {strict : Bool}
    (h : m.interior = m'.interior) (hview : view m = view m')
    (hadvanced : view m.advanced = view m'.advanced)
    (hperform : ∀ i, m.started? = some i →
      (m.advanced.perform i).error = (m'.advanced.perform i).error ∧
        view (m.advanced.executed i) = view (m'.advanced.executed i)) :
    (m.cycle strict).error = (m'.cycle strict).error ∧
      view (m.cycle strict).state = view (m'.cycle strict).state := by
  have hcounter : m.counter = m'.counter := congrArg Interior.counter h
  have hmemory : m.memory = m'.memory := congrArg Interior.memory h
  have hfetch : m.fetch = m'.fetch := by rw [fetch, fetch, hmemory, hcounter]
  -- The word and the counter decide in which of the four ways a cycle ends.
  rcases cycle_cases strict m with
    ⟨rfl, hw, hm⟩ | ⟨hw, hle, hm⟩ | ⟨rfl, hw, hlt, hm⟩ | ⟨i, hi, hm⟩
  · have hm' := cycle_of_objects (hfetch ▸ hw)
    rw [hm, hm', hfetch]
    exact ⟨rfl, hview⟩
  · have hm' := cycle_of_outOfMemory (hfetch ▸ hw) (hcounter ▸ hle)
    rw [hm, hm', hcounter]
    exact ⟨rfl, hview⟩
  · have hm' := cycle_of_ignores (hfetch ▸ hw) (hcounter ▸ hlt)
    rw [hm, hm']
    exact ⟨rfl, hadvanced⟩
  · have hi' : m'.started? = some i := by rwa [started?, ← hfetch, ← hcounter]
    rw [hm, cycle_of_started? hi']
    exact hperform i hi

/-- Machines that are alike once their tone requests are taken have all else in common. -/
theorem takeTone_eq_iff :
    m.takeTone = m'.takeTone ↔
      m.interior = m'.interior ∧ m.delay = m'.delay ∧ m.sound = m'.sound ∧
        m.keypad = m'.keypad := by
  simp only [takeTone, interior, Machine.mk.injEq, Interior.mk.injEq]
  grind

/-- No instruction looks at the tone request. -/
theorem takeTone_executed_congr (h : m.takeTone = m'.takeTone) (i : Instruction) :
    (m.executed i).takeTone = (m'.executed i).takeTone := by
  obtain ⟨hinterior, hdelay, hsound, hkeypad⟩ := takeTone_eq_iff.1 h
  have hv : ∀ x, m.v x = m'.v x := by
    intro x
    exact congrArg (fun registers : Vector UInt8 16 => registers[x])
      (congrArg Interior.registers hinterior)
  refine takeTone_eq_iff.2 ⟨?_, ?_, ?_, ?_⟩
  · exact interior_executed_congr hinterior fun _ => ⟨hdelay, hkeypad⟩
  · rw [delay_executed, delay_executed]
    simp only [hv, hdelay]
  · rw [sound_executed, sound_executed]
    simp only [hv, hsound]
  · rw [keypad_executed, keypad_executed, hkeypad]

end Machine

/-- Whether a command runs the program or loads bytes for it. -/
def Command.isLoadOrCycle : Command → Bool
  | .load .. | .loadProgram _ | .cycle => true
  | _ => false

namespace Emulator

variable {e e' : Emulator}

/-! ### What a command depends on -/

variable {α : Type} {view : Machine → α}

/-- Loads into memories that agree are answered alike, and leave a view alike that they reach only
through memory. -/
theorem perform_load_congr {c : Command} (hc : c.IsLoad) (hsettings : e.settings = e'.settings)
    (hmemory : e.machine.memory = e'.machine.memory)
    (hview : ∀ memory, view { e.machine with memory } = view { e'.machine with memory }) :
    (e.perform c).reply = (e'.perform c).reply ∧
      view (e.next c).machine = view (e'.next c).machine := by
  -- A load that is refused leaves the memory that there was.
  have hsame : view e.machine = view e'.machine := by
    have hrefused : { e'.machine with memory := e.machine.memory } = e'.machine := by rw [hmemory]
    exact (hview e.machine.memory).trans (congrArg view hrefused)
  cases c with
  | load data offset =>
    simp only [next, perform, load, Machine.load, ← hmemory]
    cases e.machine.memory.load data offset with
    | error fault => exact ⟨rfl, hsame⟩
    | ok result => exact ⟨rfl, hview result.2⟩
  | loadProgram source =>
    simp only [next, perform, loadProgram, Machine.loadFrom, ← hmemory, ← hsettings]
    cases e.machine.memory.loadFrom source e.settings.programAddress.toNat with
    | error fault => exact ⟨rfl, hsame⟩
    | ok result => exact ⟨rfl, hview result.2⟩
  | _ => exact hc.elim

/-- To move a key on keypads that agree is answered alike, and leaves a view alike that it reaches
only through the keypad. -/
theorem response_setKey_congr (hkeypad : e.machine.keypad = e'.machine.keypad)
    (hview : ∀ keypad, view { e.machine with keypad } = view { e'.machine with keypad })
    (key : UInt8) (down : Bool) :
    let response (e : Emulator) :=
      Response.ofExcept e (fun _ => []) (fun next => (next, .done)) (e.setKey key down)
    (response e).reply = (response e').reply ∧
      view (response e).emulator.machine = view (response e').emulator.machine := by
  have hsame : view e.machine = view e'.machine := by
    have hrefused : { e'.machine with keypad := e.machine.keypad } = e'.machine := by rw [hkeypad]
    exact (hview e.machine.keypad).trans (congrArg view hrefused)
  simp only [setKey, Machine.setKey, ← hkeypad]
  cases e.machine.keypad.set key down with
  | error fault => exact ⟨rfl, hsame⟩
  | ok keypad => exact ⟨rfl, hview keypad⟩

/-- Cycles of machines that agree are answered alike, and agree afterwards. -/
theorem perform_cycle_congr (hsettings : e.settings = e'.settings)
    (h : ∀ strict, (e.machine.cycle strict).error = (e'.machine.cycle strict).error ∧
      view (e.machine.cycle strict).state = view (e'.machine.cycle strict).state) :
    (e.perform .cycle).reply = (e'.perform .cycle).reply ∧
      view (e.next .cycle).machine = view (e'.next .cycle).machine := by
  obtain ⟨herror, hstate⟩ := h e.settings.strict
  have hcycle : e.cycle.error = e'.cycle.error := by
    rw [error_cycle, error_cycle, ← hsettings, herror]
  refine ⟨?_, ?_⟩
  · simp only [perform, Response.ofOutcome, hcycle]
  · show view (e.machine.cycle e.settings.strict).state =
      view (e'.machine.cycle e'.settings.strict).state
    rw [← hsettings, hstate]

/-! ### What is seen of a run -/

/-- What is seen of a run by someone who sees some of its commands: for each of these its answer,
and a view of the machine that it leaves. -/
def observed (sees : Command → Bool) (view : Machine → α) (e : Emulator) :
    List Command → List (Except Fault Reply × α)
  | [] => []
  | c :: rest =>
    if sees c then
      ((e.perform c).reply, view (e.next c).machine) :: (e.next c).observed sees view rest
    else (e.next c).observed sees view rest

/-- Conditions on single commands under which nothing that is seen depends on what is not seen, as
long as only safe instructions are executed. -/
structure Unwinds (sees : Command → Bool) (view : Machine → α) (safe : Instruction → Prop) :
    Prop where
  /-- A command that is not seen does not change the view. -/
  unseen : ∀ (e : Emulator) (c : Command), sees c = false → view (e.next c).machine = view e.machine
  /-- What is seen of a command depends on the view and the settings alone. -/
  seen : ∀ (e e' : Emulator) (c : Command), sees c = true → (∀ i, e.started? c = some i → safe i) →
    e.settings = e'.settings → view e.machine = view e'.machine →
      (e.perform c).reply = (e'.perform c).reply ∧
        view (e.next c).machine = view (e'.next c).machine

namespace Unwinds

variable {sees : Command → Bool} {safe : Instruction → Prop}

/-- Of commands that are not seen nothing is seen. -/
theorem observed_append_of_unseen (h : Unwinds sees view safe) {hidden : List Command}
    (hhidden : ∀ c ∈ hidden, sees c = false) (e : Emulator) (rest : List Command) :
    e.observed sees view (hidden ++ rest) = (e.after hidden).observed sees view rest ∧
      view (e.after hidden).machine = view e.machine := by
  induction hidden generalizing e with
  | nil => exact ⟨rfl, rfl⟩
  | cons c others ih =>
    obtain ⟨hc, hothers⟩ := List.forall_mem_cons.1 hhidden
    obtain ⟨hobserved, hview⟩ := ih hothers (e.next c)
    refine ⟨?_, hview.trans (h.unseen e c hc)⟩
    rw [List.cons_append, observed, hc, after_cons]
    exact hobserved

/-- **Two runs look alike** that differ in commands which are not seen, if they start from machines
that look alike. Only the first run needs to be safe. -/
theorem observed_eq (h : Unwinds sees view safe) {commands commands' : List Command}
    (hsame : commands.filter sees = commands'.filter sees)
    (hsafe : ∀ x ∈ e.history commands, safe x.instruction) (hsettings : e.settings = e'.settings)
    (hview : view e.machine = view e'.machine) :
    e.observed sees view commands = e'.observed sees view commands' ∧
      view (e.after commands).machine = view (e'.after commands').machine := by
  induction commands generalizing e e' commands' with
  | nil =>
    have hhidden : ∀ c ∈ commands', sees c = false := by
      intro c hc
      exact Bool.eq_false_iff.2 (List.filter_eq_nil_iff.1 hsame.symm c hc)
    obtain ⟨hobserved, hview'⟩ := h.observed_append_of_unseen hhidden e' []
    rw [List.append_nil] at hobserved
    exact ⟨hobserved.symm, hview.trans hview'.symm⟩
  | cons c rest ih =>
    rw [history_cons, List.forall_mem_append] at hsafe
    obtain ⟨hsafec, hsaferest⟩ := hsafe
    cases hc : sees c with
    | false =>
      rw [List.filter_cons_of_neg (by simp [hc])] at hsame
      rw [observed, hc, after_cons]
      exact ih hsame hsaferest (by rw [settings_next, hsettings]) ((h.unseen e c hc).trans hview)
    | true =>
      -- The other run comes to the same command after some that are not seen.
      rw [List.filter_cons_of_pos hc] at hsame
      obtain ⟨hidden, rest', rfl, hhidden, -, hrest⟩ := List.filter_eq_cons_iff.1 hsame.symm
      have hunseen : ∀ c ∈ hidden, sees c = false := fun c hc => Bool.eq_false_iff.2 (hhidden c hc)
      obtain ⟨hobserved, hview'⟩ := h.observed_append_of_unseen hunseen e' (c :: rest')
      have hsettings' : e.settings = (e'.after hidden).settings := by
        rw [settings_after, hsettings]
      have hsafei : ∀ i, e.started? c = some i → safe i := by
        intro i hi
        exact hsafec ⟨e.machine, i⟩ (by simp [hi])
      obtain ⟨hreply, hnext⟩ :=
        h.seen e (e'.after hidden) c hc hsafei hsettings' (hview.trans hview'.symm)
      obtain ⟨hlater, hend⟩ :=
        ih hrest.symm hsaferest (by simp only [settings_next, hsettings']) hnext
      refine ⟨?_, ?_⟩
      · rw [hobserved, observed, observed, hc, if_pos rfl, if_pos rfl, hreply, hnext, hlater]
      · rw [after_append, after_cons, after_cons]
        exact hend

end Unwinds

/-! ### Programs and the world -/

/-- A program that does not look outside depends on its loads and cycles alone. -/
theorem unwinds_interior :
    Unwinds Command.isLoadOrCycle Machine.interior (fun i => i.looksOutside = false) where
  unseen e c hc := by
    cases c with
    | press key =>
      rw [next_press]
      rfl
    | release key =>
      rw [next_release]
      rfl
    | tick => rfl
    | takeTone => rfl
    | _ => exact Bool.noConfusion hc
  seen e e' c hc hsafe hsettings hview := by
    have hmemory : e.machine.memory = e'.machine.memory := congrArg Interior.memory hview
    have hloaded : ∀ memory,
        { e.machine with memory }.interior = { e'.machine with memory }.interior :=
      fun memory => congrArg (fun n : Interior => { n with memory }) hview
    cases c with
    | load data offset => exact perform_load_congr trivial hsettings hmemory hloaded
    | loadProgram source => exact perform_load_congr trivial hsettings hmemory hloaded
    | cycle =>
      have hadvanced : e.machine.advanced.interior = e'.machine.advanced.interior :=
        congrArg (fun n : Interior => { n with counter := n.counter + wordSize }) hview
      refine perform_cycle_congr hsettings fun strict => ?_
      refine Machine.cycle_congr hview hview hadvanced ?_
      intro i hi
      -- The instruction does not look outside, so there is nothing else that it could look at.
      have hlooks : ¬i.looksOutside = true := Bool.eq_false_iff.1 (hsafe i hi)
      exact ⟨Machine.error_perform_congr hadvanced fun h => absurd h hlooks,
        Machine.interior_executed_congr hadvanced fun h => absurd h hlooks⟩
    | _ => exact Bool.noConfusion hc

/-- No program depends on whether tones are taken. -/
theorem unwinds_takeTone :
    Unwinds (fun c => !c.isTakeTone) Machine.takeTone (fun _ => True) where
  unseen e c hc := by
    cases c with
    | takeTone => rfl
    | _ => exact Bool.noConfusion hc
  seen e e' c hc _ hsettings hview := by
    obtain ⟨hinterior, -, -, hkeypad⟩ := Machine.takeTone_eq_iff.1 hview
    have hmemory : e.machine.memory = e'.machine.memory := congrArg Interior.memory hinterior
    have hloaded : ∀ memory,
        { e.machine with memory }.takeTone = { e'.machine with memory }.takeTone :=
      fun memory => congrArg (fun m : Machine => { m with memory }) hview
    have hmoved : ∀ keypad,
        { e.machine with keypad }.takeTone = { e'.machine with keypad }.takeTone :=
      fun keypad => congrArg (fun m : Machine => { m with keypad }) hview
    -- The machines agree in all but the tone request, and only a take reads that.
    cases c with
    | load data offset => exact perform_load_congr trivial hsettings hmemory hloaded
    | loadProgram source => exact perform_load_congr trivial hsettings hmemory hloaded
    | press key => exact response_setKey_congr hkeypad hmoved key true
    | release key => exact response_setKey_congr hkeypad hmoved key false
    | cycle =>
      have hadvanced : e.machine.advanced.takeTone = e'.machine.advanced.takeTone :=
        congrArg (fun m : Machine => { m with counter := m.counter + wordSize }) hview
      refine perform_cycle_congr hsettings fun strict => ?_
      refine Machine.cycle_congr hinterior hview hadvanced ?_
      intro i hi
      obtain ⟨hadvanced', -, -, hkeypad'⟩ := Machine.takeTone_eq_iff.1 hadvanced
      exact ⟨Machine.error_perform_congr hadvanced' fun _ => hkeypad',
        Machine.takeTone_executed_congr hadvanced i⟩
    | tick => exact ⟨rfl, congrArg Machine.tick hview⟩
    | takeTone => exact Bool.noConfusion hc

/-- **The world outside does not interfere.** Two runs of one emulator are given commands that may
differ.

* If they have the same loads and cycles, in the same order, and the first run executes no
  instruction that looks outside, then these loads and cycles have the same answers in both runs,
  and leave machines with the same interior.
* If they differ only in when tones are taken, then all other commands have the same answers, and
  leave machines that differ at most in the tone request, whatever instructions are executed.

Both hold at the end of the runs as well. -/
theorem world_does_not_interfere (e : Emulator) (commands commands' : List Command) :
    (commands.filter Command.isLoadOrCycle = commands'.filter Command.isLoadOrCycle →
      (∀ x ∈ e.history commands, x.instruction.looksOutside = false) →
      e.observed Command.isLoadOrCycle Machine.interior commands =
          e.observed Command.isLoadOrCycle Machine.interior commands' ∧
        (e.after commands).machine.interior = (e.after commands').machine.interior) ∧
    (commands.filter (fun c => !c.isTakeTone) = commands'.filter (fun c => !c.isTakeTone) →
      e.observed (fun c => !c.isTakeTone) Machine.takeTone commands =
          e.observed (fun c => !c.isTakeTone) Machine.takeTone commands' ∧
        (e.after commands).machine.takeTone = (e.after commands').machine.takeTone) :=
  ⟨fun hsame hsafe => unwinds_interior.observed_eq hsame hsafe rfl rfl,
    fun hsame => unwinds_takeTone.observed_eq hsame (fun _ _ => trivial) rfl rfl⟩

/-- A program that asks for a tone of five ticks runs alike with ticks, keys and taken tones in
between, although they leave another machine; and to take the tone late changes nothing but the tone
request. -/
theorem world_does_not_interfere_with_tone :
    let memory := (((Memory.blank.write 0 0x60).write 1 0x05).write 2 0xf0).write 3 0x18
    let e : Emulator := ⟨{}, { Machine.start 0 0 with memory }⟩
    let commands : List Command := [.cycle, .tick, .press 3, .cycle, .cycle, .tick]
    let commands' : List Command := [.press 200, .cycle, .cycle, .takeTone, .cycle]
    let late : List Command := [.press 200, .cycle, .cycle, .cycle, .takeTone]
    commands.filter Command.isLoadOrCycle = commands'.filter Command.isLoadOrCycle ∧
      (∀ x ∈ e.history commands, x.instruction.looksOutside = false) ∧
      (e.after commands).machine.interior = (e.after commands').machine.interior ∧
      (e.after commands).machine.sound = 4 ∧ (e.after commands').machine.sound = 5 ∧
      commands'.filter (fun c => !c.isTakeTone) = late.filter (fun c => !c.isTakeTone) ∧
      (e.after commands').machine.takeTone = (e.after late).machine.takeTone := by
  intro memory e commands commands' late
  have hsame : commands.filter Command.isLoadOrCycle = commands'.filter Command.isLoadOrCycle := rfl
  have hsafe : ∀ x ∈ e.history commands, x.instruction.looksOutside = false := by decide +kernel
  have hsound : (e.after commands).machine.sound = 4 := by decide +kernel
  have hsound' : (e.after commands').machine.sound = 5 := by decide +kernel
  have htakes :
      commands'.filter (fun c => !c.isTakeTone) = late.filter (fun c => !c.isTakeTone) := rfl
  have hinterior := ((world_does_not_interfere e commands commands').1 hsame hsafe).2
  have htaken := ((world_does_not_interfere e commands' late).2 htakes).2
  exact ⟨hsame, hsafe, hinterior, hsound, hsound', htakes, htaken⟩

end Emulator

end ChipEight
