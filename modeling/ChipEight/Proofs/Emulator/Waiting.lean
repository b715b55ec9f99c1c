import ChipEight.Proofs.Emulator.Loading
import ChipEight.Proofs.Emulator.Strictness
import ChipEight.Proofs.Instruction.Decoding
import ChipEight.Proofs.Machine.Effects

/-! # Waiting for a key

An instruction that waits for a key steps back when none is down, over just the step that its cycle
has made before. So a cycle of a machine that waits has no effect at all, and whatever else happens
meanwhile, the machine goes on waiting until a key is put down.

* `Machine.Waits`: no key is down, and the next instruction waits for one;
* `Emulator.next_of_waits` and `Emulator.after_of_waits`: what one command and what a run leave of
  an emulator that waits;
* `Emulator.cycle_of_isPressed`: how the wait ends;
* `Emulator.waiting_stutters_until_key_is_down`: all of it together. -/

namespace ChipEight

namespace Command

/-- Whether a command leaves an emulator waiting that waits for a key: it loads nothing and puts no
key down. A key that does not exist cannot be put down. -/
def KeepsWaiting : Command → Prop
  | .cycle | .tick | .takeTone | .release _ => True
  | .press key => Keypad.size ≤ key.toNat
  | .load .. | .loadProgram .. => False

/-- Whether a command puts a key down or lets one up. -/
def MovesKey : Command → Prop
  | .press _ | .release _ => True
  | _ => False

end Command

namespace Machine

variable {m : Machine} {x : Register}

/-- No key is down, and the next instruction waits for one. -/
structure Waits (m : Machine) (x : Register) : Prop where
  noKey : ∀ key, m.keypad.isPressed key = false
  started : m.started? = some (.waitKey x)

/-- To step back undoes the step over an instruction. -/
theorem rewind_advanced (m : Machine) : m.advanced.rewind = m := by
  show { m with counter := m.counter + wordSize - wordSize } = m
  rw [Nat.add_sub_cancel]

/-- An instruction that waits leaves the machine as its cycle found it. -/
theorem Waits.executed (h : m.Waits x) : m.advanced.executed (.waitKey x) = m := by
  have hnone : m.advanced.keypad.lowest? = none := Keypad.lowest?_eq_none_iff.2 h.noKey
  rw [executed_waitKey, hnone]
  exact m.rewind_advanced

/-- Time does not end a wait. -/
theorem Waits.elapse (h : m.Waits x) (ticks : Nat) (taken : Bool) :
    (m.elapse ticks taken).Waits x :=
  ⟨h.noKey, h.started⟩

end Machine

namespace Emulator

variable {e : Emulator} {x : Register}

/-- A cycle of an emulator that waits succeeds and has no effect. -/
theorem cycle_of_waits (h : e.machine.Waits x) : e.cycle.error = none ∧ e.next .cycle = e := by
  constructor
  · rw [error_cycle, Machine.cycle_of_started? h.started]
    rfl
  · rw [next_cycle_of_started? h.started, h.executed]

/-- **What a command leaves of an emulator that waits**: its timers fall by a tick, and its tone
request is gone if it is taken. -/
theorem next_of_waits (h : e.machine.Waits x) {c : Command} (hc : c.KeepsWaiting) :
    e.next c =
      { e with machine := e.machine.elapse (if c.isTick then 1 else 0) c.isTakeTone } := by
  have hsame : { e with machine := e.machine.elapse 0 false } = e := by
    rw [Machine.elapse_zero_false]
  cases c with
  | load | loadProgram => exact hc.elim
  | press key =>
    rw [next_press, e.machine.keypad.moved_of_size_le hc]
    exact hsame.symm
  | release key =>
    rw [next_release, Keypad.moved_false_of_forall h.noKey]
    exact hsame.symm
  | cycle =>
    rw [(cycle_of_waits h).2]
    exact hsame.symm
  | tick => exact congrArg (Emulator.mk e.settings) e.machine.tick_eq_elapse
  | takeTone => exact congrArg (Emulator.mk e.settings) e.machine.takeTone_eq_elapse

/-- **What a run leaves of an emulator that waits**: ticks and takes count, and nothing else
does. -/
theorem after_of_waits (h : e.machine.Waits x) {commands : List Command}
    (hcommands : ∀ c ∈ commands, c.KeepsWaiting) :
    e.after commands =
      { e with
        machine := e.machine.elapse (commands.countP Command.isTick)
          (commands.any Command.isTakeTone) } := by
  induction commands generalizing e with
  | nil => exact congrArg (Emulator.mk e.settings) e.machine.elapse_zero_false.symm
  | cons c rest ih =>
    obtain ⟨hc, hrest⟩ := List.forall_mem_cons.1 hcommands
    rw [after_cons, next_of_waits h hc, ih (h.elapse _ _) hrest, Machine.elapse_elapse,
      List.countP_cons, List.any_cons, Nat.add_comm]

/-- An emulator that waits goes on waiting. -/
theorem waits_after (h : e.machine.Waits x) {commands : List Command}
    (hcommands : ∀ c ∈ commands, c.KeepsWaiting) : (e.after commands).machine.Waits x := by
  rw [after_of_waits h hcommands]
  exact h.elapse _ _

/-- Commands that move keys change the keypad alone. -/
theorem after_of_movesKey (e : Emulator) {moves : List Command} (hmoves : ∀ c ∈ moves, c.MovesKey) :
    ∃ keypad, e.after moves = { e with machine := { e.machine with keypad } } := by
  refine after_induction
    (P := fun e' => ∃ keypad, e' = { e with machine := { e.machine with keypad } })
    (fun e' c hc he' => ?_) moves hmoves ⟨e.machine.keypad, rfl⟩
  obtain ⟨keypad, rfl⟩ := he'
  cases c with
  | press key => exact ⟨_, next_press _ key⟩
  | release key => exact ⟨_, next_release _ key⟩
  | _ => exact hc.elim

/-- A cycle without an error is answered as done. -/
theorem reply_cycle_of_error_eq_none (h : e.cycle.error = none) :
    (e.perform .cycle).reply = .ok .done := by
  rw [reply_cycle, h]

/-- A cycle that waits for a key, and finds one that is down, takes the lowest and goes on. -/
theorem cycle_of_isPressed {key : UInt8} (hi : e.machine.started? = some (.waitKey x))
    (hkey : e.machine.keypad.isPressed key = true) :
    ∃ lowest, e.machine.keypad.isPressed lowest = true ∧
      (∀ k, e.machine.keypad.isPressed k = true → lowest ≤ k) ∧
      (e.perform .cycle).reply = .ok .done ∧
      e.next .cycle =
        { e with
          machine := { e.machine.setV x lowest with counter := e.machine.counter + 2 } } := by
  obtain ⟨lowest, hlowest⟩ := Keypad.exists_lowest?_eq_some hkey
  have hadvanced : e.machine.advanced.keypad.lowest? = some lowest := hlowest
  obtain ⟨hdown, hle⟩ := Keypad.lowest?_eq_some_iff.1 hlowest
  refine ⟨lowest, hdown, hle, reply_cycle_of_error_eq_none ?_, ?_⟩
  · rw [error_cycle, Machine.cycle_of_started? hi]
    rfl
  · rw [next_cycle_of_started? hi, Machine.executed_waitKey, hadvanced]
    rfl

/-- **Waiting for a key has no effect until a key is down.** Let no key be down, and let the word at
the counter wait for one, where the counter can be moved on. Then whatever cycles, ticks, takes of
the tone request, keys let up and refused keys follow in any order:

* every cycle succeeds, and nothing changes but that ticks are counted down from the timers and that
  the tone request is gone once it is taken;
* whichever keys are moved then, as soon as one is down the next cycle succeeds too. It puts the
  lowest key that is down into the register, moves the counter on and changes nothing else. -/
theorem waiting_stutters_until_key_is_down {e : Emulator} {x : Register}
    (hnone : ∀ key, e.machine.keypad.isPressed key = false) (hcounter : e.machine.counter ≤ 0xFFD)
    (hword : e.machine.fetch.toNat = 0xF00A + 256 * x.val) {commands : List Command}
    (hcommands : ∀ c ∈ commands, c.KeepsWaiting) :
    let ticks := commands.countP Command.isTick
    let waiting := e.after commands
    (∀ n : Nat, commands[n]? = some .cycle → (e.replies commands)[n]? = some (.ok .done)) ∧
      waiting = { e with machine := { e.machine with
        delay := countDown e.machine.delay ticks
        sound := countDown e.machine.sound ticks
        pending := if commands.any Command.isTakeTone then none else e.machine.pending } } ∧
      ∀ moves, (∀ c ∈ moves, c.MovesKey) →
        let moved := waiting.after moves
        let p := moved.machine.keypad
        moved = { waiting with machine := { waiting.machine with keypad := p } } ∧
          ((∃ key, p.isPressed key = true) →
            ∃ lowest, p.isPressed lowest = true ∧ (∀ k, p.isPressed k = true → lowest ≤ k) ∧
              (moved.perform .cycle).reply = .ok .done ∧
              moved.next .cycle = { moved with machine := { moved.machine.setV x lowest with
                counter := e.machine.counter + 2 } }) := by
  intro ticks waiting
  have hroom : e.machine.counter + wordSize < Memory.size :=
    Nat.lt_of_le_of_lt (Nat.add_le_add_right hcounter 2) (by decide)
  have hwaits : e.machine.Waits x :=
    ⟨hnone, Machine.started?_eq_some_iff.2
      ⟨hroom, Instruction.ofWord?_eq_some_iff.2 ⟨0, rfl, hword⟩⟩⟩
  have hwaiting := after_of_waits hwaits hcommands
  refine ⟨fun n hn => ?_, hwaiting, fun moves hmoves => ?_⟩
  · -- The commands before the cycle keep the emulator waiting as well.
    have hbefore : ∀ c ∈ commands.take n, c.KeepsWaiting :=
      fun c hc => hcommands c (List.mem_of_mem_take hc)
    rw [getElem?_replies, hn]
    exact congrArg some
      (reply_cycle_of_error_eq_none (cycle_of_waits (waits_after hwaits hbefore)).1)
  · -- Moved keys leave the counter and the word, so the emulator finds the same instruction.
    intro moved p
    obtain ⟨keypad, hmoved⟩ := waiting.after_of_movesKey hmoves
    have hp : p = keypad := congrArg (fun e => e.machine.keypad) hmoved
    have hstarted : moved.machine.started? = some (.waitKey x) := by
      show (waiting.after moves).machine.started? = _
      rw [hmoved]
      exact (waits_after hwaits hcommands).started
    have hcount : moved.machine.counter = e.machine.counter := by
      show (waiting.after moves).machine.counter = _
      rw [hmoved]
      exact congrArg (fun e => e.machine.counter) hwaiting
    refine ⟨hp ▸ hmoved, fun ⟨key, hkey⟩ => ?_⟩
    obtain ⟨lowest, hdown, hle, hreply, hnext⟩ := cycle_of_isPressed hstarted hkey
    rw [hcount] at hnext
    exact ⟨lowest, hdown, hle, hreply, hnext⟩

/-- A program at the end of memory asks for a tone of five ticks and waits for a key at an odd
address, the last at which the counter can be moved on. Of two keys that are put down and one of
them let up it takes the other. -/
theorem waiting_stutters_until_key_is_down_at_end_of_memory :
    let data : Array UInt8 := #[0x60, 0x05, 0xf0, 0x18, 0xf3, 0x0a]
    let commands : List Command := [.cycle, .tick, .release 3, .press 16, .takeTone, .cycle]
    let moves : List Command := [.press 1, .press 7, .release 1]
    ∃ e, e = (boot { programAddress := 0xFF9 } 0).after [.load data 0xFF9, .cycle, .cycle] ∧
      (∀ key, e.machine.keypad.isPressed key = false) ∧ e.machine.counter ≤ 0xFFD ∧
      e.machine.fetch.toNat = 0xF00A + 256 * (3 : Register).val ∧
      (∀ c ∈ commands, c.KeepsWaiting) ∧ (∀ c ∈ moves, c.MovesKey) ∧
      ∃ waiting, waiting = e.after commands ∧ (e.replies commands)[5]? = some (.ok .done) ∧
        waiting.machine.counter = 0xFFD ∧ waiting.machine.sound = 4 ∧
        waiting.machine.pending = none ∧
        ((waiting.after moves).next .cycle).machine.v 3 = 7 ∧
        ((waiting.after moves).next .cycle).machine.counter = 0xFFF := by
  intro data commands moves
  -- From here on the emulator is known by what the program has led to, and not by its memory.
  obtain ⟨e, he, hreleased, hticks, hlast⟩ : ∃ e : Emulator,
      e = (boot { programAddress := 0xFF9 } 0).after [.load data 0xFF9, .cycle, .cycle] ∧
        e.machine.keypad = Keypad.released ∧ e.machine.sound = 5 ∧
        e.machine.IsOver data 0xFF9 4 := by
    obtain ⟨loaded, hloaded, hover, hkeypad⟩ : ∃ loaded : Emulator,
        (boot { programAddress := 0xFF9 } 0).next (.load data 0xFF9) = loaded ∧
          loaded.machine.IsOver data 0xFF9 0 ∧ loaded.machine.keypad = Keypad.released :=
      ⟨_, rfl, isOver_next_load rfl data, rfl⟩
    have hfive : loaded.machine.started? = some (.setByte 0 5) :=
      hover.started? rfl rfl (by decide) (by decide)
    have hset := isOver_next_cycle hover hfive rfl
    have hasks : (loaded.next .cycle).machine.started? = some (.setSound 0) :=
      hset.started? rfl rfl (by decide) (by decide)
    refine ⟨(loaded.next .cycle).next .cycle, hloaded ▸ rfl, ?_, ?_,
      isOver_next_cycle hset hasks rfl⟩
    · rw [next_cycle_of_started? hasks, next_cycle_of_started? hfive]
      exact (Machine.keypad_executed _ _).trans ((Machine.keypad_executed _ _).trans hkeypad)
    · rw [next_cycle_of_started? hasks, next_cycle_of_started? hfive]
      exact (Machine.sound_executed _ _).trans ((Machine.v_setV _ _ _ _).trans (if_pos rfl))
  have hnone : ∀ key, e.machine.keypad.isPressed key = false := by
    rw [hreleased]
    exact Keypad.isPressed_released
  have hcounter : e.machine.counter = 0xFFD := hlast.counter
  have hword : e.machine.fetch.toNat = 0xF00A + 256 * (3 : Register).val := by
    obtain ⟨base, hmemory⟩ := hlast.memory
    rw [Machine.fetch_of_overlay hmemory hlast.counter rfl rfl (by decide), Word.toNat_ofBytes]
    rfl
  have hcommands : ∀ c ∈ commands, c.KeepsWaiting := by
    simp [commands, Command.KeepsWaiting]
  have hmoves : ∀ c ∈ moves, c.MovesKey := by
    simp [moves, Command.MovesKey]
  obtain ⟨hcycles, hwaiting, hends⟩ :=
    waiting_stutters_until_key_is_down hnone (Nat.le_of_eq hcounter) hword hcommands
  have hdown : ((e.after commands).after moves).machine.keypad =
      ((Keypad.released.moved 1 true).moved 7 true).moved 1 false := by
    show ((((e.after commands).next (.press 1)).next (.press 7)).next (.release 1)).machine.keypad =
      _
    rw [next_release, next_press, next_press, hwaiting, ← hreleased]
  obtain ⟨lowest, hpressed, hle, -, hnext⟩ :=
    (hends moves hmoves).2 ⟨7, by rw [hdown]; decide⟩
  have hseven : lowest = 7 := by
    have hlowest := Keypad.lowest?_eq_some_iff.2 ⟨hpressed, hle⟩
    rw [hdown] at hlowest
    exact Option.some.inj (hlowest.symm.trans (by decide))
  refine ⟨e, he, hnone, Nat.le_of_eq hcounter, hword, hcommands, hmoves, e.after commands, rfl,
    hcycles 5 rfl, ?_, ?_, ?_, ?_, ?_⟩
  · rw [hwaiting]
    exact hcounter
  · rw [hwaiting]
    show countDown e.machine.sound 1 = 4
    rw [hticks]
    rfl
  · rw [hwaiting]
    rfl
  · rw [hnext, hseven]
    exact (Machine.v_setV _ _ _ _).trans (if_pos rfl)
  · rw [hnext]
    exact congrArg (· + 2) hcounter

end Emulator

end ChipEight
