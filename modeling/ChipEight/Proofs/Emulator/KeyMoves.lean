import ChipEight.Proofs.Emulator.Runs
import ChipEight.Proofs.Keypad.Moves
import ChipEight.Proofs.Machine.Footprint

/-! # The keys of a run

Of all that can be done to an emulator only presses and releases reach its keypad. So after any run
the keys that are down are those that the run has put down last, whatever else it consists of.

* `Command.move?`: the move that a command asks for;
* `Emulator.keypad_next` and `Emulator.keypad_after`: the keypad after one command and after a run;
* `Machine.execute_skip_of_size_le`: skips that look at a key that does not exist;
* `Emulator.keypad_holds_keys_put_down_last`: the keypad as a set of keys. -/

namespace ChipEight

/-- The move of a key that a command asks for. -/
def Command.move? : Command → Option Keypad.Move
  | .press key => some ⟨key, true⟩
  | .release key => some ⟨key, false⟩
  | _ => none

/-- A skip takes a key that does not exist for one that is not down. -/
theorem Machine.execute_skip_of_size_le (m : Machine) {x : Register}
    (h : Keypad.size ≤ (m.v x).toNat) :
    m.execute (.skip (.keyDown x)) = .ok m ∧ m.execute (.skip (.keyUp x)) = m.advance := by
  have hup : m.keypad.isPressed (m.v x) = false := m.keypad.isPressed_of_size_le h
  simp [execute, skipIf, Condition.holds, hup]

namespace Emulator

/-- **A command reaches the keypad only by the move that it asks for.** -/
theorem keypad_next (e : Emulator) (c : Command) :
    (e.next c).machine.keypad = e.machine.keypad.afterMoves c.move?.toList := by
  cases c with
  -- All that is known of a load is that it changes memory alone.
  | load data offset =>
    obtain ⟨memory, hnext⟩ := e.next_of_isLoad (c := .load data offset) trivial
    rw [hnext]
    rfl
  | loadProgram source =>
    obtain ⟨memory, hnext⟩ := e.next_of_isLoad (c := .loadProgram source) trivial
    rw [hnext]
    rfl
  | press key =>
    rw [next_press]
    rfl
  | release key =>
    rw [next_release]
    rfl
  | cycle => exact e.machine.keypad_cycle e.settings.strict
  | tick => rfl
  | takeTone => rfl

/-- **A run reaches the keypad only by its moves.** -/
theorem keypad_after (e : Emulator) (commands : List Command) :
    (e.after commands).machine.keypad =
      e.machine.keypad.afterMoves (commands.filterMap Command.move?) := by
  induction commands generalizing e with
  | nil => rfl
  | cons c rest ih =>
    rw [after_cons, ih, keypad_next, ← Keypad.afterMoves_append]
    cases hmove : c.move? <;> simp [hmove]

/-- To move a key that does not exist is refused, and changes nothing. -/
theorem perform_of_size_le (e : Emulator) {key : UInt8} (h : Keypad.size ≤ key.toNat) :
    (e.perform (.press key)).reply = .error (.invalidKey key) ∧ e.next (.press key) = e ∧
      (e.perform (.release key)).reply = .error (.invalidKey key) ∧
      e.next (.release key) = e := by
  rw [next_press, next_release, Keypad.moved_of_size_le _ h, Keypad.moved_of_size_le _ h]
  refine ⟨?_, rfl, ?_, rfl⟩
  · rw [perform, setKey, Machine.setKey, Keypad.set_of_size_le _ h]
    rfl
  · rw [perform, setKey, Machine.setKey, Keypad.set_of_size_le _ h]
    rfl

/-- **A keypad is the set of the keys that were put down last.** After any moves of any keys, on a
keypad on which none was down before:

* to move a key above fifteen is refused with that key and changes nothing, and every other key can
  be moved;
* a key is down if and only if it is below sixteen and its last move was down;
* there is no lowest key if and only if none is down, and otherwise it is the least that is down,
  which is the number of the lowest bit that is set;
* moves of different keys may change places.

The same goes for the keypad of an emulator after any run, since only presses and releases reach it.
Skips take a key above fifteen for one that is not down, whatever keys are. -/
theorem keypad_holds_keys_put_down_last :
    (∀ moves : List Keypad.Move,
      let p := Keypad.released.afterMoves moves
      (∀ key down,
        (16 ≤ key.toNat → p.set key down = .error (.invalidKey key) ∧ p.moved key down = p) ∧
        (key.toNat < 16 → p.set key down = .ok (p.moved key down))) ∧
      (∀ key, p.isPressed key = true ↔
        key.toNat < 16 ∧ Keypad.lastMove? key moves = some true) ∧
      (p.lowest? = none ↔ ∀ key, p.isPressed key = false) ∧
      (∀ key, p.lowest? = some key ↔
        p.isPressed key = true ∧ ∀ k, p.isPressed k = true → key ≤ k) ∧
      p.lowest? = (if p.mask = 0 then none else some (UInt8.ofNat p.mask.ctz.toNat)) ∧
      ∀ key key' down down', key ≠ key' →
        (p.moved key down).moved key' down' = (p.moved key' down').moved key down) ∧
    (∀ settings entropy commands,
      let e := (boot settings entropy).after commands
      e.machine.keypad = Keypad.released.afterMoves (commands.filterMap Command.move?) ∧
        ∀ key : UInt8, 16 ≤ key.toNat →
          (e.perform (.press key)).reply = .error (.invalidKey key) ∧ e.next (.press key) = e ∧
          (e.perform (.release key)).reply = .error (.invalidKey key) ∧
          e.next (.release key) = e) ∧
    ∀ (m : Machine) (x : Register), 16 ≤ (m.v x).toNat →
      m.execute (.skip (.keyDown x)) = .ok m ∧ m.execute (.skip (.keyUp x)) = m.advance := by
  refine ⟨fun moves => ?_, fun settings entropy commands => ?_, fun m x h => ?_⟩
  · intro p
    refine ⟨fun key down => ⟨fun hkey => ?_, fun hkey => ?_⟩, fun key => ?_,
      Keypad.lowest?_eq_none_iff, fun key => Keypad.lowest?_eq_some_iff, p.lowest?_eq_ctz,
      fun key key' down down' hne => p.moved_moved_comm hne down down'⟩
    · exact ⟨p.set_of_size_le hkey down, p.moved_of_size_le hkey down⟩
    · obtain ⟨q, hq⟩ := p.exists_set_eq_ok hkey down
      rw [Keypad.moved, hq]
      rfl
    · exact Keypad.isPressed_afterMoves_released_iff moves key
  · intro e
    exact ⟨(boot settings entropy).keypad_after commands, fun key hkey => e.perform_of_size_le hkey⟩
  · exact m.execute_skip_of_size_le h

end Emulator

end ChipEight
