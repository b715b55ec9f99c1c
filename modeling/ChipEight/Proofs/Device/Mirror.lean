import ChipEight.Device.Basic
import ChipEight.Emulator.Basic
import ChipEight.Proofs.Keypad.Keys

/-! # The keypad mirrors what was seen

When the keys of the keypad are reported one after the other, in rising order, the keypad holds
exactly the keys that were seen and exist: those that were down before and were not seen are let up,
and in which order or how often a key was seen makes no difference.

* `Keypad.holding`: the keypad on which some keys are down, and no others;
* `Keypad.reportKeys_eq`: what all reports together leave of a keypad;
* `Emulator.reportKeys_eq`: and what they leave of an emulator;
* `Input.afterPolls`: an input device that has been asked a number of times. -/

namespace ChipEight

namespace Keypad

/-- The keys that exist are those below sixteen. -/
theorem contains_keys (key : UInt8) : keys.contains key = decide (key.toNat < size) := by
  rw [Bool.eq_iff_iff, List.contains_iff_mem, decide_eq_true_eq]
  exact mem_map_ofNat_range_iff

/-- The keypad after the given keys have been put down one after the other, where nothing was down
before. Keys that do not exist are passed over. -/
def holding : List UInt8 → Keypad
  | [] => released
  | key :: rest => ((holding rest).press key).toOption.getD (holding rest)

/-- **The keys that are held are those that are listed and exist.** -/
theorem isPressed_holding (listed : List UInt8) (key : UInt8) :
    (holding listed).isPressed key = (decide (key.toNat < size) && listed.contains key) := by
  induction listed with
  | nil => rw [holding, isPressed_released, List.contains_nil, Bool.and_false]
  | cons first rest ih =>
    rw [holding, List.contains_cons]
    -- A key that does not exist is refused, and then the keypad is that of the other keys.
    by_cases hfirst : first.toNat < size
    · obtain ⟨q, hq⟩ := (holding rest).exists_set_eq_ok hfirst true
      have hpress : (holding rest).press first = .ok q := hq
      rw [hpress]
      show q.isPressed key = _
      rw [isPressed_press hpress, ih]
      by_cases hkey : key = first
      · simp [hkey, hfirst]
      · rw [beq_false_of_ne hkey, Bool.false_or, Bool.false_or]
    · have hpress : (holding rest).press first = .error (.invalidKey first) := by
        rw [press, bit, if_neg hfirst]
        rfl
      rw [hpress]
      show (holding rest).isPressed key = _
      rw [ih]
      by_cases hkey : key = first
      · simp [hkey, hfirst]
      · rw [beq_false_of_ne hkey, Bool.false_or]

/-! ### All keys -/

/-- A keypad that is told where a key is. -/
def report (key : UInt8) (down : Bool) (p : Keypad) : Outcome Fault Keypad :=
  Outcome.ofExcept p (p.set key down)

/-- After some keys that exist have been reported, they are down if they were seen, and the other
keys are as they were. -/
theorem exists_reportKeys_eq (seen : List UInt8) {listed : List UInt8}
    (hlisted : ∀ key ∈ listed, key.toNat < size) (p : Keypad) :
    ∃ q, reportKeys report seen listed p = .done q ∧
      ∀ k, q.isPressed k = if listed.contains k then seen.contains k else p.isPressed k := by
  induction listed generalizing p with
  | nil => exact ⟨p, rfl, fun _ => rfl⟩
  | cons key rest ih =>
    obtain ⟨q, hq⟩ := p.exists_set_eq_ok (hlisted key List.mem_cons_self) (seen.contains key)
    obtain ⟨r, hr, hdown⟩ := ih (fun k hk => hlisted k (List.mem_cons_of_mem key hk)) q
    have hreport : report key (seen.contains key) p = .done q := by
      rw [report, hq]
      rfl
    refine ⟨r, ?_, fun k => ?_⟩
    · rw [reportKeys, hreport, Outcome.andThen_done, hr]
    · rw [hdown, isPressed_set hq, List.contains_cons]
      by_cases hk : k = key
      · simp [hk]
      · simp [hk]

/-- **The keypad mirrors what was seen**, whatever was down before. -/
theorem reportKeys_eq (seen : List UInt8) (p : Keypad) :
    reportKeys report seen keys p = .done (holding seen) := by
  have hkeys : ∀ key ∈ keys, key.toNat < size := fun key hkey => by
    rw [← List.contains_iff_mem, contains_keys] at hkey
    exact of_decide_eq_true hkey
  obtain ⟨q, hq, hdown⟩ := exists_reportKeys_eq seen hkeys p
  have hholding : q = holding seen := ext_isPressed fun key => by
    rw [hdown, isPressed_holding, contains_keys]
    by_cases hkey : key.toNat < size
    · simp [hkey]
    · simp [hkey, p.isPressed_of_size_le (Nat.le_of_not_lt hkey)]
  rw [hq, hholding]

end Keypad

namespace Emulator

/-- The emulator with exactly the given keys of its keypad down, if they exist. -/
def holding (e : Emulator) (listed : List UInt8) : Emulator :=
  { e with machine := { e.machine with keypad := Keypad.holding listed } }

/-- Reports to an emulator reach its keypad alone. -/
theorem reportKeys_eq_map (seen listed : List UInt8) (e : Emulator) :
    reportKeys (fun key down e => Outcome.ofExcept e (e.setKey key down)) seen listed e =
      (reportKeys Keypad.report seen listed e.machine.keypad).map
        (fun keypad => { e with machine := { e.machine with keypad } }) id := by
  induction listed generalizing e with
  | nil => rfl
  | cons key rest ih =>
    rw [reportKeys, reportKeys, setKey, Machine.setKey, Keypad.report]
    cases e.machine.keypad.set key (seen.contains key) with
    | error fault => rfl
    | ok keypad => exact ih _

/-- **The keypad of an emulator mirrors what was seen**, and nothing else of it has changed. -/
theorem reportKeys_eq (seen : List UInt8) (e : Emulator) :
    reportKeys (fun key down e => Outcome.ofExcept e (e.setKey key down)) seen Keypad.keys e =
      .done (e.holding seen) := by
  rw [reportKeys_eq_map, Keypad.reportKeys_eq]
  rfl

end Emulator

/-- An input device after it has been asked `n` times. -/
def Input.afterPolls {ι : Type} [Input ι] (device : ι) : Nat → ι
  | 0 => device
  | n + 1 => (Input.poll (afterPolls device n)).device

/-- What is left to a device that has taken `n` batches begins with the batch whose turn it is, or
with an empty one if there are none left. -/
theorem Input.headD_drop {α : Type} (batches : List (List α)) (n : Nat) :
    (batches.drop n).headD [] = batches.getD n [] := by
  rw [List.headD_eq_head?_getD, List.head?_drop, List.getD_eq_getElem?_getD]

end ChipEight
