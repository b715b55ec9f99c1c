import ChipEight.Proofs.Machine.Footprint
import ChipEight.Proofs.Memory.Overlay

/-! # Decimal digits in memory

A byte is stored as its three decimal digits, the hundreds first, one behind the other from the
index on. They are data laid over memory like any other, so that the end of memory cuts them off,
and the registers that are loaded from there stop at the same place.

* `decimals` and `decimal`: the digits of a byte, and `decimal_value`: the byte is found from them;
* `Machine.storeDigits_eq`: to store digits is to lay them over memory;
* `Machine.v_loadRegisters_storeDigits`: what is loaded where digits have been stored;
* `Machine.decimal_digits_load_back`: all of it together. -/

namespace ChipEight

/-- The decimal digits of a byte, the hundreds first. -/
def decimals (value : UInt8) : Array UInt8 := #[value / 100, value / 10 % 10, value % 10]

/-- The digit of a byte at a place counted from the hundreds, and zero behind the ones. -/
def decimal (value : UInt8) (place : Nat) : UInt8 := (decimals value)[place]?.getD 0

/-- The decimals of a byte have a digit at each of the three places. -/
theorem getElem?_decimals (value : UInt8) {place : Nat} (h : place ≤ 2) :
    (decimals value)[place]? = some (decimal value place) := by
  have hlt : place < (decimals value).size := Nat.lt_succ_of_le h
  rw [decimal, Array.getElem?_eq_getElem hlt, Option.getD_some]

/-- The first digit counts the hundreds. -/
theorem toNat_hundreds (value : UInt8) : (decimal value 0).toNat = value.toNat / 100 :=
  UInt8.toNat_div value 100

/-- The second digit counts the tens that are left. -/
theorem toNat_tens (value : UInt8) : (decimal value 1).toNat = value.toNat / 10 % 10 := by
  show (value / 10 % 10).toNat = _
  rw [UInt8.toNat_mod, UInt8.toNat_div]
  rfl

/-- The third digit is what remains. -/
theorem toNat_ones (value : UInt8) : (decimal value 2).toNat = value.toNat % 10 :=
  UInt8.toNat_mod value 10

/-- A digit is at most nine: no byte has more than two hundreds. -/
theorem decimal_le_nine (value : UInt8) (place : Nat) : (decimal value place).toNat ≤ 9 := by
  have hvalue := value.toNat_lt
  match place with
  | 0 =>
    rw [toNat_hundreds]
    omega
  | 1 =>
    rw [toNat_tens]
    omega
  | 2 =>
    rw [toNat_ones]
    omega
  | _ + 3 => exact Nat.zero_le 9

/-- **A byte is found from its digits again.** -/
theorem decimal_value (value : UInt8) :
    100 * (decimal value 0).toNat + 10 * (decimal value 1).toNat + (decimal value 2).toNat =
      value.toNat := by
  rw [toNat_hundreds, toNat_tens, toNat_ones]
  omega

/-- Three bytes that are written one behind the other are laid over memory. -/
theorem Memory.overlay_decimals (m : Memory) (value : UInt8) (start : Nat) :
    m.overlay (decimals value) start =
      ((m.write start (value / 100)).write (start + 1) (value / 10 % 10)).write (start + 2)
        (value % 10) := by
  have htwo : (m.overlay #[value / 100] start).overlay #[value / 10 % 10] (start + 1) =
      m.overlay #[value / 100, value / 10 % 10] start :=
    m.overlay_append _ _ start
  have hthree : (m.overlay #[value / 100, value / 10 % 10] start).overlay #[value % 10]
      (start + 2) = m.overlay (decimals value) start :=
    m.overlay_append _ _ start
  rw [← overlay_singleton, ← overlay_singleton, ← overlay_singleton, htwo, hthree]

namespace Machine

variable (m : Machine) (value : UInt8)

/-- To store digits is to lay them over memory. -/
theorem storeDigits_eq :
    m.storeDigits value = { m with memory := m.memory.overlay (decimals value) m.index } := by
  rw [storeDigits, Memory.overlay_decimals]

/-- **A digit is found at its place behind the index**, if there is one in memory. -/
theorem read_storeDigits {place : Nat} (h : place ≤ 2) (hlt : m.index + place < Memory.size) :
    (m.storeDigits value).memory.read (m.index + place) = decimal value place := by
  rw [storeDigits_eq]
  exact m.memory.read_overlay_of_getElem? (getElem?_decimals value h) hlt

/-- Nothing is stored outside the places of the digits, and nothing beyond the end of memory. -/
theorem read_storeDigits_of_outside {a : Nat} (ha : a < m.index ∨ min (m.index + 2) 4095 < a) :
    (m.storeDigits value).memory.read a = m.memory.read a := by
  by_cases hend : Memory.size ≤ a
  · rw [Memory.read_of_size_le _ hend, Memory.read_of_size_le _ hend]
  · -- Where memory goes on, the last place is that of the ones or the last in memory.
    have hlt : a < 4096 := Nat.not_le.1 hend
    refine read_storeDigits_of_forall_ne (fun k hk => ?_) value
    omega

/-- **Where digits have been stored, digits are loaded.** Registers that no digit belongs to take
what memory holds behind the digits, and those that have no place in memory keep what they hold. -/
theorem v_loadRegisters_storeDigits (x r : Register) :
    ((m.storeDigits value).loadRegisters x).v r =
      if r ≤ x ∧ m.index + r < Memory.size then
        if r.val ≤ 2 then decimal value r else m.memory.read (m.index + r)
      else m.v r := by
  have hindex : (m.storeDigits value).index = m.index := rfl
  have hregister : (m.storeDigits value).v r = m.v r := rfl
  rw [v_loadRegisters, hindex, hregister]
  by_cases hr : r ≤ x ∧ m.index + r < Memory.size
  · rw [if_pos hr, if_pos hr]
    by_cases hplace : r.val ≤ 2
    · rw [if_pos hplace, read_storeDigits m value hplace hr.2]
    · rw [if_neg hplace]
      refine read_storeDigits_of_forall_ne (fun k hk => ?_) value
      omega
  · rw [if_neg hr, if_neg hr]

/-- **The digits of a byte load back into three registers, as far as memory goes.** Wherever the
index points, to store the digits of `VX` and to load `V0` to `V2` cannot fail, also if `VX` is one
of these three, and:

* the first changes memory alone, and the second registers alone. No byte changes in front of the
  index, behind the third place or beyond the end of memory, and no register behind `V2`;
* there are three digits that make up what `VX` held: the first counts hundreds, the second tens and
  the third ones. Each is found in memory and in its register if it has a place in memory, and else
  its register is left as it was;
* so `V0`, `V1` and `V2` hold all the digits if the third place is in memory. -/
theorem decimal_digits_load_back (x : Register) :
    ∃ stored loaded : Machine,
      m.execute (.digits x) = .ok stored ∧ stored.execute (.load 2) = .ok loaded ∧
      stored = { m with memory := stored.memory } ∧
      loaded = { stored with registers := loaded.registers } ∧
      (∀ a, a < m.index ∨ min (m.index + 2) 4095 < a →
        stored.memory.read a = m.memory.read a) ∧
      (∀ r : Register, 2 < r → loaded.v r = m.v r) ∧
      (∃ digit : Register → UInt8, (∀ r, (digit r).toNat ≤ 9) ∧
        100 * (digit 0).toNat + 10 * (digit 1).toNat + (digit 2).toNat = (m.v x).toNat ∧
        ∀ r : Register, r ≤ 2 →
          (m.index + r < 4096 →
            stored.memory.read (m.index + r) = digit r ∧ loaded.v r = digit r) ∧
          (4096 ≤ m.index + r → loaded.v r = m.v r)) ∧
      (m.index + 2 < 4096 →
        (loaded.v 0).toNat ≤ 9 ∧ (loaded.v 1).toNat ≤ 9 ∧ (loaded.v 2).toNat ≤ 9 ∧
          100 * (loaded.v 0).toNat + 10 * (loaded.v 1).toNat + (loaded.v 2).toNat =
            (m.v x).toNat) := by
  have hloaded := m.v_loadRegisters_storeDigits (m.v x) 2
  -- A register up to `V2` whose place is in memory has been loaded with its digit.
  have hdigit : ∀ r : Register, r ≤ 2 → m.index + r < 4096 →
      ((m.storeDigits (m.v x)).loadRegisters 2).v r = decimal (m.v x) r := by
    intro r hr hlt
    have hplace : r.val ≤ 2 := hr
    rw [hloaded, if_pos ⟨hr, hlt⟩, if_pos hplace]
  refine ⟨m.storeDigits (m.v x), (m.storeDigits (m.v x)).loadRegisters 2, rfl, rfl, rfl,
    loadRegisters_eq _ 2, fun a ha => m.read_storeDigits_of_outside _ ha, fun r hr => ?_, ?_,
    fun hlt => ?_⟩
  · rw [hloaded, if_neg fun h => Fin.not_le.2 hr h.1]
  · refine ⟨fun r => decimal (m.v x) r, fun r => decimal_le_nine _ _, decimal_value (m.v x),
      fun r hr => ⟨fun hlt => ⟨m.read_storeDigits _ hr hlt, hdigit r hr hlt⟩, fun hle => ?_⟩⟩
    rw [hloaded, if_neg fun h => Nat.not_lt.2 hle h.2]
  · have h0 := hdigit 0 (by decide) (by show m.index + 0 < 4096; omega)
    have h1 := hdigit 1 (by decide) (by show m.index + 1 < 4096; omega)
    have h2 := hdigit 2 (by decide) hlt
    rw [h0, h1, h2]
    exact ⟨decimal_le_nine _ _, decimal_le_nine _ _, decimal_le_nine _ _, decimal_value (m.v x)⟩

/-- With the index at the last address but one, there is room for the hundreds and the tens. The
ones have no place: `V2` is not loaded, and still holds the byte whose digits were stored. -/
theorem decimal_digits_load_back_at_end_of_memory :
    let m : Machine := { (start 0x200 0).setV 2 254 with index := 0xFFE }
    ∃ stored loaded : Machine,
      m.execute (.digits 2) = .ok stored ∧ stored.execute (.load 2) = .ok loaded ∧
        stored.memory.read 0xFFE = 2 ∧ stored.memory.read 0xFFF = 5 ∧
        stored.memory.read 0 = m.memory.read 0 ∧
        loaded.v 0 = 2 ∧ loaded.v 1 = 5 ∧ loaded.v 2 = 254 := by
  intro m
  have hvalue : m.v 2 = 254 := v_setV_self _ 2 254
  obtain ⟨stored, loaded, hstored, hloaded, -, -, houtside, -, ⟨digit, hnine, hsum, hplaces⟩, -⟩ :=
    m.decimal_digits_load_back 2
  rw [hvalue] at hsum
  change _ = 254 at hsum
  -- The digits are told by their sum alone, for none of them is above nine.
  have hhundreds : digit 0 = 2 := by
    have h1 := hnine 1
    have h2 := hnine 2
    refine UInt8.toNat_inj.1 ?_
    show (digit 0).toNat = 2
    omega
  have htens : digit 1 = 5 := by
    have h2 := hnine 2
    rw [hhundreds] at hsum
    change 100 * 2 + _ + _ = 254 at hsum
    refine UInt8.toNat_inj.1 ?_
    show (digit 1).toNat = 5
    omega
  obtain ⟨hread0, hv0⟩ := (hplaces 0 (by decide)).1 (by decide)
  obtain ⟨hread1, hv1⟩ := (hplaces 1 (by decide)).1 (by decide)
  have hv2 := (hplaces 2 (by decide)).2 (by decide)
  rw [hhundreds] at hread0 hv0
  rw [htens] at hread1 hv1
  exact ⟨stored, loaded, hstored, hloaded, hread0, hread1, houtside 0 (Or.inl (by decide)), hv0,
    hv1, hv2.trans hvalue⟩

end Machine

end ChipEight
