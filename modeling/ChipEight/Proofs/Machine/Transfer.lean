import ChipEight.Proofs.Machine.Footprint

/-! # Registers to memory and back

Registers are stored one after the other from the index on, and loaded from there. Both stop at the
end of memory, and at the same register: what has been stored is loaded again, a register that had
no place in memory is not loaded either, and what has been loaded may be stored again without
effect.

* `Machine.read_storeRegisters_of_mem`: where a stored register is found;
* `Machine.v_loadRegisters_storeRegisters`: what is loaded after a store;
* `Machine.storeRegisters_loadRegisters`: a store after a load has no effect;
* `Machine.stored_registers_load_back`: all of it together. -/

namespace ChipEight.Machine

variable (m : Machine) (x : Register)

/-- **A stored register is found at its place behind the index**, if there is one in memory. No
matter how often a register is stored, it is stored at the same place. -/
theorem read_storeRegisters_of_mem {registers : List Register} {r : Register} (hr : r ∈ registers)
    (hlt : m.index + r < Memory.size) :
    (m.storeRegisters registers).memory.read (m.index + r) = m.v r := by
  induction registers generalizing m with
  | nil => exact absurd hr List.not_mem_nil
  | cons first rest ih =>
    let written : Machine := { m with memory := m.memory.write (m.index + first) (m.v first) }
    show (written.storeRegisters rest).memory.read (m.index + r) = m.v r
    by_cases hrest : r ∈ rest
    · exact ih written hrest hlt
    · -- The register has just been written, and the others are stored elsewhere.
      obtain rfl : r = first := (List.mem_cons.1 hr).resolve_right hrest
      have helsewhere : ∀ d ∈ rest, written.index + d ≠ m.index + r := fun d hd heq =>
        hrest (Fin.ext (Nat.add_left_cancel heq) ▸ hd)
      rw [read_storeRegisters_of_forall_ne helsewhere, Memory.read_write, if_pos ⟨rfl, hlt⟩]

/-- Nothing is stored outside the places of the registers, and nothing beyond the end of memory. -/
theorem read_storeRegisters_of_outside {a : Nat}
    (ha : a < m.index ∨ min (m.index + x) 4095 < a) :
    (m.storeRegisters (registersUpTo x)).memory.read a = m.memory.read a := by
  by_cases hend : Memory.size ≤ a
  · rw [Memory.read_of_size_le _ hend, Memory.read_of_size_le _ hend]
  · -- Where memory goes on, the last place is the last register's or the last in memory.
    have hlt : a < 4096 := Nat.not_le.1 hend
    refine read_storeRegisters_of_forall_ne fun r hr => ?_
    have hle : r.val ≤ x.val := mem_registersUpTo.1 hr
    omega

/-- **What has been stored is loaded again**, whatever the registers hold in between. A register
that had no place in memory keeps what it holds. -/
theorem v_loadRegisters_storeRegisters (registers : Vector UInt8 16) (r : Register) :
    let changed : Machine := { m.storeRegisters (registersUpTo x) with registers }
    (changed.loadRegisters x).v r =
      if r ≤ x ∧ m.index + r < Memory.size then m.v r else changed.v r := by
  intro changed
  have hindex : changed.index = m.index := by
    show (m.storeRegisters (registersUpTo x)).index = m.index
    rw [storeRegisters_eq]
  rw [v_loadRegisters, hindex]
  by_cases hr : r ≤ x ∧ m.index + r < Memory.size
  · rw [if_pos hr, if_pos hr]
    exact m.read_storeRegisters_of_mem (mem_registersUpTo.2 hr.1) hr.2
  · rw [if_neg hr, if_neg hr]

/-- **To store what has just been loaded has no effect.** -/
theorem storeRegisters_loadRegisters :
    (m.loadRegisters x).storeRegisters (registersUpTo x) = m.loadRegisters x := by
  have hmemory : (m.loadRegisters x).memory = m.memory := by rw [loadRegisters_eq]
  have hindex : (m.loadRegisters x).index = m.index := by rw [loadRegisters_eq]
  -- Each register is stored where it has come from, or has no place in memory.
  refine storeRegisters_eq_self (m.loadRegisters x) fun r hr hlt => ?_
  rw [hindex] at hlt
  rw [hmemory, hindex, v_loadRegisters, if_pos ⟨mem_registersUpTo.1 hr, hlt⟩]

/-- **Stored registers load back, as far as memory goes.** Wherever the index points, to store `V0`
to `VX` and to load them cannot fail, and:

* a store changes memory alone. Each of these registers is then found at its place behind the index,
  if that is in memory, and no byte changes in front of the index, behind the last place or beyond
  the end of memory;
* if the registers are changed in any way after that, a load changes registers alone. Those that
  have a place in memory hold again what was stored, and the others are left as they were;
* a load followed by a store has no more effect than the load, which changes registers alone. -/
theorem stored_registers_load_back :
    (∃ stored, m.execute (.store x) = .ok stored ∧ stored = { m with memory := stored.memory } ∧
      (∀ r ≤ x, m.index + r < 4096 → stored.memory.read (m.index + r) = m.v r) ∧
      (∀ a, a < m.index ∨ min (m.index + x) 4095 < a →
        stored.memory.read a = m.memory.read a) ∧
      ∀ registers : Vector UInt8 16,
        let changed : Machine := { stored with registers }
        ∃ loaded, changed.execute (.load x) = .ok loaded ∧
          loaded = { changed with registers := loaded.registers } ∧
          ∀ r, loaded.v r = if r ≤ x ∧ m.index + r < 4096 then m.v r else changed.v r) ∧
    ∃ loaded, m.execute (.load x) = .ok loaded ∧
      loaded = { m with registers := loaded.registers } ∧
        loaded.execute (.store x) = .ok loaded := by
  constructor
  · refine ⟨m.storeRegisters (registersUpTo x), rfl, m.storeRegisters_eq _, fun r hr hlt => ?_,
      fun a ha => m.read_storeRegisters_of_outside x ha, fun registers => ?_⟩
    · exact m.read_storeRegisters_of_mem (mem_registersUpTo.2 hr) hlt
    · exact ⟨_, rfl, loadRegisters_eq _ x, m.v_loadRegisters_storeRegisters x registers⟩
  · refine ⟨m.loadRegisters x, rfl, m.loadRegisters_eq x, ?_⟩
    show Except.ok ((m.loadRegisters x).storeRegisters (registersUpTo x)) = _
    rw [storeRegisters_loadRegisters]

end ChipEight.Machine
