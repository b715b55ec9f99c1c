import ChipEight.Machine.Execute
import ChipEight.Proofs.Checked.Screen

/-! # Registers and memory with checked arithmetic

Registers are named by numbers here, and a number that names no register has no result. The loops
that store and load registers compute every address in a type of limited size and stop at the end of
memory.

* `Machine.storeRegisters?_eq`: the loop stores what `Machine.storeRegisters` stores, which goes on
  beyond the end of memory without effect;
* `Machine.loadRegisters?_eq`: the loop loads what `Machine.loadRegisters` loads at once. -/

namespace ChipEight

/-- To write a byte that is there already has no effect, nor has it to write past the end of
memory. -/
theorem Memory.write_eq_self (m : Memory) {address : Nat} {value : UInt8}
    (h : address < size → m.read address = value) : m.write address value = m := by
  refine ext_read fun a => ?_
  rw [read_write]
  split
  · rename_i hw
    obtain ⟨rfl, hlt⟩ := hw
    exact (h hlt).symm
  · rfl

namespace Machine

/-- The byte in a register. There is no result if there is no such register. -/
def register? (m : Machine) (x : Nat) : Option UInt8 := m.registers[x]?

/-- Put a byte into a register. There is no result if there is no such register. -/
def setRegister? (m : Machine) (x : Nat) (value : UInt8) : Option Machine :=
  if x < 16 then some { m with registers := m.registers.setIfInBounds x value } else none

/-- Put a truth value into the flag register. -/
def setFlag? (m : Machine) (on : Bool) : Option Machine :=
  m.setRegister? 15 (if on then 1 else 0)

/-- A register named by four bits can be read. -/
@[simp] theorem register?_eq (m : Machine) (x : Register) : m.register? x = some (m.v x) :=
  Vector.getElem?_eq_getElem x.isLt

/-- A register named by four bits can be stored to. -/
@[simp] theorem setRegister?_eq (m : Machine) (x : Register) (value : UInt8) :
    m.setRegister? x value = some (m.setV x value) := by
  rw [setRegister?, if_pos x.isLt, setV]
  refine congrArg (fun registers => some { m with registers }) (Vector.ext fun i hi => ?_)
  simp [Vector.getElem_set, Vector.getElem_setIfInBounds]

/-- The flag register can be stored to. -/
@[simp] theorem setFlag?_eq (m : Machine) (on : Bool) : m.setFlag? on = some (m.setFlag on) :=
  setRegister?_eq m flagRegister _

/-! ### The loops -/

/-- Store registers at the index, one after the other, until memory ends. -/
def storeRegisters? (m : Machine) : List Nat → Option Machine
  | [] => some m
  | r :: rest => do
    let address ← within indexLimit (m.index + r)
    if address < Memory.size then
      let value ← m.register? r
      { m with memory := m.memory.write address value }.storeRegisters? rest
    else some m

/-- Load registers from the index on, one after the other, until memory ends. -/
def loadRegisters? (m : Machine) : List Nat → Option Machine
  | [] => some m
  | r :: rest => do
    let address ← within indexLimit (m.index + r)
    if address < Memory.size then
      let next ← m.setRegister? r (m.memory.read address)
      next.loadRegisters? rest
    else some m

/-- The registers up to `VX` are numbered from zero. -/
theorem map_val_registersUpTo :
    ∀ x : Register, (registersUpTo x).map Fin.val = List.range (x + 1) := by
  decide

/-- The registers up to `VX` are in rising order. -/
theorem pairwise_registersUpTo : ∀ x : Register, (registersUpTo x).Pairwise (· < ·) := by
  decide

/-- The registers of a transfer are those up to its last one. -/
theorem mem_registersUpTo {x r : Register} : r ∈ registersUpTo x ↔ r ≤ x := by
  simp [registersUpTo]

/-- To store registers has no effect if they are at their places in memory already. Those that would
be stored beyond the end of memory are not stored. -/
theorem storeRegisters_eq_self (m : Machine) {registers : List Register}
    (h : ∀ r ∈ registers, m.index + r < Memory.size → m.memory.read (m.index + r) = m.v r) :
    m.storeRegisters registers = m := by
  induction registers with
  | nil => rfl
  | cons r rest ih =>
    obtain ⟨hr, hrest⟩ := List.forall_mem_cons.1 h
    rw [storeRegisters, Memory.write_eq_self _ hr]
    exact ih hrest

/-- **The checked loop that stores registers** has a result. It may stop at the end of memory, since
the registers rise and no later one would be stored in memory either. -/
theorem storeRegisters?_eq (m : Machine) {registers : List Register}
    (hrising : registers.Pairwise (· < ·)) (hindex : m.index + 16 ≤ indexLimit) :
    m.storeRegisters? (registers.map Fin.val) = some (m.storeRegisters registers) := by
  induction registers generalizing m with
  | nil => rfl
  | cons r rest ih =>
    obtain ⟨hr, hrest⟩ := List.pairwise_cons.1 hrising
    have hr16 := r.isLt
    rw [List.map_cons, storeRegisters?, within_of_lt (by omega)]
    simp only [Option.bind_eq_bind, Option.bind_some]
    by_cases hlt : m.index + r < Memory.size
    · rw [if_pos hlt, register?_eq, Option.bind_some, storeRegisters]
      exact ih _ hrest hindex
    · -- The loop stops here, and none of the registers left would be stored in memory.
      rw [if_neg hlt, storeRegisters_eq_self]
      intro d hd hin
      rcases List.mem_cons.1 hd with rfl | hd
      · exact absurd hin hlt
      · have hrd : r.val < d.val := hr d hd
        omega

/-- The loop that loads registers changes those among them that it reaches before memory ends. -/
theorem loadRegisters?_registers (m : Machine) {registers : List Register}
    (hrising : registers.Pairwise (· < ·)) (hindex : m.index + 16 ≤ indexLimit) :
    ∃ loaded, m.loadRegisters? (registers.map Fin.val) = some { m with registers := loaded } ∧
      ∀ k : Register,
        (k ∈ registers ∧ m.index + k < Memory.size → loaded[k] = m.memory.read (m.index + k)) ∧
          (¬(k ∈ registers ∧ m.index + k < Memory.size) → loaded[k] = m.v k) := by
  induction registers generalizing m with
  | nil => exact ⟨m.registers, rfl, fun k => ⟨fun h => absurd h.1 List.not_mem_nil, fun _ => rfl⟩⟩
  | cons r rest ih =>
    obtain ⟨hr, hrest⟩ := List.pairwise_cons.1 hrising
    have hr16 := r.isLt
    have hr' : r ∉ rest := fun hmem => Nat.lt_irrefl _ (hr r hmem)
    rw [List.map_cons, loadRegisters?, within_of_lt (by omega)]
    simp only [Option.bind_eq_bind, Option.bind_some]
    by_cases hlt : m.index + r < Memory.size
    · rw [if_pos hlt, setRegister?_eq, Option.bind_some]
      obtain ⟨loaded, hloop, hloaded⟩ := ih (m.setV r (m.memory.read (m.index + r))) hrest hindex
      refine ⟨loaded, hloop, fun k => ⟨?_, ?_⟩⟩
      · rintro ⟨hmem, hk⟩
        rcases List.mem_cons.1 hmem with rfl | hmem
        · -- The registers rise, so this one is not loaded again.
          rw [(hloaded k).2 fun h => hr' h.1, v_setV_self]
        · exact (hloaded k).1 ⟨hmem, hk⟩
      · intro hnot
        have hne : r ≠ k := by
          rintro rfl
          exact hnot ⟨List.mem_cons_self, hlt⟩
        have hnot' : ¬(k ∈ rest ∧ m.index + k < Memory.size) :=
          fun h => hnot ⟨List.mem_cons_of_mem r h.1, h.2⟩
        rw [(hloaded k).2 hnot', v_setV, if_neg hne]
    · -- The loop stops here, and the registers left lie behind this one.
      rw [if_neg hlt]
      refine ⟨m.registers, rfl, fun k => ⟨?_, fun _ => rfl⟩⟩
      rintro ⟨hmem, hk⟩
      rcases List.mem_cons.1 hmem with rfl | hmem
      · exact absurd hk hlt
      · have hrk : r.val < k.val := hr k hmem
        omega

/-- **The checked loop that loads registers** has a result. -/
theorem loadRegisters?_eq (m : Machine) (x : Register) (hindex : m.index + 16 ≤ indexLimit) :
    m.loadRegisters? (List.range (x + 1)) = some (m.loadRegisters x) := by
  obtain ⟨loaded, hloop, hloaded⟩ :=
    m.loadRegisters?_registers (pairwise_registersUpTo x) hindex
  rw [map_val_registersUpTo] at hloop
  rw [hloop, loadRegisters]
  refine congrArg (fun registers => some { m with registers }) (Vector.ext fun k hk => ?_)
  rw [Vector.getElem_ofFn]
  by_cases hload : (⟨k, hk⟩ : Register) ≤ x ∧ m.index + k < Memory.size
  · rw [if_pos hload]
    exact (hloaded ⟨k, hk⟩).1 ⟨mem_registersUpTo.2 hload.1, hload.2⟩
  · rw [if_neg hload]
    exact (hloaded ⟨k, hk⟩).2 fun h => hload ⟨mem_registersUpTo.1 h.1, h.2⟩

end Machine

end ChipEight
