import ChipEight.Proofs.Machine.Effects

/-! # Addresses stay in memory

The counter, the index and the return addresses are natural numbers, so nothing in their types keeps
them inside memory. What keeps them there is an invariant: the counter and the index are cut down
wherever they are set, and a return address was the counter when it was pushed. -/

namespace ChipEight.Machine

/-- Every address that the machine holds lies in memory. -/
structure WithinBounds (m : Machine) : Prop where
  counter_lt : m.counter < Memory.size
  index_lt : m.index < Memory.size
  /-- A return restores the counter uncut, so the stack needs a bound of its own. -/
  stack_lt : ∀ address ∈ m.stack, address < Memory.size

namespace WithinBounds

/-- A machine starts within bounds, wherever its program is to be loaded. -/
theorem start (programAddress : UInt16) (key : Random.Key) :
    (Machine.start programAddress key).WithinBounds where
  counter_lt := Nat.mod_lt _ (by decide)
  index_lt := Nat.zero_lt_succ _
  stack_lt := fun _ h => absurd h List.not_mem_nil

variable {m n : Machine}

/-- Only the counter, the index and the return addresses matter. -/
theorem of_eq (h : m.WithinBounds) (hcounter : n.counter = m.counter) (hindex : n.index = m.index)
    (hstack : n.stack = m.stack) : n.WithinBounds where
  counter_lt := hcounter ▸ h.counter_lt
  index_lt := hindex ▸ h.index_lt
  stack_lt := hstack ▸ h.stack_lt

/-- To move the counter on inside memory keeps within bounds. -/
theorem advanced (h : m.WithinBounds) (hlt : m.counter + wordSize < Memory.size) :
    m.advanced.WithinBounds where
  counter_lt := hlt
  index_lt := h.index_lt
  stack_lt := h.stack_lt

/-- Every instruction leaves the counter in memory. -/
theorem counter_executed_lt (h : m.WithinBounds) (i : Instruction) :
    (m.executed i).counter < Memory.size := by
  have hcounter := h.counter_lt
  rw [counter_executed]
  -- A return is the only instruction that sets the counter without cutting it down.
  cases i with
  | ret =>
    cases hs : m.stack with
    | nil => exact hcounter
    | cons address rest =>
      exact h.stack_lt address (by rw [hs]; exact List.mem_cons_self)
  | jump target => exact target.isLt
  | call target => exact target.isLt
  | jumpOffset base => exact Nat.mod_lt _ (by decide)
  | skip c =>
    dsimp only
    split
    · rename_i hskip
      exact hskip.2
    · exact hcounter
  | waitKey x =>
    dsimp only
    split
    · exact Nat.lt_of_le_of_lt (Nat.sub_le _ _) hcounter
    · exact hcounter
  | _ => exact hcounter

/-- Every instruction leaves the index in memory. -/
theorem index_executed_lt (h : m.WithinBounds) (i : Instruction) :
    (m.executed i).index < Memory.size := by
  rw [index_executed]
  cases i with
  | setIndex target => exact target.isLt
  | addIndex x => exact Nat.mod_lt _ (by decide)
  | glyph x => exact Nat.mod_lt _ (by decide)
  | _ => exact h.index_lt

/-- Every instruction leaves the return addresses in memory: a call pushes the counter. -/
theorem stack_executed_lt (h : m.WithinBounds) (i : Instruction) :
    ∀ address ∈ (m.executed i).stack, address < Memory.size := by
  rw [stack_executed]
  cases i with
  | ret => exact fun address hmem => h.stack_lt address (List.mem_of_mem_tail hmem)
  | call target => exact List.forall_mem_cons.2 ⟨h.counter_lt, h.stack_lt⟩
  | _ => exact h.stack_lt

/-- Every instruction keeps the machine within bounds. -/
theorem executed (h : m.WithinBounds) (i : Instruction) : (m.executed i).WithinBounds :=
  ⟨h.counter_executed_lt i, h.index_executed_lt i, h.stack_executed_lt i⟩

/-- A cycle keeps the machine within bounds, also if it fails. -/
theorem cycle (h : m.WithinBounds) (strict : Bool) : (m.cycle strict).state.WithinBounds := by
  rcases state_cycle strict m with ⟨i, hi, hstate⟩ | ⟨-, hstate | ⟨hlt, hstate⟩⟩
  · rw [hstate]
    exact (h.advanced (started?_eq_some_iff.1 hi).1).executed i
  · rw [hstate]
    exact h
  · rw [hstate]
    exact h.advanced hlt

end WithinBounds

end ChipEight.Machine
