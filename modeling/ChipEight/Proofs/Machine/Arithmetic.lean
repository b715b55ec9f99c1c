import ChipEight.Proofs.Instruction.Decoding
import ChipEight.Proofs.Machine.Footprint
import Mathlib.Algebra.Ring.Nat
import Mathlib.Data.Nat.Bitwise

/-! # Arithmetic on bytes

A byte has no room for every sum of two bytes, nor for a negative difference, nor for a bit that is
shifted out of it. The flag makes up for that: the result and the flag together solve an equation in
natural numbers. An operation finds its flag by comparing its result, which may have wrapped around,
with an operand.

The flag is kept in a register, and that register may be an operand as well. An operation stores its
flag last, so that in the flag register nothing but the flag is left. A shift stores its flag first,
and in the flag register it is the flag that is shifted.

* `Operation.Balances` and `Direction.Balances`: the equations;
* `Operation.balances_apply` and `Direction.balances_apply`: what is computed solves them;
* `Machine.combine_balances` and `Machine.shift_balances`: so do the registers, and what is left in
  the flag register if that was the target;
* `Machine.arithmetic_exact_under_aliasing`: all five instructions together, down to their words. -/

namespace ChipEight

/-! ### Operations -/

namespace Operation

/-- The equation between two bytes, the result of an operation on them and its flag. The flag of a
sum carries 256, and a difference borrows 256 unless its flag is set. The operations that leave no
flag have no equation. -/
def Balances : Operation → (a b result flag : Nat) → Prop
  | .add, a, b, result, flag => result + 256 * flag = a + b
  | .subtract, a, b, result, flag => result + b = a + 256 * (1 - flag)
  | .subtractFrom, a, b, result, flag => result + a = b + 256 * (1 - flag)
  | _, _, _, _, _ => False

variable {operation : Operation} {a b result : UInt8} {flag : Bool}

/-- A sum is below an operand if and only if it has wrapped around. -/
theorem add_lt_iff : a + b < a ↔ 256 ≤ a.toNat + b.toNat := by
  have ha := a.toNat_lt
  have hb := b.toNat_lt
  rw [UInt8.lt_iff_toNat_lt, UInt8.toNat_add]
  omega

/-- A difference is not above what was subtracted from if and only if it has not wrapped around. -/
theorem sub_le_iff : a - b ≤ a ↔ b.toNat ≤ a.toNat := by
  have ha := a.toNat_lt
  have hb := b.toNat_lt
  rw [UInt8.le_iff_toNat_le, UInt8.toNat_sub]
  omega

/-- A sum and its carry are the exact sum. -/
theorem toNat_add_carry (a b : UInt8) :
    (a + b).toNat + 256 * (decide (a + b < a)).toNat = a.toNat + b.toNat := by
  have ha := a.toNat_lt
  have hb := b.toNat_lt
  rw [decide_eq_decide.2 add_lt_iff, UInt8.toNat_add]
  -- A sum of two bytes wraps around once at most, so the carry makes up for all that is lost.
  by_cases hcarry : 256 ≤ a.toNat + b.toNat
  · rw [decide_eq_true hcarry, Bool.toNat_true]
    omega
  · rw [decide_eq_false hcarry, Bool.toNat_false]
    omega

/-- A difference and its borrow are the exact difference. -/
theorem toNat_sub_borrow (a b : UInt8) :
    (a - b).toNat + b.toNat = a.toNat + 256 * (1 - (decide (a - b ≤ a)).toNat) := by
  have ha := a.toNat_lt
  have hb := b.toNat_lt
  rw [decide_eq_decide.2 sub_le_iff, UInt8.toNat_sub]
  by_cases hle : b.toNat ≤ a.toNat
  · rw [decide_eq_true hle, Bool.toNat_true]
    omega
  · rw [decide_eq_false hle, Bool.toNat_false]
    omega

/-- **What an operation computes solves its equation**, if it leaves a flag. -/
theorem balances_apply (h : operation.apply a b = (result, some flag)) :
    operation.Balances a.toNat b.toNat result.toNat flag.toNat := by
  cases operation with
  | copy | or | and | xor => cases h
  | add =>
    cases h
    exact toNat_add_carry a b
  | subtract =>
    cases h
    exact toNat_sub_borrow a b
  | subtractFrom =>
    cases h
    exact toNat_sub_borrow b a

/-- An operation that sets the flag computes one. -/
theorem exists_apply_eq (h : operation.setsFlag = true) (a b : UInt8) :
    ∃ result flag, operation.apply a b = (result, some flag) := by
  cases operation with
  | copy | or | and | xor => cases h
  | add | subtract | subtractFrom => exact ⟨_, _, rfl⟩

end Operation

/-! ### Shifts -/

namespace Direction

/-- The equation between a byte, the byte shifted by one bit and the flag. The flag is the bit that
was shifted out: the lowest one, or else the highest. -/
def Balances : Direction → (a result flag : Nat) → Prop
  | .right, a, result, flag => 2 * result + flag = a
  | .left, a, result, flag => result + 256 * flag = 2 * a

/-- A byte has a bit in common with a mask of one bit if and only if it has that bit. -/
theorem and_bne_zero_eq_testBit (a : UInt8) {mask : UInt8} {i : Nat} (hmask : mask.toNat = 2 ^ i) :
    (a &&& mask != 0) = a.toNat.testBit i := by
  have hand : (a &&& mask).toNat = (a.toNat.testBit i).toNat * 2 ^ i := by
    rw [UInt8.toNat_and, hmask, Nat.and_two_pow]
  rw [Bool.eq_iff_iff, bne_iff_ne, ne_eq, ← UInt8.toNat_inj, hand]
  cases a.toNat.testBit i <;> simp

/-- A shift to the right loses the lowest bit. -/
theorem toNat_lost_right (a : UInt8) : (right.lost a).toNat = a.toNat % 2 := by
  rw [lost, and_bne_zero_eq_testBit a (i := 0) rfl, Nat.toNat_testBit, pow_zero, Nat.div_one]

/-- A shift to the left loses the highest bit. -/
theorem toNat_lost_left (a : UInt8) : (left.lost a).toNat = a.toNat / 128 := by
  have ha := a.toNat_lt
  rw [lost, and_bne_zero_eq_testBit a (i := 7) rfl, Nat.toNat_testBit]
  omega

/-- A shift to the left loses a set bit if and only if there is no room for twice the byte. -/
theorem lost_left_iff (a : UInt8) : left.lost a = true ↔ 128 ≤ a.toNat := by
  have ha := a.toNat_lt
  have hbit := toNat_lost_left a
  rw [← Bool.toNat_eq_one, hbit]
  omega

/-- **What a shift computes solves its equation.** -/
theorem balances_apply (direction : Direction) (a : UInt8) :
    direction.Balances a.toNat (direction.apply a).toNat (direction.lost a).toNat := by
  have ha := a.toNat_lt
  cases direction with
  | right =>
    have hhalf : (a >>> 1).toNat = a.toNat / 2 := UInt8.toNat_shiftRight a 1
    rw [toNat_lost_right, apply, hhalf]
    exact Nat.div_add_mod a.toNat 2
  | left =>
    have hdouble : (a <<< 1).toNat = a.toNat * 2 % 256 := by
      rw [UInt8.toNat_shiftLeft]
      exact congrArg (· % 256) (Nat.shiftLeft_eq a.toNat 1)
    rw [toNat_lost_left, apply, hdouble]
    show a.toNat * 2 % 256 + 256 * (a.toNat / 128) = 2 * a.toNat
    omega

end Direction

namespace Machine

variable (m : Machine) (x y : Register)

/-! ### The registers afterwards -/

/-- The flag register holds a number for a truth value. -/
theorem toNat_v_setFlag (on : Bool) : ((m.setFlag on).v flagRegister).toNat = on.toNat := by
  rw [setFlag, v_setV_self]
  cases on <;> rfl

/-- What an operation that leaves a flag stores, and in which order. -/
theorem combine_of_apply_eq {operation : Operation} {result : UInt8} {flag : Bool}
    (h : operation.apply (m.v x) (m.v y) = (result, some flag)) :
    m.combine operation x y = (m.setV x result).setFlag flag := by
  rw [combine, h]

/-- **Of an operation the flag register tells the flag**, whatever its operands; and if the target
is another register, then the two of them solve the equation of the operation. -/
theorem combine_balances (operation : Operation) (h : operation.setsFlag = true) :
    let m' := m.combine operation x y
    (m'.v flagRegister).toNat ≤ 1 ∧
      (x ≠ flagRegister → operation.Balances (m.v x).toNat (m.v y).toNat (m'.v x).toNat
        (m'.v flagRegister).toNat) ∧
      ∃ result < 256, operation.Balances (m.v x).toNat (m.v y).toNat result
        (m'.v flagRegister).toNat := by
  intro m'
  obtain ⟨result, flag, hresult⟩ := Operation.exists_apply_eq h (m.v x) (m.v y)
  have hbalances := Operation.balances_apply hresult
  have hm' : m' = (m.setV x result).setFlag flag := combine_of_apply_eq m x y hresult
  -- The flag is stored last and so is found in any case; the result only where it is not covered.
  have hflag : (m'.v flagRegister).toNat = flag.toNat := by rw [hm', toNat_v_setFlag]
  rw [hflag]
  refine ⟨Bool.toNat_le flag, fun hx => ?_, result.toNat, result.toNat_lt, hbalances⟩
  have hx' : m'.v x = result := by rw [hm', v_setFlag_of_ne hx, v_setV_self]
  rw [hx']
  exact hbalances

/-- **A register that is shifted and the flag solve the equation of the shift**, if they are not the
same register. -/
theorem shift_balances (direction : Direction) (hx : x ≠ flagRegister) :
    let m' := m.shift direction x
    (m'.v flagRegister).toNat ≤ 1 ∧
      direction.Balances (m.v x).toNat (m'.v x).toNat (m'.v flagRegister).toNat := by
  intro m'
  -- The flag is stored first, and what is shifted after that is another register.
  have hflag : (m'.v flagRegister).toNat = (direction.lost (m.v x)).toNat := by
    rw [← m.toNat_v_setFlag]
    exact congrArg UInt8.toNat (v_setV_of_ne hx.symm _)
  have hx' : m'.v x = direction.apply (m.v x) := by
    show (m.shift direction x).v x = _
    rw [shift, v_setV_self, v_setFlag_of_ne hx]
  rw [hflag, hx']
  exact ⟨Bool.toNat_le _, direction.balances_apply (m.v x)⟩

/-- A shift of the flag register shifts the flag that it has just stored. -/
theorem v_shift_flagRegister (direction : Direction) :
    (m.shift direction flagRegister).v flagRegister =
      direction.apply (if direction.lost (m.v flagRegister) then 1 else 0) := by
  rw [shift, v_setV_self, setFlag, v_setV_self]

/-- Shifting the flag register to the right clears it, for the flag is stored before
it is shifted. -/
theorem v_shift_right_flagRegister : (m.shift .right flagRegister).v flagRegister = 0 := by
  rw [v_shift_flagRegister]
  split <;> rfl

/-- Shifting the flag register to the left leaves twice the flag. -/
theorem v_shift_left_flagRegister :
    (m.shift .left flagRegister).v flagRegister =
      if 128 ≤ (m.v flagRegister).toNat then 2 else 0 := by
  rw [v_shift_flagRegister, if_congr (Direction.lost_left_iff _) rfl rfl]
  split <;> rfl

/-! ### What stays as it is -/

/-- An operation changes no more than its target and the flag register. -/
theorem combine_eq_registers (operation : Operation) :
    m.combine operation x y = { m with registers := (m.combine operation x y).registers } := by
  cases operation <;> rfl

/-- Combining two registers leaves those alone that are neither the first one nor the flag. -/
theorem v_combine_of_ne {operation : Operation} {r : Register} (hx : r ≠ x)
    (hflag : r ≠ flagRegister) :
    (m.combine operation x y).v r = m.v r := by
  refine v_combine_of_not_mem fun hr => ?_
  rw [Instruction.written] at hr
  split at hr <;> simp [hx, hflag] at hr

end Machine

/-- **Arithmetic is exact under all aliasing.** For all registers `VX` and `VY`, the flag register
and one and the same register among them, let `a` and `b` be the numbers in them before:

* the words with these operands and the codes 4 to 7 and 14 stand for a sum, a difference, a shift
  to the right, a difference the other way round and a shift to the left, and the shifts do so
  whatever `VY` is;
* none of them fails or changes anything but registers, and no registers but `VX` and the flag;
* if `VX` is not the flag register, the flag is zero or one, and it makes up for what `VX` has no
  room for;
* if it is, then the sum and the differences leave in it just the flag that the same equations have
  for a solution, and the shifts leave the flag after it was shifted. -/
theorem Machine.arithmetic_exact_under_aliasing (m : Machine) (x y : Register) :
    let f := flagRegister
    let a := (m.v x).toNat
    let b := (m.v y).toNat
    (∀ w : Word,
      (w.toNat = 0x8004 + 256 * x.val + 16 * y.val →
        Instruction.ofWord? w = some (.combine .add x y)) ∧
      (w.toNat = 0x8005 + 256 * x.val + 16 * y.val →
        Instruction.ofWord? w = some (.combine .subtract x y)) ∧
      (w.toNat = 0x8006 + 256 * x.val + 16 * y.val →
        Instruction.ofWord? w = some (.shift .right x)) ∧
      (w.toNat = 0x8007 + 256 * x.val + 16 * y.val →
        Instruction.ofWord? w = some (.combine .subtractFrom x y)) ∧
      (w.toNat = 0x800E + 256 * x.val + 16 * y.val →
        Instruction.ofWord? w = some (.shift .left x))) ∧
    ∃ sum difference halved reversed doubled : Machine,
      m.execute (.combine .add x y) = .ok sum ∧
      m.execute (.combine .subtract x y) = .ok difference ∧
      m.execute (.shift .right x) = .ok halved ∧
      m.execute (.combine .subtractFrom x y) = .ok reversed ∧
      m.execute (.shift .left x) = .ok doubled ∧
      (∀ m' ∈ [sum, difference, halved, reversed, doubled],
        m' = { m with registers := m'.registers } ∧ ∀ r, r ≠ x → r ≠ f → m'.v r = m.v r) ∧
      (x ≠ f →
        (∀ m' ∈ [sum, difference, halved, reversed, doubled], (m'.v f).toNat ≤ 1) ∧
        (sum.v x).toNat + 256 * (sum.v f).toNat = a + b ∧
        (difference.v x).toNat + b = a + 256 * (1 - (difference.v f).toNat) ∧
        2 * (halved.v x).toNat + (halved.v f).toNat = a ∧
        (reversed.v x).toNat + a = b + 256 * (1 - (reversed.v f).toNat) ∧
        (doubled.v x).toNat + 256 * (doubled.v f).toNat = 2 * a) ∧
      (x = f →
        (∀ m' ∈ [sum, difference, reversed], (m'.v f).toNat ≤ 1) ∧
        (∃ result < 256, result + 256 * (sum.v f).toNat = a + b) ∧
        (∃ result < 256, result + b = a + 256 * (1 - (difference.v f).toNat)) ∧
        (∃ result < 256, result + a = b + 256 * (1 - (reversed.v f).toNat)) ∧
        halved.v f = 0 ∧ doubled.v f = if 128 ≤ a then 2 else 0) := by
  intro f a b
  have hsum := combine_balances m x y .add rfl
  have hdifference := combine_balances m x y .subtract rfl
  have hreversed := combine_balances m x y .subtractFrom rfl
  refine ⟨fun w => ⟨fun h => ?_, fun h => ?_, fun h => ?_, fun h => ?_, fun h => ?_⟩,
    m.combine .add x y, m.combine .subtract x y, m.shift .right x, m.combine .subtractFrom x y,
    m.shift .left x, rfl, rfl, rfl, rfl, rfl, ?_, fun hx => ?_, fun hx => ?_⟩
  · exact Instruction.ofWord?_of_combine (by simp only [Operation.code]; omega)
  · exact Instruction.ofWord?_of_combine (by simp only [Operation.code]; omega)
  · exact Instruction.ofWord?_of_shift (y := y) (by simp only [Instruction.number]; omega)
  · exact Instruction.ofWord?_of_combine (by simp only [Operation.code]; omega)
  · exact Instruction.ofWord?_of_shift (y := y) (by simp only [Instruction.number]; omega)
  · -- Whatever the operation, only registers change, and of those the target and the flag.
    simp only [List.forall_mem_cons, List.not_mem_nil, false_implies, implies_true, and_true]
    exact ⟨⟨combine_eq_registers m x y .add, fun r => v_combine_of_ne m x y⟩,
      ⟨combine_eq_registers m x y .subtract, fun r => v_combine_of_ne m x y⟩,
      ⟨rfl, fun r hr hf => v_shift_of_ne hr hf .right⟩,
      ⟨combine_eq_registers m x y .subtractFrom, fun r => v_combine_of_ne m x y⟩,
      ⟨rfl, fun r hr hf => v_shift_of_ne hr hf .left⟩⟩
  · -- The target keeps its result, so both sides of an equation are in registers.
    have hhalved := shift_balances m x .right hx
    have hdoubled := shift_balances m x .left hx
    simp only [List.forall_mem_cons, List.not_mem_nil, false_implies, implies_true, and_true]
    exact ⟨⟨hsum.1, hdifference.1, hhalved.1, hreversed.1, hdoubled.1⟩, hsum.2.1 hx,
      hdifference.2.1 hx, hhalved.2, hreversed.2.1 hx, hdoubled.2⟩
  · -- The flag has taken the place of the result, of which only the equation is left.
    subst hx
    simp only [List.forall_mem_cons, List.not_mem_nil, false_implies, implies_true, and_true]
    exact ⟨⟨hsum.1, hdifference.1, hreversed.1⟩, hsum.2.2, hdifference.2.2, hreversed.2.2,
      m.v_shift_right_flagRegister, m.v_shift_left_flagRegister⟩

end ChipEight
