import ChipEight.Keypad.Basic

/-! # The keys of the keypad

Keys are put down and let up one at a time, and a key that does not exist cannot be moved. The keys
that are down are listed in rising order, and the first of the list is the lowest of them.

* `Keypad.moved`: the keypad after a key has been moved, or after that has been refused;
* `Keypad.lowest?_eq_none_iff` and `Keypad.lowest?_eq_some_iff`: when there is no lowest key, and
  which key it is otherwise. -/

namespace ChipEight.Keypad

variable {p : Keypad} {key : UInt8}

/-- Keypads are equal if the same keys are down. -/
theorem ext_isPressed {p q : Keypad} (h : ∀ key, p.isPressed key = q.isPressed key) : p = q := by
  refine congrArg Keypad.mk (BitVec.eq_of_getLsbD_eq fun i hi => ?_)
  have hkey : (UInt8.ofNat i).toNat = i :=
    UInt8.toNat_ofNat_of_lt' (Nat.lt_trans hi (by decide))
  have hbit := h (UInt8.ofNat i)
  rw [isPressed, isPressed, hkey] at hbit
  exact hbit

/-! ### Moving a key -/

/-- Every key that exists can be moved. -/
theorem exists_set_eq_ok (p : Keypad) {key : UInt8} (hkey : key.toNat < size) (down : Bool) :
    ∃ q, p.set key down = .ok q := by
  cases down <;> exact ⟨_, by rw [set, press, release, bit, if_pos hkey]; rfl⟩

/-- After a key has been moved it is where it was moved to, and the other keys are as they were. -/
theorem isPressed_set {p q : Keypad} {key : UInt8} {down : Bool} (h : p.set key down = .ok q)
    (k : UInt8) : q.isPressed k = if k = key then down else p.isPressed k := by
  cases down with
  | true =>
    rw [isPressed_press h]
    by_cases hk : k = key <;> simp [hk]
  | false =>
    rw [isPressed_release h]
    by_cases hk : k = key <;> simp [hk]

/-- The keypad after a key has been put down or let up, or after that has been refused. -/
def moved (p : Keypad) (key : UInt8) (down : Bool) : Keypad := (p.set key down).toOption.getD p

/-- A key that does not exist cannot be moved. -/
theorem set_of_size_le (p : Keypad) (hkey : size ≤ key.toNat) (down : Bool) :
    p.set key down = .error (.invalidKey key) := by
  cases down <;> rw [set, press, release, bit, if_neg (Nat.not_lt.2 hkey)] <;> rfl

/-- Moving a key above fifteen changes nothing. -/
theorem moved_of_size_le (p : Keypad) (hkey : size ≤ key.toNat) (down : Bool) :
    p.moved key down = p := by
  rw [moved, p.set_of_size_le hkey]
  rfl

/-- A key that exists is where it was moved to, and the other keys are as they were. -/
theorem isPressed_moved (p : Keypad) (key : UInt8) (down : Bool) (k : UInt8) :
    (p.moved key down).isPressed k =
      if k = key ∧ key.toNat < size then down else p.isPressed k := by
  by_cases hkey : key.toNat < size
  · obtain ⟨q, hq⟩ := p.exists_set_eq_ok hkey down
    have hmoved : p.moved key down = q := by
      rw [moved, hq]
      rfl
    rw [hmoved, isPressed_set hq]
    simp [hkey]
  · rw [p.moved_of_size_le (Nat.le_of_not_lt hkey), if_neg fun h => hkey h.2]

/-- To let a key up where none is down has no effect. -/
theorem moved_false_of_forall (h : ∀ k, p.isPressed k = false) (key : UInt8) :
    p.moved key false = p := by
  refine ext_isPressed fun k => ?_
  rw [isPressed_moved, h k, ite_self]

/-! ### The lowest key -/

/-- The bytes that number a key are those below sixteen. -/
theorem mem_map_ofNat_range_iff : key ∈ (List.range size).map UInt8.ofNat ↔ key.toNat < size := by
  rw [List.mem_map]
  constructor
  · rintro ⟨n, hn, rfl⟩
    have hlt : n < size := List.mem_range.1 hn
    rwa [UInt8.toNat_ofNat_of_lt' (Nat.lt_trans hlt (by decide))]
  · intro hlt
    exact ⟨key.toNat, List.mem_range.2 hlt, UInt8.ofNat_toNat⟩

/-- The keys that are listed are those that are down. -/
theorem mem_pressed_iff : key ∈ p.pressed ↔ p.isPressed key = true := by
  rw [pressed, List.mem_filter, mem_map_ofNat_range_iff]
  refine and_iff_right_of_imp fun hdown => Nat.lt_of_not_le fun hle => ?_
  exact Bool.false_ne_true ((p.isPressed_of_size_le hle).symm.trans hdown)

/-- The keys that are down are listed in rising order. -/
theorem pairwise_pressed (p : Keypad) : p.pressed.Pairwise (· < ·) := by
  refine List.Pairwise.filter p.isPressed (List.pairwise_map.2 ?_)
  refine List.pairwise_lt_range.imp_of_mem fun {i j} hi hj hlt => ?_
  have hi' : i < 2 ^ 8 := Nat.lt_trans (List.mem_range.1 hi) (by decide)
  have hj' : j < 2 ^ 8 := Nat.lt_trans (List.mem_range.1 hj) (by decide)
  rwa [UInt8.lt_iff_toNat_lt, UInt8.toNat_ofNat_of_lt' hi', UInt8.toNat_ofNat_of_lt' hj']

/-- There is no lowest key if and only if no key is down. -/
theorem lowest?_eq_none_iff : p.lowest? = none ↔ ∀ k, p.isPressed k = false := by
  rw [lowest?, List.head?_eq_none_iff, List.eq_nil_iff_forall_not_mem]
  simp only [mem_pressed_iff, Bool.not_eq_true]

/-- **The lowest key is down, and no key below it is.** -/
theorem lowest?_eq_some_iff :
    p.lowest? = some key ↔ p.isPressed key = true ∧ ∀ k, p.isPressed k = true → key ≤ k := by
  have hsorted := p.pairwise_pressed
  simp only [← mem_pressed_iff, lowest?]
  cases hpressed : p.pressed with
  | nil => simp
  | cons first rest =>
    rw [hpressed] at hsorted
    have hfirst : ∀ k ∈ first :: rest, first ≤ k :=
      List.forall_mem_cons.2 ⟨UInt8.le_refl first,
        fun k hk => UInt8.le_of_lt ((List.pairwise_cons.1 hsorted).1 k hk)⟩
    rw [List.head?_cons, Option.some.injEq]
    constructor
    · rintro rfl
      exact ⟨List.mem_cons_self, hfirst⟩
    · rintro ⟨hmem, hlowest⟩
      exact UInt8.le_antisymm (hfirst key hmem) (hlowest first List.mem_cons_self)

/-- There is a lowest key if some key is down. -/
theorem exists_lowest?_eq_some (h : p.isPressed key = true) :
    ∃ lowest, p.lowest? = some lowest := by
  rw [← Option.isSome_iff_exists, ← Option.ne_none_iff_isSome]
  intro hnone
  exact Bool.false_ne_true ((lowest?_eq_none_iff.1 hnone key).symm.trans h)

end ChipEight.Keypad
