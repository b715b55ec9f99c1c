import ChipEight.Memory.Basic

/-! # Data laid over memory

Where data has been laid over memory, its bytes are found at their distance from the start, two of
them next to each other make a word, and data that starts behind the end of memory leaves no trace.
Data that is laid behind other data comes to the same as both at once, also where the end of memory
cuts one of them off (`Memory.overlay_append`). -/

namespace ChipEight.Memory

variable (m : Memory) {data : Array UInt8} {start : Nat}

/-- Nothing fits behind the end of memory. -/
theorem overlay_of_size_le (h : size ≤ start) : m.overlay data start = m := by
  apply ext_read
  intro a
  have hout : ¬(start ≤ a ∧ a < size) := by omega
  rw [read_overlay, if_neg hout]

/-- A byte of the data is found at its distance from the start, if that is still in memory. -/
theorem read_overlay_of_getElem? {k : Nat} {byte : UInt8} (hbyte : data[k]? = some byte)
    (hk : start + k < size) : (m.overlay data start).read (start + k) = byte := by
  rw [read_overlay, if_pos ⟨Nat.le_add_right start k, hk⟩, Nat.add_sub_cancel_left, hbyte,
    Option.getD_some]

/-- Two bytes of the data next to each other make a word, if both are still in memory. -/
theorem word_overlay_of_getElem? {k : Nat} {high low : UInt8} (hhigh : data[k]? = some high)
    (hlow : data[k + 1]? = some low) (hk : start + k + 1 < size) :
    (m.overlay data start).word (start + k) = Word.ofBytes high low := by
  have hread := m.read_overlay_of_getElem? hhigh (Nat.lt_of_succ_lt hk)
  have hnext := m.read_overlay_of_getElem? hlow hk
  rw [word, hread]
  exact congrArg (Word.ofBytes high) hnext

variable {m}

/-- In front of the data nothing is laid. -/
theorem read_overlay_of_lt {a : Nat} (h : a < start) :
    (m.overlay data start).read a = m.read a := by
  rw [read_overlay, if_neg fun hin => Nat.not_le.2 h hin.1]

/-- Nor is anything behind its last byte. -/
theorem read_overlay_of_size_le {a : Nat} (h : start + data.size ≤ a) :
    (m.overlay data start).read a = m.read a := by
  rw [read_overlay, Array.getElem?_eq_none (Nat.le_sub_of_add_le' h), Option.getD_none, ite_self]

/-! ### Pieces behind each other -/

/-- No data, no change. -/
@[simp] theorem overlay_empty (m : Memory) (start : Nat) : m.overlay #[] start = m := by
  refine ext_read fun a => ?_
  rw [read_overlay, Array.getElem?_empty, Option.getD_none, ite_self]

/-- A single byte is written. -/
theorem overlay_singleton (m : Memory) (start : Nat) (byte : UInt8) :
    m.overlay #[byte] start = m.write start byte := by
  refine ext_read fun a => ?_
  rw [read_write]
  rcases Nat.lt_trichotomy a start with hlt | rfl | hgt
  · rw [read_overlay_of_lt hlt, if_neg fun h => Nat.ne_of_gt hlt h.1]
  · rw [read_overlay, Nat.sub_self]
    simp
  · rw [read_overlay_of_size_le hgt, if_neg fun h => Nat.ne_of_lt hgt h.1]

/-- **Data behind other data** comes to the same as both at once. -/
theorem overlay_append (m : Memory) (first second : Array UInt8) (start : Nat) :
    (m.overlay first start).overlay second (start + first.size) =
      m.overlay (first ++ second) start := by
  refine ext_read fun a => ?_
  by_cases hfirst : a < start + first.size
  · -- The second piece does not reach back to the first.
    rw [read_overlay_of_lt hfirst]
    by_cases hstart : start ≤ a
    · have hk : a - start < first.size := Nat.sub_lt_left_of_lt_add hstart hfirst
      rw [read_overlay, read_overlay, Array.getElem?_append_left hk]
    · rw [read_overlay_of_lt (Nat.not_le.1 hstart), read_overlay_of_lt (Nat.not_le.1 hstart)]
  · -- The first piece does not reach as far as here, and the second begins where it ends.
    have hle : start + first.size ≤ a := Nat.not_lt.1 hfirst
    have hstart : start ≤ a := Nat.le_trans (Nat.le_add_right start first.size) hle
    rw [read_overlay, read_overlay_of_size_le hle, read_overlay,
      Array.getElem?_append_right (Nat.le_sub_of_add_le' hle), Nat.sub_sub]
    simp only [hle, hstart, true_and]

end ChipEight.Memory
