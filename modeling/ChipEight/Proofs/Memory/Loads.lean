import ChipEight.Proofs.Memory.Overlay

/-! # Loading data into memory

Data is laid over memory from an offset on, and what does not fit is dropped. `Memory.IsLoad` says
what that comes to without saying how it is done, and it leaves nothing open.

* `Memory.load_eq_ok_iff` and `Memory.load_eq_error_iff`: when a load succeeds and when it fails;
* `Memory.room_add`: how much fits of data and of other data behind it. -/

namespace ChipEight.Memory

variable {m : Memory} {data : Array UInt8} {start : Nat}

/-- What it is to load data. -/
structure IsLoad (before : Memory) (data : Array UInt8) (start count : Nat) (after : Memory) :
    Prop where
  /-- As many bytes are counted as fit. -/
  count_eq : count = room data.size start
  /-- They are found in order from `start` on. -/
  inside : ∀ k < count, data[k]? = some (after.read (start + k))
  /-- No other byte has changed. -/
  outside : ∀ a, ¬(start ≤ a ∧ a < start + count) → after.read a = before.read a

/-- To lay data over memory is to load it. -/
theorem isLoad_overlay (m : Memory) (data : Array UInt8) (start : Nat) :
    m.IsLoad data start (room data.size start) (m.overlay data start) where
  count_eq := rfl
  inside k hk := by
    obtain ⟨hsize, hroom⟩ := Nat.lt_min.1 hk
    have hbyte : data[k]? = some data[k] := Array.getElem?_eq_getElem hsize
    have hin : start + k < size := by omega
    rw [m.read_overlay_of_getElem? hbyte hin, hbyte]
  outside a ha := by
    -- The address lies in front of the data, behind it, or behind memory.
    have hcases : a < start ∨ start + data.size ≤ a ∨ size ≤ a := by
      rw [room] at ha
      omega
    rcases hcases with hlt | hle | hsize
    · exact read_overlay_of_lt hlt
    · exact read_overlay_of_size_le hle
    · rw [read_of_size_le _ hsize, read_of_size_le _ hsize]

/-- What has been loaded decides about every byte. -/
theorem IsLoad.eq_overlay {count : Nat} {after : Memory} (h : m.IsLoad data start count after) :
    after = m.overlay data start := by
  have hover := m.isLoad_overlay data start
  obtain ⟨rfl, hinside, houtside⟩ := h
  refine ext_read fun a => ?_
  by_cases ha : start ≤ a ∧ a < start + room data.size start
  · obtain ⟨k, rfl⟩ := Nat.exists_eq_add_of_le ha.1
    have hk : k < room data.size start := Nat.lt_of_add_lt_add_left ha.2
    exact Option.some.inj ((hinside k hk).symm.trans (hover.inside k hk))
  · rw [houtside a ha, hover.outside a ha]

/-- A load that is to start in front of memory is refused. -/
theorem load_of_neg {offset : Int} (h : offset < 0) :
    m.load data offset = .error (.negativeOffset offset) := by
  cases offset with
  | ofNat start => exact absurd h (Int.not_lt.2 (Int.natCast_nonneg start))
  | negSucc k => rfl

/-- Any other load lays the data over memory. -/
theorem load_of_nonneg {offset : Int} (h : 0 ≤ offset) :
    m.load data offset = .ok (room data.size offset.toNat, m.overlay data offset.toNat) := by
  obtain ⟨start, rfl⟩ := Int.eq_ofNat_of_zero_le h
  rfl

/-- **When a load succeeds, and with what.** -/
theorem load_eq_ok_iff {offset : Int} {count : Nat} {after : Memory} :
    m.load data offset = .ok (count, after) ↔
      0 ≤ offset ∧ m.IsLoad data offset.toNat count after := by
  by_cases hneg : offset < 0
  · rw [load_of_neg hneg]
    exact iff_of_false (fun h => nomatch h) fun h => Int.not_le.2 hneg h.1
  · have hoffset : 0 ≤ offset := Int.not_lt.1 hneg
    rw [load_of_nonneg hoffset, Except.ok.injEq, Prod.mk.injEq]
    constructor
    · rintro ⟨rfl, rfl⟩
      exact ⟨hoffset, m.isLoad_overlay data offset.toNat⟩
    · rintro ⟨-, h⟩
      exact ⟨h.count_eq.symm, h.eq_overlay.symm⟩

/-- **When a load fails, and with what.** -/
theorem load_eq_error_iff {offset : Int} {fault : Fault} :
    m.load data offset = .error fault ↔ offset < 0 ∧ fault = .negativeOffset offset := by
  by_cases hneg : offset < 0
  · rw [load_of_neg hneg, Except.error.injEq, and_iff_right hneg, eq_comm]
  · rw [load_of_nonneg (Int.not_lt.1 hneg)]
    exact iff_of_false (fun h => nomatch h) fun h => hneg h.1

/-! ### Data from outside -/

/-- A source that fails loads nothing, whatever has arrived before and wherever it was to go. -/
theorem loadFrom_of_failure_eq_some {source : ByteSource} {failure : ReadFailure}
    (h : source.failure = some failure) (offset : Int) :
    m.loadFrom source offset = .error (.unreadable failure) := by
  rw [loadFrom, ByteSource.readAll, h]
  rfl

/-- A source that does not fail loads all its data. -/
theorem loadFrom_of_failure_eq_none {source : ByteSource} (h : source.failure = none)
    (offset : Int) : m.loadFrom source offset = m.load source.bytes offset := by
  rw [loadFrom, ByteSource.readAll, h]
  rfl

/-! ### What fits -/

/-- Behind the end of memory there is no room. -/
theorem room_of_size_le (length : Nat) {start : Nat} (h : size ≤ start) :
    room length start = 0 := by
  rw [room, Nat.sub_eq_zero_of_le h, Nat.min_zero]

/-- What fits ends in memory. -/
theorem add_room_le (length : Nat) {start : Nat} (h : start ≤ size) :
    start + room length start ≤ size :=
  Nat.add_le_of_le_sub' h (Nat.min_le_right _ _)

/-- Of two pieces together as much fits as of the first, and of the second behind it. -/
theorem room_add (length length' start : Nat) :
    room (length + length') start = room length start + room length' (start + length) := by
  simp only [room]
  omega

/-- What does not fit may be left out. -/
theorem overlay_extract_room (m : Memory) (data : Array UInt8) (start : Nat) :
    m.overlay (data.extract 0 (room data.size start)) start = m.overlay data start := by
  have hroom : room data.size start ≤ data.size := Nat.min_le_left _ _
  have hjoin : data.extract 0 (room data.size start) ++
      data.extract (room data.size start) data.size = data := by
    rw [Array.extract_append_extract, Nat.zero_min, Nat.max_eq_right hroom, Array.extract_size]
  have happend := m.overlay_append (data.extract 0 (room data.size start))
    (data.extract (room data.size start) data.size) start
  rw [hjoin, Array.size_extract, Nat.min_eq_left hroom, Nat.sub_zero] at happend
  rw [← happend]
  -- The part that is left out is empty, or begins where memory ends.
  rcases Nat.le_total data.size (size - start) with hle | hle
  · have hall : room data.size start = data.size := Nat.min_eq_left hle
    rw [hall, Array.extract_empty_of_size_le_start (Nat.le_refl _), overlay_empty]
  · have hend : size ≤ start + room data.size start := by
      rw [room, Nat.min_eq_right hle]
      omega
    rw [overlay_of_size_le _ hend]

end ChipEight.Memory
