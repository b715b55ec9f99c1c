import ChipEight.Proofs.Checked.Loading
import ChipEight.Proofs.Emulator.Runs
import Mathlib.Algebra.Ring.Int.Defs
import Mathlib.Algebra.Ring.Nat

/-! # Loading

A load copies as much of its data as fits and counts it, or is refused and changes nothing
(`Emulator.load_exact_or_refused`). Data that has been cut into pieces can be loaded piece by piece,
and neither memory nor the counts tell the difference (`Emulator.loads_eq_load_of_joined`).

* `Command.loads`: the commands that load pieces of data behind each other;
* `Emulator.after_loads` and `Emulator.replies_loads`: the emulator that they lead to, and their
  answers. -/

namespace ChipEight

/-- Load pieces of data behind each other, the first of them at `start`. -/
def Command.loads (start : Nat) : List (Array UInt8) → List Command
  | [] => []
  | piece :: rest => .load piece start :: loads (start + piece.size) rest

/-- Pieces of data put together. -/
def joined (pieces : List (Array UInt8)) : Array UInt8 := pieces.foldr (· ++ ·) #[]

/-- Of no pieces there is nothing to join. -/
@[simp] theorem joined_nil : joined [] = #[] := rfl

/-- The first piece stands in front of the others. -/
@[simp] theorem joined_cons (piece : Array UInt8) (rest : List (Array UInt8)) :
    joined (piece :: rest) = piece ++ joined rest := rfl

/-- How much fits of each of some pieces that are loaded behind each other. -/
def Memory.rooms (start : Nat) : List (Array UInt8) → List Nat
  | [] => []
  | piece :: rest => room piece.size start :: rooms (start + piece.size) rest

/-- As much fits of the pieces as of all of them together. -/
theorem Memory.sum_rooms (start : Nat) (pieces : List (Array UInt8)) :
    (rooms start pieces).sum = room (joined pieces).size start := by
  induction pieces generalizing start with
  | nil => exact (Nat.min_eq_left (Nat.zero_le _)).symm
  | cons piece rest ih =>
    rw [rooms, List.sum_cons, ih, joined_cons, Array.size_append, room_add]

/-- Of three pieces at the end of memory the second is cut off, and nothing fits of the third. -/
example : Memory.rooms 4094 [#[1], #[2, 3, 4], #[5]] = [1, 1, 0] := by decide

namespace Emulator

/-- An emulator with another memory. -/
def withMemory (e : Emulator) (memory : Memory) : Emulator :=
  { e with machine := { e.machine with memory } }

/-- An emulator with data laid over its memory. -/
def overlaid (e : Emulator) (data : Array UInt8) (start : Nat) : Emulator :=
  e.withMemory (e.machine.memory.overlay data start)

variable (e : Emulator)

-- These two are stated of any memory: `rfl` would compare known ones byte by byte.

/-- The other memory is found in it. -/
@[simp] theorem memory_withMemory (memory : Memory) :
    (e.withMemory memory).machine.memory = memory := rfl

/-- Of two memories the later one counts. -/
@[simp] theorem withMemory_withMemory (memory memory' : Memory) :
    (e.withMemory memory).withMemory memory' = e.withMemory memory' := rfl

/-- Its own memory makes no difference. -/
@[simp] theorem withMemory_memory : e.withMemory e.machine.memory = e := rfl

/-- To lay no data over memory makes no difference. -/
@[simp] theorem overlaid_empty (start : Nat) : e.overlaid #[] start = e := by
  rw [overlaid, Memory.overlay_empty, withMemory_memory]

/-- A load that fails is reported and changes nothing. -/
theorem perform_load_of_eq_error {data : Array UInt8} {offset : Int} {fault : Fault}
    (h : e.machine.memory.load data offset = .error fault) :
    e.perform (.load data offset) = ⟨e, [], .error fault⟩ := by
  rw [perform, load, Machine.load, h]
  rfl

/-- A load that succeeds changes memory alone and answers how many bytes it has counted. -/
theorem perform_load_of_eq_ok {data : Array UInt8} {offset : Int} {count : Nat} {memory : Memory}
    (h : e.machine.memory.load data offset = .ok (count, memory)) :
    e.perform (.load data offset) = ⟨e.withMemory memory, [], .ok (.count count)⟩ := by
  rw [perform, load, Machine.load, h]
  rfl

/-- To load data from an address on is to lay it over memory there. -/
theorem perform_load (data : Array UInt8) (start : Nat) :
    e.perform (.load data start) =
      ⟨e.overlaid data start, [], .ok (.count (Memory.room data.size start))⟩ := by
  have hload := e.machine.memory.isLoad_overlay data start
  exact e.perform_load_of_eq_ok (Memory.load_eq_ok_iff.2 ⟨Int.natCast_nonneg start, hload⟩)

/-- A program that cannot be read is not loaded. -/
theorem perform_loadProgram_of_failure_eq_some {source : ByteSource} {failure : ReadFailure}
    (h : source.failure = some failure) :
    e.perform (.loadProgram source) = ⟨e, [], .error (.unreadable failure)⟩ := by
  rw [perform, loadProgram, Machine.loadFrom, Memory.loadFrom_of_failure_eq_some h]
  rfl

/-- Any other program is loaded at the address that the settings name, and the log says so. -/
theorem perform_loadProgram_of_failure_eq_none {source : ByteSource} (h : source.failure = none) :
    e.perform (.loadProgram source) =
      { e.perform (.load source.bytes e.settings.programAddress.toNat) with
        entries := [.loaded (Memory.room source.bytes.size e.settings.programAddress.toNat)
          e.settings.programAddress.toNat] } := by
  rw [perform_load, perform, loadProgram, Machine.loadFrom, Memory.loadFrom_of_failure_eq_none h,
    Memory.load_of_nonneg (Int.natCast_nonneg _), Int.toNat_natCast]
  rfl

/-- **Loading is exact, or it is refused.** The data may have any length and the offset any sign.

* Data that is to start in front of memory is refused, and nothing changes. Otherwise as many bytes
  are counted as there are between the offset and the end of memory; they are found there in order,
  and no other byte changes, nor anything else of the emulator.
* A source that fails is reported and loads nothing, whatever has arrived before and whatever the
  offset is. One that does not fail is loaded like all its data at once, and so is a program at the
  address that the settings name.
* Every offset that fits a signed word can be loaded at with checked arithmetic, and if that fails,
  memory has not been touched. -/
theorem load_exact_or_refused (e : Emulator) :
    let m := e.machine.memory
    let start := e.settings.programAddress.toNat
    (∀ (data : Array UInt8) (offset : Int),
      (offset < 0 → e.perform (.load data offset) = ⟨e, [], .error (.negativeOffset offset)⟩) ∧
      (0 ≤ offset → ∃ (count : Nat) (memory : Memory),
        count = min (data.size : Int) (max 0 (4096 - offset)) ∧
        e.perform (.load data offset) =
          ⟨{ e with machine := { e.machine with memory } }, [], .ok (.count count)⟩ ∧
        (∀ k < count, data[k]? = some (memory.read (offset.toNat + k))) ∧
        ∀ a, ¬(offset.toNat ≤ a ∧ a < offset.toNat + count) → memory.read a = m.read a)) ∧
    (∀ source : ByteSource,
      (∀ failure, source.failure = some failure →
        (∀ offset, e.machine.loadFrom source offset = .error (.unreadable failure)) ∧
          e.perform (.loadProgram source) = ⟨e, [], .error (.unreadable failure)⟩) ∧
      (source.failure = none →
        (∀ offset, e.machine.loadFrom source offset = e.machine.load source.bytes offset) ∧
          ∃ entries, e.perform (.loadProgram source) =
            { e.perform (.load source.bytes start) with entries })) ∧
    ∀ offset : Int, offset < 2 ^ 63 →
      (∀ data, m.load? data offset = some (m.settled (m.load data offset))) ∧
        ∀ source, m.loadFrom? source offset = some (m.settled (m.loadFrom source offset)) := by
  intro m start
  refine ⟨fun data offset => ⟨fun hneg => ?_, fun hoffset => ?_⟩,
    fun source => ⟨fun failure hfailure => ⟨fun offset => ?_, ?_⟩,
      fun hnone => ⟨fun offset => ?_, ?_⟩⟩,
    fun offset hoffset => ⟨fun data => m.load?_eq data hoffset,
      fun source => m.loadFrom?_eq source hoffset⟩⟩
  · exact e.perform_load_of_eq_error (Memory.load_eq_error_iff.2 ⟨hneg, rfl⟩)
  · -- What is loaded is the data laid over memory, as far as there is room.
    have hload := m.isLoad_overlay data offset.toNat
    refine ⟨Memory.room data.size offset.toNat, m.overlay data offset.toNat, ?_,
      e.perform_load_of_eq_ok (Memory.load_eq_ok_iff.2 ⟨hoffset, hload⟩), hload.inside,
      hload.outside⟩
    show ((min data.size (4096 - offset.toNat) : Nat) : Int) = _
    omega
  · rw [Machine.loadFrom, Memory.loadFrom_of_failure_eq_some hfailure]
    rfl
  · exact e.perform_loadProgram_of_failure_eq_some hfailure
  · rw [Machine.loadFrom, Memory.loadFrom_of_failure_eq_none hnone]
    rfl
  · exact ⟨_, e.perform_loadProgram_of_failure_eq_none hnone⟩

/-! ### Piece by piece -/

/-- Data behind other data comes to the same as both at once. -/
theorem overlaid_append (first second : Array UInt8) (start : Nat) :
    (e.overlaid first start).overlaid second (start + first.size) =
      e.overlaid (first ++ second) start := by
  rw [overlaid, overlaid, overlaid, memory_withMemory, withMemory_withMemory,
    Memory.overlay_append]

/-- **Pieces that are loaded behind each other** lead to the emulator that all of them at once lead
to, even if the end of memory cuts one of them off. -/
theorem after_loads (start : Nat) (pieces : List (Array UInt8)) :
    e.after (Command.loads start pieces) = e.overlaid (joined pieces) start := by
  induction pieces generalizing e start with
  | nil => exact (e.overlaid_empty start).symm
  | cons piece rest ih =>
    rw [Command.loads, after_cons, next, perform_load, ih, overlaid_append, joined_cons]

/-- **Each piece is answered** with as much of it as fits. -/
theorem replies_loads (start : Nat) (pieces : List (Array UInt8)) :
    e.replies (Command.loads start pieces) =
      (Memory.rooms start pieces).map fun count => .ok (.count count) := by
  induction pieces generalizing e start with
  | nil => rfl
  | cons piece rest ih =>
    rw [Command.loads, replies_cons, perform_load, ih]
    rfl

/-- **Data may be loaded piece by piece**, each piece where the one before it ends, or would end if
memory did not.

* The pieces lead to the same emulator as one load of all the data, and the answers to them add up
  to the answer to that load;
* afterwards two bytes of the data next to each other make a word, at any even distance from the
  start at which both are still in memory. -/
theorem loads_eq_load_of_joined (e : Emulator) (start : Nat) (pieces : List (Array UInt8)) :
    let data := joined pieces
    let whole := e.perform (.load data start)
    e.after (Command.loads start pieces) = whole.emulator ∧
      (∃ counts : List Nat,
        e.replies (Command.loads start pieces) = counts.map (fun count => .ok (.count count)) ∧
          whole.reply = .ok (.count counts.sum)) ∧
      ∀ (k : Nat) (high low : UInt8), data[2 * k]? = some high → data[2 * k + 1]? = some low →
        start + 2 * k + 1 < 4096 →
          (whole.emulator.machine.memory.word (start + 2 * k)).toNat =
            256 * high.toNat + low.toNat := by
  intro data whole
  have hwhole : whole =
      ⟨e.overlaid data start, [], .ok (.count (Memory.room data.size start))⟩ :=
    e.perform_load data start
  refine ⟨?_, ⟨Memory.rooms start pieces, e.replies_loads start pieces, ?_⟩,
    fun k high low hhigh hlow hk => ?_⟩
  · rw [hwhole]
    exact e.after_loads start pieces
  · rw [hwhole, Memory.sum_rooms]
  · rw [hwhole]
    show ((e.overlaid data start).machine.memory.word (start + 2 * k)).toNat = _
    rw [overlaid, memory_withMemory, Memory.word_overlay_of_getElem? _ hhigh hlow hk,
      Word.toNat_ofBytes]

end Emulator

end ChipEight
