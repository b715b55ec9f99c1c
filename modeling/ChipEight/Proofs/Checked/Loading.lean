import ChipEight.Proofs.Checked.Screen
import ChipEight.Proofs.Memory.Loads
import Mathlib.Algebra.Ring.Nat

/-! # Loading with checked arithmetic

`Memory.load` lays data over memory at once and answers with a new memory. This file loads the way a
processor does: the ends of slices are computed in a type of limited size and have to lie in their
arrays, and bytes are copied one after the other into the one memory there is, so that a load that
fails leaves it as it has become by then. A computation that leaves its type or its array has no
result.

* `slice?` and `Memory.copy?`: part of an array, and a copy onto part of memory;
* `Memory.load?` and `Memory.loadFrom?`: a load, and a load from outside;
* `Memory.load?_eq` and `Memory.loadFrom?_eq`: they have a result for every offset that fits a
  signed word. It is that of `Memory.load` and `Memory.loadFrom`, and a load that fails leaves
  memory as it was. -/

namespace ChipEight

/-- Offsets that fit a signed word are below this. -/
abbrev offsetLimit : Nat := 2 ^ 63

/-- Part of an array. There is no result if it does not lie in the array. -/
def slice? (data : Array UInt8) (start stop : Nat) : Option (List UInt8) :=
  if start ≤ stop ∧ stop ≤ data.size then some (data.extract start stop).toList else none

namespace Memory

/-- Write bytes one after the other. -/
def writeAll (m : Memory) (address : Nat) : List UInt8 → Memory
  | [] => m
  | byte :: rest => (m.write address byte).writeAll (address + 1) rest

/-- Copy bytes onto part of memory. There is no result if it does not lie in memory, or does not
have as many bytes. -/
def copy? (m : Memory) (start stop : Nat) (bytes : List UInt8) : Option Memory :=
  if start ≤ stop ∧ stop ≤ size ∧ bytes.length = stop - start then some (m.writeAll start bytes)
  else none

/-- Copy as much of the data as fits. The result is the count or a fault, and what memory is
then. -/
def load? (m : Memory) (data : Array UInt8) : (offset : Int) → Option (Except Fault Nat × Memory)
  | .negSucc k => some (.error (.negativeOffset (.negSucc k)), m)
  | .ofNat offset => do
    let start ← within indexLimit offset
    if size ≤ start then some (.ok 0, m) else do
      let count := room data.size start
      let stop ← within indexLimit (start + count)
      let bytes ← slice? data 0 count
      let after ← m.copy? start stop bytes
      some (.ok count, after)

/-- Read all the data of a source, and then copy as much of it as fits. -/
def loadFrom? (m : Memory) (source : ByteSource) (offset : Int) :
    Option (Except Fault Nat × Memory) :=
  match source.readAll with
  | .error fault => some (.error fault, m)
  | .ok data => m.load? data offset

/-- The result of a load next to the memory that it leaves: the old one if it has failed. -/
def settled (m : Memory) : Except Fault (Nat × Memory) → Except Fault Nat × Memory
  | .ok (count, after) => (.ok count, after)
  | .error fault => (.error fault, m)

/-- Bytes that are written one after the other are laid over memory. -/
theorem writeAll_eq_overlay (m : Memory) (address : Nat) (bytes : List UInt8) :
    m.writeAll address bytes = m.overlay bytes.toArray address := by
  induction bytes generalizing m address with
  | nil => exact (m.overlay_empty address).symm
  | cons byte rest ih =>
    have happend := m.overlay_append #[byte] rest.toArray address
    rw [writeAll, ih, ← overlay_singleton]
    rw [List.append_toArray] at happend
    exact happend

/-- The part of the data that fits can be taken from it. -/
theorem slice?_room (data : Array UInt8) (start : Nat) :
    slice? data 0 (room data.size start) = some (data.extract 0 (room data.size start)).toList :=
  if_pos ⟨Nat.zero_le _, Nat.min_le_left _ _⟩

/-- It can be copied to where it goes, and then all of the data has been laid over memory. -/
theorem copy?_extract_room (m : Memory) (data : Array UInt8) {start : Nat} (h : start ≤ size) :
    m.copy? start (start + room data.size start) (data.extract 0 (room data.size start)).toList =
      some (m.overlay data start) := by
  have hlength : (data.extract 0 (room data.size start)).toList.length =
      start + room data.size start - start := by
    rw [Array.length_toList, Array.size_extract, Nat.sub_zero, Nat.add_sub_cancel_left]
    exact Nat.min_eq_left (Nat.min_le_left _ _)
  rw [copy?, if_pos ⟨Nat.le_add_right _ _, add_room_le _ h, hlength⟩, writeAll_eq_overlay,
    Array.toArray_toList, overlay_extract_room]

/-- **A checked load** has a result. -/
theorem load?_eq (m : Memory) (data : Array UInt8) {offset : Int} (h : offset < offsetLimit) :
    m.load? data offset = some (m.settled (m.load data offset)) := by
  cases offset with
  | negSucc k => rfl
  | ofNat start =>
    have hstart : start < indexLimit := Nat.lt_trans (Int.ofNat_lt.1 h) (by decide)
    rw [load?, within_of_lt hstart, load, settled]
    simp only [Option.bind_eq_bind, Option.bind_some]
    by_cases hsize : size ≤ start
    · rw [if_pos hsize, overlay_of_size_le _ hsize, room_of_size_le _ hsize]
    · have hle : start ≤ size := Nat.le_of_not_le hsize
      have hstop : start + room data.size start < indexLimit :=
        Nat.lt_of_le_of_lt (add_room_le _ hle) (by decide)
      rw [if_neg hsize, within_of_lt hstop, Option.bind_some, slice?_room, Option.bind_some,
        copy?_extract_room m data hle]
      rfl

/-- **A checked load from outside** has a result. -/
theorem loadFrom?_eq (m : Memory) (source : ByteSource) {offset : Int} (h : offset < offsetLimit) :
    m.loadFrom? source offset = some (m.settled (m.loadFrom source offset)) := by
  rw [loadFrom?, loadFrom]
  cases source.readAll with
  | error fault => rfl
  | ok data => exact m.load?_eq data h

end Memory

end ChipEight
