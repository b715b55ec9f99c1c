import ChipEight.Fault

/-! # Memory

Memory is 4096 bytes. Reading past its end gives zero and writing past its end does nothing, so both
are defined at every address. Loading copies as much of the data as fits; it is refused, and changes
nothing, only if it is to start in front of memory.

* `Memory.read`, `Memory.write` and `Memory.word`: single bytes and big-endian words;
* `Memory.overlay` and `Memory.load`: many bytes at once;
* `ByteSource`: data from outside, which may break off with a failure;
* `font`: the glyphs of the sixteen hexadecimal digits, which lie at the start of memory. A glyph
  has five bytes, and a byte is a row of eight pixels, of which the glyphs use the left four. -/

namespace ChipEight

/-- The bytes that a program can address. -/
structure Memory where
  /-- The bytes, by address. -/
  bytes : Vector UInt8 4096
deriving DecidableEq

namespace Memory

/-- How many bytes memory has. -/
abbrev size : Nat := 4096

/-- Memory that holds only zeros. -/
def blank : Memory := ⟨Vector.replicate size 0⟩

/-- The byte at an address, which is zero past the end of memory. -/
def read (m : Memory) (address : Nat) : UInt8 := m.bytes[address]?.getD 0

/-- Memory with one byte replaced. Past the end of memory nothing changes. -/
def write (m : Memory) (address : Nat) (value : UInt8) : Memory :=
  ⟨m.bytes.setIfInBounds address value⟩

/-- The word at an address, high byte first. -/
def word (m : Memory) (address : Nat) : Word := Word.ofBytes (m.read address) (m.read (address + 1))

/-- Behind the end of memory zeros are read. -/
theorem read_of_size_le (m : Memory) {a : Nat} (h : size ≤ a) : m.read a = 0 := by
  simp [read, Vector.getElem?_eq_none h]

/-- A byte that was written is read back, if it lies in memory, and no other byte changes. -/
theorem read_write (m : Memory) (a b : Nat) (value : UInt8) :
    (m.write a value).read b = if a = b ∧ a < size then value else m.read b := by
  simp only [read, write, Vector.getElem?_setIfInBounds]
  by_cases hab : a = b
  · subst hab
    by_cases ha : a < 4096 <;> simp [ha]
  · simp [hab]

/-- Memories that read alike everywhere are equal. -/
theorem ext_read {m n : Memory} (h : ∀ a, m.read a = n.read a) : m = n := by
  cases m with | mk p => cases n with | mk q =>
  congr
  ext1 i hi
  simpa [read, hi] using h i

/-! ### Loading -/

/-- Memory with data laid over it from `start` on. What does not fit is dropped. -/
def overlay (m : Memory) (data : Array UInt8) (start : Nat) : Memory :=
  ⟨Vector.ofFn fun i => if start ≤ i then data[i.val - start]?.getD m.bytes[i] else m.bytes[i]⟩

/-- How many of `length` bytes fit between `start` and the end of memory. -/
def room (length start : Nat) : Nat := min length (size - start)

/-- Copy as much of the data as fits between the offset and the end of memory, and count it. An
offset in front of memory is refused. -/
def load (m : Memory) (data : Array UInt8) : (offset : Int) → Except Fault (Nat × Memory)
  | .ofNat start => .ok (room data.size start, m.overlay data start)
  | .negSucc k => .error (.negativeOffset (.negSucc k))

/-- Laying data over memory changes exactly the bytes under it. -/
theorem read_overlay (m : Memory) (data : Array UInt8) (start a : Nat) :
    (m.overlay data start).read a =
      if start ≤ a ∧ a < size then data[a - start]?.getD (m.read a) else m.read a := by
  by_cases ha : a < size
  · by_cases hs : start ≤ a <;> simp [overlay, read, ha, hs]
  · simp [overlay, read, ha]

end Memory

/-- Data that comes from outside: some bytes, and then the end or a failure. -/
structure ByteSource where
  /-- The bytes that arrive. -/
  bytes : Array UInt8
  /-- What happens after them, if it is not simply the end. -/
  failure : Option ReadFailure

namespace ByteSource

/-- Data that arrives without a failure. -/
def ofBytes (bytes : Array UInt8) : ByteSource := ⟨bytes, none⟩

/-- All the data, or the failure that cut it off. -/
def readAll (s : ByteSource) : Except Fault (Array UInt8) :=
  match s.failure with
  | none => .ok s.bytes
  | some failure => .error (.unreadable failure)

end ByteSource

/-- Load all the data of a source. A source that fails loads nothing, whatever the offset. -/
def Memory.loadFrom (m : Memory) (source : ByteSource) (offset : Int) :
    Except Fault (Nat × Memory) :=
  source.readAll.bind fun data => m.load data offset

/-! ### The font -/

/-- How many bytes, and so how many rows, a glyph has. -/
abbrev glyphSize : Nat := 5

/-- Where the glyph of digit zero lies; the others follow it. -/
def fontAddress : Nat := 0

/-- The glyphs of the digits `0` to `F`. -/
def font : Array UInt8 := #[
  0xF0, 0x90, 0x90, 0x90, 0xF0,
  0x20, 0x60, 0x20, 0x20, 0x70,
  0xF0, 0x10, 0xF0, 0x80, 0xF0,
  0xF0, 0x10, 0xF0, 0x10, 0xF0,
  0x90, 0x90, 0xF0, 0x10, 0x10,
  0xF0, 0x80, 0xF0, 0x10, 0xF0,
  0xF0, 0x80, 0xF0, 0x90, 0xF0,
  0xF0, 0x10, 0x20, 0x40, 0x40,
  0xF0, 0x90, 0xF0, 0x90, 0xF0,
  0xF0, 0x90, 0xF0, 0x10, 0xF0,
  0xF0, 0x90, 0xF0, 0x90, 0x90,
  0xE0, 0x90, 0xE0, 0x90, 0xE0,
  0xF0, 0x80, 0x80, 0x80, 0xF0,
  0xE0, 0x90, 0x90, 0x90, 0xE0,
  0xF0, 0x80, 0xF0, 0x80, 0xF0,
  0xF0, 0x80, 0xF0, 0x80, 0x80]

/-- Where programs are loaded unless the settings say otherwise. -/
def defaultProgramAddress : UInt16 := 0x200

/-- Memory as a machine starts with it: the font at its place and zeros elsewhere. -/
def Memory.withFont : Memory := Memory.blank.overlay font fontAddress

end ChipEight
