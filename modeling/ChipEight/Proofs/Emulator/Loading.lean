import ChipEight.Proofs.Emulator.History
import ChipEight.Proofs.Memory.Loads

/-! # Loading a program

A program is loaded at the address that the settings name, and the machine starts at the same
address cut down to twelve bits. For an address in memory these are the same, and the first word
that is fetched is the first word of the program. An address behind memory loads nothing, and the
machine starts inside memory all the same.

* `Machine.started?_of_overlay`: what a machine executes whose counter is over loaded data;
* `Machine.IsOver`: such a machine, and `Emulator.isOver_next_cycle`: it stays one while it executes
  instructions that only go on with the next word;
* `Emulator.withProgram`: an emulator with data laid over its memory where programs go;
* `Emulator.program_loaded_at_counter`: where the program is found, and how much of it. -/

namespace ChipEight

/-- Whether an instruction leaves memory as it is and goes on with the next word. -/
def Instruction.passesOn : Instruction → Bool
  | .ret | .jump _ | .call _ | .skip _ | .jumpOffset _ | .waitKey _ | .digits _ | .store _ => false
  | _ => true

namespace Machine

/-- An instruction that passes on leaves memory alone. -/
theorem memory_executed_of_passesOn (m : Machine) {i : Instruction} (hi : i.passesOn = true) :
    (m.executed i).memory = m.memory := by
  cases i with
  | ret | jump | call | skip | jumpOffset | waitKey | digits | store =>
    exact absurd hi Bool.false_ne_true
  | combine operation x y => cases operation <;> rfl
  | load x => rw [executed_load]
  | _ => rfl

/-- An instruction that passes on leaves the counter alone. -/
theorem counter_executed_of_passesOn (m : Machine) {i : Instruction} (hi : i.passesOn = true) :
    (m.executed i).counter = m.counter := by
  rw [counter_executed]
  cases i with
  | ret | jump | call | skip | jumpOffset | waitKey | digits | store =>
    exact absurd hi Bool.false_ne_true
  | _ => rfl

variable {m : Machine} {memory : Memory} {data : Array UInt8} {start k : Nat} {high low : UInt8}

/-- A machine whose counter is over loaded data fetches a word of the data. -/
theorem fetch_of_overlay (hmemory : m.memory = memory.overlay data start)
    (hcounter : m.counter = start + k) (hhigh : data[k]? = some high)
    (hlow : data[k + 1]? = some low) (hk : start + k + 1 < Memory.size) :
    m.fetch = Word.ofBytes high low := by
  rw [fetch, hmemory, hcounter, Memory.word_overlay_of_getElem? _ hhigh hlow hk]

/-- A machine whose counter is over loaded data executes the instruction that it finds there. -/
theorem started?_of_overlay {i : Instruction} (hmemory : m.memory = memory.overlay data start)
    (hcounter : m.counter = start + k) (hhigh : data[k]? = some high)
    (hlow : data[k + 1]? = some low) (hk : start + k + wordSize < Memory.size)
    (hi : Instruction.ofWord? (Word.ofBytes high low) = some i) : m.started? = some i := by
  refine started?_eq_some_iff.2 ⟨by rw [hcounter]; exact hk, ?_⟩
  rw [fetch_of_overlay hmemory hcounter hhigh hlow (Nat.lt_of_succ_lt hk), hi]

/-- The counter is over byte `k` of data that has been loaded at `start`. -/
structure IsOver (m : Machine) (data : Array UInt8) (start k : Nat) : Prop where
  memory : ∃ base : Memory, m.memory = base.overlay data start
  counter : m.counter = start + k

namespace IsOver

/-- What the machine executes is found in the data. -/
theorem started? (h : m.IsOver data start k) {i : Instruction} (hhigh : data[k]? = some high)
    (hlow : data[k + 1]? = some low) (hk : start + k + wordSize < Memory.size)
    (hi : Instruction.ofWord? (Word.ofBytes high low) = some i) : m.started? = some i := by
  obtain ⟨base, hmemory⟩ := h.memory
  exact started?_of_overlay hmemory h.counter hhigh hlow hk hi

/-- An instruction that goes on with the next word, and does not write to memory, leaves the counter
over the next word of the data. -/
theorem executed (h : m.IsOver data start k) {i : Instruction} (hi : i.passesOn = true) :
    (m.advanced.executed i).IsOver data start (k + wordSize) := by
  obtain ⟨base, hmemory⟩ := h.memory
  refine ⟨⟨base, ?_⟩, ?_⟩
  · rw [memory_executed_of_passesOn _ hi]
    exact hmemory
  · rw [counter_executed_of_passesOn _ hi]
    exact congrArg (· + wordSize) h.counter

end IsOver

end Machine

namespace Emulator

/-- An emulator with data laid over its memory at the address that the settings name. -/
def withProgram (e : Emulator) (data : Array UInt8) : Emulator :=
  { e with
    machine := { e.machine with
      memory := e.machine.memory.overlay data e.settings.programAddress.toNat } }

/-- The counter is where it is whatever memory holds. -/
theorem counter_with_memory (m : Machine) (memory : Memory) :
    { m with memory }.counter = m.counter := rfl

-- By the lemma and not by `rfl`, which would compare the two memories byte by byte.
/-- Loading a program does not move the counter. -/
@[simp] theorem counter_withProgram (e : Emulator) (data : Array UInt8) :
    (e.withProgram data).machine.counter = e.machine.counter :=
  counter_with_memory e.machine _

/-- An emulator whose counter is where data is loaded has its counter over the data afterwards. -/
theorem isOver_next_load {e : Emulator} {start : Nat} (hcounter : e.machine.counter = start)
    (data : Array UInt8) : (e.next (.load data start)).machine.IsOver data start 0 := by
  have hnext : (e.next (.load data start)).machine =
      { e.machine with memory := e.machine.memory.overlay data start } := rfl
  rw [hnext]
  exact ⟨⟨e.machine.memory, rfl⟩, (counter_with_memory e.machine _).trans hcounter⟩

section IsOver

variable {e : Emulator} {data : Array UInt8} {start k : Nat}

/-- A cycle that goes on with the next word leaves the counter over the next word of the data. -/
theorem isOver_next_cycle {i : Instruction} (h : e.machine.IsOver data start k)
    (hi : e.machine.started? = some i) (hpasses : i.passesOn = true) :
    (e.next .cycle).machine.IsOver data start (k + wordSize) := by
  rw [next_cycle_of_started? hi]
  exact h.executed hpasses

/-- A tick does not move the counter. -/
theorem isOver_next_tick (h : e.machine.IsOver data start k) :
    (e.next .tick).machine.IsOver data start k := ⟨h.memory, h.counter⟩

/-- Nor is it moved when a tone request is taken. -/
theorem isOver_next_takeTone (h : e.machine.IsOver data start k) :
    (e.next .takeTone).machine.IsOver data start k := ⟨h.memory, h.counter⟩

end IsOver

/-- To load a program that can be read lays it over memory, and counts the bytes for which there is
room. -/
theorem loadProgram_ofBytes (e : Emulator) (data : Array UInt8) :
    e.loadProgram (ByteSource.ofBytes data) =
      .ok (Memory.room data.size e.settings.programAddress.toNat, e.withProgram data) := rfl

/-- A program does not reach memory from behind its end. -/
theorem withProgram_of_size_le {e : Emulator} {data : Array UInt8}
    (h : Memory.size ≤ e.settings.programAddress.toNat) : e.withProgram data = e := by
  rw [withProgram, Memory.overlay_of_size_le _ h]

/-- The counter of an emulator that has not run is the address of its program, cut down to twelve
bits. -/
theorem counter_boot (settings : Settings) (entropy : Random.Key) :
    (boot settings entropy).machine.counter = settings.programAddress.toNat % Memory.size := rfl

section AtCounter

variable {e : Emulator} (hcounter : e.machine.counter = e.settings.programAddress.toNat)
  {data : Array UInt8}

include hcounter

/-- The bytes of a program that fit into memory are found from the counter on. -/
theorem read_withProgram {k : Nat} (hk : k < Memory.room data.size e.machine.counter) :
    data[k]? = some ((e.withProgram data).machine.memory.read (e.machine.counter + k)) := by
  rw [hcounter] at hk ⊢
  exact (e.machine.memory.isLoad_overlay data e.settings.programAddress.toNat).inside k hk

/-- The first word that is fetched is made of the first two bytes of the program. -/
theorem fetch_withProgram {high low : UInt8} (hhigh : data[0]? = some high)
    (hlow : data[1]? = some low) (hin : e.machine.counter + 1 < Memory.size) :
    (e.withProgram data).machine.fetch.toNat = high.toNat * 256 + low.toNat := by
  rw [hcounter] at hin
  have hstart : (e.withProgram data).machine.counter = e.settings.programAddress.toNat :=
    (e.counter_withProgram data).trans hcounter
  have hword : (e.withProgram data).machine.fetch = Word.ofBytes high low :=
    Machine.fetch_of_overlay (k := 0) rfl hstart hhigh hlow hin
  rw [hword, Word.toNat_ofBytes, Nat.mul_comm]

end AtCounter

/-- **A program is loaded where it starts, if its address is in memory.** A new emulator that loads
data counts as many bytes as fit behind the address that the settings name. If that address is in
memory, then it is the counter, the bytes are found from the counter on, and the first word fetched
is made of the first two. If it is not, then nothing is loaded. -/
theorem program_loaded_at_counter (settings : Settings) (entropy : Random.Key)
    (data : Array UInt8) :
    let e := boot settings entropy
    let start := settings.programAddress.toNat
    let p := e.machine.counter
    ∃ loaded, e.loadProgram (ByteSource.ofBytes data) = .ok (min data.size (4096 - start), loaded) ∧
      loaded.machine.counter = p ∧
      (start < 4096 → p = start ∧
        (∀ k < min data.size (4096 - p), data[k]? = some (loaded.machine.memory.read (p + k))) ∧
        ∀ high low, data[0]? = some high → data[1]? = some low → p ≤ 0xFFE →
          loaded.machine.fetch.toNat = high.toNat * 256 + low.toNat) ∧
      (4096 ≤ start → loaded = e) := by
  intro e start p
  refine ⟨e.withProgram data, e.loadProgram_ofBytes data, e.counter_withProgram data,
    fun hstart => ?_, fun hstart => ?_⟩
  · have hp : p = start := (counter_boot settings entropy).trans (Nat.mod_eq_of_lt hstart)
    refine ⟨hp, fun k hk => read_withProgram hp hk, fun high low hhigh hlow hle => ?_⟩
    exact fetch_withProgram hp hhigh hlow (Nat.lt_succ_of_le (Nat.succ_le_succ hle))
  · exact withProgram_of_size_le hstart

/-- A program is not loaded where it starts if its address is behind memory: of two bytes none is
loaded, although there would be room for them at the counter. -/
theorem program_behind_memory_not_loaded :
    ¬∀ (settings : Settings) (entropy : Random.Key) (data : Array UInt8), ∃ loaded,
      (boot settings entropy).loadProgram (ByteSource.ofBytes data) =
        .ok (min data.size (4096 - (boot settings entropy).machine.counter), loaded) := by
  intro h
  obtain ⟨loaded, hloaded⟩ := h { programAddress := 0x1200 } 0 #[0x60, 0x2a]
  rw [loadProgram_ofBytes, counter_boot] at hloaded
  have hcount : Memory.room 2 0x1200 = min 2 (4096 - 0x1200 % 4096) :=
    congrArg Prod.fst (Except.ok.inj hloaded)
  exact absurd hcount (by decide)

end Emulator

end ChipEight
