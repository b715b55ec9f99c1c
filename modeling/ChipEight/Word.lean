/-! # Instruction words

A program is a sequence of sixteen-bit words. The four hexadecimal digits of a word are read as
overlapping fields:

* `family`, the first digit, selects the kind of instruction;
* `x` and `y`, the second and third digits, name registers;
* `n`, the last digit, `nn`, the last two, and `nnn`, the last three, are a height or code, a byte
  and an address. -/

namespace ChipEight

/-- A sixteen-bit instruction word. -/
abbrev Word := UInt16

/-- The index of one of the sixteen byte registers. -/
abbrev Register := Fin 16

/-- A twelve-bit memory address, as far as an instruction word can name one. -/
abbrev Address := Fin 4096

namespace Word

/-- The word whose high byte comes first, as words are stored in memory. -/
def ofBytes (high low : UInt8) : Word := UInt16.ofNat (256 * high.toNat + low.toNat)

/-- The low sixteen bits of a wider number. -/
def truncate (n : UInt32) : Word := n.toUInt16

/-- The last hexadecimal digit of a number. -/
def digit (n : Nat) : Fin 16 := ⟨n % 16, Nat.mod_lt n (by decide)⟩

/-- The first hexadecimal digit: the kind of instruction. -/
def family (w : Word) : Fin 16 := digit (w.toNat / 4096)

/-- The second hexadecimal digit: the first register operand. -/
def x (w : Word) : Register := digit (w.toNat / 256)

/-- The third hexadecimal digit: the second register operand. -/
def y (w : Word) : Register := digit (w.toNat / 16)

/-- The last hexadecimal digit: a sprite height or a secondary code. -/
def n (w : Word) : Fin 16 := digit w.toNat

/-- The low byte: an immediate value or a secondary code. -/
def nn (w : Word) : UInt8 := w.toUInt8

/-- The last three hexadecimal digits: an address. -/
def nnn (w : Word) : Address := Fin.ofNat 4096 w.toNat

/-- The first register is named by the second digit of a word. -/
@[simp] theorem val_x (w : Word) : (x w).val = w.toNat / 256 % 16 := rfl

/-- The second register is named by the third digit. -/
@[simp] theorem val_y (w : Word) : (y w).val = w.toNat / 16 % 16 := rfl

/-- The address of a word is its last three digits. -/
@[simp] theorem val_nnn (w : Word) : (nnn w).val = w.toNat % 4096 := rfl

/-- The family and the address digits together are the whole word. -/
theorem family_add_nnn (w : Word) : 4096 * (family w).val + (nnn w).val = w.toNat := by
  have := w.toNat_lt
  simp only [family, digit, nnn, Fin.ofNat]
  omega

/-- The first byte of a stored word is its high half and the second its low half. -/
theorem toNat_ofBytes (high low : UInt8) :
    (ofBytes high low).toNat = 256 * high.toNat + low.toNat := by
  have := high.toNat_lt
  have := low.toNat_lt
  exact Nat.mod_eq_of_lt (by omega)

end Word

end ChipEight
