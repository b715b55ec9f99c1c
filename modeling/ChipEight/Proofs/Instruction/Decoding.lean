import ChipEight.Instruction.Decode

/-! # Instructions and their words

Decoding reads the fields of a word. Here the table is read the other way round: every instruction
has a number, written down in hexadecimal as its word is, and a word stands for an instruction if
and only if its number is that of the instruction, up to the digits that the instruction leaves
open. The words that are left over are those with a secondary code that is not in use.

* `Instruction.number` and `Instruction.LeavesOpen`: the words of an instruction;
* `Instruction.ofWord?_eq_some_iff`: the words that stand for an instruction are those;
* `Word.HasUnknownCode`: the codes that are not in use, family by family, and
  `Instruction.ofWord?_eq_none_iff`: the words with such a code stand for nothing. -/

namespace ChipEight

/-! ### Words told by their number -/

namespace Word

variable {w : Word}

/-- The address of a word is its last three digits. -/
theorem val_nnn_eq_digits (w : Word) :
    (nnn w).val = 256 * (x w).val + 16 * (y w).val + (n w).val := by
  simp only [val_nnn, x, y, n, digit]
  omega

/-- The four digits of a word are its number. -/
theorem toNat_eq_digits (w : Word) :
    w.toNat = 4096 * (family w).val + 256 * (x w).val + 16 * (y w).val + (n w).val := by
  rw [← family_add_nnn, val_nnn_eq_digits]
  omega

/-- The byte of a word is its last two digits. -/
theorem toNat_nn_eq_digits (w : Word) : (nn w).toNat = 16 * (y w).val + (n w).val := by
  rw [nn, UInt16.toNat_toUInt8]
  simp only [y, n, digit]
  omega

/-- A word whose number is a family, a register and two more digits has these. -/
theorem fields_of_toNat_eq {family low : Nat} {x : Register} (hfamily : family < 16)
    (hlow : low < 256) (h : w.toNat = 4096 * family + 256 * x.val + low) :
    w.family.val = family ∧ w.x = x ∧ w.nn.toNat = low := by
  have hx := x.isLt
  refine ⟨?_, Fin.ext ?_, ?_⟩
  · show w.toNat / 4096 % 16 = family
    omega
  · rw [val_x]
    omega
  · rw [nn, UInt16.toNat_toUInt8]
    omega

/-- The two digits may be told as a byte. -/
theorem byte_of_toNat_eq {family : Nat} {x : Register} {byte : UInt8} (hfamily : family < 16)
    (h : w.toNat = 4096 * family + 256 * x.val + byte.toNat) :
    w.family.val = family ∧ w.x = x ∧ w.nn = byte := by
  obtain ⟨hf, hx, hbyte⟩ := fields_of_toNat_eq hfamily byte.toNat_lt h
  exact ⟨hf, hx, UInt8.toNat_inj.1 hbyte⟩

/-- The two digits may be told as a register and one more digit. -/
theorem registers_of_toNat_eq {family last : Nat} {x y : Register} (hfamily : family < 16)
    (hlast : last < 16) (h : w.toNat = 4096 * family + 256 * x.val + 16 * y.val + last) :
    w.family.val = family ∧ w.x = x ∧ w.y = y ∧ w.n.val = last := by
  have hlow : 16 * y.val + last < 256 := by omega
  obtain ⟨hf, hx, -⟩ := fields_of_toNat_eq hfamily hlow (h.trans (Nat.add_assoc _ _ _))
  refine ⟨hf, hx, Fin.ext ?_, ?_⟩
  · rw [val_y]
    omega
  · show w.toNat % 16 = last
    omega

/-- A word whose number is a family and an address has these. -/
theorem address_of_toNat_eq {family : Nat} {target : Address} (hfamily : family < 16)
    (h : w.toNat = 4096 * family + target.val) : w.family.val = family ∧ w.nnn = target := by
  have htarget := target.isLt
  refine ⟨?_, Fin.ext ?_⟩
  · show w.toNat / 4096 % 16 = family
    omega
  · rw [val_nnn]
    omega

end Word

/-! ### The words of an instruction -/

/-- The secondary code of an operation. -/
def Operation.code : Operation → Nat
  | .copy => 0x0
  | .or => 0x1
  | .and => 0x2
  | .xor => 0x3
  | .add => 0x4
  | .subtract => 0x5
  | .subtractFrom => 0x7

/-- The operation that a code stands for is the one with this code. -/
theorem Operation.ofCode?_eq_some_iff {code : Nat} {operation : Operation} :
    ofCode? code = some operation ↔ code = operation.code := by
  constructor
  · intro h
    unfold ofCode? at h
    split at h <;> cases h <;> rfl
  · rintro rfl
    cases operation <;> rfl

/-- The number of a skip on a condition. -/
def Condition.number : Condition → Nat
  | .equalsByte x nn => 0x3000 + 256 * x + nn.toNat
  | .differsByte x nn => 0x4000 + 256 * x + nn.toNat
  | .equals x y => 0x5000 + 256 * x + 16 * y
  | .differs x y => 0x9000 + 256 * x + 16 * y
  | .keyDown x => 0xE09E + 256 * x
  | .keyUp x => 0xE0A1 + 256 * x

namespace Instruction

/-- The number of an instruction: that of its word, with zeros for the digits that it leaves
open. -/
def number : Instruction → Nat
  | .clear => 0x0000
  | .ret => 0x000E
  | .jump target => 0x1000 + target
  | .call target => 0x2000 + target
  | .skip condition => condition.number
  | .setByte x nn => 0x6000 + 256 * x + nn.toNat
  | .addByte x nn => 0x7000 + 256 * x + nn.toNat
  | .combine operation x y => 0x8000 + 256 * x + 16 * y + operation.code
  | .shift .right x => 0x8006 + 256 * x
  | .shift .left x => 0x800E + 256 * x
  | .setIndex target => 0xA000 + target
  | .jumpOffset base => 0xB000 + base
  | .random x mask => 0xC000 + 256 * x + mask.toNat
  | .draw x y height => 0xD000 + 256 * x + 16 * y + height
  | .getDelay x => 0xF007 + 256 * x
  | .waitKey x => 0xF00A + 256 * x
  | .setDelay x => 0xF015 + 256 * x
  | .setSound x => 0xF018 + 256 * x
  | .addIndex x => 0xF01E + 256 * x
  | .glyph x => 0xF029 + 256 * x
  | .digits x => 0xF033 + 256 * x
  | .store x => 0xF055 + 256 * x
  | .load x => 0xF065 + 256 * x

/-- What may stand in the digits that an instruction leaves open: the middle ones of a word of
family 0, the last one if registers are compared, and the third one if a register is shifted. -/
def LeavesOpen : Instruction → Nat → Prop
  | .clear, k | .ret, k => k < 4096 ∧ k % 16 = 0
  | .skip (.equals ..), k | .skip (.differs ..), k => k < 16
  | .shift .., k => k < 256 ∧ k % 16 = 0
  | _, k => k = 0

variable {w : Word} {x y : Register} {k : Nat} {i : Instruction}

/-! #### Families with codes -/

/-- In family 0 the last digit decides. -/
theorem ofWord?_of_systemCode (code : Nat) (hcode : code < 16) (hk : k < 4096 ∧ k % 16 = 0)
    (h : w.toNat = code + k) : ofWord? w = ofSystemCode? code := by
  have hfamily : w.family.val = 0 := by
    show w.toNat / 4096 % 16 = 0
    omega
  have hn : w.n.val = code := by
    show w.toNat % 16 = code
    omega
  unfold ofWord?
  rw [hfamily, hn]
  rfl

/-- In the arithmetic family the last digit decides. -/
theorem ofWord?_of_arithmeticCode (code : Nat) (hcode : code < 16)
    (h : w.toNat = 0x8000 + 256 * x.val + 16 * y.val + code) :
    ofWord? w = ofArithmeticCode? x y code := by
  obtain ⟨hfamily, hx, hy, hn⟩ := Word.registers_of_toNat_eq (by decide : 0x8 < 16) hcode h
  unfold ofWord?
  rw [hfamily, hx, hy, hn]
  rfl

/-- In the family of the keys the last two digits decide. -/
theorem ofWord?_of_keyCode (code : Nat) (hcode : code < 256)
    (h : w.toNat = 0xE000 + code + 256 * x.val) : ofWord? w = ofKeyCode? x code := by
  obtain ⟨hfamily, hx, hnn⟩ := Word.fields_of_toNat_eq (by decide : 0xE < 16) hcode
    (h.trans (Nat.add_right_comm _ _ _))
  unfold ofWord?
  rw [hfamily, hx, hnn]
  rfl

/-- In the last family the last two digits decide. -/
theorem ofWord?_of_registerCode (code : Nat) (hcode : code < 256)
    (h : w.toNat = 0xF000 + code + 256 * x.val) : ofWord? w = ofRegisterCode? x code := by
  obtain ⟨hfamily, hx, hnn⟩ := Word.fields_of_toNat_eq (by decide : 0xF < 16) hcode
    (h.trans (Nat.add_right_comm _ _ _))
  unfold ofWord?
  rw [hfamily, hx, hnn]
  rfl

/-! #### The table -/

/-- A word with the number of a skip stands for it. -/
theorem ofWord?_of_condition {c : Condition} (hk : (skip c).LeavesOpen k)
    (h : w.toNat = c.number + k) : ofWord? w = some (.skip c) := by
  cases c with
  | equalsByte x nn =>
    cases hk
    obtain ⟨hfamily, hx, hbyte⟩ := Word.byte_of_toNat_eq (by decide : 0x3 < 16) h
    simp [ofWord?, hfamily, hx, hbyte]
  | differsByte x nn =>
    cases hk
    obtain ⟨hfamily, hx, hbyte⟩ := Word.byte_of_toNat_eq (by decide : 0x4 < 16) h
    simp [ofWord?, hfamily, hx, hbyte]
  | equals x y =>
    obtain ⟨hfamily, hx, hy, -⟩ := Word.registers_of_toNat_eq (by decide : 0x5 < 16) hk h
    simp [ofWord?, hfamily, hx, hy]
  | differs x y =>
    obtain ⟨hfamily, hx, hy, -⟩ := Word.registers_of_toNat_eq (by decide : 0x9 < 16) hk h
    simp [ofWord?, hfamily, hx, hy]
  | keyDown x =>
    cases hk
    exact ofWord?_of_keyCode 0x9E (by decide) h
  | keyUp x =>
    cases hk
    exact ofWord?_of_keyCode 0xA1 (by decide) h

/-- A word with the number of an instruction stands for it. -/
theorem ofWord?_of_toNat_eq (hk : i.LeavesOpen k) (h : w.toNat = i.number + k) :
    ofWord? w = some i := by
  cases i with
  | clear => exact ofWord?_of_systemCode 0x0 (by decide) hk h
  | ret => exact ofWord?_of_systemCode 0xE (by decide) hk h
  | skip c => exact ofWord?_of_condition hk h
  | jump target =>
    cases hk
    obtain ⟨hfamily, htarget⟩ := Word.address_of_toNat_eq (by decide : 0x1 < 16) h
    simp [ofWord?, hfamily, htarget]
  | call target =>
    cases hk
    obtain ⟨hfamily, htarget⟩ := Word.address_of_toNat_eq (by decide : 0x2 < 16) h
    simp [ofWord?, hfamily, htarget]
  | setIndex target =>
    cases hk
    obtain ⟨hfamily, htarget⟩ := Word.address_of_toNat_eq (by decide : 0xA < 16) h
    simp [ofWord?, hfamily, htarget]
  | jumpOffset target =>
    cases hk
    obtain ⟨hfamily, htarget⟩ := Word.address_of_toNat_eq (by decide : 0xB < 16) h
    simp [ofWord?, hfamily, htarget]
  | setByte x nn =>
    cases hk
    obtain ⟨hfamily, hx, hbyte⟩ := Word.byte_of_toNat_eq (by decide : 0x6 < 16) h
    simp [ofWord?, hfamily, hx, hbyte]
  | addByte x nn =>
    cases hk
    obtain ⟨hfamily, hx, hbyte⟩ := Word.byte_of_toNat_eq (by decide : 0x7 < 16) h
    simp [ofWord?, hfamily, hx, hbyte]
  | random x mask =>
    cases hk
    obtain ⟨hfamily, hx, hbyte⟩ := Word.byte_of_toNat_eq (by decide : 0xC < 16) h
    simp [ofWord?, hfamily, hx, hbyte]
  | draw x y height =>
    cases hk
    obtain ⟨hfamily, hx, hy, hn⟩ := Word.registers_of_toNat_eq (by decide : 0xD < 16) height.isLt h
    simp [ofWord?, hfamily, hx, hy, Fin.ext hn]
  | combine operation x y =>
    cases hk
    rw [ofWord?_of_arithmeticCode operation.code (by cases operation <;> decide) h]
    cases operation <;> rfl
  | shift direction x =>
    -- The open digit stands where the other operations name a register.
    obtain ⟨hlt, hlast⟩ : k < 256 ∧ k % 16 = 0 := hk
    have hdigit : k / 16 < 16 := by omega
    cases direction with
    | right =>
      have hcode : w.toNat = 0x8000 + 256 * x.val + 16 * (k / 16) + 0x6 := by
        rw [h, number]
        omega
      exact ofWord?_of_arithmeticCode 0x6 (by decide) (y := ⟨k / 16, hdigit⟩) hcode
    | left =>
      have hcode : w.toNat = 0x8000 + 256 * x.val + 16 * (k / 16) + 0xE := by
        rw [h, number]
        omega
      exact ofWord?_of_arithmeticCode 0xE (by decide) (y := ⟨k / 16, hdigit⟩) hcode
  | getDelay x =>
    cases hk
    exact ofWord?_of_registerCode 0x07 (by decide) h
  | waitKey x =>
    cases hk
    exact ofWord?_of_registerCode 0x0A (by decide) h
  | setDelay x =>
    cases hk
    exact ofWord?_of_registerCode 0x15 (by decide) h
  | setSound x =>
    cases hk
    exact ofWord?_of_registerCode 0x18 (by decide) h
  | addIndex x =>
    cases hk
    exact ofWord?_of_registerCode 0x1E (by decide) h
  | glyph x =>
    cases hk
    exact ofWord?_of_registerCode 0x29 (by decide) h
  | digits x =>
    cases hk
    exact ofWord?_of_registerCode 0x33 (by decide) h
  | store x =>
    cases hk
    exact ofWord?_of_registerCode 0x55 (by decide) h
  | load x =>
    cases hk
    exact ofWord?_of_registerCode 0x65 (by decide) h

/-- Four families have codes. In the other families every word stands for an instruction. -/
theorem ofWord?_cases (w : Word) :
    (w.family.val = 0x0 ∧ ofWord? w = ofSystemCode? w.n) ∨
      (w.family.val = 0x8 ∧ ofWord? w = ofArithmeticCode? w.x w.y w.n) ∨
      (w.family.val = 0xE ∧ ofWord? w = ofKeyCode? w.x w.nn.toNat) ∨
      (w.family.val = 0xF ∧ ofWord? w = ofRegisterCode? w.x w.nn.toNat) ∨
      w.family.val ∉ [0x0, 0x8, 0xE, 0xF] ∧
        ∃ i k, ofWord? w = some i ∧ i.LeavesOpen k ∧ w.toNat = i.number + k := by
  have hdigits := w.toNat_eq_digits
  have hnn := w.toNat_nn_eq_digits
  have hnnn := w.val_nnn_eq_digits
  unfold ofWord?
  split
  case h_1 hfamily => exact .inl ⟨hfamily, rfl⟩
  case h_9 hfamily => exact .inr (.inl ⟨hfamily, rfl⟩)
  case h_15 hfamily => exact .inr (.inr (.inl ⟨hfamily, rfl⟩))
  case h_16 h0 h1 h2 h3 h4 h5 h6 h7 h8 h9 ha hb hc hd he =>
    -- Fifteen families are ruled out, which leaves the last.
    have hfamily : w.family.val = 0xF := by
      have hlt := w.family.isLt
      simp only [imp_false] at *
      omega
    exact .inr (.inr (.inr (.inl ⟨hfamily, rfl⟩)))
  case h_6 hfamily | h_10 hfamily =>
    refine .inr (.inr (.inr (.inr ⟨by simp [hfamily], _, w.n, rfl, w.n.isLt, ?_⟩)))
    simp only [number, Condition.number]
    omega
  all_goals
    rename_i hfamily
    refine .inr (.inr (.inr (.inr ⟨by simp [hfamily], _, 0, rfl, rfl, ?_⟩)))
    simp only [number, Condition.number]
    omega

/-- A word that stands for an instruction has the number of the instruction. -/
theorem exists_of_ofWord? (h : ofWord? w = some i) :
    ∃ k, i.LeavesOpen k ∧ w.toNat = i.number + k := by
  have hdigits := w.toNat_eq_digits
  have hnn := w.toNat_nn_eq_digits
  have hn := w.n.isLt
  -- In the families with codes the code in use tells the instruction.
  rcases ofWord?_cases w with ⟨hfamily, hw⟩ | ⟨hfamily, hw⟩ | ⟨hfamily, hw⟩ | ⟨hfamily, hw⟩ |
    ⟨-, j, k, hw, hk, hnumber⟩ <;> rw [hw] at h
  · have hopen : 256 * w.x.val + 16 * w.y.val < 4096 ∧ (256 * w.x.val + 16 * w.y.val) % 16 = 0 := by
      omega
    unfold ofSystemCode? at h
    split at h <;> cases h
    all_goals exact ⟨256 * w.x.val + 16 * w.y.val, hopen, by simp only [number]; omega⟩
  · have hopen : 16 * w.y.val < 256 ∧ 16 * w.y.val % 16 = 0 := by omega
    unfold ofArithmeticCode? at h
    split at h
    · cases h
      exact ⟨16 * w.y.val, hopen, by simp only [number]; omega⟩
    · cases h
      exact ⟨16 * w.y.val, hopen, by simp only [number]; omega⟩
    · obtain ⟨operation, hoperation, rfl⟩ := Option.map_eq_some_iff.1 h
      have hcode := Operation.ofCode?_eq_some_iff.1 hoperation
      exact ⟨0, rfl, by simp only [number]; omega⟩
  · unfold ofKeyCode? at h
    split at h <;> cases h
    all_goals exact ⟨0, rfl, by simp only [number, Condition.number]; omega⟩
  · unfold ofRegisterCode? at h
    split at h <;> cases h
    all_goals exact ⟨0, rfl, by simp only [number]; omega⟩
  · cases h
    exact ⟨k, hk, hnumber⟩

/-- **The words of an instruction** are those with its number, up to the digits that it leaves
open. -/
theorem ofWord?_eq_some_iff :
    ofWord? w = some i ↔ ∃ k, i.LeavesOpen k ∧ w.toNat = i.number + k :=
  ⟨exists_of_ofWord?, fun ⟨_, hk, h⟩ => ofWord?_of_toNat_eq hk h⟩

/-- The words of an operation on two registers. -/
theorem ofWord?_of_combine {operation : Operation}
    (h : w.toNat = 0x8000 + 256 * x.val + 16 * y.val + operation.code) :
    ofWord? w = some (.combine operation x y) :=
  ofWord?_eq_some_iff.2 ⟨0, rfl, h⟩

/-- The words of a shift: a second register may be named and does not matter. -/
theorem ofWord?_of_shift {direction : Direction}
    (h : w.toNat = (shift direction x).number + 16 * y.val) :
    ofWord? w = some (.shift direction x) := by
  have hopen : 16 * y.val < 256 ∧ 16 * y.val % 16 = 0 := by omega
  exact ofWord?_eq_some_iff.2 ⟨16 * y.val, hopen, h⟩

end Instruction

/-! ### Words that stand for nothing -/

/-- The family of a word has secondary codes, and that of the word is none of those in use. -/
def Word.HasUnknownCode (w : Word) : Prop :=
  (w.family.val = 0x0 ∧ w.n.val ∉ [0x0, 0xe]) ∨
    (w.family.val = 0x8 ∧ w.n.val ∉ [0x0, 0x1, 0x2, 0x3, 0x4, 0x5, 0x6, 0x7, 0xe]) ∨
    (w.family.val = 0xe ∧ w.nn.toNat ∉ [0x9e, 0xa1]) ∨
    (w.family.val = 0xf ∧
      w.nn.toNat ∉ [0x07, 0x0a, 0x15, 0x18, 0x1e, 0x29, 0x33, 0x55, 0x65])

instance (w : Word) : Decidable w.HasUnknownCode := inferInstanceAs (Decidable (_ ∨ _))

namespace Instruction

/-- Two codes of family 0 are in use. -/
theorem ofSystemCode?_eq_none_iff (code : Nat) :
    ofSystemCode? code = none ↔ code ∉ [0x0, 0xe] := by
  unfold ofSystemCode?
  split <;> simp_all

/-- Nine codes of the arithmetic family are in use. -/
theorem ofArithmeticCode?_eq_none_iff (x y : Register) (code : Nat) :
    ofArithmeticCode? x y code = none ↔
      code ∉ [0x0, 0x1, 0x2, 0x3, 0x4, 0x5, 0x6, 0x7, 0xe] := by
  unfold ofArithmeticCode? Operation.ofCode?
  split
  · simp
  · simp
  · rw [Option.map_eq_none_iff]
    split <;> simp_all

/-- Two codes of the family of the keys are in use. -/
theorem ofKeyCode?_eq_none_iff (x : Register) (code : Nat) :
    ofKeyCode? x code = none ↔ code ∉ [0x9e, 0xa1] := by
  unfold ofKeyCode?
  split <;> simp_all

/-- Nine codes of the last family are in use. -/
theorem ofRegisterCode?_eq_none_iff (x : Register) (code : Nat) :
    ofRegisterCode? x code = none ↔
      code ∉ [0x07, 0x0a, 0x15, 0x18, 0x1e, 0x29, 0x33, 0x55, 0x65] := by
  unfold ofRegisterCode?
  split <;> simp_all

/-- **A word stands for nothing if and only if its secondary code is not in use.** -/
theorem ofWord?_eq_none_iff (w : Word) : ofWord? w = none ↔ w.HasUnknownCode := by
  unfold Word.HasUnknownCode
  rcases ofWord?_cases w with ⟨hfamily, hw⟩ | ⟨hfamily, hw⟩ | ⟨hfamily, hw⟩ | ⟨hfamily, hw⟩ |
    ⟨hfamily, i, k, hw, -⟩ <;> rw [hw]
  · simp [ofSystemCode?_eq_none_iff, hfamily]
  · simp [ofArithmeticCode?_eq_none_iff, hfamily]
  · simp [ofKeyCode?_eq_none_iff, hfamily]
  · simp [ofRegisterCode?_eq_none_iff, hfamily]
  · simp_all

end Instruction

end ChipEight
