import ChipEight.Screen.Basic

/-! # Sprite rows, bit by bit and one after the other

A sprite row is defined by the columns that it covers. Here it is read the other way round, from its
bits: bit `7 - c` of the byte falls on column `left + c`, which wraps.

A stroke is a sprite row at a place. Drawn one after the other, strokes flip every pixel as often as
they cover it, so that only the parity counts: their order does not matter, and strokes that are
drawn twice undo themselves.

* `Row.covers_eq_any`: a column is covered if a set bit falls on it;
* `Screen.collides_eq_any`: a sprite row collides if a set bit falls on a lit pixel;
* `Stroke.covers`: whether a set bit of a stroke falls on a pixel;
* `Screen.flipAll`, `Screen.collidesAll`: a list of strokes, one after the other;
* `Screen.pixel_flipAll`: the pixels afterwards;
* `Screen.collidesAll_twice`: drawn twice, strokes collide if there is anything to draw. -/

namespace ChipEight

/-! ### Single rows -/

/-- Whether the pixel at an offset from the left edge of a sprite row is set. -/
def Row.bitAt (bits : UInt8) (offset : Nat) : Bool := bits.toNat.testBit (7 - offset)

/-- The offset at which a sprite row lies over a column, if it is one of the eight of the row. -/
theorem Row.offset_eq_iff (left column : Nat) {offset : Nat} (h : offset < 8) :
    (column + 64 - left % 64) % 64 = offset ↔ column % 64 = (left + offset) % 64 := by
  omega

/-- Two offsets of a sprite row lie over two columns. -/
theorem Row.column_ne {left c d : Nat} (hc : c < 8) (hd : d < 8) (hne : d ≠ c) :
    (left + d) % 64 ≠ (left + c) % 64 := by
  omega

/-- A sprite row covers a column if and only if one of its set bits falls on it. -/
theorem Row.covers_eq_any (left : Nat) (bits : UInt8) (column : Nat) :
    Row.covers left bits column =
      (List.range 8).any fun c => Row.bitAt bits c && column % 64 == (left + c) % 64 := by
  rw [Bool.eq_iff_iff]
  simp only [covers, bitAt, Bool.and_eq_true, decide_eq_true_eq, List.any_eq_true, List.mem_range,
    beq_iff_eq]
  constructor
  · rintro ⟨hc, hbit⟩
    exact ⟨_, hc, hbit, (offset_eq_iff left column hc).1 rfl⟩
  · rintro ⟨c, hc, hbit, hcolumn⟩
    rw [(offset_eq_iff left column hc).2 hcolumn]
    exact ⟨hc, hbit⟩

/-- Two rows meet if and only if some column is lit in both. -/
theorem Row.meets_eq_true_iff (r marks : Row) :
    r.meets marks = true ↔ ∃ c, ∃ h : c < 64, r[c] = true ∧ marks[c] = true := by
  simp [meets, Vector.any_eq_true]

/-- A sprite row collides if and only if one of its set bits falls on a lit pixel. -/
theorem Screen.collides_eq_any (s : Screen) (x y : Nat) (bits : UInt8) :
    s.collides x y bits =
      (List.range 8).any fun c => Row.bitAt bits c && s.pixel (x + c) y := by
  rw [Bool.eq_iff_iff, collides, Row.meets_eq_true_iff]
  -- Both sides now speak of a bit and a column, the one column first and the other bit first.
  simp only [Row.sprite, Vector.getElem_ofFn, Row.covers_eq_any, pixel, List.any_eq_true,
    List.mem_range, Bool.and_eq_true, beq_iff_eq]
  constructor
  · rintro ⟨column, hcolumn, hlit, c, hc, hbit, heq⟩
    refine ⟨c, hc, hbit, ?_⟩
    simpa only [← heq, Nat.mod_eq_of_lt hcolumn] using hlit
  · rintro ⟨c, hc, hbit, hlit⟩
    exact ⟨(x + c) % 64, Nat.mod_lt _ (by decide), hlit, c, hc, hbit, Nat.mod_mod _ _⟩

/-- A byte has a set bit unless it is zero. -/
theorem Row.exists_bitAt_iff (bits : UInt8) : (∃ c < 8, Row.bitAt bits c = true) ↔ bits ≠ 0 := by
  constructor
  · rintro ⟨c, -, hbit⟩ rfl
    simp [bitAt] at hbit
  · intro hbits
    have hne : bits.toNat ≠ 0 := fun h => hbits (UInt8.toNat_inj.1 h)
    obtain ⟨i, hi⟩ := Nat.exists_testBit_of_ne_zero hne
    have hlt : i < 8 := BitVec.lt_of_getLsbD (x := bits.toBitVec) hi
    have hoffset : 7 - (7 - i) = i := by omega
    refine ⟨7 - i, by omega, ?_⟩
    rw [bitAt, hoffset, hi]

/-! ### Strokes -/

/-- A sprite row at a place. -/
structure Stroke where
  left : Nat
  top : Nat
  bits : UInt8

namespace Stroke

/-- Whether a set bit of the stroke falls on a pixel. The column of a bit is found from a sum that
wraps at 2⁶⁴. -/
def covers (k : Stroke) (px py : Nat) : Bool :=
  py % 32 == k.top % 32 &&
    (List.range 8).any fun c => Row.bitAt k.bits c && px % 64 == (k.left + c) % UInt64.size % 64

/-- A sum that wraps at 2⁶⁴ falls on the same column as one that does not wrap. -/
theorem mod_size_mod_width (n : Nat) : n % UInt64.size % 64 = n % 64 :=
  Nat.mod_mod_of_dvd n ⟨288230376151711744, rfl⟩

/-- A stroke covers a pixel in its own row that one of its bits falls on. -/
theorem covers_eq (k : Stroke) (px py : Nat) :
    k.covers px py = (py % 32 == k.top % 32 && Row.covers k.left k.bits (px % 64)) := by
  simp only [covers, mod_size_mod_width, Row.covers_eq_any, Nat.mod_mod]

/-- The bits of a stroke fall on pixels beside each other, wrapped around the screen. -/
theorem covers_eq_true_iff (k : Stroke) (px py : Nat) :
    k.covers px py = true ↔ py % 32 = k.top % 32 ∧
      ∃ c < 8, Row.bitAt k.bits c = true ∧ px % 64 = (k.left + c) % 64 := by
  simp [covers, mod_size_mod_width]

/-- A stroke covers some pixel unless its byte is zero. -/
theorem exists_covers_iff (k : Stroke) : (∃ px py, k.covers px py = true) ↔ k.bits ≠ 0 := by
  rw [← Row.exists_bitAt_iff]
  simp only [covers_eq_true_iff]
  constructor
  · rintro ⟨-, -, -, c, hc, hbit, -⟩
    exact ⟨c, hc, hbit⟩
  · rintro ⟨c, hc, hbit⟩
    exact ⟨k.left + c, k.top, rfl, c, hc, hbit, rfl⟩

end Stroke

namespace Screen

/-! ### One stroke -/

/-- A stroke flips exactly the pixels that it covers. -/
theorem pixel_flip_stroke (s : Screen) (k : Stroke) (px py : Nat) :
    (s.flip k.left k.top k.bits).pixel px py = (s.pixel px py ^^ k.covers px py) := by
  rw [pixel_flip, Stroke.covers_eq]

/-- Pixels that wrap to the same place are the same. -/
theorem pixel_congr (s : Screen) {x y px py : Nat} (hx : px % 64 = x % 64) (hy : py % 32 = y % 32) :
    s.pixel px py = s.pixel x y := by
  simp only [pixel, row, hx, hy]

/-- A stroke collides if and only if it covers a lit pixel. -/
theorem collides_stroke_iff (s : Screen) (k : Stroke) :
    s.collides k.left k.top k.bits = true ↔
      ∃ px py, k.covers px py = true ∧ s.pixel px py = true := by
  simp only [collides_eq_any, List.any_eq_true, List.mem_range, Bool.and_eq_true,
    Stroke.covers_eq_true_iff]
  constructor
  · rintro ⟨c, hc, hbit, hlit⟩
    exact ⟨k.left + c, k.top, ⟨rfl, c, hc, hbit, rfl⟩, hlit⟩
  · rintro ⟨px, py, ⟨hrow, c, hc, hbit, hcolumn⟩, hlit⟩
    refine ⟨c, hc, hbit, ?_⟩
    rw [← s.pixel_congr hcolumn hrow, hlit]

/-- A stroke that does not collide covers only pixels that are off. -/
theorem pixel_eq_false_of_covers {s : Screen} {k : Stroke} {px py : Nat}
    (hnone : s.collides k.left k.top k.bits = false) (hcovers : k.covers px py = true) :
    s.pixel px py = false := by
  rw [Bool.eq_false_iff]
  intro hlit
  have hcollides := (s.collides_stroke_iff k).2 ⟨px, py, hcovers, hlit⟩
  exact Bool.false_ne_true (hnone.symm.trans hcollides)

/-- A stroke that does not collide only switches pixels on. -/
theorem pixel_flip_of_not_collides {s : Screen} {k : Stroke}
    (hnone : s.collides k.left k.top k.bits = false) (px py : Nat) :
    (s.flip k.left k.top k.bits).pixel px py = (s.pixel px py || k.covers px py) := by
  rw [pixel_flip_stroke]
  cases hcovers : k.covers px py with
  | false => rw [Bool.xor_false, Bool.or_false]
  | true => rw [pixel_eq_false_of_covers hnone hcovers, Bool.false_xor, Bool.false_or]

/-! ### Many strokes -/

/-- The screen after some strokes, one after the other. -/
def flipAll (s : Screen) : List Stroke → Screen
  | [] => s
  | k :: rest => (s.flip k.left k.top k.bits).flipAll rest

/-- Whether some stroke covers a pixel that is lit when the stroke is drawn. -/
def collidesAll (s : Screen) : List Stroke → Bool
  | [] => false
  | k :: rest => s.collides k.left k.top k.bits || (s.flip k.left k.top k.bits).collidesAll rest

@[simp] theorem flipAll_nil (s : Screen) : s.flipAll [] = s := rfl

@[simp] theorem flipAll_cons (s : Screen) (k : Stroke) (rest : List Stroke) :
    s.flipAll (k :: rest) = (s.flip k.left k.top k.bits).flipAll rest := rfl

@[simp] theorem collidesAll_nil (s : Screen) : s.collidesAll [] = false := rfl

@[simp] theorem collidesAll_cons (s : Screen) (k : Stroke) (rest : List Stroke) :
    s.collidesAll (k :: rest) =
      (s.collides k.left k.top k.bits || (s.flip k.left k.top k.bits).collidesAll rest) := rfl

/-- To draw two lists of strokes is to draw one after the other. -/
theorem flipAll_append (s : Screen) (first second : List Stroke) :
    s.flipAll (first ++ second) = (s.flipAll first).flipAll second := by
  induction first generalizing s with
  | nil => rfl
  | cons k rest ih => exact ih _

/-- **Only the parity counts.** After some strokes a pixel is flipped if and only if an odd number
of them cover it. -/
theorem pixel_flipAll (s : Screen) (strokes : List Stroke) (px py : Nat) :
    (s.flipAll strokes).pixel px py =
      (s.pixel px py ^^ strokes.countP (·.covers px py) % 2 == 1) := by
  induction strokes generalizing s with
  | nil => simp
  | cons k rest ih =>
    rw [flipAll_cons, ih, pixel_flip_stroke, List.countP_cons, Bool.xor_assoc]
    congr 1
    -- A stroke that covers the pixel turns the parity of the others round.
    cases k.covers px py with
    | false => simp
    | true =>
      rcases Nat.mod_two_eq_zero_or_one (rest.countP (·.covers px py)) with heven | hodd
      · have hnext : (rest.countP (·.covers px py) + 1) % 2 = 1 := by omega
        simp [heven, hnext]
      · have hnext : (rest.countP (·.covers px py) + 1) % 2 = 0 := by omega
        simp [hodd, hnext]

/-- The order of the strokes does not matter. -/
theorem flipAll_perm (s : Screen) {strokes strokes' : List Stroke} (h : strokes.Perm strokes') :
    s.flipAll strokes = s.flipAll strokes' := by
  apply ext_pixel
  intro px py
  rw [pixel_flipAll, pixel_flipAll, h.countP_eq]

/-- Strokes that are drawn twice undo themselves. -/
theorem flipAll_flipAll (s : Screen) (strokes : List Stroke) :
    (s.flipAll strokes).flipAll strokes = s := by
  apply ext_pixel
  intro px py
  rw [pixel_flipAll, pixel_flipAll, Bool.xor_assoc, Bool.xor_self, Bool.xor_false]

/-! ### Collisions -/

variable {s : Screen} {strokes : List Stroke}

/-- Without a collision the pixels that are covered are switched on, and the others stay as they
are. -/
theorem pixel_flipAll_of_not_collides (hnone : s.collidesAll strokes = false) (px py : Nat) :
    (s.flipAll strokes).pixel px py = (s.pixel px py || strokes.any (·.covers px py)) := by
  induction strokes generalizing s with
  | nil => simp
  | cons k rest ih =>
    rw [collidesAll_cons, Bool.or_eq_false_iff] at hnone
    obtain ⟨hk, hrest⟩ := hnone
    rw [flipAll_cons, ih hrest, pixel_flip_of_not_collides hk, List.any_cons, Bool.or_assoc]

/-- Without a collision every pixel that is covered was off before. -/
theorem pixel_eq_false_of_mem_of_covers {k : Stroke} {px py : Nat}
    (hnone : s.collidesAll strokes = false) (hmem : k ∈ strokes) (hcovers : k.covers px py = true) :
    s.pixel px py = false := by
  induction strokes generalizing s with
  | nil => exact absurd hmem List.not_mem_nil
  | cons first rest ih =>
    rw [collidesAll_cons, Bool.or_eq_false_iff] at hnone
    obtain ⟨hfirst, hrest⟩ := hnone
    rcases List.mem_cons.1 hmem with rfl | hmem
    · exact pixel_eq_false_of_covers hfirst hcovers
    · -- The pixel is still off after the first stroke, which only switches pixels on.
      have hlater := ih hrest hmem
      rw [pixel_flip_of_not_collides hfirst] at hlater
      exact (Bool.or_eq_false_iff.1 hlater).1

/-- Strokes that collide have something to draw. -/
theorem exists_bits_ne_zero_of_collidesAll (h : s.collidesAll strokes = true) :
    ∃ k ∈ strokes, k.bits ≠ 0 := by
  induction strokes generalizing s with
  | nil => exact absurd h Bool.false_ne_true
  | cons k rest ih =>
    rw [collidesAll_cons, Bool.or_eq_true_iff] at h
    rcases h with hk | hrest
    · obtain ⟨px, py, hcovers, -⟩ := (s.collides_stroke_iff k).1 hk
      exact ⟨k, List.mem_cons_self, k.exists_covers_iff.1 ⟨px, py, hcovers⟩⟩
    · obtain ⟨other, hmem, hbits⟩ := ih hrest
      exact ⟨other, List.mem_cons_of_mem k hmem, hbits⟩

/-- **Drawn twice, strokes collide if there is anything to draw.** If the first pass does not
collide, it has switched on what the second one covers. -/
theorem collidesAll_twice (s : Screen) (strokes : List Stroke) :
    (s.collidesAll strokes = true ∨ (s.flipAll strokes).collidesAll strokes = true) ↔
      ∃ k ∈ strokes, k.bits ≠ 0 := by
  constructor
  · rintro (h | h)
    · exact exists_bits_ne_zero_of_collidesAll h
    · exact exists_bits_ne_zero_of_collidesAll h
  · rintro ⟨k, hmem, hbits⟩
    obtain ⟨px, py, hcovers⟩ := k.exists_covers_iff.2 hbits
    cases hfirst : s.collidesAll strokes with
    | true => exact Or.inl rfl
    | false =>
      right
      rw [← Bool.not_eq_false]
      intro hsecond
      -- The first pass has left the pixel on, and the second one finds it off.
      have hon : (s.flipAll strokes).pixel px py = true := by
        rw [pixel_flipAll_of_not_collides hfirst, List.any_eq_true.2 ⟨k, hmem, hcovers⟩,
          Bool.or_true]
      have hoff := pixel_eq_false_of_mem_of_covers hsecond hmem hcovers
      exact Bool.false_ne_true (hoff.symm.trans hon)

end Screen

/-! ### Sprites -/

/-- The rows of a sprite as strokes, from the top down. -/
def Stroke.ofSprite (left top : Nat) : List UInt8 → List Stroke
  | [] => []
  | bits :: rest => ⟨left, top, bits⟩ :: ofSprite left (top + 1) rest

/-- The strokes of a sprite have something to draw if one of its bytes is not zero. -/
theorem Stroke.exists_mem_ofSprite_iff (left top : Nat) (rows : List UInt8) :
    (∃ k ∈ Stroke.ofSprite left top rows, k.bits ≠ 0) ↔ ∃ bits ∈ rows, bits ≠ 0 := by
  induction rows generalizing top with
  | nil => simp [ofSprite]
  | cons bits rest ih => simp [ofSprite, ← ih (top + 1)]

namespace Screen

/-- Flipping a sprite flips the strokes of its rows. -/
theorem flipSprite_eq_flipAll (s : Screen) (left top : Nat) (rows : List UInt8) :
    s.flipSprite left top rows = s.flipAll (Stroke.ofSprite left top rows) := by
  induction rows generalizing s top with
  | nil => rfl
  | cons bits rest ih => exact ih _ _

/-- A sprite collides if one of these strokes does in its turn. -/
theorem collidesSprite_eq_collidesAll (s : Screen) (left top : Nat) (rows : List UInt8) :
    s.collidesSprite left top rows = s.collidesAll (Stroke.ofSprite left top rows) := by
  induction rows generalizing s top with
  | nil => rfl
  | cons bits rest ih => exact congrArg (_ || ·) (ih _ _)

/-- A sprite that is drawn twice leaves the screen as it was. -/
theorem flipSprite_flipSprite (s : Screen) (left top : Nat) (rows : List UInt8) :
    (s.flipSprite left top rows).flipSprite left top rows = s := by
  rw [flipSprite_eq_flipAll, flipSprite_eq_flipAll, flipAll_flipAll]

/-- A sprite that is drawn twice collides unless all its bytes are zero. -/
theorem collidesSprite_twice (s : Screen) (left top : Nat) (rows : List UInt8) :
    (s.collidesSprite left top rows = true ∨
        (s.flipSprite left top rows).collidesSprite left top rows = true) ↔
      ∃ bits ∈ rows, bits ≠ 0 := by
  rw [flipSprite_eq_flipAll, collidesSprite_eq_collidesAll, collidesSprite_eq_collidesAll,
    collidesAll_twice, Stroke.exists_mem_ofSprite_iff]

end Screen

end ChipEight
