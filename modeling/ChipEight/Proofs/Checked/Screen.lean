import ChipEight.Memory.Basic
import ChipEight.Proofs.Screen.Strokes
import ChipEight.Screen.Basic

/-! # Drawing with checked arithmetic

The coordinates of pixels are natural numbers here, and a pixel is looked up by an index that is
below the length of its row by construction. This file draws the way a processor does: one pixel
after the other, every coordinate computed in a type of limited size, every index checked. A
computation that leaves its type or its array has no result.

* `within`: a number kept in a type of limited size;
* `Screen.toggleBits?` and `Screen.drawRows?`: a sprite row and a sprite, pixel by pixel;
* `Screen.toggleBits?_eq` and `Screen.drawRows?_eq`: they have a result, and it is that of
  `Screen.flip` and `Screen.flipSprite`. -/

namespace ChipEight

/-- How many numbers an address word can hold. -/
abbrev wordLimit : Nat := UInt16.size

/-- How many numbers an array index can hold. -/
abbrev indexLimit : Nat := UInt64.size

/-- A number that is kept in a type with `limit` values. There is no result if it does not fit. -/
def within (limit n : Nat) : Option Nat := if n < limit then some n else none

/-- A number below its limit passes the check unchanged. -/
theorem within_of_lt {limit n : Nat} (h : n < limit) : within limit n = some n := if_pos h

/-- A number that fits an address word fits an array index. -/
theorem within_indexLimit {n : Nat} (h : n < 65536) : within indexLimit n = some n :=
  within_of_lt (Nat.lt_trans h (by decide))

namespace Screen

/-! ### Sprite rows -/

/-- Flip the pixel in a column and a row, and tell whether it was lit. There is no result outside
the screen. -/
def toggle? (s : Screen) (column row : Nat) : Option (Screen × Bool) := do
  let pixels ← s.rows[row]?
  let lit ← pixels[column]?
  some (⟨s.rows.setIfInBounds row (pixels.setIfInBounds column (!lit))⟩, lit)

/-- Flip the pixels under the set bits of a sprite row, for some of its offsets, and tell whether
one of them was lit. -/
def toggleBits? (s : Screen) (x y : Nat) (bits : UInt8) : List Nat → Option (Screen × Bool)
  | [] => some (s, false)
  | offset :: rest =>
    if Row.bitAt bits offset then do
      let column ← within indexLimit (x + offset)
      let (next, lit) ← s.toggle? (column % width) (y % height)
      let (last, collided) ← next.toggleBits? x y bits rest
      some (last, lit || collided)
    else s.toggleBits? x y bits rest

/-- Every pixel of the screen can be flipped, and no other pixel changes. -/
theorem toggle?_eq (s : Screen) (x y : Nat) :
    ∃ next, s.toggle? (x % width) (y % height) = some (next, s.pixel x y) ∧
      ∀ px py, next.pixel px py =
        (s.pixel px py ^^ (py % 32 == y % 32 && px % 64 == x % 64)) := by
  have hy : y % 32 < 32 := Nat.mod_lt _ (by decide)
  have hx : x % 64 < 64 := Nat.mod_lt _ (by decide)
  refine ⟨⟨s.rows.setIfInBounds (y % 32) ((s.row y).setIfInBounds (x % 64) (!s.pixel x y))⟩,
    by simp [toggle?, hx, hy, pixel, row], fun px py => ?_⟩
  simp only [pixel, row]
  by_cases hrow : y % 32 = py % 32
  · by_cases hcolumn : x % 64 = px % 64
    · simp [hrow, hcolumn]
    · simp [hrow, hcolumn, beq_false_of_ne (Ne.symm hcolumn)]
  · simp [hrow, beq_false_of_ne (Ne.symm hrow)]

/-- **A sprite row, pixel by pixel.** Distinct offsets flip distinct pixels, so whether one of them
was lit can be read off the screen before any of them was flipped. -/
theorem toggleBits?_pixel (s : Screen) (y : Nat) (bits : UInt8) {x : Nat}
    (hx : x + 8 ≤ indexLimit) (offsets : List Nat) (hnodup : offsets.Nodup)
    (hlt : ∀ c ∈ offsets, c < 8) :
    ∃ next, s.toggleBits? x y bits offsets =
        some (next, offsets.any fun c => Row.bitAt bits c && s.pixel (x + c) y) ∧
      ∀ px py, next.pixel px py = (s.pixel px py ^^
        (py % 32 == y % 32 &&
          offsets.any fun c => Row.bitAt bits c && px % 64 == (x + c) % 64)) := by
  induction offsets generalizing s with
  | nil => exact ⟨s, rfl, fun px py => by simp⟩
  | cons c rest ih =>
    obtain ⟨hc, hrest⟩ := List.nodup_cons.1 hnodup
    have hlt' : ∀ d ∈ rest, d < 8 := fun d hd => hlt d (List.mem_cons_of_mem c hd)
    have hc8 : c < 8 := hlt c List.mem_cons_self
    -- No later offset falls on the pixel of this one.
    have hapart : ∀ d ∈ rest, (x + d) % 64 ≠ (x + c) % 64 := by
      intro d hd
      refine Row.column_ne hc8 (hlt' d hd) ?_
      rintro rfl
      exact hc hd
    by_cases hbit : Row.bitAt bits c = true
    · obtain ⟨next, htoggle, hnext⟩ := s.toggle?_eq (x + c) y
      obtain ⟨last, hlast, hpixel⟩ := ih next hrest hlt'
      -- So the later offsets find the pixels lit or not as they were before this one was flipped.
      have hlit : (rest.any fun d => Row.bitAt bits d && next.pixel (x + d) y) =
          rest.any fun d => Row.bitAt bits d && s.pixel (x + d) y := by
        rw [Bool.eq_iff_iff]
        simp only [List.any_eq_true, hnext]
        refine exists_congr fun d => and_congr_right fun hd => ?_
        simp [beq_false_of_ne (hapart d hd)]
      refine ⟨last, ?_, fun px py => ?_⟩
      · rw [toggleBits?, if_pos hbit, within_of_lt (by omega)]
        simp [htoggle, hlast, hlit, hbit]
      · rw [hpixel, hnext, List.any_cons, hbit, Bool.true_and]
        by_cases hpx : px % 64 = (x + c) % 64
        · have hno : (rest.any fun d => Row.bitAt bits d && px % 64 == (x + d) % 64) = false := by
            refine List.any_eq_false.2 fun d hd => ?_
            simp [hpx, beq_false_of_ne (Ne.symm (hapart d hd))]
          simp [hno]
        · simp [beq_false_of_ne hpx]
    · obtain ⟨next, hnext, hpixel⟩ := ih s hrest hlt'
      refine ⟨next, ?_, fun px py => ?_⟩
      · rw [toggleBits?, if_neg hbit, hnext]
        simp [hbit]
      · rw [hpixel]
        simp [hbit]

/-- **Checked drawing of a sprite row** has a result, and it is that of flipping the row at once. -/
theorem toggleBits?_eq (s : Screen) (y : Nat) (bits : UInt8) {x : Nat} (hx : x + 8 ≤ indexLimit) :
    s.toggleBits? x y bits (List.range 8) = some (s.flip x y bits, s.collides x y bits) := by
  obtain ⟨next, hnext, hpixel⟩ := s.toggleBits?_pixel y bits hx (List.range 8) List.nodup_range
    fun c hc => List.mem_range.1 hc
  have hflip : next = s.flip x y bits := by
    refine ext_pixel fun px py => ?_
    rw [hpixel, pixel_flip, Row.covers_eq_any]
    simp only [Nat.mod_mod]
  rw [hnext, hflip, collides_eq_any]

/-! ### Sprites -/

/-- Draw some rows of the sprite at an index, and tell whether a pixel was lit when it was
flipped. -/
def drawRows? (s : Screen) (memory : Memory) (index left top : Nat) :
    List Nat → Option (Screen × Bool)
  | [] => some (s, false)
  | r :: rest => do
    let address ← within indexLimit (index + r)
    let y ← within indexLimit (top + r)
    let (next, collided) ← s.toggleBits? left y (memory.read address) (List.range 8)
    let (last, collidedLater) ← next.drawRows? memory index left top rest
    some (last, collided || collidedLater)

/-- **Checked drawing of a sprite** has a result, and it is that of flipping its rows one after the
other. -/
theorem drawRows?_eq (s : Screen) (memory : Memory) {index left top : Nat}
    (hleft : left + 8 ≤ indexLimit) (first count : Nat)
    (hindex : index + (first + count) ≤ indexLimit) (htop : top + (first + count) ≤ indexLimit) :
    s.drawRows? memory index left top (List.range' first count) =
      some (s.flipSprite left (top + first)
          ((List.range' first count).map fun r => memory.read (index + r)),
        s.collidesSprite left (top + first)
          ((List.range' first count).map fun r => memory.read (index + r))) := by
  -- The first row moves down in the induction, so the rows are counted from any row on.
  induction count generalizing s first with
  | zero => rfl
  | succ count ih =>
    rw [List.range'_succ, List.map_cons, flipSprite_cons, collidesSprite, drawRows?,
      within_of_lt (by omega), within_of_lt (by omega)]
    have hnext := ih (s.flip left (top + first) (memory.read (index + first))) (first + 1)
      (by omega) (by omega)
    simp only [Option.bind_eq_bind, Option.bind_some, toggleBits?_eq s _ _ hleft, hnext,
      Nat.add_assoc]

end Screen

end ChipEight
