import ChipEight.Proofs.Machine.Drawing
import ChipEight.Proofs.Screen.Sprites

/-! # What a drawing instruction does, pixel by pixel

A sprite has at most fifteen rows, so that it hits no pixel twice. `Machine.draw_flips_set_bits`
says exactly what the instruction leaves of the machine: which pixels it flips, whether it sets the
flag, how many pixels are lit afterwards, and that nothing else has changed. Both coordinates are
read before the flag register is overwritten, so it may hold one of them. -/

namespace ChipEight.Machine

variable (m : Machine) (x y : Register) (height : Nat)

/-- A sprite has as many rows as it is high. -/
@[simp] theorem length_sprite : (m.sprite height).length = height := by
  simp [sprite]

/-- The rows of a sprite are read from the index on. -/
theorem getD_sprite {r : Nat} (h : r < height) :
    (m.sprite height).getD r 0 = m.memory.read (m.index + r) := by
  simp [sprite, h]

/-- The set bits of the sprite that the index points at. -/
theorem bits_sprite :
    Sprite.bits (m.sprite height) =
      (Finset.range height ×ˢ Finset.range 8).filter fun k =>
        (m.memory.read (m.index + k.1)).toNat.testBit (7 - k.2) = true := by
  rw [Sprite.bits, length_sprite]
  refine Finset.filter_congr fun k hk => ?_
  rw [m.getD_sprite height (Finset.mem_range.1 (Finset.mem_product.1 hk).1)]
  rfl

/-- The flag is set if the sprite collided, and cleared otherwise. -/
theorem v_draw_flagRegister_eq_ite :
    (m.draw x y height).v flagRegister =
      if m.screen.collidesSprite (m.v x).toNat (m.v y).toNat (m.sprite height) = true then 1
      else 0 := by
  rw [draw, setFlag, v_setV_self]

/-- To draw changes nothing but the screen and the flag. -/
theorem draw_eq :
    m.draw x y height =
      { m.setV flagRegister ((m.draw x y height).v flagRegister) with
        screen := (m.draw x y height).screen } := by
  rw [v_draw_flagRegister_eq_ite]
  rfl

/-- **Drawing is exact.** Let `a` and `b` be the coordinates before the instruction, and let the
bits of the sprite be read from the index on, where bytes past the end of memory read as zero.

* A pixel is flipped if and only if a set bit falls on it, and no two bits fall on the same pixel;
* the flag is set if a flipped pixel was lit before, and cleared otherwise;
* the number of lit pixels grows by that of the set bits, less twice that of the flipped pixels that
  were lit;
* nothing else of the machine changes. -/
theorem draw_flips_set_bits (m : Machine) (x y : Register) (height : Fin 16) :
    let a := (m.v x).toNat
    let b := (m.v y).toNat
    let bit := fun r c => (m.memory.read (m.index + r)).toNat.testBit (7 - c)
    let bits := Finset.range height ×ˢ Finset.range 8
    (∀ address, 4096 ≤ address → m.memory.read address = 0) ∧
    ∃ m', m.execute (.draw x y height) = .ok m' ∧
      (∀ p : Place, m'.screen.pixel p.1 p.2 ≠ m.screen.pixel p.1 p.2 ↔
        ∃ r < height.val, ∃ c < 8,
          p.2.val = (b + r) % 32 ∧ p.1.val = (a + c) % 64 ∧ bit r c = true) ∧
      Set.InjOn (Sprite.place a b) bits ∧
      m'.v flagRegister =
        (if (m.screen.diff m'.screen ∩ m.screen.lit).Nonempty then 1 else 0) ∧
      (m'.screen.litCount : Int) =
        m.screen.litCount + (bits.filter fun k => bit k.1 k.2 = true).card -
          2 * (m.screen.diff m'.screen ∩ m.screen.lit).card ∧
      m' = { m.setV flagRegister (m'.v flagRegister) with screen := m'.screen } := by
  intro a b bit bits
  have hlength : (m.sprite height).length ≤ 32 := by
    rw [length_sprite]
    omega
  -- A sprite is lower than the screen, so the pixels that change are the places of its bits.
  have hflipped : m.screen.diff (m.draw x y height).screen =
      Sprite.places a b (m.sprite height) := m.screen.diff_flipSprite hlength
  refine ⟨fun address h => m.memory.read_of_size_le h, m.draw x y height, rfl, fun p => ?_, ?_, ?_,
    ?_, m.draw_eq x y height⟩
  · rw [← Screen.mem_diff, hflipped, Sprite.mem_places_iff, length_sprite]
    refine exists_congr fun r => and_congr_right fun hr => ?_
    rw [m.getD_sprite height hr]
    rfl
  · exact Sprite.injOn_place a b (Nat.le_trans (Nat.le_of_lt height.isLt) (by decide))
  · rw [hflipped, v_draw_flagRegister_eq_ite]
    exact if_congr (m.screen.collidesSprite_iff hlength) rfl rfl
  · have hbits : Sprite.bits (m.sprite height) = bits.filter fun k => bit k.1 k.2 = true :=
      m.bits_sprite height
    have hcount : (m.draw x y height).screen.litCount +
          2 * (Sprite.places a b (m.sprite height) ∩ m.screen.lit).card =
        m.screen.litCount + (Sprite.bits (m.sprite height)).card :=
      m.screen.litCount_flipSprite hlength
    rw [hflipped, ← hbits]
    omega

end ChipEight.Machine
