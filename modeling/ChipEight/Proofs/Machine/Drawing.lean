import ChipEight.Machine.Execute
import ChipEight.Proofs.Screen.Strokes

/-! # Drawing twice

A sprite is drawn where two registers say, and the flag register is overwritten. As long as neither
coordinate is held in the flag register, the same instruction run again draws the same sprite at the
same place, and so takes it off the screen. -/

namespace ChipEight.Machine

variable (m : Machine) (x y : Register) (height : Nat)

/-- Drawing flips the sprite at the index, at the place that two registers name. -/
theorem screen_draw :
    (m.draw x y height).screen =
      m.screen.flipSprite (m.v x).toNat (m.v y).toNat (m.sprite height) := rfl

/-- To draw changes neither memory nor the index, and so not the sprite. -/
theorem sprite_draw (rows : Nat) : (m.draw x y height).sprite rows = m.sprite rows := rfl

/-- To draw changes no register but the flag. -/
theorem v_draw_of_ne {r : Register} (h : r ≠ flagRegister) : (m.draw x y height).v r = m.v r := by
  rw [draw, setFlag, v_setV, if_neg h.symm]
  rfl

/-- The flag tells whether the sprite collided. -/
theorem v_draw_flagRegister :
    (m.draw x y height).v flagRegister = 1 ↔
      m.screen.collidesSprite (m.v x).toNat (m.v y).toNat (m.sprite height) = true := by
  rw [draw, setFlag, v_setV_self]
  cases m.screen.collidesSprite (m.v x).toNat (m.v y).toNat (m.sprite height) <;> simp

/-- A sprite has a set bit if one of the bytes that it is read from is not zero. -/
theorem exists_mem_sprite_iff :
    (∃ bits ∈ m.sprite height, bits ≠ 0) ↔
      ∃ r < height, m.memory.read (m.index + r) ≠ 0 := by
  simp only [sprite, List.mem_map, List.mem_range]
  constructor
  · rintro ⟨bits, ⟨r, hr, rfl⟩, hbits⟩
    exact ⟨r, hr, hbits⟩
  · rintro ⟨r, hr, hbits⟩
    exact ⟨_, ⟨r, hr, rfl⟩, hbits⟩

variable {m x y}

/-- To draw twice at a place that the flag does not move leaves the screen as it was. -/
theorem screen_draw_draw (hx : x ≠ flagRegister) (hy : y ≠ flagRegister) :
    ((m.draw x y height).draw x y height).screen = m.screen := by
  rw [screen_draw, sprite_draw, v_draw_of_ne _ _ _ _ hx, v_draw_of_ne _ _ _ _ hy, screen_draw,
    Screen.flipSprite_flipSprite]

/-- Of two draws at a place that the flag does not move one sets the flag, unless the sprite is
empty. -/
theorem flag_draw_draw (hx : x ≠ flagRegister) (hy : y ≠ flagRegister) :
    ((m.draw x y height).v flagRegister = 1 ∨
        ((m.draw x y height).draw x y height).v flagRegister = 1) ↔
      ∃ r < height, m.memory.read (m.index + r) ≠ 0 := by
  rw [v_draw_flagRegister, v_draw_flagRegister, sprite_draw, v_draw_of_ne _ _ _ _ hx,
    v_draw_of_ne _ _ _ _ hy, screen_draw, Screen.collidesSprite_twice, exists_mem_sprite_iff]

/-- **Drawing is exclusive-or.** Strokes that are drawn one after the other flip a pixel if an odd
number of them cover it; so their order does not matter, and drawn twice they undo themselves. And
so does a sprite, as long as the flag register is none of its coordinates: when the instruction has
run twice the screen is as it was, and one of the two runs has set the flag unless the sprite is
empty. -/
theorem drawing_counts_parity (s : Screen) (strokes : List Stroke) :
    (∀ px py, (s.flipAll strokes).pixel px py =
      (s.pixel px py ^^ strokes.countP (·.covers px py) % 2 == 1)) ∧
    (∀ strokes', strokes.Perm strokes' → s.flipAll strokes' = s.flipAll strokes) ∧
    s.flipAll (strokes ++ strokes) = s ∧
    ∀ (m : Machine) (x y : Register) (height : Fin 16), x ≠ flagRegister → y ≠ flagRegister →
      ∃ once twice, m.execute (.draw x y height) = .ok once ∧
        once.execute (.draw x y height) = .ok twice ∧ twice.screen = m.screen ∧
        ((once.v flagRegister = 1 ∨ twice.v flagRegister = 1) ↔
          ∃ r < height.val, m.memory.read (m.index + r) ≠ 0) := by
  refine ⟨s.pixel_flipAll strokes, fun strokes' h => s.flipAll_perm h.symm, ?_, ?_⟩
  · rw [Screen.flipAll_append, Screen.flipAll_flipAll]
  · intro m x y height hx hy
    exact ⟨m.draw x y height, (m.draw x y height).draw x y height, rfl, rfl,
      screen_draw_draw height hx hy, flag_draw_draw height hx hy⟩

/-- Two strokes that overlap at the edge of the screen may be drawn in either order, and a single
pixel that is drawn twice at the top left is gone again and has set the flag. -/
theorem drawing_counts_parity_at_corners :
    let wide : Stroke := ⟨62, 31, 0x81⟩
    let narrow : Stroke := ⟨5, 63, 0x80⟩
    let m := { Machine.start 0 0 with memory := Memory.blank.write 0 0x80 }
    let x : Register := ⟨0, by decide⟩
    let y : Register := ⟨1, by decide⟩
    let height : Fin 16 := ⟨1, by decide⟩
    [wide, narrow].Perm [narrow, wide] ∧ x ≠ flagRegister ∧ y ≠ flagRegister ∧
      Screen.blank.flipAll [narrow, wide] = Screen.blank.flipAll [wide, narrow] ∧
      ∃ once twice, m.execute (.draw x y height) = .ok once ∧
        once.execute (.draw x y height) = .ok twice ∧ twice.screen = Screen.blank ∧
        (once.v flagRegister = 1 ∨ twice.v flagRegister = 1) := by
  intro wide narrow m x y height
  have hperm : [wide, narrow].Perm [narrow, wide] := List.Perm.swap narrow wide []
  have hx : x ≠ flagRegister := by decide
  have hy : y ≠ flagRegister := by decide
  obtain ⟨-, horder, -, htwice⟩ := drawing_counts_parity Screen.blank [wide, narrow]
  obtain ⟨once, twice, honce, htwice, hscreen, hflag⟩ := htwice m x y height hx hy
  have hbyte : m.memory.read (m.index + 0) ≠ 0 := by
    show (Memory.blank.write 0 0x80).read 0 ≠ 0
    rw [Memory.read_write, if_pos (by decide)]
    decide
  exact ⟨hperm, hx, hy, horder _ hperm, once, twice, honce, htwice, hscreen,
    hflag.2 ⟨0, Nat.zero_lt_one, hbyte⟩⟩

end ChipEight.Machine
