import ChipEight.Proofs.Screen.Counting
import ChipEight.Proofs.Screen.Strokes

/-! # Sprites, pixel by pixel

A sprite is drawn row by row, on a screen that changes underway. But its rows lie on different lines
of the screen, as long as there are no more rows than lines, and the eight pixels of a row in
different columns. So no pixel is hit twice, and what a sprite does can be told from the screen as
it was before.

* `Stroke.Misses`: no pixel lies under both strokes;
* `Screen.pixel_flipAll_of_pairwise` and `Screen.collidesAll_iff_of_pairwise`: strokes that miss
  each other act as if they were drawn all at once;
* `Sprite.bits` and `Sprite.places`: the set bits of a sprite, and the places that they fall on;
* `Screen.lit_flipSprite`, `Screen.collidesSprite_iff` and `Screen.litCount_flipSprite`: what a
  sprite does to a screen. -/

namespace ChipEight

/-! ### Strokes that miss each other -/

namespace Stroke

/-- Whether a stroke covers a pixel depends on the place that the pixel wraps to. -/
theorem covers_congr (k : Stroke) {x y px py : Nat} (hx : px % 64 = x % 64)
    (hy : py % 32 = y % 32) : k.covers px py = k.covers x y := by
  simp only [covers, hx, hy]

/-- No pixel lies under both strokes. -/
def Misses (k l : Stroke) : Prop := ∀ px py, k.covers px py = true → l.covers px py = false

/-- Strokes on different lines miss each other. -/
theorem misses_of_top_ne {k l : Stroke} (h : k.top % 32 ≠ l.top % 32) : k.Misses l := by
  intro px py hk
  rw [Bool.eq_false_iff]
  intro hl
  obtain ⟨hkline, -⟩ := (k.covers_eq_true_iff px py).1 hk
  obtain ⟨hlline, -⟩ := (l.covers_eq_true_iff px py).1 hl
  exact h (hkline.symm.trans hlline)

end Stroke

namespace Screen

/-- A stroke leaves the pixels under any stroke that it misses as they were. -/
theorem pixel_flip_of_misses (s : Screen) {k l : Stroke} (h : k.Misses l) {px py : Nat}
    (hl : l.covers px py = true) :
    (s.flip k.left k.top k.bits).pixel px py = s.pixel px py := by
  have hk : k.covers px py = false := by
    rw [Bool.eq_false_iff]
    intro hk
    exact Bool.false_ne_true ((h px py hk).symm.trans hl)
  rw [pixel_flip_stroke, hk, Bool.xor_false]

/-- **Strokes that miss each other flip what they cover.** -/
theorem pixel_flipAll_of_pairwise (s : Screen) {strokes : List Stroke}
    (h : strokes.Pairwise Stroke.Misses) (px py : Nat) :
    (s.flipAll strokes).pixel px py = (s.pixel px py ^^ strokes.any (·.covers px py)) := by
  induction strokes generalizing s with
  | nil => simp
  | cons k rest ih =>
    obtain ⟨hk, hrest⟩ := List.pairwise_cons.1 h
    rw [flipAll_cons, ih _ hrest, pixel_flip_stroke, List.any_cons, Bool.xor_assoc]
    congr 1
    cases hcovers : k.covers px py with
    | false => simp
    | true =>
      -- The pixel is under the first stroke, and so under none of the others.
      have hnone : rest.any (·.covers px py) = false :=
        List.any_eq_false.2 fun l hl => Bool.eq_false_iff.1 (hk l hl px py hcovers)
      simp [hnone]

/-- **Strokes that miss each other collide with what was lit before.** -/
theorem collidesAll_iff_of_pairwise (s : Screen) {strokes : List Stroke}
    (h : strokes.Pairwise Stroke.Misses) :
    s.collidesAll strokes = true ↔
      ∃ px py, s.pixel px py = true ∧ ∃ k ∈ strokes, k.covers px py = true := by
  induction strokes generalizing s with
  | nil => simp
  | cons k rest ih =>
    obtain ⟨hk, hrest⟩ := List.pairwise_cons.1 h
    rw [collidesAll_cons, Bool.or_eq_true_iff, ih _ hrest, collides_stroke_iff]
    simp only [List.mem_cons, exists_eq_or_imp]
    constructor
    · rintro (⟨px, py, hcovers, hlit⟩ | ⟨px, py, hlit, l, hl, hcovers⟩)
      · exact ⟨px, py, hlit, Or.inl hcovers⟩
      · rw [s.pixel_flip_of_misses (hk l hl) hcovers] at hlit
        exact ⟨px, py, hlit, Or.inr ⟨l, hl, hcovers⟩⟩
    · rintro ⟨px, py, hlit, hcovers | ⟨l, hl, hcovers⟩⟩
      · exact Or.inl ⟨px, py, hcovers, hlit⟩
      · rw [← s.pixel_flip_of_misses (hk l hl) hcovers] at hlit
        exact Or.inr ⟨px, py, hlit, l, hl, hcovers⟩

end Screen

/-! ### The rows of a sprite -/

namespace Stroke

/-- The rows of a sprite lie one below the other. -/
theorem mem_ofSprite_iff {left top : Nat} {rows : List UInt8} {k : Stroke} :
    k ∈ ofSprite left top rows ↔ ∃ r bits, rows[r]? = some bits ∧ k = ⟨left, top + r, bits⟩ := by
  induction rows generalizing top with
  | nil => simp [ofSprite]
  | cons bits rest ih =>
    rw [ofSprite, List.mem_cons, ih]
    constructor
    · rintro (rfl | ⟨r, below, hr, rfl⟩)
      · exact ⟨0, bits, rfl, rfl⟩
      · exact ⟨r + 1, below, hr, congrArg (mk left · below) (Nat.add_right_comm top 1 r)⟩
    · rintro ⟨r, below, hr, rfl⟩
      cases r with
      | zero =>
        obtain rfl : bits = below := Option.some.inj hr
        exact Or.inl rfl
      | succ r =>
        exact Or.inr ⟨r, below, hr, congrArg (mk left · below) (Nat.add_right_comm top r 1)⟩

/-- The rows of a sprite miss each other, as long as there are no more of them than lines. -/
theorem pairwise_ofSprite (left top : Nat) {rows : List UInt8} (h : rows.length ≤ 32) :
    (ofSprite left top rows).Pairwise Misses := by
  induction rows generalizing top with
  | nil => exact List.Pairwise.nil
  | cons bits rest ih =>
    rw [List.length_cons] at h
    refine List.pairwise_cons.2 ⟨fun k hk => ?_, ih (top + 1) (Nat.le_of_succ_le h)⟩
    obtain ⟨r, below, hr, rfl⟩ := mem_ofSprite_iff.1 hk
    have hlt : r < rest.length := (List.getElem?_eq_some_iff.1 hr).1
    apply misses_of_top_ne
    show top % 32 ≠ (top + 1 + r) % 32
    omega

end Stroke

namespace Sprite

/-- The set bits of a sprite, each by its row and its offset from the left edge. -/
def bits (rows : List UInt8) : Finset (Nat × Nat) :=
  (Finset.range rows.length ×ˢ Finset.range 8).filter fun bit =>
    Row.bitAt (rows.getD bit.1 0) bit.2 = true

/-- The place that a bit falls on. Both coordinates wrap. -/
def place (left top : Nat) (bit : Nat × Nat) : Place :=
  (Fin.ofNat 64 (left + bit.2), Fin.ofNat 32 (top + bit.1))

/-- The places that the set bits of a sprite fall on. -/
def places (left top : Nat) (rows : List UInt8) : Finset Place :=
  (bits rows).image (place left top)

variable {left top : Nat} {rows : List UInt8}

/-- No two bits of a sprite fall on the same place, as long as it has no more rows than there are
lines. -/
theorem injOn_place (left top : Nat) {height : Nat} (h : height ≤ 32) :
    Set.InjOn (place left top) (Finset.range height ×ˢ Finset.range 8 : Finset (Nat × Nat)) := by
  rintro ⟨r, c⟩ hbit ⟨r', c'⟩ hbit' heq
  simp only [Finset.coe_product, Finset.coe_range, Set.mem_prod, Set.mem_Iio] at hbit hbit'
  have hcolumn : (left + c) % 64 = (left + c') % 64 := congrArg (fun p : Place => p.1.val) heq
  have hline : (top + r) % 32 = (top + r') % 32 := congrArg (fun p : Place => p.2.val) heq
  have hr : r = r' := by omega
  have hc : c = c' := by omega
  rw [hr, hc]

/-- A sprite covers as many places as it has set bits. -/
theorem card_places (h : rows.length ≤ 32) : (places left top rows).card = (bits rows).card := by
  refine Finset.card_image_of_injOn ((injOn_place left top h).mono ?_)
  exact Finset.coe_subset.2 (Finset.filter_subset _ _)

/-- The bits of a sprite are the set bits of its rows. -/
theorem mem_bits_iff {bit : Nat × Nat} :
    bit ∈ bits rows ↔
      bit.1 < rows.length ∧ bit.2 < 8 ∧ Row.bitAt (rows.getD bit.1 0) bit.2 = true := by
  rw [bits, Finset.mem_filter, Finset.mem_product, Finset.mem_range, Finset.mem_range, and_assoc]

/-- A bit falls on the place with its coordinates, cut down to the size of the screen. -/
theorem place_eq_iff {r c : Nat} {p : Place} :
    place left top (r, c) = p ↔ p.2.val = (top + r) % 32 ∧ p.1.val = (left + c) % 64 := by
  obtain ⟨x, y⟩ := p
  rw [place, Prod.mk.injEq, Fin.ext_iff, Fin.ext_iff, and_comm, eq_comm, @eq_comm _ _ x.val]
  rfl

/-- A place is covered if some set bit falls on it. -/
theorem mem_places_iff {p : Place} :
    p ∈ places left top rows ↔ ∃ r < rows.length, ∃ c < 8,
      p.2.val = (top + r) % 32 ∧ p.1.val = (left + c) % 64 ∧
        Row.bitAt (rows.getD r 0) c = true := by
  rw [places, Finset.mem_image]
  constructor
  · rintro ⟨⟨r, c⟩, hbit, hplace⟩
    obtain ⟨hr, hc, hset⟩ := mem_bits_iff.1 hbit
    obtain ⟨hline, hcolumn⟩ := place_eq_iff.1 hplace
    exact ⟨r, hr, c, hc, hline, hcolumn, hset⟩
  · rintro ⟨r, hr, c, hc, hline, hcolumn, hset⟩
    exact ⟨(r, c), mem_bits_iff.2 ⟨hr, hc, hset⟩, place_eq_iff.2 ⟨hline, hcolumn⟩⟩

/-- The places of a sprite are those that its strokes cover. -/
theorem mem_places_iff_covers {p : Place} :
    p ∈ places left top rows ↔ ∃ k ∈ Stroke.ofSprite left top rows, k.covers p.1 p.2 = true := by
  rw [mem_places_iff]
  constructor
  · rintro ⟨r, hr, c, hc, hline, hcolumn, hset⟩
    refine ⟨⟨left, top + r, rows.getD r 0⟩, Stroke.mem_ofSprite_iff.2 ⟨r, _, ?_, rfl⟩, ?_⟩
    · rw [List.getD_eq_getElem?_getD, List.getElem?_eq_getElem hr, Option.getD_some]
    · rw [Stroke.covers_eq_true_iff, Nat.mod_eq_of_lt p.1.isLt, Nat.mod_eq_of_lt p.2.isLt]
      exact ⟨hline, c, hc, hset, hcolumn⟩
  · rintro ⟨k, hk, hcovers⟩
    obtain ⟨r, row, hrow, rfl⟩ := Stroke.mem_ofSprite_iff.1 hk
    rw [Stroke.covers_eq_true_iff, Nat.mod_eq_of_lt p.1.isLt, Nat.mod_eq_of_lt p.2.isLt] at hcovers
    obtain ⟨hline, c, hc, hset, hcolumn⟩ := hcovers
    refine ⟨r, (List.getElem?_eq_some_iff.1 hrow).1, c, hc, hline, hcolumn, ?_⟩
    rw [List.getD_eq_getElem?_getD, hrow]
    exact hset

end Sprite

/-! ### What a sprite does to a screen -/

namespace Screen

variable (s : Screen) {left top : Nat} {rows : List UInt8}

/-- **A sprite flips the places that it covers.** -/
theorem pixel_flipSprite (h : rows.length ≤ 32) (p : Place) :
    (s.flipSprite left top rows).pixel p.1 p.2 =
      (s.pixel p.1 p.2 ^^ decide (p ∈ Sprite.places left top rows)) := by
  have hcovers : ((Stroke.ofSprite left top rows).any fun k => k.covers p.1 p.2) =
      decide (p ∈ Sprite.places left top rows) := by
    rw [Bool.eq_iff_iff, List.any_eq_true, decide_eq_true_iff, Sprite.mem_places_iff_covers]
  rw [flipSprite_eq_flipAll, s.pixel_flipAll_of_pairwise (Stroke.pairwise_ofSprite left top h),
    hcovers]

/-- **A sprite collides if and only if it covers a place that was lit before.** -/
theorem collidesSprite_iff (h : rows.length ≤ 32) :
    s.collidesSprite left top rows = true ↔ (Sprite.places left top rows ∩ s.lit).Nonempty := by
  rw [collidesSprite_eq_collidesAll,
    s.collidesAll_iff_of_pairwise (Stroke.pairwise_ofSprite left top h)]
  constructor
  · rintro ⟨px, py, hlit, k, hk, hcovers⟩
    obtain ⟨p, hx, hy⟩ := Place.exists_mod_eq px py
    rw [← s.pixel_congr hx hy, ← mem_lit] at hlit
    rw [← k.covers_congr hx hy] at hcovers
    exact ⟨p, Finset.mem_inter.2 ⟨Sprite.mem_places_iff_covers.2 ⟨k, hk, hcovers⟩, hlit⟩⟩
  · rintro ⟨p, hp⟩
    obtain ⟨hcovered, hlit⟩ := Finset.mem_inter.1 hp
    obtain ⟨k, hk, hcovers⟩ := Sprite.mem_places_iff_covers.1 hcovered
    rw [mem_lit] at hlit
    exact ⟨p.1, p.2, hlit, k, hk, hcovers⟩

/-- The places that are lit after a sprite are those lit before or covered, but not both. -/
theorem lit_flipSprite (h : rows.length ≤ 32) :
    (s.flipSprite left top rows).lit = symmDiff s.lit (Sprite.places left top rows) := by
  ext p
  rw [mem_lit, s.pixel_flipSprite h, Finset.mem_symmDiff, mem_lit, Bool.xor_iff_ne]
  by_cases hcovered : p ∈ Sprite.places left top rows
  · simp [hcovered]
  · simp [hcovered]

/-- The screens before and after a sprite differ at the places that it covers. -/
theorem diff_flipSprite (h : rows.length ≤ 32) :
    s.diff (s.flipSprite left top rows) = Sprite.places left top rows := by
  rw [diff, s.lit_flipSprite h, symmDiff_symmDiff_cancel_left]

/-- **What a sprite adds to the lit pixels**: its set bits, less twice those that were lit
before. -/
theorem litCount_flipSprite (h : rows.length ≤ 32) :
    (s.flipSprite left top rows).litCount + 2 * (Sprite.places left top rows ∩ s.lit).card =
      s.litCount + (Sprite.bits rows).card := by
  rw [← card_lit, ← card_lit, s.lit_flipSprite h, ← Sprite.card_places h]
  exact Place.card_symmDiff s.lit (Sprite.places left top rows)

end Screen

end ChipEight
