import ChipEight.Screen.Picture
import ChipEight.Proofs.Screen.Counting

/-! # The planes of a screen

The lit points of a screen and the unlit ones are two lists that share the screen between them:
every pixel has its point in one of them, once, and no other point is in either.

* `Screen.mem_plane`: which points a plane has;
* `Screen.pairwise_plane`: they stand in the order in which text is read;
* `Screen.count_planes`: both planes together have every pixel once;
* `Screen.length_plane`: the lit plane is as long as pixels are counted;
* `Canvas.contains_of_mem_plane`: no point lies outside the canvas. -/

namespace ChipEight

namespace Point

/-- A point is met before another one, row by row and from left to right. -/
def Before (p q : Point) : Prop := p.depth < q.depth ∨ p.depth = q.depth ∧ p.x < q.x

/-- A point is not met before itself. -/
theorem Before.ne {p q : Point} (h : p.Before q) : p ≠ q := by
  rintro rfl
  rcases h with hdepth | ⟨-, hx⟩
  · exact Nat.lt_irrefl _ hdepth
  · exact Nat.lt_irrefl _ hx

/-- The point of a place on the screen. -/
def ofPlace (place : Place) : Point := ⟨place.1, place.2⟩

/-- Different places have different points. -/
theorem ofPlace_injective : Function.Injective ofPlace := by
  intro place place' h
  obtain ⟨hx, hy⟩ := Point.mk.inj h
  exact Prod.ext (Fin.ext hx) (Fin.ext hy)

end Point

namespace Screen

variable (s : Screen) (lit : Bool)

/-- The points of one row of a plane. -/
def planeRow (y : Nat) : List Point :=
  ((List.range width).filter fun x => s.pixel x y == lit).map fun x => ⟨x, y⟩

/-- A plane is made of its rows. -/
theorem plane_eq_flatMap : s.plane lit = (List.range height).flatMap (s.planeRow lit) := rfl

/-- A row of a plane has the points of its row whose pixels are lit, or are not. -/
theorem mem_planeRow {y : Nat} {p : Point} :
    p ∈ s.planeRow lit y ↔ p.x < 64 ∧ p.depth = y ∧ s.pixel p.x y = lit := by
  rw [planeRow, List.mem_map]
  constructor
  · rintro ⟨x, hx, rfl⟩
    rw [List.mem_filter, List.mem_range, beq_iff_eq] at hx
    exact ⟨hx.1, rfl, hx.2⟩
  · rintro ⟨hx, rfl, hlit⟩
    exact ⟨p.x, List.mem_filter.2 ⟨List.mem_range.2 hx, beq_iff_eq.2 hlit⟩, rfl⟩

/-- **A plane has the points of exactly those pixels** that are lit, or that are not. -/
theorem mem_plane {p : Point} :
    p ∈ s.plane lit ↔ (p.x < 64 ∧ p.depth < 32) ∧ s.pixel p.x p.depth = lit := by
  rw [plane_eq_flatMap, List.mem_flatMap]
  constructor
  · rintro ⟨y, hy, hp⟩
    obtain ⟨hx, rfl, hlit⟩ := (s.mem_planeRow lit).1 hp
    exact ⟨⟨hx, List.mem_range.1 hy⟩, hlit⟩
  · rintro ⟨⟨hx, hy⟩, hlit⟩
    exact ⟨p.depth, List.mem_range.2 hy, (s.mem_planeRow lit).2 ⟨hx, rfl, hlit⟩⟩

/-- The points of a row stand from left to right. -/
theorem pairwise_planeRow (y : Nat) : (s.planeRow lit y).Pairwise Point.Before := by
  rw [planeRow, List.pairwise_map]
  exact (List.pairwise_lt_range.filter _).imp fun hlt => Or.inr ⟨rfl, hlt⟩

/-- **The points of a plane stand row by row**, and those of a row from left to right. -/
theorem pairwise_plane : (s.plane lit).Pairwise Point.Before := by
  rw [plane_eq_flatMap, List.pairwise_flatMap]
  refine ⟨fun y _ => s.pairwise_planeRow lit y, List.pairwise_lt_range.imp ?_⟩
  intro y y' hlt p hp q hq
  obtain ⟨-, rfl, -⟩ := (s.mem_planeRow lit).1 hp
  obtain ⟨-, rfl, -⟩ := (s.mem_planeRow lit).1 hq
  exact Or.inl hlt

/-- No point stands twice in a plane. -/
theorem nodup_plane : (s.plane lit).Nodup := (s.pairwise_plane lit).imp Point.Before.ne

/-- A plane has a point once if it has it at all. -/
theorem count_plane (p : Point) :
    (s.plane lit).count p =
      if (p.x < 64 ∧ p.depth < 32) ∧ s.pixel p.x p.depth = lit then 1 else 0 := by
  simp only [(s.nodup_plane lit).count, mem_plane]

/-- **Both planes together have every pixel once**, and nothing else. -/
theorem count_planes (p : Point) :
    (s.plane true ++ s.plane false).count p = if p.x < 64 ∧ p.depth < 32 then 1 else 0 := by
  rw [List.count_append, count_plane, count_plane]
  by_cases hin : p.x < 64 ∧ p.depth < 32
  · cases s.pixel p.x p.depth <;> simp [hin]
  · simp [hin]

/-- The lit plane has the points of the lit places. -/
theorem toFinset_plane : (s.plane true).toFinset = s.lit.image Point.ofPlace := by
  ext p
  rw [List.mem_toFinset, mem_plane, Finset.mem_image]
  constructor
  · rintro ⟨⟨hx, hy⟩, hlit⟩
    exact ⟨(⟨p.x, hx⟩, ⟨p.depth, hy⟩), s.mem_lit.2 hlit, rfl⟩
  · rintro ⟨place, hlit, rfl⟩
    exact ⟨⟨place.1.isLt, place.2.isLt⟩, s.mem_lit.1 hlit⟩

/-- **The lit plane is as long as lit pixels are counted.** -/
theorem length_plane : (s.plane true).length = s.litCount := by
  rw [← List.toFinset_card_of_nodup (s.nodup_plane true), toFinset_plane,
    Finset.card_image_of_injective _ Point.ofPlace_injective, card_lit]

end Screen

namespace Canvas

/-- The first coordinate of the screen's canvas ends where the screen does. -/
theorem right_ofScreen : ofScreen.right = 63 := Double.nearest_of_lt (by decide)

/-- So does the second one. -/
theorem bottom_ofScreen : ofScreen.bottom = 31 := Double.nearest_of_lt (by decide)

/-- The canvas of the screen has the points of its pixels and no others. -/
theorem contains_ofScreen_iff {p : Point} : ofScreen.Contains p ↔ p.x < 64 ∧ p.depth < 32 := by
  rw [Contains, right_ofScreen, bottom_ofScreen, Nat.lt_succ_iff, Nat.lt_succ_iff]

/-- The points of a plane lie on the canvas. -/
theorem contains_of_mem_plane {s : Screen} {lit : Bool} {p : Point} (h : p ∈ s.plane lit) :
    ofScreen.Contains p :=
  contains_ofScreen_iff.2 ((s.mem_plane lit).1 h).1

end Canvas

end ChipEight
