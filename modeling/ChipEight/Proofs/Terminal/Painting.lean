import ChipEight.Terminal.Monitor
import ChipEight.Proofs.Screen.Planes
import ChipEight.Proofs.Screen.Strokes

/-! # What is painted

A screen is painted inside its frame: the unlit plane in black, and the lit one in white. Since the
planes share the screen between them, every cell inside the frame is painted, and what it showed
before cannot be told.

* `Grid.cell_plot`: a cell inside the frame after some points are painted;
* `Grid.Shows`: inside its frame a grid shows a screen, and `Grid.shows_show`: that is what painting
  leads to;
* `Placement`: where a canvas shows the points of the plane, and `Grid.showThrough`: painting
  through it;
* `drawAll`: drawing screens one after another. -/

namespace ChipEight.Terminal

/-! ### Where a canvas shows points -/

/-- In which of its columns and rows a canvas shows a point, if it shows it. -/
abbrev Placement := Canvas → Point → Option (Nat × Nat)

namespace Placement

/-- The points of the pixels are shown in the column and the row that their coordinates name. -/
def IsExact (place : Placement) : Prop :=
  ∀ p : Point, p.x < 64 ∧ p.depth < 32 → place Canvas.ofScreen p = some (p.x, p.depth)

/-- The placement that spreads a canvas over so many columns and rows, from the first to the last
one. -/
def spread (columns rows : Nat) : Placement := fun c p =>
  if c.Contains p ∧ c.right ≠ 0 ∧ c.bottom ≠ 0 then
    some (p.x * (columns - 1) / c.right, p.depth * (rows - 1) / c.bottom)
  else none

/-- Spread over as many columns and rows as the screen has, its points stay where they are. -/
theorem isExact_spread : (spread 64 32).IsExact := by
  intro p hin
  have hcontains := Canvas.contains_ofScreen_iff.2 hin
  rw [spread, Canvas.right_ofScreen, Canvas.bottom_ofScreen,
    if_pos ⟨hcontains, by decide, by decide⟩, Nat.mul_div_cancel _ (by decide),
    Nat.mul_div_cancel _ (by decide)]

end Placement

namespace Grid

/-! ### Painted points -/

/-- A cell inside the frame after some points have been painted. -/
theorem cell_plot (g : Grid) (colour : Colour) (points : List Point) {p : Point}
    (hin : p.x < 64 ∧ p.depth < 32) :
    (g.plot colour points).cell (p.x + 1) (p.depth + 1) =
      if p ∈ points then pixelCell colour else g.cell (p.x + 1) (p.depth + 1) := by
  induction points generalizing g with
  | nil => rfl
  | cons q rest ih =>
    show ((g.put (q.x + 1) (q.depth + 1) (pixelCell colour)).plot colour rest).cell _ _ = _
    rw [ih, cell_put]
    by_cases hq : q = p
    · subst hq
      have hhere : q.x + 1 = q.x + 1 ∧ q.depth + 1 = q.depth + 1 ∧ q.x + 1 < 80 ∧
          q.depth + 1 < 40 := ⟨rfl, rfl, by omega, by omega⟩
      rw [if_pos hhere, ite_self, if_pos List.mem_cons_self]
    · have helsewhere : ¬(q.x + 1 = p.x + 1 ∧ q.depth + 1 = p.depth + 1 ∧ q.x + 1 < 80 ∧
          q.depth + 1 < 40) := fun ⟨hx, hdepth, _⟩ =>
        hq ((Point.mk.injEq _ _ _ _).mpr ⟨Nat.succ.inj hx, Nat.succ.inj hdepth⟩)
      simp only [if_neg helsewhere, List.mem_cons, Ne.symm hq, false_or]

/-- The cell that stands for a lit pixel, or for one that is not. -/
def litCell (lit : Bool) : Cell := pixelCell (if lit then .white else .black)

/-- The cell of a lit pixel is white, and that of another one is not. -/
theorem fore_litCell_eq_white_iff {lit : Bool} : (litCell lit).fore = .white ↔ lit = true := by
  cases lit <;> decide

/-- The cells of lit and unlit pixels differ. -/
theorem litCell_injective : Function.Injective litCell := by
  intro lit lit' h
  rw [Bool.eq_iff_iff, ← fore_litCell_eq_white_iff, h, fore_litCell_eq_white_iff]

/-- Inside its frame a grid shows a screen: its cells stand for the pixels. -/
def Shows (g : Grid) (s : Screen) : Prop :=
  ∀ p : Point, p.x < 64 ∧ p.depth < 32 →
    g.cell (p.x + 1) (p.depth + 1) = litCell (s.pixel p.x p.depth)

/-- **What is painted inside the frame is the screen**, whatever was there before. -/
theorem shows_show (g : Grid) (s : Screen) : (g.show s).Shows s := by
  intro p hin
  rw [Grid.show, cell_plot _ _ _ hin, cell_plot _ _ _ hin]
  simp only [Screen.mem_plane, hin, and_self, true_and]
  -- A pixel that is not in the lit plane is in the other one, so that no older cell is left.
  cases s.pixel p.x p.depth <;> rfl

/-- Two grids agree inside the frame. -/
def SameInside (g g' : Grid) : Prop :=
  ∀ p : Point, p.x < 64 ∧ p.depth < 32 →
    g.cell (p.x + 1) (p.depth + 1) = g'.cell (p.x + 1) (p.depth + 1)

/-- **Grids that agree inside the frame show the same screen.** -/
theorem SameInside.screen_eq {g g' : Grid} {s t : Screen} (h : SameInside g g') (hs : g.Shows s)
    (ht : g'.Shows t) : s = t := by
  have hinside (p : Point) (hin : p.x < 64 ∧ p.depth < 32) :
      s.pixel p.x p.depth = t.pixel p.x p.depth :=
    litCell_injective ((hs p hin).symm.trans ((h p hin).trans (ht p hin)))
  -- Any other coordinates wrap to those of such a point.
  refine Screen.ext_pixel fun x y => ?_
  have hx : x % 64 % 64 = x % 64 := Nat.mod_mod x 64
  have hy : y % 32 % 32 = y % 32 := Nat.mod_mod y 32
  rw [← s.pixel_congr hx hy, ← t.pixel_congr hx hy]
  exact hinside ⟨x % 64, y % 32⟩ ⟨Nat.mod_lt x (by decide), Nat.mod_lt y (by decide)⟩

/-! ### Painting through a canvas -/

/-- The grid with the points of a plane painted where a canvas shows them, inside the frame. -/
def plotThrough (place : Point → Option (Nat × Nat)) (g : Grid) (colour : Colour)
    (points : List Point) : Grid :=
  points.foldl (fun g p => match place p with
    | some (column, row) => g.put (column + 1) (row + 1) (pixelCell colour)
    | none => g) g

/-- A canvas that shows points where their coordinates are paints like a plane. -/
theorem plotThrough_eq_plot {place : Point → Option (Nat × Nat)} {points : List Point}
    (h : ∀ p ∈ points, place p = some (p.x, p.depth)) (g : Grid) (colour : Colour) :
    g.plotThrough place colour points = g.plot colour points := by
  induction points generalizing g with
  | nil => rfl
  | cons q rest ih =>
    rw [List.forall_mem_cons] at h
    rw [plotThrough, List.foldl_cons, h.1]
    exact ih h.2 _

/-- Show a screen in its frame through a canvas that shows points where the placement has them. -/
def showThrough (place : Placement) (g : Grid) (s : Screen) : Grid :=
  let shown := place Canvas.ofScreen
  (g.writeFrame.plotThrough shown .black (s.plane false)).plotThrough shown .white (s.plane true)

/-- Through a canvas that keeps the pixels where they are a screen is painted as without one. -/
theorem showThrough_eq_show {place : Placement} (h : place.IsExact) :
    showThrough place = Grid.show := by
  funext g s
  have hplane (lit : Bool) : ∀ p ∈ s.plane lit, place Canvas.ofScreen p = some (p.x, p.depth) :=
    fun p hp => h p ((s.mem_plane lit).1 hp).1
  rw [showThrough, plotThrough_eq_plot (hplane false), plotThrough_eq_plot (hplane true), Grid.show]

end Grid

/-! ### Sequences of screens -/

/-- Draw screens one after another, as long as none of them fails. -/
def drawAll [Display δ] (d : δ) : List Screen → Outcome String δ
  | [] => .done d
  | s :: rest => (Display.draw d s).andThen fun d => drawAll d rest

/-- To draw screens on a terminal does not fail, and paints one over the other. -/
theorem drawAll_monitor (m : Monitor) (screens : List Screen) :
    drawAll m screens = .done { m with grid := screens.foldl Grid.show m.grid } := by
  induction screens generalizing m with
  | nil => rfl
  | cons s rest ih => exact ih _

/-- **The painted screen is exactly the frame.** The lit and the unlit plane together have the point
of every pixel once and no others; the lit plane has those of the lit pixels, as many as are
counted; and each plane stands row by row and inside the bounds of the canvas. Through a canvas that
shows these points in the cells with their coordinates, a cell inside the frame turns white if its
pixel is lit, and black if not, whatever it was before. So the last of any screens that are drawn is
the one that is seen, and two screens that cannot be told apart when they are painted are equal. -/
theorem painted_screen_is_the_last_one_drawn {place : Placement} (hplace : place.IsExact) :
    (∀ s : Screen,
      (∀ p : Point, (s.plane true ++ s.plane false).count p =
        if p.x < 64 ∧ p.depth < 32 then 1 else 0) ∧
      (∀ p : Point, p ∈ s.plane true ↔
        (p.x < 64 ∧ p.depth < 32) ∧ s.pixel p.x p.depth = true) ∧
      (s.plane true).length = s.litCount ∧
      ∀ lit, (s.plane lit).Pairwise Point.Before ∧
        ∀ p ∈ s.plane lit, Canvas.ofScreen.Contains p) ∧
    (Canvas.ofScreen.right = 63 ∧ Canvas.ofScreen.bottom = 31) ∧
    (∀ (g : Grid) (s : Screen) (p : Point), p.x < 64 ∧ p.depth < 32 →
      let cell := (g.showThrough place s).cell (p.x + 1) (p.depth + 1)
      cell = Grid.pixelCell (if s.pixel p.x p.depth then .white else .black) ∧
        (cell.fore = .white ↔ s.pixel p.x p.depth = true)) ∧
    (∀ (m : Monitor) (earlier : List Screen) (s : Screen), ∃ m' : Monitor,
      drawAll m (earlier ++ [s]) = .done m' ∧
      m'.grid = (earlier ++ [s]).foldl (Grid.showThrough place) m.grid ∧ m'.grid.Shows s) ∧
    ∀ (g g' : Grid) (s t : Screen),
      Grid.SameInside (g.showThrough place s) (g'.showThrough place t) → s = t := by
  rw [Grid.showThrough_eq_show hplace]
  refine ⟨fun s => ⟨s.count_planes, fun p => s.mem_plane true, s.length_plane,
      fun lit => ⟨s.pairwise_plane lit, fun p hp => Canvas.contains_of_mem_plane hp⟩⟩,
    ⟨Canvas.right_ofScreen, Canvas.bottom_ofScreen⟩, fun g s p hin => ?_,
    fun m earlier s => ⟨_, drawAll_monitor m _, rfl, ?_⟩, fun g g' s t hsame => ?_⟩
  · have hcell := g.shows_show s p hin
    exact ⟨hcell, (congrArg (fun c : Cell => c.fore = .white) hcell).to_iff.trans
      Grid.fore_litCell_eq_white_iff⟩
  · show ((earlier ++ [s]).foldl Grid.show m.grid).Shows s
    rw [List.foldl_append]
    exact Grid.shows_show _ s
  · exact hsame.screen_eq (g.shows_show s) (g'.shows_show t)

/-- A sprite row that wraps around the right edge lights the last pixel of all, and its cell is
white. After the blank screen is drawn over it, the cell is black. -/
theorem painted_screen_is_the_last_one_drawn_in_the_corner :
    let place := Placement.spread 64 32
    let wrapped := Screen.blank.flip 60 31 0xFF
    place.IsExact ∧ (wrapped.plane true ++ wrapped.plane false).count ⟨63, 31⟩ = 1 ∧
      (⟨63, 31⟩ : Point) ∈ wrapped.plane true ∧
      ((Grid.blank.showThrough place wrapped).cell 64 32).fore = .white ∧
      ∃ m', drawAll Monitor.opened [wrapped, Screen.blank] = .done m' ∧
        (m'.grid.cell 64 32).fore = .black := by
  intro place wrapped
  have hlit : wrapped.pixel 63 31 = true := by
    rw [Screen.pixel_flip, Screen.pixel_blank]
    decide
  obtain ⟨hplanes, -, hcells, hdraws, -⟩ :=
    painted_screen_is_the_last_one_drawn Placement.isExact_spread
  obtain ⟨hcount, hmem, -⟩ := hplanes wrapped
  obtain ⟨m', hm', -, hshows⟩ := hdraws Monitor.opened [wrapped] Screen.blank
  have hin : 63 < 64 ∧ 31 < 32 := by decide
  refine ⟨Placement.isExact_spread, (hcount ⟨63, 31⟩).trans (if_pos hin),
    (hmem ⟨63, 31⟩).2 ⟨hin, hlit⟩, (hcells Grid.blank wrapped ⟨63, 31⟩ hin).2.2 hlit, m', hm', ?_⟩
  rw [hshows ⟨63, 31⟩ hin, Screen.pixel_blank]
  rfl

end ChipEight.Terminal
