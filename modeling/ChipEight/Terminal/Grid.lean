import ChipEight.Screen.Picture

/-! # Terminal cells

A terminal shows a grid of 80 by 40 cells. A cell has a character, a foreground and a background
colour.

* `Grid.cell` and `Grid.put`: one cell;
* `Grid.write` and `Grid.plot`: a line of text, and the points of a plane;
* `Grid.show`: the screen of the machine inside its frame. -/

namespace ChipEight.Terminal

/-- A colour of the terminal. -/
inductive Colour where
  /-- The terminal's own colour. -/
  | plain
  | black
  | white
deriving DecidableEq, Repr

/-- One character cell. -/
structure Cell where
  character : Char := ' '
  fore : Colour := .plain
  back : Colour := .plain
deriving DecidableEq, Repr

/-- What a terminal shows, row by row. -/
structure Grid where
  cells : Vector Cell 3200
deriving DecidableEq

namespace Grid

/-- How many cells a row has. -/
abbrev columns : Nat := 80

/-- How many rows there are. -/
abbrev rows : Nat := 40

/-- A cleared terminal. -/
def blank : Grid := ⟨Vector.replicate 3200 {}⟩

/-- The cell in a column and a row. Outside the grid all cells are blank. -/
def cell (g : Grid) (column row : Nat) : Cell :=
  if column < columns then g.cells[80 * row + column]?.getD {} else {}

/-- The grid with one cell replaced. Outside the grid nothing changes. -/
def put (g : Grid) (column row : Nat) (c : Cell) : Grid :=
  if column < columns then ⟨g.cells.setIfInBounds (80 * row + column) c⟩ else g

/-- A cell that was put is found again, if it lies in the grid, and no other cell changes. -/
theorem cell_put (g : Grid) (column row column' row' : Nat) (c : Cell) :
    (g.put column row c).cell column' row' =
      if column = column' ∧ row = row' ∧ column < 80 ∧ row < 40 then c
      else g.cell column' row' := by
  split
  · rename_i h
    obtain ⟨rfl, rfl, hc, hr⟩ := h
    have hin : 80 * row + column < 3200 := by omega
    simp [put, cell, hc, hin]
  · rename_i h
    by_cases hc : column < 80 <;> by_cases hc' : column' < 80
    · by_cases he : 80 * row + column = 80 * row' + column'
      · have hout : ¬80 * row' + column' < 3200 := by omega
        simp [put, cell, hc, hc', he, hout]
      · simp [put, cell, hc, hc', he]
    all_goals simp [put, cell, hc, hc']

/-- The grid with a line of characters in it, all in the same colours. -/
def write (g : Grid) (column row : Nat) (back : Colour) : List Char → Grid
  | [] => g
  | c :: rest => (g.put column row { character := c, back }).write (column + 1) row back rest

/-- The block that stands for a pixel. -/
def pixelBlock : Char := '▄'

/-- The cell that stands for a pixel. -/
def pixelCell (colour : Colour) : Cell := { character := pixelBlock, fore := colour }

/-- The grid with the points of a plane painted. The frame around the screen is one cell wide, so
the point `(x, -y)` is painted in column `x + 1` and row `y + 1`. -/
def plot (g : Grid) (colour : Colour) (points : List Point) : Grid :=
  points.foldl (fun g p => g.put (p.x + 1) (p.depth + 1) (pixelCell colour)) g

/-! ### The screen in its frame -/

/-- The title in the upper edge of the frame. -/
def title : List Char := "CHIP-8".toList

/-- The upper edge of the frame, with the title in it. -/
def upperEdge : List Char :=
  ['┌'] ++ title ++ List.replicate (Screen.width - title.length) '─' ++ ['┐']

/-- The lower edge of the frame. -/
def lowerEdge : List Char := ['└'] ++ List.replicate Screen.width '─' ++ ['┘']

/-- The edges at both sides of a row. -/
def writeSides (g : Grid) (row : Nat) : Grid :=
  (g.write 0 row .black ['│']).write (Screen.width + 1) row .black ['│']

/-- The frame around the screen. -/
def writeFrame (g : Grid) : Grid :=
  ((List.range Screen.height).foldl (fun g y => g.writeSides (y + 1))
    (g.write 0 0 .black upperEdge)).write 0 (Screen.height + 1) .black lowerEdge

/-- Show a screen in its frame: the unlit pixels are painted black, and then the lit ones white. -/
def «show» (g : Grid) (screen : Screen) : Grid :=
  (g.writeFrame.plot .black (screen.plane false)).plot .white (screen.plane true)

end Grid

end ChipEight.Terminal
