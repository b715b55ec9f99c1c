import ChipEight.Device.Basic
import ChipEight.Terminal.Grid

/-! # The terminal as a display

While a terminal is used as a display its cursor is hidden. It is cleared when that begins, and
shows the latest screen when it ends.

* `Grid.reading`: a plane of the grid as text, which is what a person sees of it;
* `Grid.paint`: the text that makes a real terminal show a grid. It moves the cursor to the first
  cell of every row and writes the cells of the row, with a control sequence in front of every cell
  whose colours differ from those of the cell before it. -/

namespace ChipEight.Terminal

/-- A terminal as a display. -/
structure Monitor where
  grid : Grid
  /-- Whether the cursor can be seen. -/
  cursorVisible : Bool
deriving DecidableEq

namespace Monitor

/-- The terminal when it begins to be used: cleared, with its cursor hidden. -/
def opened : Monitor := ⟨Grid.blank, false⟩

/-- The terminal when it is no longer used. -/
def close (m : Monitor) : Monitor := { m with cursorVisible := true }

instance : Display Monitor where
  draw m screen := .done { m with grid := m.grid.show screen }

end Monitor

/-- The letter of a colour. -/
def Colour.letter : Colour → Char
  | .plain => '.'
  | .black => 'k'
  | .white => 'w'

namespace Grid

/-- Drop the blanks at the end of a list. -/
def trimEnd [BEq α] (blank : α) (xs : List α) : List α :=
  (xs.reverse.dropWhile (· == blank)).reverse

/-- One plane of the grid, row by row, without the blanks at the end of a row and without the blank
rows at the end. -/
def reading (g : Grid) (mark : Cell → Char) (blank : Char) : List String :=
  trimEnd "" ((List.range rows).map fun y =>
    String.ofList (trimEnd blank ((List.range columns).map fun x => mark (g.cell x y))))

/-- The characters of the grid. -/
def characters (g : Grid) : List String := g.reading Cell.character ' '

/-- The foreground colours of the grid. -/
def foreColours (g : Grid) : List String := g.reading (fun c => c.fore.letter) '.'

/-- The background colours of the grid. -/
def backColours (g : Grid) : List String := g.reading (fun c => c.back.letter) '.'

end Grid

/-! ### Painting a terminal -/

/-- A control sequence with the given ending. -/
def control (ending : String) : String := "\x1b[" ++ ending

/-- The number of a foreground colour in a control sequence; that of the background is greater by
ten. -/
def Colour.code : Colour → Nat
  | .plain => 39
  | .black => 30
  | .white => 37

/-- The control sequence that chooses the colours of a cell. -/
def Cell.colours (c : Cell) : String :=
  control (toString c.fore.code ++ ";" ++ toString (c.back.code + 10) ++ "m")

namespace Grid

/-- The text of some cells of a row, after a cell in given colours. -/
def paintCells (before : String) : List Cell → String
  | [] => ""
  | c :: rest =>
    (if c.colours = before then "" else c.colours) ++ c.character.toString ++
      paintCells c.colours rest

/-- The text of the first rows and columns of the grid. -/
def paint (g : Grid) (columns rows : Nat) : String :=
  let row (y : Nat) : String :=
    control (toString (y + 1) ++ ";1H") ++
      paintCells "" ((List.range columns).map fun x => g.cell x y)
  String.join ((List.range rows).map row) ++ control "0m"

end Grid

/-- Clear the terminal and hide its cursor. -/
def opening : String := control "2J" ++ control "1;1H" ++ control "?25l"

/-- Show the cursor again. -/
def closing : String := control "?25h"

end ChipEight.Terminal
