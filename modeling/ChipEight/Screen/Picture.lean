import ChipEight.Screen.Basic
import ChipEight.Number.Double

/-! # The screen as text and as points

`Screen.picture` is a line of text for every row, a `#` for every lit pixel and a `.` for every
other. `Screen.ofPicture` reads such a text back.

To paint a screen on a plane, its lit and its unlit pixels are taken as two sets of points. A
point's first coordinate grows to the right as on the screen. The second one grows upwards, so the
rows of the screen lie at and below zero: a row at depth `y` has the coordinate `-y`.

* `Screen.plane`: the lit or the unlit points, row by row;
* `Canvas`: the part of the plane that a screen of some size takes up. -/

namespace ChipEight

/-- The character that shows a pixel. -/
def pixelMark (lit : Bool) : Char := if lit then '#' else '.'

/-- A row of pixels as a line, with its end. -/
def Row.line (r : Row) : List Char := r.toList.map pixelMark ++ ['\n']

namespace Screen

/-- The characters of the picture, line after line. -/
def pictureChars (s : Screen) : List Char := s.rows.toList.flatMap Row.line

/-- The screen as text. -/
def picture (s : Screen) : String := String.ofList s.pictureChars

/-- The screen that a text shows: the mark of the pixel at `x` and `y` is character `65 * y + x`,
and a pixel is lit where it is a `#`. -/
def ofPicture (text : String) : Screen :=
  let marks := text.toList.toArray
  ⟨Vector.ofFn fun y => Vector.ofFn fun x => marks[(width + 1) * y.val + x.val]? == some '#'⟩

end Screen

/-! ### Points -/

/-- A point of the plane, `x` to the right and `depth` below the origin. -/
structure Point where
  x : Nat
  depth : Nat
deriving DecidableEq, Repr

/-- The numeral of a coordinate at some depth. It carries a sign also at the origin. -/
def depthNumeral (depth : Nat) : String := "-" ++ Double.numeral depth

/-- A point, as its two coordinates. -/
def Point.render (p : Point) : String := Double.numeral p.x ++ "," ++ depthNumeral p.depth

/-- The points of the pixels that are lit, or of those that are not, row by row. -/
def Screen.plane (s : Screen) (lit : Bool) : List Point :=
  (List.range Screen.height).flatMap fun y =>
    ((List.range Screen.width).filter fun x => s.pixel x y == lit).map fun x => ⟨x, y⟩

/-- The area that a screen takes up on the plane. -/
structure Canvas where
  width : Nat
  height : Nat

namespace Canvas

/-- The canvas of the machine's own screen. -/
def ofScreen : Canvas := ⟨Screen.width, Screen.height⟩

/-- The greatest first coordinate, in double precision. -/
def right (c : Canvas) : Nat := Double.nearest (c.width - 1)

/-- The greatest depth, in double precision. -/
def bottom (c : Canvas) : Nat := Double.nearest (c.height - 1)

/-- The range of the first coordinate. -/
def horizontal (c : Canvas) : String :=
  "[" ++ Double.numeral 0 ++ ", " ++ Double.numeral c.right ++ "]"

/-- The range of the second coordinate, from the lowest to the highest. -/
def vertical (c : Canvas) : String :=
  "[" ++ depthNumeral c.bottom ++ ", " ++ Double.numeral 0 ++ "]"

/-- Whether a point lies on the canvas. -/
def Contains (c : Canvas) (p : Point) : Prop := p.x ≤ c.right ∧ p.depth ≤ c.bottom

instance (c : Canvas) (p : Point) : Decidable (c.Contains p) := inferInstanceAs (Decidable (_ ∧ _))

end Canvas

end ChipEight
