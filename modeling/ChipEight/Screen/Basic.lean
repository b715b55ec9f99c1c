/-! # The screen

The screen is a torus of 64 by 32 pixels, each lit or not: coordinates wrap at both edges, so every
pair of numbers names a pixel. Drawing is exclusive-or: a sprite row of eight pixels flips the
pixels under its set bits, and collides if one of them was lit. A sprite is a list of bytes, one for
each of its rows; it is drawn row by row from the top down, and collides if one of its rows does.

* `Screen.pixel`: the view through which everything else is stated;
* `Screen.flip` and `Screen.collides`: drawing one sprite row;
* `Screen.flipSprite` and `Screen.collidesSprite`: drawing a sprite;
* `Screen.litCount`: how many pixels are lit. -/

namespace ChipEight

/-- A row of pixels, from left to right. -/
abbrev Row := Vector Bool 64

namespace Row

/-- Whether a sprite row with its left edge at `left` has a set bit at `column`. Its first pixel is
the byte's highest bit. -/
def covers (left : Nat) (bits : UInt8) (column : Nat) : Bool :=
  let c := (column + 64 - left % 64) % 64
  c < 8 && bits.toNat.testBit (7 - c)

/-- The pixels that a sprite row covers. -/
def sprite (left : Nat) (bits : UInt8) : Row := Vector.ofFn fun c => covers left bits c

/-- The row with the pixels flipped that a second row marks. -/
def flip (r marks : Row) : Row := Vector.zipWith (· ^^ ·) r marks

/-- Whether some pixel is lit in both rows. -/
def meets (r marks : Row) : Bool := (Vector.zipWith (· && ·) r marks).any id

end Row

/-- The picture that a program draws. -/
structure Screen where
  /-- The rows of pixels, from top to bottom. -/
  rows : Vector Row 32
deriving DecidableEq

namespace Screen

/-- How many pixels a row has. -/
abbrev width : Nat := 64

/-- How many rows there are. -/
abbrev height : Nat := 32

/-- The screen with every pixel off. -/
def blank : Screen := ⟨Vector.replicate height (Vector.replicate width false)⟩

/-- The row at `y`, which wraps. -/
def row (s : Screen) (y : Nat) : Row := s.rows[y % 32]

/-- Whether the pixel at `x` and `y` is lit. Both coordinates wrap. -/
def pixel (s : Screen) (x y : Nat) : Bool := (s.row y)[x % 64]

/-- Flip the pixels that a sprite row covers, its left edge at `x` and `y`. -/
def flip (s : Screen) (x y : Nat) (bits : UInt8) : Screen :=
  ⟨s.rows.set (y % 32) ((s.row y).flip (Row.sprite x bits))⟩

/-- Whether a sprite row covers a lit pixel. -/
def collides (s : Screen) (x y : Nat) (bits : UInt8) : Bool :=
  (s.row y).meets (Row.sprite x bits)

/-- How many pixels are lit. -/
def litCount (s : Screen) : Nat := s.rows.foldl (fun lit r => lit + r.count true) 0

/-- Whether no pixel is lit. -/
def isBlank (s : Screen) : Bool := s.litCount == 0

/-- A blank screen has no lit pixel. -/
@[simp] theorem pixel_blank (x y : Nat) : blank.pixel x y = false := by
  simp [pixel, row, blank]

/-- Flipping a sprite row flips exactly the pixels that it covers. -/
theorem pixel_flip (s : Screen) (x y : Nat) (bits : UInt8) (px py : Nat) :
    (s.flip x y bits).pixel px py =
      (s.pixel px py ^^ (py % 32 == y % 32 && Row.covers x bits (px % 64))) := by
  by_cases h : y % 32 = py % 32
  · simp [pixel, row, flip, Row.flip, Row.sprite, h]
  · simp [pixel, row, flip, h, beq_false_of_ne (Ne.symm h)]

/-- Screens that show the same pixels are equal. -/
theorem ext_pixel {s t : Screen} (h : ∀ x y, s.pixel x y = t.pixel x y) : s = t := by
  cases s with | mk p => cases t with | mk q =>
  congr
  ext y hy x hx
  simpa [pixel, row, Nat.mod_eq_of_lt hx, Nat.mod_eq_of_lt hy] using h x y

/-! ### Sprites -/

/-- The screen after a sprite has been drawn with its top left corner at `left` and `top`. -/
def flipSprite (s : Screen) (left top : Nat) : List UInt8 → Screen
  | [] => s
  | bits :: rest => (s.flip left top bits).flipSprite left (top + 1) rest

/-- Whether a row of a sprite covers a pixel that is lit when it is drawn. -/
def collidesSprite (s : Screen) (left top : Nat) : List UInt8 → Bool
  | [] => false
  | bits :: rest =>
    s.collides left top bits || (s.flip left top bits).collidesSprite left (top + 1) rest

@[simp] theorem flipSprite_nil (s : Screen) (left top : Nat) : s.flipSprite left top [] = s := rfl

@[simp] theorem flipSprite_cons (s : Screen) (left top : Nat) (bits : UInt8) (rest : List UInt8) :
    s.flipSprite left top (bits :: rest) = (s.flip left top bits).flipSprite left (top + 1) rest :=
  rfl

end Screen

end ChipEight
