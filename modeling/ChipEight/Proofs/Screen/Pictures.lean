import ChipEight.Proofs.Screen.Counting
import ChipEight.Screen.Picture

/-! # Pictures of screens

The picture of a screen is as good as the screen itself. Every line of it has the same length, so
the mark of a pixel stands where its coordinates say, and can be read back from there.

* `Screen.marks`: the marks of a screen, line by line;
* `Screen.getElem?_pictureChars`: where the mark of a pixel stands in the text;
* `Screen.ofPicture_picture`: the picture is read back as the screen that it shows;
* `Screen.count_pictureChars`: it has a `#` for every lit pixel;
* `Screen.picture_is_lossless`: all of it together. -/

namespace ChipEight

/-- The mark of a pixel tells whether it is lit. -/
theorem pixelMark_eq_hash_iff {lit : Bool} : pixelMark lit = '#' ↔ lit = true := by
  cases lit <;> decide

/-- There are no marks but two. -/
theorem pixelMark_eq_hash_or_dot (lit : Bool) : pixelMark lit = '#' ∨ pixelMark lit = '.' := by
  cases lit <;> decide

namespace Row

variable (r : Row)

/-- A line has a mark for every pixel, and its end. -/
theorem length_line : r.line.length = 65 := by
  rw [line, List.length_append, List.length_map, Vector.length_toList]
  rfl

/-- The marks of a line stand in the order of the pixels. -/
theorem getElem?_line {x : Nat} (hx : x < 64) : r.line[x]? = some (pixelMark r[x]) := by
  have hlt : x < (r.toList.map pixelMark).length := by
    rw [List.length_map, Vector.length_toList]
    exact hx
  rw [line, List.getElem?_append_left hlt, List.getElem?_map, Vector.getElem?_toList,
    Vector.getElem?_eq_getElem hx, Option.map_some]

/-- A line has a `#` for every lit pixel; its end is none. -/
theorem count_line : r.line.count '#' = r.count true := by
  have hmarks : (r.toList.map pixelMark).count '#' = r.toList.count true := by
    rw [List.count, List.countP_map, List.count]
    refine List.countP_congr fun lit _ => ?_
    rw [Function.comp_apply, beq_iff_eq, beq_iff_eq, pixelMark_eq_hash_iff]
  rw [line, List.count_append, hmarks, Vector.count_toList]
  rfl

end Row

/-- A character of some lines is found in its line, since all lines before it are of one length. -/
theorem getElem?_flatMap_line (rows : List Row) (y : Nat) {k : Nat} (hk : k < 65) :
    (rows.flatMap Row.line)[65 * y + k]? = rows[y]?.bind fun r => r.line[k]? := by
  induction rows generalizing y with
  | nil => rfl
  | cons r rest ih =>
    have hlength := r.length_line
    rw [List.flatMap_cons]
    cases y with
    | zero =>
      rw [Nat.mul_zero, Nat.zero_add, List.getElem?_append_left (by omega)]
      rfl
    | succ y =>
      have hrest : 65 * (y + 1) + k - r.line.length = 65 * y + k := by omega
      rw [List.getElem?_append_right (by omega), hrest, ih, List.getElem?_cons_succ]

namespace Screen

variable (s : Screen)

/-- The marks of the pixels, line by line. -/
def marks : Vector (Vector Char 64) 32 := s.rows.map fun r => r.map pixelMark

/-- The picture is made of lines of marks. -/
theorem pictureChars_eq_marks :
    s.pictureChars = s.marks.toList.flatMap fun line => line.toList ++ ['\n'] := by
  rw [pictureChars, marks, Vector.toList_map, List.flatMap_map]
  simp only [Vector.toList_map]
  rfl

/-- Coordinates wrap at both edges, as often as one likes. -/
theorem pixel_add_mul (x y i j : Nat) : s.pixel (x + 64 * i) (y + 32 * j) = s.pixel x y := by
  simp only [pixel, row, Nat.add_mul_mod_self_left]

/-- A mark tells of the pixel in its place. -/
theorem get_marks (y : Fin 32) (x : Fin 64) :
    (s.marks.get y).get x = pixelMark (s.pixel x y) := by
  show s.marks[y][x] = _
  rw [pixel_fin]
  simp [marks]

/-- **The mark of a pixel stands where its coordinates say.** -/
theorem getElem?_pictureChars {x y : Nat} (hx : x < 64) (hy : y < 32) :
    s.pictureChars[65 * y + x]? = some (pixelMark (s.pixel x y)) := by
  have hpixel : s.pixel x y = s.rows[y][x] := s.pixel_fin ⟨x, hx⟩ ⟨y, hy⟩
  rw [pictureChars, getElem?_flatMap_line _ y (Nat.lt_succ_of_lt hx), Vector.getElem?_toList,
    Vector.getElem?_eq_getElem hy, hpixel]
  exact Row.getElem?_line _ hx

@[simp] theorem toList_picture : s.picture.toList = s.pictureChars := String.toList_ofList

/-- **A picture is read back as the screen that it shows.** -/
theorem ofPicture_picture : ofPicture s.picture = s := by
  refine ext_pixel fun x y => ?_
  have hx : x % 64 < 64 := Nat.mod_lt x (by decide)
  have hy : y % 32 < 32 := Nat.mod_lt y (by decide)
  have hmark := s.getElem?_pictureChars hx hy
  have hpixel : s.pixel (x % 64) (y % 32) = s.pixel x y := by
    simp only [pixel, row, Nat.mod_mod]
  rw [hpixel] at hmark
  show (ofPicture s.picture).rows[y % 32][x % 64] = _
  simp only [ofPicture, Vector.getElem_ofFn, toList_picture, List.getElem?_toArray, hmark]
  rw [Bool.eq_iff_iff, beq_iff_eq, Option.some_inj, pixelMark_eq_hash_iff]

/-- Different screens have different pictures. -/
theorem picture_injective : Function.Injective picture :=
  Function.LeftInverse.injective ofPicture_picture

/-- **A picture has a `#` for every lit pixel.** -/
theorem count_pictureChars : s.pictureChars.count '#' = s.litCount := by
  rw [pictureChars, List.count_flatMap, litCount_eq_sum_map]
  refine congrArg List.sum (List.map_congr_left fun r _ => ?_)
  exact r.count_line

/-- **A picture loses nothing.**

* It has thirty-two lines of sixty-four marks, and every line has its end. A mark is a `#` or a `.`,
  and a `#` exactly if the pixel is lit that the place of the mark names, in whatever way its
  coordinates are wrapped.
* Read back, it gives the same screen, so that screens with the same picture are equal.
* It has a `#` for every lit pixel, and no pixel is lit if and only if the screen is blank. -/
theorem picture_is_lossless :
    (∃ marks : Vector (Vector Char 64) 32,
      s.picture = String.ofList (marks.toList.flatMap fun line => line.toList ++ ['\n']) ∧
      ∀ (y : Fin 32) (x : Fin 64), ((marks.get y).get x = '#' ∨ (marks.get y).get x = '.') ∧
        ∀ i j, (marks.get y).get x = '#' ↔ s.pixel (x + 64 * i) (y + 32 * j) = true) ∧
      ofPicture s.picture = s ∧ (∀ t : Screen, s.picture = t.picture ↔ s = t) ∧
      s.picture.toList.count '#' = s.litCount ∧ (s.litCount = 0 ↔ s.isBlank = true) := by
  refine ⟨⟨s.marks, ?_, fun y x => ?_⟩, s.ofPicture_picture,
    fun t => picture_injective.eq_iff, ?_, ?_⟩
  · rw [picture, pictureChars_eq_marks]
  · rw [get_marks]
    refine ⟨pixelMark_eq_hash_or_dot _, fun i j => ?_⟩
    rw [pixel_add_mul, pixelMark_eq_hash_iff]
  · rw [toList_picture, count_pictureChars]
  · rw [isBlank, beq_iff_eq]

end Screen

end ChipEight
