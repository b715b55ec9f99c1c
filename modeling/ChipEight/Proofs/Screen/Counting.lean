import ChipEight.Screen.Basic
import Mathlib.Algebra.BigOperators.Fin
import Mathlib.Data.Fintype.Fin

/-! # Counting pixels

The lit pixels of a screen are counted row by row. Here they are a finite set of places, so that
what is known of sets and their sizes can be used of screens.

* `Screen.lit`: the places that are lit, and `Screen.card_lit`: there are as many of them as are
  counted;
* `Screen.diff`: the places at which two screens differ. -/

namespace ChipEight

/-- A place on the screen: a column and a line. -/
abbrev Place := Fin 64 × Fin 32

namespace Place

/-- Coordinates wrap, so any two numbers name a place. -/
theorem exists_mod_eq (px py : Nat) :
    ∃ p : Place, p.1.val % 64 = px % 64 ∧ p.2.val % 32 = py % 32 :=
  ⟨(Fin.ofNat 64 px, Fin.ofNat 32 py), Nat.mod_mod px 64, Nat.mod_mod py 32⟩

/-- Among the places in one of two sets those in both are missing twice. -/
theorem card_symmDiff (before covered : Finset Place) :
    (symmDiff before covered).card + 2 * (covered ∩ before).card =
      before.card + covered.card := by
  have hbefore : (before \ covered).card + (before ∩ covered).card = before.card :=
    Finset.card_sdiff_add_card_inter before covered
  have hcovered : (covered \ before).card + (covered ∩ before).card = covered.card :=
    Finset.card_sdiff_add_card_inter covered before
  have hone : (symmDiff before covered).card = (before \ covered).card + (covered \ before).card :=
    Finset.card_union_of_disjoint disjoint_sdiff_sdiff
  rw [Finset.inter_comm] at hbefore
  omega

end Place

/-- How many pixels of a row are lit. -/
theorem Row.count_eq_card (r : Row) :
    r.count true = (Finset.univ.filter fun x : Fin 64 => r[x] = true).card := by
  let pixels : List.Vector Bool 64 := ⟨r.toList, Vector.length_toList⟩
  have hcount := Fin.card_filter_univ_eq_vector_get_eq_count true pixels
  rw [← Vector.count_toList]
  exact hcount.symm

namespace Screen

variable (s : Screen)

/-- The places that are lit. -/
def lit : Finset Place := Finset.univ.filter fun p => s.pixel p.1 p.2 = true

/-- The lit places are those with a lit pixel. -/
@[simp] theorem mem_lit {p : Place} : p ∈ s.lit ↔ s.pixel p.1 p.2 = true := by
  rw [lit, Finset.mem_filter_univ]

/-- Coordinates on the screen need no wrapping. -/
theorem pixel_fin (x : Fin 64) (y : Fin 32) : s.pixel x y = s.rows[y][x] := by
  simp [pixel, row, Nat.mod_eq_of_lt x.isLt, Nat.mod_eq_of_lt y.isLt]

/-- The lit pixels are counted row by row. -/
theorem litCount_eq_sum_map : s.litCount = (s.rows.toList.map (Vector.count true)).sum := by
  rw [litCount, ← Vector.foldl_toList, List.sum_eq_foldl, List.foldl_map]

/-- The same count as a sum over the indices of the rows. -/
theorem litCount_eq_sum : s.litCount = ∑ y : Fin 32, s.rows[y].count true := by
  have hrows : s.rows.toList = List.ofFn fun y : Fin 32 => s.rows[y] := by
    rw [← Vector.toList_ofFn]
    simp
  rw [litCount_eq_sum_map, hrows, List.map_ofFn, List.sum_ofFn]
  rfl

/-- **There are as many lit places as are counted.** -/
theorem card_lit : s.lit.card = s.litCount := by
  rw [litCount_eq_sum, lit, Finset.card_filter, Fintype.sum_prod_type_right]
  refine Finset.sum_congr rfl fun y _ => ?_
  rw [Row.count_eq_card, Finset.card_filter]
  refine Finset.sum_congr rfl fun x _ => ?_
  rw [pixel_fin]

/-- The places at which two screens differ. -/
def diff (s t : Screen) : Finset Place := symmDiff s.lit t.lit

/-- Two screens differ at the places where their pixels do. -/
theorem mem_diff {s t : Screen} {p : Place} :
    p ∈ s.diff t ↔ t.pixel p.1 p.2 ≠ s.pixel p.1 p.2 := by
  rw [diff, Finset.mem_symmDiff, mem_lit, mem_lit]
  cases s.pixel p.1 p.2 <;> cases t.pixel p.1 p.2 <;> simp

-- To look whether a place is in this set would list all places.
attribute [irreducible] lit

end Screen

end ChipEight
