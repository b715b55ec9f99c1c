/-! # Whole numbers in double precision

A double-precision number has a significand of 53 bits. `nearest n` is the whole number of that
precision that is nearest to `n`, with ties to the even significand, and `numeral n` its shortest
decimal numeral:

* below `10 ^ 16` all digits are written, with `.0` after them;
* from there on the fewest digits that round to the number again are written, in scientific form. -/

namespace ChipEight.Double

/-- The quotient `n / d` rounded to the nearest whole number, and a half to the even one. -/
def roundDiv (n d : Nat) : Nat :=
  if 2 * (n % d) < d ∨ 2 * (n % d) = d ∧ n / d % 2 = 0 then n / d else n / d + 1

/-- The gap between neighbouring double-precision numbers around `n`, or 1 where all whole numbers
have double precision. -/
def unit (n : Nat) : Nat := 1 <<< (n.log2 - 52)

/-- The double-precision number nearest to `n`. -/
def nearest (n : Nat) : Nat := roundDiv n (unit n) * unit n

/-! ### Numerals -/

/-- The multiples of `10 ^ k` next to `n`, if one of them is taken for `n` when it is read in double
precision; of two, the nearer. -/
def shortened? (n k : Nat) : Option Nat :=
  let gap := Nat.pow 10 k
  let below := n / gap * gap
  let above := below + gap
  let near := if 2 * (n - below) ≤ gap then [below, above] else [above, below]
  near.find? fun m => nearest m = nearest n

/-- The number with the fewest significant digits that is taken for `n` in double precision: the
first hit on ever finer decimal grids, of which `10 ^ k` is the coarsest. -/
def shortest (n : Nat) : (k : Nat) → Nat
  | 0 => n
  | k + 1 => (shortened? n (k + 1)).getD (shortest n k)

/-- Digits in scientific form: the first one, a point if more follow, and the power of ten. -/
def scientific (digits : List Char) (exponent : Nat) : String :=
  match digits with
  | [] => "0"
  | d :: [] => String.ofList [d] ++ "e" ++ toString exponent
  | d :: rest => String.ofList (d :: '.' :: rest) ++ "e" ++ toString exponent

/-- The shortest numeral of a whole number of double precision. -/
def numeral (n : Nat) : String :=
  if n < Nat.pow 10 16 then toString n ++ ".0"
  else
    let digits := Nat.toDigits 10 (shortest n (Nat.toDigits 10 n).length)
    let significant := (digits.reverse.dropWhile (· = '0')).reverse
    scientific significant (digits.length - 1)

/-- Up to `2 ^ 53` every whole number has double precision. -/
theorem nearest_of_lt {n : Nat} (h : n < 1 <<< 53) : nearest n = n := by
  have hlog : n.log2 - 52 = 0 := by
    by_cases hn : n = 0
    · subst hn; rfl
    · rw [Nat.one_shiftLeft] at h
      have := (Nat.log2_lt hn).2 h
      omega
  simp [nearest, unit, hlog, roundDiv, Nat.mod_one]

end ChipEight.Double
