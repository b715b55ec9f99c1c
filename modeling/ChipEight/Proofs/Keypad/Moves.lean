import ChipEight.Proofs.Keypad.Keys

/-! # Moves of keys

A keypad on which keys have been moved is the set of the keys whose last move was down. It does not
matter how often a key has been moved before, nor how the moves of different keys alternate, and
keys that do not exist leave no trace.

* `Keypad.afterMoves`: the keypad after some moves, also if some of them have been refused;
* `Keypad.isPressed_afterMoves`: which keys are down then;
* `Keypad.moved_moved_comm`: moves of different keys may change places;
* `Keypad.lowest?_eq_ctz`: the lowest key as the number of the lowest bit that is set. -/

namespace ChipEight.Keypad

/-- A key that is put down or let up. -/
structure Move where
  key : UInt8
  down : Bool
deriving DecidableEq, Repr

/-- The keypad after some moves, one after the other. A move that is refused changes nothing. -/
def afterMoves (p : Keypad) (moves : List Move) : Keypad :=
  moves.foldl (fun p move => p.moved move.key move.down) p

@[simp] theorem afterMoves_nil (p : Keypad) : p.afterMoves [] = p := rfl

/-- Two lists of moves are made one after the other. -/
theorem afterMoves_append (p : Keypad) (first second : List Move) :
    p.afterMoves (first ++ second) = (p.afterMoves first).afterMoves second :=
  List.foldl_append

/-- Where a key has been moved last, if it has been moved. -/
def lastMove? (key : UInt8) (moves : List Move) : Option Bool :=
  (moves.filter (·.key == key)).getLast?.map Move.down

/-- The last move of a key is the last one behind the first move, or else that one. -/
theorem lastMove?_cons (key : UInt8) (move : Move) (rest : List Move) :
    lastMove? key (move :: rest) =
      (lastMove? key rest).or (if move.key = key then some move.down else none) := by
  simp only [lastMove?, List.filter_cons, beq_iff_eq]
  by_cases hkey : move.key = key
  · rw [if_pos hkey, if_pos hkey, List.getLast?_cons]
    cases (rest.filter (·.key == key)).getLast? <;> rfl
  · rw [if_neg hkey, if_neg hkey, Option.or_none]

/-- **A key that exists is where it was moved last**, or where it was before if it was not moved. -/
theorem isPressed_afterMoves (p : Keypad) (moves : List Move) {key : UInt8}
    (hkey : key.toNat < size) :
    (p.afterMoves moves).isPressed key = (lastMove? key moves).getD (p.isPressed key) := by
  induction moves generalizing p with
  | nil => rfl
  | cons move rest ih =>
    -- The rest starts from where the first move has left the key.
    have hmoved := ih (p.moved move.key move.down)
    rw [isPressed_moved] at hmoved
    refine hmoved.trans ?_
    rw [lastMove?_cons]
    by_cases hmove : move.key = key
    · subst hmove
      rw [if_pos ⟨rfl, hkey⟩, if_pos rfl]
      cases lastMove? move.key rest <;> rfl
    · rw [if_neg fun h => hmove h.1.symm, if_neg hmove, Option.or_none]

/-- **After some moves the keys that are down are those that exist and were put down last.** -/
theorem isPressed_afterMoves_released_iff (moves : List Move) (key : UInt8) :
    (released.afterMoves moves).isPressed key = true ↔
      key.toNat < size ∧ lastMove? key moves = some true := by
  by_cases hkey : key.toNat < size
  · rw [isPressed_afterMoves _ _ hkey, isPressed_released, and_iff_right hkey]
    cases lastMove? key moves <;> simp
  · rw [isPressed_of_size_le _ (Nat.le_of_not_lt hkey)]
    exact ⟨fun h => absurd h Bool.false_ne_true, fun h => absurd h.1 hkey⟩

/-- Moves of different keys may change places. -/
theorem moved_moved_comm (p : Keypad) {key key' : UInt8} (hne : key ≠ key') (down down' : Bool) :
    (p.moved key down).moved key' down' = (p.moved key' down').moved key down := by
  refine ext_isPressed fun k => ?_
  rw [isPressed_moved, isPressed_moved, isPressed_moved, isPressed_moved]
  by_cases hk : k = key
  · have hk' : ¬(k = key' ∧ key'.toNat < size) := fun h => hne (hk.symm.trans h.1)
    rw [if_neg hk', if_neg hk']
  · have hk' : ¬(k = key ∧ key.toNat < size) := fun h => hk h.1
    rw [if_neg hk', if_neg hk']

/-- **The lowest key is the number of the lowest bit that is set**: as many bits behind it are
not. -/
theorem lowest?_eq_ctz (p : Keypad) :
    p.lowest? = if p.mask = 0 then none else some (UInt8.ofNat p.mask.ctz.toNat) := by
  -- With no bit set there is no lowest one, although `ctz` counts sixteen bits that are not set.
  by_cases hzero : p.mask = 0
  · rw [if_pos hzero, lowest?_eq_none_iff]
    intro k
    rw [isPressed, hzero]
    exact BitVec.getLsbD_zero
  · have hlt : p.mask.ctz.toNat < 16 := BitVec.ctz_lt_iff_ne_zero.2 hzero
    have hkey : (UInt8.ofNat p.mask.ctz.toNat).toNat = p.mask.ctz.toNat :=
      UInt8.toNat_ofNat_of_lt' (Nat.lt_trans hlt (by decide))
    rw [if_neg hzero, lowest?_eq_some_iff]
    refine ⟨?_, fun k hk => UInt8.le_iff_toNat_le.2 ?_⟩
    · rw [isPressed, hkey]
      exact BitVec.getLsbD_true_ctz_of_ne_zero hzero
    · rw [hkey]
      refine Nat.le_of_not_lt fun hbelow => Bool.false_ne_true ?_
      exact (BitVec.getLsbD_false_of_lt_ctz hbelow).symm.trans hk

end ChipEight.Keypad
