import ChipEight.Fault

/-! # The keypad

The keypad has sixteen keys, 0 to 15, and each of them is down or up. Its state is kept as one bit
per key. Pressing or releasing any other key is a fault and changes nothing, and such a key is never
down.

A layout says which character of a keyboard stands for which key of the keypad. It is written down
as the characters of the keys 0 to 15, in that order. -/

namespace ChipEight

/-- Which keys are down. -/
structure Keypad where
  /-- Bit `k` is set while key `k` is down. -/
  mask : BitVec 16
deriving DecidableEq

namespace Keypad

/-- How many keys there are. -/
abbrev size : Nat := 16

/-- No key is down. -/
def released : Keypad := ⟨0⟩

/-- The bit of a key, if there is such a key. -/
def bit (key : UInt8) : Except Fault (BitVec 16) :=
  if key.toNat < size then .ok (BitVec.twoPow 16 key.toNat) else .error (.invalidKey key)

/-- Put a key down. -/
def press (p : Keypad) (key : UInt8) : Except Fault Keypad :=
  (bit key).map fun b => ⟨p.mask ||| b⟩

/-- Let a key up. -/
def release (p : Keypad) (key : UInt8) : Except Fault Keypad :=
  (bit key).map fun b => ⟨p.mask &&& ~~~b⟩

/-- Put a key down or let it up. -/
def set (p : Keypad) (key : UInt8) (down : Bool) : Except Fault Keypad :=
  if down then p.press key else p.release key

/-- Whether a key is down. -/
def isPressed (p : Keypad) (key : UInt8) : Bool := p.mask.getLsbD key.toNat

/-- The keys that are down, in rising order. -/
def pressed (p : Keypad) : List UInt8 :=
  ((List.range size).map UInt8.ofNat).filter p.isPressed

/-- The lowest key that is down. -/
def lowest? (p : Keypad) : Option UInt8 := p.pressed.head?

/-- The keypad in a report: its bits as one number. -/
def outline (p : Keypad) : Text.Outline := .apply "Keypad" [.number p.mask.toNat]

/-- No key of a released keypad is down. -/
@[simp] theorem isPressed_released (key : UInt8) : released.isPressed key = false := by
  simp [released, isPressed]

/-- A key that does not exist is never down. -/
theorem isPressed_of_size_le (p : Keypad) {key : UInt8} (h : size ≤ key.toNat) :
    p.isPressed key = false :=
  BitVec.getLsbD_of_ge _ _ h

/-- After a key has been put down it is down, and the other keys are as they were. -/
theorem isPressed_press {p q : Keypad} {key : UInt8} (h : p.press key = .ok q) (k : UInt8) :
    q.isPressed k = (k == key || p.isPressed k) := by
  unfold press bit at h
  split at h
  · rename_i hk
    cases h
    by_cases he : k = key
    · subst he
      simp [isPressed, hk]
    · have hne : ¬key.toNat = k.toNat := fun e => he (UInt8.toNat_inj.1 e.symm)
      simp [isPressed, he, hne]
  · cases h

/-- After a key has been let up it is up, and the other keys are as they were. -/
theorem isPressed_release {p q : Keypad} {key : UInt8} (h : p.release key = .ok q) (k : UInt8) :
    q.isPressed k = (k != key && p.isPressed k) := by
  unfold release bit at h
  split at h
  · rename_i hk
    cases h
    by_cases he : k = key
    · subst he
      simp [isPressed, hk]
    · have hne : ¬k.toNat = key.toNat := fun e => he (UInt8.toNat_inj.1 e)
      rw [bne_iff_ne.2 he, Bool.true_and]
      by_cases hlt : k.toNat < 16
      · simp [isPressed, hne, hlt]
      · simp [isPressed, Nat.not_lt.1 hlt]
  · cases h

end Keypad

/-! ### Layouts -/

/-- A way to lay the keypad out on a keyboard. -/
inductive Layout where
  /-- A key is typed as its own hexadecimal digit. -/
  | digits
  /-- The keys lie in a block of four by four at the left of the keyboard. -/
  | block
deriving DecidableEq, Repr

namespace Layout

/-- The characters of the keys, from key 0 to key 15. -/
def characters : Layout → List Char
  | .digits => "0123456789abcdef".toList
  | .block => "x123qweasdzc4rfv".toList

/-- The key that a character stands for. -/
def key? (layout : Layout) (c : Char) : Option UInt8 :=
  (layout.characters.idxOf? c).map UInt8.ofNat

/-- Every key has its own character. -/
theorem nodup_characters (layout : Layout) : layout.characters.Nodup := by
  cases layout <;> decide

/-- Every key of the keypad can be typed. -/
theorem length_characters (layout : Layout) : layout.characters.length = Keypad.size := by
  cases layout <;> decide

end Layout

end ChipEight
