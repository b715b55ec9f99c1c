import ChipEight.Device.Basic
import ChipEight.Keypad.Basic
import ChipEight.Terminal.Event

/-! # The keyboard as an input

A keyboard reports strokes and not how long a key is held, so a key of the keypad counts as seen in
the frame in which its character was typed, and in no other. Escape asks to quit, and the wish is
never withdrawn. Every other event is noted in the log. Modifiers make no difference.

The events are kept as batches, one for each time the keyboard is asked; when none are left, nothing
more happens at the keyboard. When it is asked, it takes in the events of a batch one after the
other. -/

namespace ChipEight.Terminal

/-- A keyboard, and what is going to happen at it. -/
structure Keyboard where
  /-- Which character stands for which key of the keypad. -/
  layout : Layout
  /-- The events until the keyboard is asked next, until it is asked again, and so on. -/
  upcoming : List (List Event) := []
  /-- The keys of the keypad that were seen since the keyboard was last asked, in order. -/
  seen : List UInt8 := []
  /-- Whether Escape has been struck. -/
  quit : Bool := false
deriving DecidableEq, Repr

namespace Keyboard

/-- More events before the keyboard is asked next. -/
def type (k : Keyboard) (events : List Event) : Keyboard :=
  { k with upcoming := (k.upcoming.headD [] ++ events) :: k.upcoming.tail }

/-- Take in a character, and say what it notes in the log. -/
def hearCharacter (k : Keyboard) (c : Char) : Keyboard × List LogEntry :=
  match k.layout.key? c with
  | some key => ({ k with seen := k.seen ++ [key] }, [])
  | none => (k, [.unmappedCharacter c])

/-- Take in an event, and say what it notes in the log. -/
def hear (k : Keyboard) : Event → Keyboard × List LogEntry
  | .stroke _ (.character c) => k.hearCharacter c
  | .stroke _ .escape => ({ k with quit := true }, [])
  | .stroke _ key => (k, [.unknownKey key.outline.render])
  | .other => (k, [.notAKey])

/-- Take in events, one after the other. -/
def hearAll (k : Keyboard) : List Event → Keyboard × List LogEntry
  | [] => (k, [])
  | event :: rest =>
    let (next, entries) := k.hear event
    let (last, others) := next.hearAll rest
    (last, entries ++ others)

/-- Forget the keys that were seen, and take in the events of the next batch. -/
def listen (k : Keyboard) : Keyboard × List LogEntry :=
  { k with upcoming := k.upcoming.tail, seen := [] }.hearAll (k.upcoming.headD [])

instance : Input Keyboard where
  poll k := ⟨k.listen.1, k.listen.2, .ok k.listen.1.seen⟩
  quitRequested k := k.quit

end Keyboard

end ChipEight.Terminal
