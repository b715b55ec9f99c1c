import ChipEight.Text.Outline

/-! # Terminal events

What a person does at a terminal: strike a key of the keyboard, alone or together with a modifier,
or something else such as a click with the mouse.

A terminal that passes on every key as it is struck passes on characters: most keys type the
character that is on them, and the others a control character. `Event.ofTyped` is the event behind
such a character. -/

namespace ChipEight.Terminal

/-- A key of the keyboard. -/
inductive Key where
  /-- A key that types a character. -/
  | character (c : Char)
  | escape
  | enter
  | tab
  | backTab
  | backspace
  | up
  | down
  | left
  | right
  | home
  | endKey
  | delete
  | insert
  | pageUp
  | pageDown
  /-- One of the numbered keys. -/
  | function (n : Nat)
  /-- A key that is known by no other name. -/
  | null
deriving DecidableEq, Repr

/-- The name of a key in a report. -/
def Key.outline : Key → Text.Outline
  | .character c => .apply "Char" [.name (Text.Outline.quoteChar c)]
  | .escape => .name "Esc"
  | .enter => .name "Enter"
  | .tab => .name "Tab"
  | .backTab => .name "BackTab"
  | .backspace => .name "Backspace"
  | .up => .name "Up"
  | .down => .name "Down"
  | .left => .name "Left"
  | .right => .name "Right"
  | .home => .name "Home"
  | .endKey => .name "End"
  | .delete => .name "Delete"
  | .insert => .name "Insert"
  | .pageUp => .name "PageUp"
  | .pageDown => .name "PageDown"
  | .function n => .apply "F" [.number n]
  | .null => .name "Null"

/-- A key that is held down while another one is struck. -/
inductive Modifier where
  | control
  | alt
deriving DecidableEq, Repr

/-- Something that a person did at the terminal. -/
inductive Event where
  /-- A key was struck, perhaps together with a modifier. -/
  | stroke (modifier : Option Modifier) (key : Key)
  /-- Anything else. -/
  | other
deriving DecidableEq, Repr

/-- The event behind a character that arrived from the terminal. Control and a letter arrive as one
of the characters 1 to 26, except for those that have a key of their own. -/
def Event.ofTyped (c : Char) : Event :=
  match c.toNat with
  | 0x09 => .stroke none .tab
  | 0x0a | 0x0d => .stroke none .enter
  | 0x1b => .stroke none .escape
  | 0x7f => .stroke none .backspace
  | n =>
    if n < 0x1b then .stroke (some .control) (.character (Char.ofNat (n + 0x60)))
    else .stroke none (.character c)

end ChipEight.Terminal
