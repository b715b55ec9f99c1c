import ChipEight.Text.Printable

/-! # Values as text

Words, addresses and keys appear in messages as hexadecimal numerals: a `0x`, then the lower-case
digits, with zeros in front up to some width. A longer numeral is never cut.

An outline is the shape of a value as a person reads it in a report: a number, a quoted text, a bare
name, a name with its parts in parentheses, or a name with its labelled fields in braces. Types that
are shown to a person say what their outline is, and `Outline.render` is the only place that knows
how one is written.

* `Text.hex`: hexadecimal numerals;
* `Text.Outline` and `Outline.render`: outlines, and how they are written. -/

namespace ChipEight.Text

/-! ### Hexadecimal numerals -/

/-- The lower-case base-sixteen digits of `n`, most significant first, at least `width` of them. -/
def hexDigits (width n : Nat) : List Char :=
  (Nat.toDigits 16 n).leftpad width '0'

/-- The numeral of `n` with a `0x` in front and at least `width` digits. -/
def hex (width n : Nat) : String :=
  "0x" ++ String.ofList (hexDigits width n)

/-! ### Outlines -/

/-- The printable shape of a value. -/
inductive Outline where
  /-- A whole number, written in decimal. -/
  | number (value : Int)
  /-- A text, written between double quotes. -/
  | quoted (text : String)
  /-- A name that stands alone. -/
  | name (head : String)
  /-- A name and its parts, written `head(part, part)`. -/
  | apply (head : String) (parts : List Outline)
  /-- A name and its labelled fields, written `head { label: value, label: value }`. -/
  | record (head : String) (fields : List (String × Outline))

namespace Outline

/-- The outline of a truth value. -/
def truth (b : Bool) : Outline := .name (if b then "true" else "false")

/-- The outline of a value that may be absent. -/
def optional (outline : α → Outline) : Option α → Outline
  | none => .name "None"
  | some a => .apply "Some" [outline a]

/-- One character as it stands in quoted text whose closing mark is `mark`: the mark and the
backslash carry a backslash, and characters that are not printable are written by a letter or by
their number. -/
def escape (mark c : Char) : List Char :=
  if c = mark ∨ c = '\\' then ['\\', c]
  else if c = '\x00' then ['\\', '0']
  else if c = '\t' then ['\\', 't']
  else if c = '\n' then ['\\', 'n']
  else if c = '\r' then ['\\', 'r']
  else if isPrintable c then [c]
  else ['\\', 'u', '\x7b'] ++ Nat.toDigits 16 c.toNat ++ ['\x7d']

/-- A text between double quotes. -/
def quote (text : String) : String :=
  "\"" ++ String.ofList (text.toList.flatMap (escape '"')) ++ "\""

/-- A character between single quotes. -/
def quoteChar (c : Char) : String :=
  "'" ++ String.ofList (escape '\'' c) ++ "'"

mutual

/-- The written form of an outline, on one line. -/
def render : Outline → String
  | .number value => toString value
  | .quoted text => quote text
  | .name head => head
  | .apply head parts => head ++ "(" ++ ", ".intercalate (renderParts parts) ++ ")"
  | .record head fields => head ++ " \x7b " ++ ", ".intercalate (renderFields fields) ++ " \x7d"

/-- The written forms of the parts of a value. -/
def renderParts : List Outline → List String
  | [] => []
  | part :: parts => render part :: renderParts parts

/-- A label, a colon and the written form of the value it labels. -/
def renderField : String × Outline → String
  | (label, value) => label ++ ": " ++ render value

/-- The written forms of the labelled fields of a value. -/
def renderFields : List (String × Outline) → List String
  | [] => []
  | field :: fields => renderField field :: renderFields fields

end

end Outline

end ChipEight.Text
