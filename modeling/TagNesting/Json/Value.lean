/-!
# `TagNesting.Json.Value` — writing JSON

What the library writes is made of natural numbers, texts, lists and objects. A value is written in one of
two layouts: *compact*, on one line without blanks, or *indented*, with one item or member a line, two blanks
for each level, and a blank after each colon. An empty list or object is written without anything in it in
both. In a text, only the quote, the backslash and the characters below U+0020 are escaped.

## Contents
- `Value`, `Layout`.
- `Value.write`: the text of a value in a layout, within some levels of nesting.
- `Value.compact`, `Value.indented`: the two layouts.
-/

namespace TagNesting.Json

/-- A value to be written. -/
inductive Value where
  | natural (n : Nat)
  | text (s : String)
  | list (items : List Value)
  /-- The members of an object, in the order in which they are written. -/
  | object (members : List (String × Value))
deriving Repr

/-- How a value is laid out. -/
inductive Layout where
  | compact
  | indented
deriving DecidableEq, Repr

namespace Layout

/-- What stands before each item and before the closing bracket, at a level of nesting. -/
def lineBreak : Layout → Nat → List Char
  | .compact, _ => []
  | .indented, level => '\n' :: List.replicate (2 * level) ' '

/-- What stands between a key and its value. -/
def colon : Layout → List Char
  | .compact => [':']
  | .indented => [':', ' ']

end Layout

/-- A character as it is written in a text. -/
def writeChar (c : Char) : List Char :=
  match c with
  | '"' => ['\\', '"']
  | '\\' => ['\\', '\\']
  | '\x08' => ['\\', 'b']
  | '\x0c' => ['\\', 'f']
  | '\n' => ['\\', 'n']
  | '\r' => ['\\', 'r']
  | '\t' => ['\\', 't']
  | _ =>
    if c.toNat < 0x20 then
      ['\\', 'u', '0', '0', Nat.digitChar (c.toNat / 16), Nat.digitChar (c.toNat % 16)]
    else [c]

/-- A text between quotes. -/
def writeText (s : String) : List Char :=
  '"' :: (s.toList.flatMap writeChar ++ ['"'])

mutual

/-- The text of a value within `level` levels of nesting. -/
def Value.write (layout : Layout) (level : Nat) : Value → List Char
  | .natural n => Nat.toDigits 10 n
  | .text s => writeText s
  | .list [] => ['[', ']']
  | .list (item :: items) =>
    '[' :: layout.lineBreak (level + 1) ++ item.write layout (level + 1)
      ++ writeItems layout (level + 1) items ++ layout.lineBreak level ++ [']']
  | .object [] => ['\x7b', '\x7d']
  | .object ((key, value) :: members) =>
    '\x7b' :: layout.lineBreak (level + 1) ++ writeText key ++ layout.colon
      ++ value.write layout (level + 1) ++ writeMembers layout (level + 1) members
      ++ layout.lineBreak level ++ ['\x7d']

/-- The further items of a list. -/
def writeItems (layout : Layout) (level : Nat) : List Value → List Char
  | [] => []
  | item :: items =>
    ',' :: layout.lineBreak level ++ item.write layout level ++ writeItems layout level items

/-- The further members of an object. -/
def writeMembers (layout : Layout) (level : Nat) : List (String × Value) → List Char
  | [] => []
  | (key, value) :: members =>
    ',' :: layout.lineBreak level ++ writeText key ++ layout.colon ++ value.write layout level
      ++ writeMembers layout level members

end

/-- The text of a value in a layout. -/
def Value.render (layout : Layout) (value : Value) : String :=
  String.ofList (value.write layout 0)

/-- The text of a value on one line. -/
def Value.compact (value : Value) : String :=
  value.render .compact

/-- The text of a value with one item or member a line. -/
def Value.indented (value : Value) : String :=
  value.render .indented

end TagNesting.Json
