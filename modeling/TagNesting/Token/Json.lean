import TagNesting.Json.Decode
import TagNesting.Json.Value
import TagNesting.Token

/-!
# `TagNesting.Token.Json` — tokens as JSON

A token is an object with the fields `kind`, `name` and `line`, all of which it must have. The kind is one of
five words, and the line is a natural number below 2^64.

## Contents
- `Token.Kind.word`, `Token.Kind.ofReading`: kinds as words.
- `Token.toValue`, `Token.ofReading`: tokens as objects.
- `lineBound`, `decodeLine`: line numbers.
-/

namespace TagNesting

open Json

/-- Line numbers are below this bound. -/
def lineBound : Nat := Nat.pow 2 64

/-- A line number. -/
def decodeLine : Decoder Nat :=
  decodeNatural lineBound

namespace Token

/-- The word of a kind. -/
def Kind.word : Kind → String
  | .opening => "start"
  | .closing => "end"
  | .selfClosing => "self_closing"
  | .declaration => "declaration"
  | .malformed => "invalid"

/-- All kinds, in the order in which their words are listed. -/
def Kind.all : List Kind :=
  [.opening, .closing, .selfClosing, .declaration, .malformed]

/-- A kind from its word. -/
def Kind.ofReading : Decoder Kind :=
  decodeWord all word

/-- Tokens as records. -/
def record : Record (Triple Kind String Nat) Token :=
  .triple "TagToken" ⟨"kind", Kind.ofReading⟩ ⟨"name", decodeText⟩ ⟨"line", decodeLine⟩ Token.mk

/-- A token from its fields. -/
def ofReading : Decoder Token :=
  decodeRecord record

/-- A token as an object. -/
def toValue (token : Token) : Value :=
  .object [("kind", .text token.kind.word), ("name", .text token.name), ("line", .natural token.line)]

end Token

end TagNesting
