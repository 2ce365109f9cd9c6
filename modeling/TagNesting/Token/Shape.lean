import TagNesting.Text.Trim
import TagNesting.Token
import TagNesting.Unicode.Alphabetic
import TagNesting.Unicode.Numeric

/-!
# `TagNesting.Token.Shape` — what an occurrence of a tag is

The text of an occurrence is trimmed first. To have a shape at all it must begin with `<`, end with `>`
and hold no other angle bracket. What stands between the brackets then decides, in this order:

| between the brackets | kind | name |
|---|---|---|
| `?…?` with something between | declaration | the whole text |
| `!…` with something after | declaration | the whole text |
| `/name`, blanks after it allowed | closing | `name` |
| `name`, or `name`, a blank and anything, then `/` | self-closing | `name` |
| `name`, or `name`, a blank and anything | opening | `name` |

A name is an *identifier*: a letter, `_` or `:` followed by letters, digits, `_`, `:`, `-` and `.`.
Attribute text after the name is not looked at. Any other text is malformed, and the token carries it.

## Contents
- `isIdentifier`, `bracketed?`, `shape?`: the parts of the rule.
- `classify`: the token of an occurrence.
-/

namespace TagNesting

open Unicode Text

/-- Whether a name may begin with this character. -/
def isIdentifierStart (c : Char) : Bool :=
  isAlphabetic c || c = '_' || c = ':'

/-- Whether a name may go on with this character. -/
def isIdentifierRest (c : Char) : Bool :=
  isAlphabetic c || isNumeric c || c = '_' || c = ':' || c = '-' || c = '.'

/-- Whether a text can be the name of a tag. -/
def isIdentifier : List Char → Bool
  | [] => false
  | c :: rest => isIdentifierStart c && rest.all isIdentifierRest

namespace Token

/-- What stands between the angle brackets of a text that has one at each end and none between. -/
def bracketed? : List Char → Option (List Char)
  | '<' :: rest =>
    match withoutLast? '>' rest with
    | some inner => if '<' ∈ inner ∨ '>' ∈ inner then none else some inner
    | none => none
  | _ => none

/-- A kind and a name, if the name is an identifier. -/
def named? (kind : Kind) (name : List Char) : Option (Kind × List Char) :=
  if isIdentifier name then some (kind, name) else none

/-- The kind and the name of a trimmed text, if it has one of the shapes. -/
def shape? (text : List Char) : Option (Kind × List Char) :=
  match bracketed? text with
  | none => none
  | some ('?' :: rest) =>
    match withoutLast? '?' rest with
    | some (_ :: _) => some (.declaration, text)
    | _ => none
  | some ('!' :: rest) => if rest = [] then none else some (.declaration, text)
  | some ('/' :: rest) => named? .closing (trimEnd rest)
  | some inner =>
    match withoutLast? '/' inner with
    | some body => named? .selfClosing (body.takeWhile (!isWhiteSpace ·))
    | none => named? .opening (inner.takeWhile (!isWhiteSpace ·))

end Token

/-- The token of one occurrence of a tag, standing on the given line. -/
def classify (raw : List Char) (line : Nat) : Token :=
  let text := trim raw
  match Token.shape? text with
  | some (kind, name) => ⟨kind, String.ofList name, line⟩
  | none => ⟨.malformed, String.ofList text, line⟩

end TagNesting
