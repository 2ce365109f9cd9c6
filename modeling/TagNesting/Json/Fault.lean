import TagNesting.Json.Problem

/-!
# `TagNesting.Json.Fault` — where a text stops being JSON

A fault is found while the text is cut up, before anybody knows what the text is wanted for. Which problem
it amounts to depends on that: a number that the end of the text has cut short may yet have become a number
to someone who wants one, but to someone who only passes over it, it is not one.

## Contents
- `Fault`, with the three ways to look at it: `whenUsed`, `whenSkipped`, `whenWord`.
-/

namespace TagNesting.Json

/-- A place at which a text stops being JSON. -/
inductive Fault where
  /-- Something stands there that cannot. -/
  | malformed
  /-- The text ends before anything stands there, or inside a quoted text. -/
  | ended
  /-- The text ends inside `null`, `true` or `false`. -/
  | endedInLiteral
  /-- The text ends inside a number, where a digit was to come. -/
  | endedInNumber
deriving DecidableEq, Repr

namespace Fault

/-- The problem for a reader who wants the value that stands there. -/
def whenUsed : Fault → Problem
  | .malformed => .malformed
  | .ended | .endedInLiteral | .endedInNumber => .ended

/-- The problem for a reader who only passes over the value that stands there. -/
def whenSkipped : Fault → Problem
  | .malformed | .endedInNumber => .malformed
  | .ended | .endedInLiteral => .ended

/-- The problem for a reader who wants a quoted text or an object and looks at the first character only. -/
def whenWord : Fault → Problem
  | .ended => .ended
  | .malformed | .endedInLiteral | .endedInNumber => .malformed

end Fault

end TagNesting.Json
