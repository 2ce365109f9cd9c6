import TagNesting.Text.Trim

/-!
# `TagNesting.Text.Line` — the lines of a text

A line ends at a line feed and nowhere else. What stands after the last line feed is a line only once
the text is known to be over, so splitting returns it apart: a text that arrives in pieces keeps it and
puts the next piece behind it. One carriage return at the end of a line belongs to the line break; any
other carriage return is an ordinary character of the line.

## Contents
- `splitLines`: the complete lines of a text, without their line feeds, and the unfinished rest.
- `splitLines_append_newline`, `splitLines_of_not_mem`: the two equations that determine it.
- `dropReturn`: a line without the carriage return of its line break.
-/

namespace TagNesting.Text

/-- One character put in front of a split text. -/
def consSplit (c : Char) (split : List (List Char) × List Char) : List (List Char) × List Char :=
  if c = '\n' then ([] :: split.1, split.2)
  else
    match split.1 with
    | [] => ([], c :: split.2)
    | line :: lines => ((c :: line) :: lines, split.2)

/-- The complete lines of a text without their line feeds, and what follows the last line feed. -/
def splitLines (text : List Char) : List (List Char) × List Char :=
  text.foldr consSplit ([], [])

@[simp] theorem splitLines_cons (c : Char) (text : List Char) :
    splitLines (c :: text) = consSplit c (splitLines text) := rfl

/-- A text without a line feed holds no complete line. -/
theorem splitLines_of_not_mem {text : List Char} (h : '\n' ∉ text) : splitLines text = ([], text) := by
  induction text with
  | nil => rfl
  | cons c text ih =>
    simp only [List.mem_cons, not_or] at h
    simp [ih h.2, consSplit, Ne.symm h.1]

/-- The first line of a text ends at its first line feed; the rest is split for itself. -/
theorem splitLines_append_newline {line : List Char} (h : '\n' ∉ line) (text : List Char) :
    splitLines (line ++ '\n' :: text) = (line :: (splitLines text).1, (splitLines text).2) := by
  induction line with
  | nil => simp [consSplit]
  | cons c line ih =>
    simp only [List.mem_cons, not_or] at h
    simp [ih h.2, consSplit, Ne.symm h.1]

/-- A line without the carriage return of its line break. -/
def dropReturn (line : List Char) : List Char :=
  (withoutLast? '\r' line).getD line

end TagNesting.Text
