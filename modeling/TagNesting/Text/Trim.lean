import TagNesting.Unicode.WhiteSpace

/-!
# `TagNesting.Text.Trim` — taking characters off the ends of a text

Texts are lists of characters throughout the library: every rule about them is about a first or a last
character, or about the longest part that a predicate holds of, and a list says these directly.

## Contents
- `trimStart`, `trimEnd`, `trim`: drop the blanks (`White_Space`) at one end or at both.
- `withoutLast?`: drop one given character at the end, if it is there.
-/

namespace TagNesting.Text

open Unicode

/-- The text without the blanks it begins with. -/
def trimStart (text : List Char) : List Char :=
  text.dropWhile isWhiteSpace

/-- The text without the blanks it ends with. -/
def trimEnd (text : List Char) : List Char :=
  (text.reverse.dropWhile isWhiteSpace).reverse

/-- The text without the blanks at both ends. -/
def trim (text : List Char) : List Char :=
  trimEnd (trimStart text)

/-- The text before its last character if that character is `c`, and nothing otherwise. -/
def withoutLast? (c : Char) (text : List Char) : Option (List Char) :=
  if text.getLast? = some c then some text.dropLast else none

theorem withoutLast?_append_singleton (c : Char) (text : List Char) :
    withoutLast? c (text ++ [c]) = some text := by
  simp [withoutLast?]

/-- Only what was there is taken off: **what `withoutLast?` returns, followed by `c`, is the text.** -/
theorem withoutLast?_eq_some_iff {c : Char} {text rest : List Char} :
    withoutLast? c text = some rest ↔ text = rest ++ [c] := by
  constructor
  · intro h
    unfold withoutLast? at h
    split at h
    · next hlast =>
        cases h
        obtain ⟨init, rfl⟩ := List.getLast?_eq_some_iff.1 hlast
        simp
    · exact absurd h (by simp)
  · rintro rfl
    exact withoutLast?_append_singleton c rest

end TagNesting.Text
