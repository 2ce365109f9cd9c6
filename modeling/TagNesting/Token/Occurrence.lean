/-!
# `TagNesting.Token.Occurrence` — the occurrences of tags in a line

An occurrence begins at a `<`. It goes on to the first `>` after it and takes in the whole run of `>` that
begins there, so that a doubled bracket spoils the occurrence it closes instead of being lost in the text
between. Without any `>` after it, it takes the rest of the line. Text outside occurrences is skipped.

## Contents
- `cutOccurrence?`: the first occurrence of a line and what follows it.
- `occurrences`: all of them, from left to right.
-/

namespace TagNesting

/-- The first occurrence in a line and the rest of the line after it; nothing if the line holds no `<`. -/
def cutOccurrence? (line : List Char) : Option (List Char × List Char) :=
  match line.dropWhile (· != '<') with
  | [] => none
  | opened =>
    let body := opened.takeWhile (· != '>')
    let closed := opened.dropWhile (· != '>')
    some (body ++ closed.takeWhile (· == '>'), closed.dropWhile (· == '>'))

/-- An occurrence is never empty: **what follows it is shorter than the line.** -/
theorem length_lt_of_cutOccurrence? {line occurrence rest : List Char}
    (h : cutOccurrence? line = some (occurrence, rest)) : rest.length < line.length := by
  have hline := (List.dropWhile_sublist (· != '<') (l := line)).length_le
  have hhead := List.head?_dropWhile_not (· != '<') line
  unfold cutOccurrence? at h
  cases hopened : line.dropWhile (· != '<') with
  | nil => simp only [hopened, reduceCtorEq] at h
  | cons c tail =>
    simp only [hopened, List.head?_cons, bne_eq_false_iff_eq] at hhead
    subst hhead
    have hrest := (List.dropWhile_sublist (· == '>') (l := tail.dropWhile (· != '>'))).length_le
    have htail := (List.dropWhile_sublist (· != '>') (l := tail)).length_le
    simp only [hopened, List.length_cons] at hline
    simp only [hopened, Option.some.injEq, Prod.mk.injEq] at h
    rw [← h.2, List.dropWhile_cons_of_pos (by decide)]
    omega

/-- The occurrences of tags in a line, from left to right. -/
def occurrences (line : List Char) : List (List Char) :=
  match h : cutOccurrence? line with
  | none => []
  | some (occurrence, rest) =>
    have := length_lt_of_cutOccurrence? h
    occurrence :: occurrences rest
termination_by line.length

end TagNesting
