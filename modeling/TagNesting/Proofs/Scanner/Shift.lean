import TagNesting.Proofs.Scanner.Lines

/-!
# `Proofs.Scanner.Shift` — a document put behind another

The number of a line is the only thing that a token has from the text before its line. So behind a text that ends with
a line feed, a document has the same tokens as by itself, each as many lines later as that text has line feeds
(`scan_append`). The tokens of the text before do not reach further than that (`line_le_of_mem_scan`), and those of the
document come after it.
-/

namespace TagNesting

open Text

/-- The token so many lines later. -/
def Token.later (count : Nat) (token : Token) : Token :=
  { token with line := token.line + count }

theorem Token.later_later (token : Token) (first second : Nat) :
    (token.later first).later second = token.later (first + second) := by
  have hline : token.line + first + second = token.line + (first + second) := Nat.add_assoc ..
  simp only [Token.later, hline]

/-! ## Lines that come later -/

theorem classify_later (raw : List Char) (line count : Nat) :
    classify raw (line + count) = (classify raw line).later count := by
  simp only [classify]
  split <;> rfl

theorem lineTokens_later (mode : ScanMode) (number count : Nat) (line : List Char) :
    lineTokens mode (number + count) line = (lineTokens mode number line).map (.later count) := by
  cases mode with
  | tags =>
      rw [lineTokens, lineTokens, List.map_map]
      apply List.map_congr_left
      intro occurrence _
      exact classify_later occurrence number count
  | lines =>
      simp only [lineTokens]
      split
      · rw [classify_later, List.map_singleton]
      · rfl

theorem linesTokens_cons (mode : ScanMode) (first : Nat) (line : List Char) (lines : List (List Char)) :
    linesTokens mode first (line :: lines) =
      lineTokens mode first (dropReturn line) ++ linesTokens mode (first + 1) lines := by
  rw [linesTokens, List.zipIdx_cons, List.flatMap_cons]
  rfl

/-- **Lines that are numbered on have the same tokens, so many lines later.** -/
theorem linesTokens_later (mode : ScanMode) (first count : Nat) (lines : List (List Char)) :
    linesTokens mode (first + count) lines = (linesTokens mode first lines).map (.later count) := by
  induction lines generalizing first with
  | nil => rfl
  | cons line lines ih =>
      rw [linesTokens_cons, linesTokens_cons, List.map_append, lineTokens_later, Nat.add_right_comm, ih]

/-- Tokens stand on the lines that they come from. -/
theorem line_of_mem_linesTokens {mode : ScanMode} {first : Nat} {lines : List (List Char)} {token : Token}
    (h : token ∈ linesTokens mode first lines) : first ≤ token.line ∧ token.line < first + lines.length := by
  induction lines generalizing first with
  | nil => exact absurd h List.not_mem_nil
  | cons line lines ih =>
      rw [linesTokens_cons] at h
      rw [List.length_cons]
      rcases List.mem_append.1 h with hhere | hlater
      · have hline := line_of_mem_lineTokens hhere
        omega
      · have hlines := ih hlater
        omega

/-! ## Behind a line feed -/

/-- A text that ends with a line feed leaves nothing behind its last line. -/
theorem splitLines_of_ended {text : List Char} (h : text = [] ∨ text.getLast? = some '\n') :
    (splitLines text).2 = [] := by
  rcases h with rfl | hlast
  · rfl
  · by_contra hne
    rw [← joinLines_splitLines text, List.getLast?_append, List.getLast?_eq_some_getLast hne, Option.some_or]
      at hlast
    have hmem := List.getLast_mem hne
    rw [Option.some.inj hlast] at hmem
    exact (newline_not_mem_splitLines text).2 hmem

/-- Splitting goes on behind it with a new line. -/
theorem splitOn_append_of_ended {before : List Char} (h : before = [] ∨ before.getLast? = some '\n')
    (after : List Char) :
    (before ++ after).splitOn '\n' = (splitLines before).1 ++ after.splitOn '\n' := by
  rw [splitOn_newline, splitLines_append, splitLines_of_ended h, List.nil_append, splitOn_newline,
    List.append_assoc]

/-- Such a text has the tokens of its complete lines. -/
theorem scan_of_ended {text : List Char} (h : text = [] ∨ text.getLast? = some '\n') (mode : ScanMode) :
    scan mode text = linesTokens mode 1 (splitLines text).1 := by
  rw [scan_eq_linesTokens, splitOn_newline, splitLines_of_ended h, linesTokens_append, linesTokens_singleton]
  have hnone : lineTokens mode (1 + (splitLines text).1.length) (dropReturn []) = [] := lineTokens_nil mode _
  rw [hnone, List.append_nil]

/-- **Behind complete lines, a document has the tokens that it has by itself, so many lines later.** -/
theorem scan_append {before : List Char} (h : before = [] ∨ before.getLast? = some '\n') (mode : ScanMode)
    (after : List Char) :
    scan mode (before ++ after) =
      scan mode before ++ (scan mode after).map (.later (before.count '\n')) := by
  rw [scan_eq_linesTokens, splitOn_append_of_ended h, linesTokens_append, scan_of_ended h, length_splitLines,
    linesTokens_later, ← scan_eq_linesTokens]

/-- No token of complete lines stands behind them. -/
theorem line_le_of_mem_scan {text : List Char} (h : text = [] ∨ text.getLast? = some '\n') {mode : ScanMode}
    {token : Token} (htoken : token ∈ scan mode text) : token.line ≤ text.count '\n' := by
  rw [scan_of_ended h] at htoken
  have hlines := line_of_mem_linesTokens htoken
  rw [length_splitLines] at hlines
  omega

/-- In any document, the last line may be unfinished. -/
theorem line_le_lines_of_mem_scan {text : List Char} {mode : ScanMode} {token : Token}
    (htoken : token ∈ scan mode text) : token.line ≤ text.count '\n' + 1 := by
  rw [scan_eq_linesTokens, splitOn_newline] at htoken
  have hlines := (line_of_mem_linesTokens htoken).2
  rw [List.length_append, length_splitLines, List.length_singleton] at hlines
  omega

/-- The first line has number one. -/
theorem line_pos_of_mem_scan {text : List Char} {mode : ScanMode} {token : Token}
    (htoken : token ∈ scan mode text) : 0 < token.line := by
  rw [scan_eq_linesTokens] at htoken
  exact (line_of_mem_linesTokens htoken).1

end TagNesting
