import TagNesting.Proofs.Text.Line
import TagNesting.Scanner

/-!
# `Proofs.Scanner.Pieces` — a document may arrive in any pieces

A scanner that has taken some pieces is in the state that the text of all of them determines (`Scanner.after`):
it has scanned the complete lines of that text and kept the rest. `follows_collect` shows this for one piece and
`follows_foldl` for all; where a piece ends plays no part in it, since splitting may stop and go on anywhere.

Scanning at once is taking the whole text as one piece, so both ways of scanning come to `scan_eq`: the tokens of
the complete lines, and then those of the rest.
-/

namespace TagNesting

open Text

/-- Lines that follow others are numbered on. -/
theorem linesTokens_append (mode : ScanMode) (first : Nat) (before after : List (List Char)) :
    linesTokens mode first (before ++ after) =
      linesTokens mode first before ++ linesTokens mode (first + before.length) after := by
  unfold linesTokens
  rw [List.zipIdx_append, List.flatMap_append]

namespace Scanner

/-- The scanner that a text leaves behind. -/
def after (mode : ScanMode) (text : List Char) : Scanner where
  mode := mode
  linesScanned := (splitLines text).1.length
  pending := (splitLines text).2

/-- The tokens of the complete lines of a text. -/
def completeTokens (mode : ScanMode) (text : List Char) : List Token :=
  linesTokens mode 1 (splitLines text).1

variable {mode : ScanMode} {text : List Char} {state : Scanner × Array Token}

/-- One more piece leads to the scanner of the longer text. -/
theorem scanner_update_after (mode : ScanMode) (text piece : List Char) :
    ((after mode text).update piece).scanner = after mode (text ++ piece) := by
  simp only [update, after, splitLines_append text piece, List.length_append]

/-- The tokens of one more piece are those of the lines that it completes. -/
theorem completeTokens_append (mode : ScanMode) (text piece : List Char) :
    completeTokens mode (text ++ piece) =
      completeTokens mode text ++ ((after mode text).update piece).tokens := by
  rw [completeTokens, splitLines_append, linesTokens_append, Nat.add_comm 1]
  rfl

/-! ## Piece after piece -/

/-- The scanner and the tokens are those of the text that has arrived. -/
def Follows (mode : ScanMode) (text : List Char) (state : Scanner × Array Token) : Prop :=
  state.1 = after mode text ∧ state.2.toList = completeTokens mode text

theorem follows_start (mode : ScanMode) : Follows mode [] ({ mode }, #[]) :=
  ⟨rfl, rfl⟩

/-- **Step.** A piece keeps the scanner in the state of the text that has arrived. -/
theorem follows_collect (h : Follows mode text state) (piece : List Char) :
    Follows mode (text ++ piece) (collect state piece) := by
  obtain ⟨scanner, tokens⟩ := state
  obtain ⟨rfl, htokens⟩ := h
  refine ⟨scanner_update_after mode text piece, ?_⟩
  show (tokens ++ ((after mode text).update piece).tokens).toList = _
  rw [Array.toList_appendList, htokens, completeTokens_append]

/-- **Run.** So do any pieces, one after the other. -/
theorem follows_foldl (h : Follows mode text state) (pieces : List (List Char)) :
    Follows mode (text ++ pieces.flatten) (pieces.foldl collect state) := by
  induction pieces generalizing text state with
  | nil =>
      rw [List.flatten_nil, List.append_nil]
      exact h
  | cons piece pieces ih =>
      rw [List.flatten_cons, ← List.append_assoc, List.foldl_cons]
      exact ih (follows_collect h piece)

/-- So a scanner that has taken some pieces has taken the text of all of them. -/
theorem follows_pieces (mode : ScanMode) (pieces : List (List Char)) :
    Follows mode pieces.flatten (pieces.foldl collect ({ mode }, #[])) :=
  follows_foldl (follows_start mode) pieces

/-! ## All at once -/

/-- Scanning at once gives the tokens of the complete lines and then those of the unfinished one. -/
theorem scan_eq (mode : ScanMode) (text : List Char) :
    scan mode text = completeTokens mode text ++ (after mode text).finish := by
  have hscanner := scanner_update_after mode [] text
  have htokens := completeTokens_append mode [] text
  rw [List.nil_append] at hscanner htokens
  rw [← hscanner, htokens]
  rfl

/-- A scanner that has taken a text, and is then finished, has found what scanning at once finds. -/
theorem Follows.tokens_eq (h : Follows mode text state) : state.2.toList ++ state.1.finish = scan mode text := by
  obtain ⟨hscanner, htokens⟩ := h
  rw [hscanner, htokens, scan_eq]

/-- A text of complete lines leaves nothing unfinished. -/
theorem scan_joinLines (mode : ScanMode) (text : List Char) :
    scan mode (joinLines (splitLines text).1) = completeTokens mode text := by
  have hsplit := splitLines_joinLines (newline_not_mem_splitLines text).1
  rw [scan_eq, completeTokens, after, hsplit]
  exact List.append_nil _

/-- **The pieces never matter.** However a text is cut into pieces, after each piece the tokens found so far are
those that scanning at once finds in the complete part of what has arrived, and as many lines have been scanned as
line feeds have arrived; and at the end all tokens are those of the whole text. -/
theorem scan_of_pieces (mode : ScanMode) (pieces : List (List Char)) :
    (∀ count : Nat,
      let received := (pieces.take count).flatten
      let state := (pieces.take count).foldl collect ({ mode }, #[])
      (∃ part, IsCompletePart part received ∧ state.2.toList = scan mode part) ∧
        state.1.linesScanned = received.count '\n') ∧
      scanPieces mode pieces = scan mode pieces.flatten := by
  refine ⟨?_, ?_⟩
  · intro count received state
    obtain ⟨hscanner, htokens⟩ : Follows mode received state := follows_pieces mode (pieces.take count)
    have hpart : IsCompletePart (joinLines (splitLines received).1) received := isCompletePart_joinLines received
    refine ⟨⟨_, hpart, ?_⟩, ?_⟩
    · rw [htokens, scan_joinLines]
    · rw [hscanner]
      exact length_splitLines received
  · obtain ⟨hscanner, htokens⟩ := follows_pieces mode pieces
    show (pieces.foldl collect ({ mode }, #[])).2.toList ++ (pieces.foldl collect ({ mode }, #[])).1.finish = _
    rw [htokens, hscanner, scan_eq]

end Scanner

end TagNesting
