import TagNesting.Log
import TagNesting.Settings
import TagNesting.Text.Line
import TagNesting.Token.Occurrence
import TagNesting.Token.Shape

/-!
# `TagNesting.Scanner` — the tokens of a document, whole or in pieces

A document is scanned line by line, and a token carries the number of its line, counted from one. The
document may arrive in pieces of any size: the scanner keeps what follows the last line feed it has seen,
and scans a line only when its line feed has come. At the end of the document what it has kept is the last
line, unless it is empty.

## Contents
- `lineTokens`, `linesTokens`: the tokens of one line, and of consecutive lines.
- `Scanner`, `Scanner.update`, `Scanner.finish`: scanning piece by piece.
- `Scanner.scanPieces`: the tokens of all pieces together.
- `scan`: scanning at once.
-/

namespace TagNesting

open Text

/-- The tokens of one line, whose line break has been taken off. -/
def lineTokens (mode : ScanMode) (line : Nat) (text : List Char) : List Token :=
  match mode with
  | .tags => (occurrences text).map (classify · line)
  | .lines =>
    let trimmed := trim text
    if trimmed.head? = some '<' then [classify trimmed line] else []

/-- The tokens of consecutive lines, of which the first has the given number. -/
def linesTokens (mode : ScanMode) (first : Nat) (lines : List (List Char)) : List Token :=
  (lines.zipIdx first).flatMap fun (text, line) => lineTokens mode line (dropReturn text)

/-- A scanner in the midst of a document. -/
structure Scanner where
  mode : ScanMode
  /-- How many lines have been scanned. -/
  linesScanned : Nat := 0
  /-- What has come after the last line feed. -/
  pending : List Char := []
deriving DecidableEq, Repr

namespace Scanner

/-- What a scanner notes when a piece has completed at least one line. -/
structure Progress where
  /-- How many lines have been scanned so far. -/
  linesScanned : Nat
  /-- How many tokens the piece has completed. -/
  newTokens : Nat
deriving DecidableEq, Repr

/-- The log record of a scanner's progress. -/
def Progress.record (progress : Progress) : Log.Record :=
  ⟨.trace, s!"scanned through line {progress.linesScanned}, {progress.newTokens} new token(s)"⟩

/-- What a piece of the document makes of a scanner. -/
structure Update where
  /-- The scanner after the piece. -/
  scanner : Scanner
  /-- The tokens of the lines that the piece has completed. -/
  tokens : List Token
  /-- A note, if the piece has completed a line. -/
  progress : Option Progress
deriving DecidableEq, Repr

/-- Takes the next piece of the document. -/
def update (s : Scanner) (piece : List Char) : Update :=
  let (lines, rest) := splitLines (s.pending ++ piece)
  let tokens := linesTokens s.mode (s.linesScanned + 1) lines
  let scanned := s.linesScanned + lines.length
  { scanner := { s with linesScanned := scanned, pending := rest }
    tokens := tokens
    progress := if lines.isEmpty then none else some ⟨scanned, tokens.length⟩ }

/-- The tokens of the unfinished last line, once the document is over. -/
def finish (s : Scanner) : List Token :=
  if s.pending.isEmpty then [] else lineTokens s.mode (s.linesScanned + 1) (dropReturn s.pending)

/-- Takes the next piece and adds its tokens to those found so far. -/
def collect (state : Scanner × Array Token) (piece : List Char) : Scanner × Array Token :=
  let u := state.1.update piece
  (u.scanner, state.2 ++ u.tokens)

/-- The tokens of a document that arrives in pieces. -/
def scanPieces (mode : ScanMode) (pieces : List (List Char)) : List Token :=
  let (last, tokens) := pieces.foldl collect ({ mode }, #[])
  tokens.toList ++ last.finish

end Scanner

/-- The tokens of a document. -/
def scan (mode : ScanMode) (text : List Char) : List Token :=
  let u := Scanner.update { mode } text
  u.tokens ++ u.scanner.finish

end TagNesting
