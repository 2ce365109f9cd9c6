import TagNesting.Finding
import TagNesting.Token.Json

/-!
# `TagNesting.Finding.Json` — findings as JSON

A finding is an object with the fields `kind`, `line` and `detail`, all of which it must have. The kind is
one of five words, and the line is a natural number below 2^64.

## Contents
- `Finding.Kind.word`, `Finding.Kind.ofReading`: kinds as words.
- `Finding.toValue`, `Finding.ofReading`: findings as objects.
-/

namespace TagNesting.Finding

open Json

/-- The word of a kind. -/
def Kind.word : Kind → String
  | .missingStart => "missing_start"
  | .missingEnd => "missing_end"
  | .mismatch => "mismatch"
  | .extra => "extra"
  | .invalidFormat => "invalid_format"

/-- All kinds, in the order in which their words are listed. -/
def Kind.all : List Kind :=
  [.missingStart, .missingEnd, .mismatch, .extra, .invalidFormat]

/-- A kind from its word. -/
def Kind.ofReading : Decoder Kind :=
  decodeWord all word

/-- Findings as records. -/
def record : Record (Triple Kind Nat String) Finding :=
  .triple "Diagnostic" ⟨"kind", Kind.ofReading⟩ ⟨"line", decodeLine⟩ ⟨"detail", decodeText⟩ Finding.mk

/-- A finding from its fields. -/
def ofReading : Decoder Finding :=
  decodeRecord record

/-- A finding as an object. -/
def toValue (finding : Finding) : Value :=
  .object
    [("kind", .text finding.kind.word), ("line", .natural finding.line), ("detail", .text finding.detail)]

end TagNesting.Finding
