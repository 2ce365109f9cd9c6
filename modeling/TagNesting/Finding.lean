import TagNesting.Token

/-!
# `TagNesting.Finding` — defects of a document

A finding says what is wrong, on which line, and with which tag. The finding about a malformed occurrence
has the text of the occurrence in place of a tag name.

## Contents
- `Finding`, with one constructor function for each kind of defect.
- `Finding.Kind.label`, `Finding.message`: the wording.
- `report`, `summary`, `banner`: the findings as the lines of an error log.
-/

namespace TagNesting

/-- What is wrong with a tag. -/
inductive Finding.Kind where
  /-- A closing tag with nothing open that it could close. -/
  | missingStart
  /-- An opening tag that is still open at the end of the document. -/
  | missingEnd
  /-- An opening tag passed over by the closing tag of an outer one. -/
  | mismatch
  /-- A tag left over that no other finding accounts for. -/
  | extra
  /-- An occurrence that has no shape of a tag. -/
  | invalidFormat
deriving DecidableEq, Repr

/-- One defect of a document. -/
structure Finding where
  kind : Finding.Kind
  line : Nat
  /-- The name of the tag; for a malformed occurrence, its text. -/
  detail : String
deriving DecidableEq, Repr

namespace Finding

/-- A defect of the given kind, of the given tag. -/
def ofTag (kind : Kind) (tag : Tag) : Finding :=
  ⟨kind, tag.line, tag.name⟩

/-- The kind of a defect in a heading. -/
def Kind.label : Kind → String
  | .missingStart => "missing start tag"
  | .missingEnd => "missing end tag"
  | .mismatch => "mismatched tag"
  | .extra => "extra tag"
  | .invalidFormat => "invalid tag format"

/-- The kind of a defect as a name, for log records. -/
def Kind.name : Kind → String
  | .missingStart => "MissingStart"
  | .missingEnd => "MissingEnd"
  | .mismatch => "Mismatch"
  | .extra => "Extra"
  | .invalidFormat => "InvalidFormat"

/-- What is wrong, without the line. -/
def message (f : Finding) : String :=
  match f.kind with
  | .missingStart => "missing start tag for </" ++ f.detail ++ ">"
  | .missingEnd => "unclosed tag <" ++ f.detail ++ ">"
  | .mismatch => "mismatched tag <" ++ f.detail ++ ">"
  | .extra => "extra element " ++ f.detail
  | .invalidFormat => "invalid tag format " ++ f.detail

/-- The finding as a line of an error log. -/
def render (f : Finding) : String :=
  "Error at line " ++ toString f.line ++ ": " ++ f.message

end Finding

/-- The findings as the lines of an error log, one each and in the same order. -/
def report (findings : List Finding) : List String :=
  findings.map Finding.render

/-- What the error log of a document without findings says. -/
def noErrors : String := "No errors found."

/-- The lines of an error log: the findings, or one line that says there are none. -/
def summary (findings : List Finding) : List String :=
  if findings.isEmpty then [noErrors] else report findings

/-- The line above the findings of an error log. -/
def banner : String := "===================ERROR LOG===================="

end TagNesting
