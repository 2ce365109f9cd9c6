/-!
# `TagNesting.Settings` — what can be chosen

Two choices steer a check. The *scan mode* says what the lines of a document hold; the *skip policy* says
what becomes of an opening tag that a closing tag further out has passed over.
-/

namespace TagNesting

/-- What a line of a document holds. -/
inductive ScanMode where
  /-- Any number of occurrences of tags, with text between them. -/
  | tags
  /-- One occurrence, if the line begins with `<` once it is trimmed, and text otherwise. -/
  | lines
deriving DecidableEq, Repr

/-- What becomes of the opening tags that a closing tag of an outer tag has passed over. -/
inductive SkipPolicy where
  /-- Each is a finding of its own, unless its closing tag turns up late. -/
  | report
  /-- Each is kept as an orphan, to be set against the other findings at the end. -/
  | extras
deriving DecidableEq, Repr

/-- The settings of a check. -/
structure Settings where
  policy : SkipPolicy := .report
  mode : ScanMode := .tags
deriving DecidableEq, Repr

end TagNesting
