/-!
# `TagNesting.Token` — tags and tokens

A *tag* is a name and the line it stands on. A *token* is what a scan makes of one occurrence of a tag in
a document: its kind, the name, and the line. A declaration and a malformed occurrence have no name of
their own; their token carries the whole text of the occurrence instead.
-/

namespace TagNesting

/-- A tag that has been opened or left over: its name and the line it stands on. -/
structure Tag where
  name : String
  line : Nat
deriving DecidableEq, Repr

/-- What an occurrence of a tag is, by its shape. -/
inductive Token.Kind where
  /-- Written `<name …>`; everything up to the matching closing tag is inside it. -/
  | opening
  /-- Written `</name>`. -/
  | closing
  /-- Written `<name …/>`; opened and closed at once. -/
  | selfClosing
  /-- Written `<?…?>` or `<!…>`. -/
  | declaration
  /-- Any other text. -/
  | malformed
deriving DecidableEq, Repr

/-- A classified occurrence of a tag. -/
structure Token where
  kind : Token.Kind
  /-- The tag's name; for a declaration or a malformed occurrence, its text. -/
  name : String
  line : Nat
deriving DecidableEq, Repr

/-- The tag that a token is about. -/
def Token.tag (token : Token) : Tag :=
  ⟨token.name, token.line⟩

end TagNesting
