/-!
# `TagNesting.Json.Problem` — why a text cannot be read as JSON

A JSON text is read from left to right, and the first thing that is wrong with it decides. Either it is not
JSON at that place, or it ends too soon, or it is JSON but not what is wanted there.
-/

namespace TagNesting.Json

/-- The first thing that is wrong with a text. -/
inductive Problem where
  /-- What stands there is not JSON. -/
  | malformed
  /-- The text ends where more was to come. -/
  | ended
  /-- What stands there is JSON of a kind that is not wanted. -/
  | unsuitable
  /-- A word that is none of the words wanted there. -/
  | unknownVariant (word : String) (wanted : List String)
  /-- A record is closed without a field that it must have. -/
  | missingField (name : String)
  /-- A record names a field a second time. -/
  | duplicateField (name : String)
  /-- A record written as a list ends after so few fields. -/
  | tooShort (found : Nat) (record : String) (fields : Nat)
deriving DecidableEq, Repr

/-- A name between backticks. -/
def backticked (name : String) : String :=
  "`" ++ name ++ "`"

/-- The words wanted, in words. -/
def wantedText : List String → String
  | [first, second] => backticked first ++ " or " ++ backticked second
  | words => "one of " ++ ", ".intercalate (words.map backticked)

/-- The problem in words, for those problems that are about a name or a number of fields. -/
def Problem.message? : Problem → Option String
  | .malformed | .ended | .unsuitable => none
  | .unknownVariant word wanted =>
    some ("unknown variant " ++ backticked word ++ ", expected " ++ wantedText wanted)
  | .missingField name => some ("missing field " ++ backticked name)
  | .duplicateField name => some ("duplicate field " ++ backticked name)
  | .tooShort found record fields =>
    some s!"invalid length {found}, expected struct {record} with {fields} elements"

end TagNesting.Json
