import TagNesting.Json.Numeral
import TagNesting.Json.QuotedText

/-!
# `TagNesting.Json.Lexeme` — the smallest parts of a JSON text

A JSON text is cut into brackets, colons, commas, literals, numerals and quoted texts; blanks between them
are dropped. The cut does not depend on what the parts are wanted for, and it always succeeds: where the
text stops being JSON, the last lexeme says so.

## Contents
- `Lexeme`: the parts.
- `lexemeFrom`: the lexeme that begins with a character.
- `lexemes`: all lexemes of a text.
-/

namespace TagNesting.Json

/-- A smallest part of a JSON text. -/
inductive Lexeme where
  | openBrace
  | closeBrace
  | openBracket
  | closeBracket
  | colon
  | comma
  | null
  | bool (b : Bool)
  | number (n : Numeral)
  /-- A quoted text; if it breaks off, it is the last lexeme. -/
  | text (q : QuotedText)
  /-- The text stops being JSON here; this is the last lexeme. -/
  | broken (fault : Fault)
deriving DecidableEq, Repr

/-- Whether a character may stand between lexemes. -/
def isBlank (c : Char) : Bool :=
  c = ' ' || c = '\t' || c = '\n' || c = '\r'

/-- What follows the given letters in a text that is to begin with them. -/
def takeLetters : List Char → List Char → Except Fault (List Char)
  | [], text => .ok text
  | _ :: _, [] => .error .endedInLiteral
  | letter :: letters, c :: text => if c = letter then takeLetters letters text else .error .malformed

theorem length_le_of_takeLetters {letters text rest : List Char}
    (h : takeLetters letters text = .ok rest) : rest.length ≤ text.length := by
  fun_induction takeLetters letters text <;> grind

/-- A literal whose first letter has been seen. -/
def literal (letters : List Char) (lexeme : Lexeme) (text : List Char) : Lexeme × List Char :=
  match takeLetters letters text with
  | .ok rest => (lexeme, rest)
  | .error fault => (.broken fault, [])

theorem length_literal_le (letters : List Char) (lexeme : Lexeme) (text : List Char) :
    (literal letters lexeme text).2.length ≤ text.length := by
  unfold literal
  split
  · next h => exact length_le_of_takeLetters h
  · simp

/-- The numeral a text begins with, as a lexeme. -/
def numberLexeme (text : List Char) : Lexeme × List Char :=
  match Numeral.take text with
  | .ok (n, rest) => (.number n, rest)
  | .error fault => (.broken fault, [])

/-- The lexeme that begins with the given character, and what follows it. -/
def lexemeFrom (c : Char) (text : List Char) : Lexeme × List Char :=
  match c with
  | '{' => (.openBrace, text)
  | '}' => (.closeBrace, text)
  | '[' => (.openBracket, text)
  | ']' => (.closeBracket, text)
  | ':' => (.colon, text)
  | ',' => (.comma, text)
  | '"' => let (q, rest) := QuotedText.take text; (.text q, rest)
  | 'n' => literal ['u', 'l', 'l'] .null text
  | 't' => literal ['r', 'u', 'e'] (.bool true) text
  | 'f' => literal ['a', 'l', 's', 'e'] (.bool false) text
  | _ => if c = '-' || c.isDigit then numberLexeme (c :: text) else (.broken .malformed, [])

theorem length_numberLexeme_lt (c : Char) (text : List Char) :
    (numberLexeme (c :: text)).2.length ≤ text.length := by
  unfold numberLexeme
  split
  · next h => exact Nat.le_of_lt_succ (Numeral.length_of_take h)
  · simp

theorem length_lexemeFrom_le (c : Char) (text : List Char) :
    (lexemeFrom c text).2.length ≤ text.length := by
  unfold lexemeFrom
  split
  iterate 6 exact Nat.le_refl _
  · exact QuotedText.length_take_le text
  iterate 3 exact length_literal_le _ _ text
  · split
    · exact length_numberLexeme_lt _ text
    · simp

/-- The lexemes of a text, from left to right. -/
def lexemes (text : List Char) : List Lexeme :=
  match h : text.dropWhile isBlank with
  | [] => []
  | c :: rest =>
    have : (lexemeFrom c rest).2.length < text.length := by
      have := (List.dropWhile_sublist isBlank (l := text)).length_le
      have := length_lexemeFrom_le c rest
      simp only [h, List.length_cons] at *
      omega
    (lexemeFrom c rest).1 :: lexemes (lexemeFrom c rest).2
termination_by text.length

end TagNesting.Json
