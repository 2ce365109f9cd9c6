import TagNesting.Unicode.CombiningMark
import TagNesting.Unicode.DefaultIgnorable
import TagNesting.Unicode.Unprintable

/-!
# `TagNesting.Text.Quoted` — a text between quotes, made visible

A name in a log record may hold anything, so it is shown between double quotes with every character that
could mislead a reader spelled out: the quote and the backslash, the common controls by their letter, and by
its code point each other character that would attach to the one before, that is ignored when a text is drawn,
or that has no visible form for another reason.
-/

namespace TagNesting.Text

open Unicode

/-- A character by its code point: `\u`, then the hexadecimal digits in braces. -/
def codePointEscape (c : Char) : List Char :=
  '\\' :: 'u' :: '\x7b' :: (Nat.toDigits 16 c.toNat ++ ['\x7d'])

/-- Whether a character shows between quotes what it is. -/
def showsItself (c : Char) : Bool :=
  !(isCombiningMark c || isDefaultIgnorable c || isUnprintable c)

/-- A character as it stands between quotes. -/
def quotedChar (c : Char) : List Char :=
  match c with
  | '\x00' => ['\\', '0']
  | '\t' => ['\\', 't']
  | '\n' => ['\\', 'n']
  | '\r' => ['\\', 'r']
  | '"' => ['\\', '"']
  | '\\' => ['\\', '\\']
  | _ => if showsItself c then [c] else codePointEscape c

/-- A text between double quotes, with every character in visible form. -/
def quoted (text : String) : String :=
  String.ofList ('"' :: (text.toList.flatMap quotedChar ++ ['"']))

end TagNesting.Text
