import TagNesting.Json.Fault

/-!
# `TagNesting.Json.QuotedText` — texts between quotes

A quoted text is a sequence of units: characters, written as themselves or by an escape, and *surrogates*,
which can be written only as `\u` with four hexadecimal digits. A leading surrogate followed at once by a
trailing one stands for a character above U+FFFF; any other surrogate stands for nothing. That is no fault
of the text as long as nobody asks what it says, so the units are kept and looked at only when they are
used.

## Contents
- `CodeUnit`, `QuotedText`, `QuotedText.take`: the form, and taking one off the front of a text.
- `QuotedText.value`: the characters it stands for.
-/

namespace TagNesting.Json

/-- A unit of a quoted text. -/
inductive CodeUnit where
  | char (c : Char)
  /-- A leading surrogate, by the ten bits it carries. -/
  | leading (bits : Nat)
  /-- A trailing surrogate, by the ten bits it carries. -/
  | trailing (bits : Nat)
deriving DecidableEq, Repr

/-- What stands between two quotes, or between a quote and the place where the text stops. -/
structure QuotedText where
  units : List CodeUnit
  /-- Where the quoted text breaks off, if no closing quote has been reached. -/
  cut : Option Fault
deriving DecidableEq, Repr

/-- The unit that four hexadecimal digits of the given value stand for. -/
def CodeUnit.ofNat (n : Nat) : CodeUnit :=
  if 0xD800 ≤ n ∧ n < 0xDC00 then .leading (n - 0xD800)
  else if 0xDC00 ≤ n ∧ n < 0xE000 then .trailing (n - 0xDC00)
  else .char (Char.ofNat n)

/-- The value of a hexadecimal digit. -/
def hexDigit? (c : Char) : Option Nat :=
  if c.isDigit then some (c.toNat - '0'.toNat)
  else if 'a' ≤ c ∧ c ≤ 'f' then some (c.toNat - 'a'.toNat + 10)
  else if 'A' ≤ c ∧ c ≤ 'F' then some (c.toNat - 'A'.toNat + 10)
  else none

/-- The value of four hexadecimal digits. -/
def fourHexDigits? (a b c d : Char) : Option Nat := do
  let a ← hexDigit? a
  let b ← hexDigit? b
  let c ← hexDigit? c
  let d ← hexDigit? d
  return ((a * 16 + b) * 16 + c) * 16 + d

/-- The character that a backslash and this letter stand for. -/
def escaped? : Char → Option Char
  | '"' => some '"'
  | '\\' => some '\\'
  | '/' => some '/'
  | 'b' => some '\x08'
  | 'f' => some '\x0c'
  | 'n' => some '\n'
  | 'r' => some '\r'
  | 't' => some '\t'
  | _ => none

namespace QuotedText

/-- A unit put in front of a quoted text and what follows it. -/
def consUnit (unit : CodeUnit) (result : QuotedText × List Char) : QuotedText × List Char :=
  ({ result.1 with units := unit :: result.1.units }, result.2)

/-- A quoted text that breaks off before its first unit. -/
def cutOff (fault : Fault) : QuotedText × List Char :=
  (⟨[], some fault⟩, [])

/-- The number of bytes that a text takes in UTF-8. -/
def byteLength : List Char → Nat
  | [] => 0
  | c :: rest => c.utf8Size + byteLength rest

/-- The quoted text that follows an opening quote, and what follows its closing quote. After a `\u` the text
has ended too soon if fewer than four bytes follow; otherwise four hexadecimal digits must follow. -/
def take : List Char → QuotedText × List Char
  | [] => cutOff .ended
  | '"' :: rest => (⟨[], none⟩, rest)
  | '\\' :: 'u' :: a :: b :: c :: d :: rest =>
    match fourHexDigits? a b c d with
    | some n => consUnit (.ofNat n) (take rest)
    | none => cutOff .malformed
  | '\\' :: 'u' :: rest => cutOff (if byteLength rest < 4 then .ended else .malformed)
  | '\\' :: c :: rest =>
    match escaped? c with
    | some c => consUnit (.char c) (take rest)
    | none => cutOff .malformed
  | ['\\'] => cutOff .ended
  | c :: rest => if c.toNat < 0x20 then cutOff .malformed else consUnit (.char c) (take rest)

/-- What is taken leaves no more than there was. -/
theorem length_take_le (text : List Char) : (take text).2.length ≤ text.length := by
  fun_induction take text <;> simp_all [consUnit, cutOff] <;> omega

/-- The characters that units stand for; each leading surrogate must be followed by a trailing one, and the
break, if there is one, comes after the last unit. -/
def valueOf (cut : Option Fault) : List CodeUnit → Except Problem (List Char)
  | [] =>
    match cut with
    | none => .ok []
    | some fault => .error fault.whenUsed
  | .char c :: units => (valueOf cut units).map (c :: ·)
  | .leading high :: .trailing low :: units =>
    (valueOf cut units).map (Char.ofNat (0x10000 + high * 0x400 + low) :: ·)
  | [.leading _] =>
    match cut with
    | none => .error .malformed
    | some fault => .error fault.whenUsed
  | _ => .error .malformed

/-- What a quoted text says. -/
def value (q : QuotedText) : Except Problem String :=
  (valueOf q.cut q.units).map String.ofList

end QuotedText

end TagNesting.Json
