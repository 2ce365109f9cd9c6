/-!
# `TagNesting.Text.Utf8` — reading UTF-8, well formed or not

Bytes are decoded one at a time by a small machine. Between two characters nothing is pending; inside
one, the machine knows the bits it has gathered, how many bytes are still to come, and the range the
next byte must lie in. The range is narrower than the usual `80..BF` after the four lead bytes that
could begin an overlong form, a surrogate or a code point above U+10FFFF, so all of these are refused at
their second byte.

A byte that does not fit gives up what was pending and is then looked at afresh. The result therefore
holds one gap for each *maximal ill-formed part*: the start of a character that was cut short is one
gap, and every other stray byte is one gap of its own.

## Contents
- `Pending`, `begin`, `Decoder.push`, `Decoder.finish`: the machine.
- `decode`: the characters of a byte string, a gap (`none`) for each ill-formed part.
- `decodeLossy`: U+FFFD in place of each gap.
- `decodeStrict?`: nothing at all if there is a gap.
-/

namespace TagNesting.Text.Utf8

/-- A character of which some bytes have been read. -/
structure Pending where
  /-- The value of the bits gathered so far. -/
  bits : Nat
  /-- How many bytes follow after the next one. -/
  further : Nat
  /-- The least value the next byte may have. -/
  low : Nat
  /-- The greatest value the next byte may have. -/
  high : Nat
deriving DecidableEq, Repr

/-- What a byte means between two characters. -/
inductive Lead where
  /-- It is a character by itself. -/
  | single
  /-- It begins a longer character. -/
  | longer (pending : Pending)
  /-- No character begins with it. -/
  | stray
deriving DecidableEq, Repr

/-- The meaning of a byte between two characters. -/
def lead (byte : Nat) : Lead :=
  if byte < 0x80 then .single
  else if byte < 0xC2 then .stray
  else if byte < 0xE0 then .longer ⟨byte - 0xC0, 0, 0x80, 0xBF⟩
  else if byte = 0xE0 then .longer ⟨0x0, 1, 0xA0, 0xBF⟩
  else if byte = 0xED then .longer ⟨0xD, 1, 0x80, 0x9F⟩
  else if byte < 0xF0 then .longer ⟨byte - 0xE0, 1, 0x80, 0xBF⟩
  else if byte = 0xF0 then .longer ⟨0x0, 2, 0x90, 0xBF⟩
  else if byte < 0xF4 then .longer ⟨byte - 0xF0, 2, 0x80, 0xBF⟩
  else if byte = 0xF4 then .longer ⟨0x4, 2, 0x80, 0x8F⟩
  else .stray

/-- The decoder: the character being read, if any, and what has been decoded. -/
structure Decoder where
  /-- The character of which some bytes have been read. -/
  pending : Option Pending := none
  /-- The characters and gaps so far. -/
  decoded : Array (Option Char) := #[]
deriving DecidableEq, Repr

/-- Takes a byte between two characters. -/
def Decoder.begin (decoded : Array (Option Char)) (byte : Nat) : Decoder :=
  match lead byte with
  | .single => ⟨none, decoded.push (some (Char.ofNat byte))⟩
  | .longer pending => ⟨some pending, decoded⟩
  | .stray => ⟨none, decoded.push none⟩

/-- Takes the next byte. One that does not continue the pending character leaves a gap in its place and
is taken as if nothing had been pending. -/
def Decoder.push (d : Decoder) (byte : UInt8) : Decoder :=
  match d.pending with
  | none => .begin d.decoded byte.toNat
  | some p =>
    if p.low ≤ byte.toNat ∧ byte.toNat ≤ p.high then
      let bits := p.bits * 64 + (byte.toNat - 0x80)
      match p.further with
      | 0 => ⟨none, d.decoded.push (some (Char.ofNat bits))⟩
      | further + 1 => ⟨some ⟨bits, further, 0x80, 0xBF⟩, d.decoded⟩
    else .begin (d.decoded.push none) byte.toNat

/-- What was decoded once the bytes are over: a character cut short leaves a gap. -/
def Decoder.finish (d : Decoder) : List (Option Char) :=
  match d.pending with
  | none => d.decoded.toList
  | some _ => (d.decoded.push none).toList

/-- The characters of a byte string, with a gap for each maximal ill-formed part. -/
def decode (bytes : List UInt8) : List (Option Char) :=
  (bytes.foldl Decoder.push {}).finish

/-- The characters of a byte string, with U+FFFD in place of each maximal ill-formed part. -/
def decodeLossy (bytes : List UInt8) : List Char :=
  (decode bytes).map (·.getD '\uFFFD')

/-- The characters of a byte string that is well formed throughout. -/
def decodeStrict? (bytes : List UInt8) : Option (List Char) :=
  (decode bytes).mapM id

end TagNesting.Text.Utf8
