import TagNesting.Json.Fault

/-!
# `TagNesting.Json.Numeral` — numbers as they are written

A numeral has a sign, digits before the point, and possibly digits after it and an exponent. It is kept as
it is written, because what it is worth depends on who asks: a line number must be a natural number written
without sign, point or exponent, while elsewhere a numeral need only be one that a binary floating-point
number of 64 bits could stand for without overflow.

The overflow test follows the two roundings of such a conversion. The *significand* is made of the leading
digits, as long as they fit in 64 bits; the digits left over before the point count as powers of ten. The
significand and the power of ten are each rounded to 53 bits, and their product overflows when it rounds to
2^1024 or more.

## Contents
- `Numeral`, `Numeral.take`: the form, and taking one off the front of a text.
- `Numeral.natural?`: the value of a plain natural number.
- `Numeral.overflows`: whether it is too large for 64-bit floating point.
-/

namespace TagNesting.Json

/-- A number as it is written. -/
structure Numeral where
  negative : Bool
  /-- The digits before the point. -/
  whole : List Char
  /-- The digits after the point, if there is one. -/
  fraction : Option (List Char)
  /-- The exponent, if there is one: whether it is negative, and its digits. -/
  exponent : Option (Bool × List Char)
deriving DecidableEq, Repr

/-- The value of a list of decimal digits. -/
def digitsValue (digits : List Char) : Nat :=
  digits.foldl (fun value digit => value * 10 + (digit.toNat - '0'.toNat)) 0

namespace Numeral

/-! ## Taking a numeral off a text -/

/-- The digits a text begins with, of which there must be one, and what follows them. -/
def takeDigits (text : List Char) : Except Fault (List Char × List Char) :=
  match text.takeWhile Char.isDigit with
  | [] => .error (if text.isEmpty then .endedInNumber else .malformed)
  | digits => .ok (digits, text.dropWhile Char.isDigit)

/-- The digits before the point: a zero stands alone. -/
def takeWhole (text : List Char) : Except Fault (List Char × List Char) :=
  match takeDigits text with
  | .ok ('0' :: _ :: _, _) => .error .malformed
  | result => result

/-- The point and the digits after it, if the text begins with a point. -/
def takeFraction : List Char → Except Fault (Option (List Char) × List Char)
  | '.' :: text => (takeDigits text).map fun (digits, rest) => (some digits, rest)
  | text => .ok (none, text)

/-- The sign of an exponent, and what follows it. -/
def takeSign : List Char → Bool × List Char
  | '-' :: text => (true, text)
  | '+' :: text => (false, text)
  | text => (false, text)

/-- The exponent, if the text begins with one. -/
def takeExponent : List Char → Except Fault (Option (Bool × List Char) × List Char)
  | c :: text =>
    if c = 'e' ∨ c = 'E' then
      (takeDigits (takeSign text).2).map fun (digits, rest) => (some ((takeSign text).1, digits), rest)
    else .ok (none, c :: text)
  | [] => .ok (none, [])

/-- The numeral a text begins with after its sign, and what follows it. -/
def takeUnsigned (negative : Bool) (text : List Char) : Except Fault (Numeral × List Char) := do
  let (whole, text) ← takeWhole text
  let (fraction, text) ← takeFraction text
  let (exponent, text) ← takeExponent text
  return ({ negative, whole, fraction, exponent }, text)

/-- The numeral a text begins with, and what follows it. -/
def take : List Char → Except Fault (Numeral × List Char)
  | '-' :: text => takeUnsigned true text
  | text => takeUnsigned false text

/-! ## What is taken makes the text shorter -/

theorem length_of_takeDigits {text digits rest : List Char} (h : takeDigits text = .ok (digits, rest)) :
    rest.length < text.length := by
  unfold takeDigits at h
  split at h
  · exact absurd h (by simp)
  · next hne =>
      cases h
      have hsplit := congrArg List.length (List.takeWhile_append_dropWhile (p := Char.isDigit) (l := text))
      have := List.length_pos_iff.2 hne
      simp only [List.length_append] at hsplit
      omega

theorem length_of_takeWhole {text digits rest : List Char} (h : takeWhole text = .ok (digits, rest)) :
    rest.length < text.length := by
  unfold takeWhole at h
  split at h
  · exact absurd h (by simp)
  · exact length_of_takeDigits h

theorem length_of_takeFraction {text rest : List Char} {fraction : Option (List Char)}
    (h : takeFraction text = .ok (fraction, rest)) : rest.length ≤ text.length := by
  unfold takeFraction at h
  split at h
  · next text =>
      cases hd : takeDigits text with
      | error fault => simp [hd, Except.map] at h
      | ok result =>
        simp only [hd, Except.map, Except.ok.injEq, Prod.mk.injEq] at h
        have := length_of_takeDigits hd
        rw [← h.2, List.length_cons]
        omega
  · cases h
    exact Nat.le_refl _

theorem length_takeSign_le (text : List Char) : (takeSign text).2.length ≤ text.length := by
  unfold takeSign
  split <;> simp

theorem length_of_takeExponent {text rest : List Char} {exponent : Option (Bool × List Char)}
    (h : takeExponent text = .ok (exponent, rest)) : rest.length ≤ text.length := by
  unfold takeExponent at h
  split at h
  · next c text =>
      split at h
      · cases hd : takeDigits (takeSign text).2 with
        | error fault => simp [hd, Except.map] at h
        | ok result =>
          simp only [hd, Except.map, Except.ok.injEq, Prod.mk.injEq] at h
          have := length_of_takeDigits hd
          have := length_takeSign_le text
          rw [← h.2, List.length_cons]
          omega
      · cases h
        exact Nat.le_refl _
  · cases h
    exact Nat.le_refl _

theorem length_of_takeUnsigned {negative : Bool} {text rest : List Char} {n : Numeral}
    (h : takeUnsigned negative text = .ok (n, rest)) : rest.length < text.length := by
  unfold takeUnsigned at h
  cases hw : takeWhole text with
  | error fault => simp [hw, bind, Except.bind] at h
  | ok whole =>
    cases hf : takeFraction whole.2 with
    | error fault => simp [hw, hf, bind, Except.bind] at h
    | ok fraction =>
      cases he : takeExponent fraction.2 with
      | error fault => simp [hw, hf, he, bind, Except.bind] at h
      | ok exponent =>
        simp only [hw, hf, he, bind, Except.bind, pure, Except.pure, Except.ok.injEq, Prod.mk.injEq] at h
        have := length_of_takeWhole hw
        have := length_of_takeFraction hf
        have := length_of_takeExponent he
        rw [← h.2]
        omega

/-- A numeral is never empty: **what follows it is shorter than the text.** -/
theorem length_of_take {text rest : List Char} {n : Numeral} (h : take text = .ok (n, rest)) :
    rest.length < text.length := by
  unfold take at h
  split at h
  · have := length_of_takeUnsigned h
    rw [List.length_cons]
    omega
  · exact length_of_takeUnsigned h

/-! ## What a numeral is worth -/

/-- The value of a numeral without sign, point and exponent. -/
def natural? (n : Numeral) : Option Nat :=
  match n with
  | { negative := false, whole, fraction := none, exponent := none } => some (digitsValue whole)
  | _ => none

/-- The leading digits that make a number below 2^64, joined to the digits already taken, and how many
digits are left over. -/
def significand (taken : Nat) : List Char → Nat × Nat
  | [] => (taken, 0)
  | digit :: digits =>
    let next := taken * 10 + (digit.toNat - '0'.toNat)
    if next < Nat.pow 2 64 then significand next digits else (taken, digits.length + 1)

/-- A natural number rounded to 53 significant bits, a half going to the even neighbour. -/
def roundTo53Bits (n : Nat) : Nat :=
  let excess := n.log2 + 1 - 53
  let unit := Nat.pow 2 excess
  let quotient := n / unit
  let remainder := n % unit
  let up := 2 * remainder > unit ∨ (2 * remainder = unit ∧ quotient % 2 = 1)
  (if up then quotient + 1 else quotient) * unit

/-- The least natural number that rounds to 2^1024 in 53 significant bits. -/
def overflowBound : Nat :=
  Nat.pow 2 1024 - Nat.pow 2 970

/-- Whether the numeral is too large for 64-bit floating point. -/
def overflows (n : Numeral) : Bool :=
  let (beforePoint, leftOver) := significand 0 n.whole
  let afterPoint := n.fraction.getD []
  let (value, dropped) := significand beforePoint afterPoint
  let power : Int := match n.exponent with
    | none => 0
    | some (false, digits) => (digitsValue digits : Int)
    | some (true, digits) => -(digitsValue digits : Int)
  let scale : Int := (leftOver : Int) - ((afterPoint.length - dropped : Nat) : Int) + power
  if value = 0 ∨ scale < 0 then false
  else if scale > 308 then true
  else roundTo53Bits value * roundTo53Bits (Nat.pow 10 scale.toNat) ≥ overflowBound

end Numeral

end TagNesting.Json
