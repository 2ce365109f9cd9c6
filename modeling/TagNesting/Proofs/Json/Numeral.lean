import TagNesting.Json.Numeral
import TagNesting.Proofs.Text.Stretch

/-!
# `Proofs.Json.Numeral` — a number is taken as it is spelled

The library writes a natural number in decimal digits, without a leading zero that would have to stand alone. In texts
that come from elsewhere, a number may have a sign, a point and an exponent. Which spellings there are is said by a
grammar, without the functions that take them off a text (`Numeral.Spelled`).

A numeral ends where something follows that cannot go on with it: no digit, no point and no exponent (`EndsNumeral`). If
that is so, whatever is spelled is taken off the text as what it is (`Numeral.take_of_spelled`). What the library writes
is spelled (`Numeral.spelled_toDigits`).
-/

namespace TagNesting.Json

/-- A numeral that has come to its end is not gone on with by what follows. -/
def EndsNumeral (rest : List Char) : Prop :=
  ∀ c ∈ rest.head?, c.isDigit = false ∧ c ≠ '.' ∧ c ≠ 'e' ∧ c ≠ 'E'

/-- A natural number as it is read. -/
def Numeral.ofNat (n : Nat) : Numeral :=
  ⟨false, Nat.toDigits 10 n, none, none⟩

namespace Numeral

/-! ## Spellings -/

/-- One decimal digit or more. -/
def IsDigits (digits : List Char) : Prop :=
  digits ≠ [] ∧ ∀ c ∈ digits, c.isDigit = true

/-- A point and the digits after it, or nothing. -/
inductive SpelledFraction : Option (List Char) → List Char → Prop where
  | none : SpelledFraction none []
  | some {digits : List Char} (h : IsDigits digits) : SpelledFraction (some digits) ('.' :: digits)

/-- The sign of an exponent, which may be left out. -/
inductive SpelledSign : Bool → List Char → Prop where
  | none : SpelledSign false []
  | plus : SpelledSign false ['+']
  | minus : SpelledSign true ['-']

/-- An exponent, or nothing. -/
inductive SpelledExponent : Option (Bool × List Char) → List Char → Prop where
  | none : SpelledExponent none []
  | some {mark : Char} {negative : Bool} {sign digits : List Char} (hmark : mark = 'e' ∨ mark = 'E')
      (hsign : SpelledSign negative sign) (h : IsDigits digits) :
      SpelledExponent (some (negative, digits)) (mark :: (sign ++ digits))

/-- A number behind its sign. A zero before the point stands alone. -/
inductive SpelledUnsigned (negative : Bool) : Numeral → List Char → Prop where
  | intro {whole fractionText exponentText : List Char} {fraction : Option (List Char)}
      {exponent : Option (Bool × List Char)} (hwhole : IsDigits whole)
      (hzero : whole.head? = some '0' → whole = ['0']) (hfraction : SpelledFraction fraction fractionText)
      (hexponent : SpelledExponent exponent exponentText) :
      SpelledUnsigned negative ⟨negative, whole, fraction, exponent⟩ (whole ++ (fractionText ++ exponentText))

/-- A number. -/
inductive Spelled : Numeral → List Char → Prop where
  | positive {n : Numeral} {text : List Char} (h : SpelledUnsigned false n text) : Spelled n text
  | negative {n : Numeral} {text : List Char} (h : SpelledUnsigned true n text) : Spelled n ('-' :: text)

/-! ## Taking what is spelled -/

variable {text rest : List Char}

/-- No digit comes next. -/
def NoDigit (rest : List Char) : Prop :=
  ∀ c ∈ rest.head?, c.isDigit = false

/-- Digits are taken as far as they go. -/
theorem takeDigits_append {digits : List Char} (hdigits : IsDigits digits) (h : NoDigit rest) :
    takeDigits (digits ++ rest) = .ok (digits, rest) := by
  obtain ⟨hne, hall⟩ := hdigits
  unfold takeDigits
  rw [Text.takeWhile_stop hall h, Text.dropWhile_stop hall h]
  cases digits with
  | nil => exact absurd rfl hne
  | cons => rfl

/-- So are those before the point, if a zero in front stands alone. -/
theorem takeWhole_append {whole : List Char} (hwhole : IsDigits whole)
    (hzero : whole.head? = some '0' → whole = ['0']) (h : NoDigit rest) :
    takeWhole (whole ++ rest) = .ok (whole, rest) := by
  unfold takeWhole
  rw [takeDigits_append hwhole h]
  split
  · next second more _ heq =>
      have hcons : whole = '0' :: second :: more := congrArg Prod.fst (Except.ok.inj heq)
      rw [hcons] at hzero
      exact absurd (hzero rfl) (by simp)
  · rfl

theorem takeExponent_of_ends (h : EndsNumeral rest) : takeExponent rest = .ok (none, rest) := by
  cases rest with
  | nil => rfl
  | cons c rest =>
      obtain ⟨-, -, hlower, hupper⟩ := h c rfl
      rw [takeExponent, if_neg (not_or.2 ⟨hlower, hupper⟩)]

theorem takeFraction_of_spelled {fraction : Option (List Char)} (h : SpelledFraction fraction text)
    (hrest : NoDigit rest) (hpoint : rest.head? ≠ some '.') : takeFraction (text ++ rest) = .ok (fraction, rest) := by
  cases h with
  | none =>
      rw [List.nil_append]
      unfold takeFraction
      split
      · exact absurd rfl hpoint
      · rfl
  | some hdigits =>
      show (takeDigits (_ ++ rest)).map _ = _
      rw [takeDigits_append hdigits hrest]
      rfl

theorem takeSign_of_spelled {negative : Bool} {digits : List Char} (h : SpelledSign negative text)
    (hdigits : IsDigits digits) (rest : List Char) :
    takeSign (text ++ (digits ++ rest)) = (negative, digits ++ rest) := by
  cases h with
  | none =>
      obtain ⟨hne, hall⟩ := hdigits
      obtain ⟨first, others, rfl⟩ := List.exists_cons_of_ne_nil hne
      have hfirst : first.isDigit = true := hall first List.mem_cons_self
      unfold takeSign
      split
      · next heq =>
          obtain ⟨rfl, -⟩ := List.cons.inj heq
          exact absurd hfirst (by decide)
      · next heq =>
          obtain ⟨rfl, -⟩ := List.cons.inj heq
          exact absurd hfirst (by decide)
      · rfl
  | plus => rfl
  | minus => rfl

theorem takeExponent_of_spelled {exponent : Option (Bool × List Char)} (h : SpelledExponent exponent text)
    (hrest : EndsNumeral rest) : takeExponent (text ++ rest) = .ok (exponent, rest) := by
  cases h with
  | none => exact takeExponent_of_ends hrest
  | some hmark hsign hdigits =>
      rw [List.cons_append, List.append_assoc, takeExponent, if_pos hmark, takeSign_of_spelled hsign hdigits,
        takeDigits_append hdigits fun c hc => (hrest c hc).1]
      rfl

/-- Behind the digits before the point, and behind those after it, no digit comes. -/
theorem noDigit_of_exponent {exponent : Option (Bool × List Char)} (h : SpelledExponent exponent text)
    (hrest : EndsNumeral rest) : NoDigit (text ++ rest) ∧ (text ++ rest).head? ≠ some '.' := by
  cases h with
  | none => exact ⟨fun c hc => (hrest c hc).1, fun hpoint => (hrest '.' hpoint).2.1 rfl⟩
  | some hmark =>
      rcases hmark with rfl | rfl
      · exact ⟨fun c hc => by cases hc; rfl, by simp⟩
      · exact ⟨fun c hc => by cases hc; rfl, by simp⟩

theorem noDigit_of_fraction {fraction : Option (List Char)} (h : SpelledFraction fraction text)
    (hrest : NoDigit rest) : NoDigit (text ++ rest) := by
  cases h with
  | none => exact hrest
  | some hdigits =>
      intro c hc
      cases hc
      rfl

theorem takeUnsigned_of_spelled {negative : Bool} {n : Numeral} (h : SpelledUnsigned negative n text)
    (hrest : EndsNumeral rest) : takeUnsigned negative (text ++ rest) = .ok (n, rest) := by
  obtain ⟨hwhole, hzero, hfraction, hexponent⟩ := h
  obtain ⟨hafter, hpoint⟩ := noDigit_of_exponent hexponent hrest
  have hbefore := noDigit_of_fraction hfraction hafter
  simp only [takeUnsigned, List.append_assoc, takeWhole_append hwhole hzero hbefore, bind, Except.bind,
    takeFraction_of_spelled hfraction hafter hpoint, takeExponent_of_spelled hexponent hrest]
  rfl

/-- **A number is taken as it is spelled.** -/
theorem take_of_spelled {n : Numeral} (h : Spelled n text) (hrest : EndsNumeral rest) :
    take (text ++ rest) = .ok (n, rest) := by
  cases h with
  | positive h =>
      rw [← takeUnsigned_of_spelled h hrest]
      obtain ⟨⟨hne, hdigits⟩⟩ := h
      obtain ⟨first, others, rfl⟩ := List.exists_cons_of_ne_nil hne
      rw [List.cons_append, List.cons_append, take]
      -- a digit is not a sign
      rintro _ ⟨rfl⟩
      exact absurd (hdigits '-' List.mem_cons_self) (by decide)
  | negative h => exact takeUnsigned_of_spelled h hrest

/-! ## Written numbers -/

/-- A number is written in digits. -/
theorem isDigit_of_mem_toDigits {n : Nat} : ∀ c ∈ Nat.toDigits 10 n, c.isDigit = true := by
  intro c hc
  exact Nat.isDigit_of_mem_toDigits (by decide) (by decide) hc

/-- Only the digits of zero begin with a zero. -/
theorem eq_zero_of_head?_toDigits {n : Nat} (h : (Nat.toDigits 10 n).head? = some '0') : n = 0 := by
  induction n using Nat.strongRecOn with
  | ind n ih =>
      by_cases hlt : n < 10
      · rw [Nat.toDigits_of_lt_base hlt] at h
        exact Nat.digitChar_eq_zero.1 (Option.some.inj h)
      · -- the leading digits are those of a smaller number, which is not zero
        rw [Nat.toDigits_of_base_le (by decide) (by omega), List.head?_append,
          List.head?_eq_some_head Nat.toDigits_ne_nil, Option.some_or, ← List.head?_eq_some_head] at h
        have hzero : n / 10 = 0 := ih (n / 10) (by omega) h
        omega

/-- **A number is spelled as it is written.** -/
theorem spelled_toDigits (n : Nat) : Spelled (ofNat n) (Nat.toDigits 10 n) := by
  have hunsigned : SpelledUnsigned false (ofNat n) (Nat.toDigits 10 n ++ ([] ++ [])) := by
    refine .intro ⟨Nat.toDigits_ne_nil, isDigit_of_mem_toDigits⟩ ?_ .none .none
    intro hhead
    rw [eq_zero_of_head?_toDigits hhead, Nat.toDigits_zero]
  rw [List.append_nil, List.append_nil] at hunsigned
  exact .positive hunsigned

/-- The value of its digits is the number. -/
@[simp] theorem natural?_ofNat (n : Nat) : (ofNat n).natural? = some n := by
  have hvalue : digitsValue (Nat.toDigits 10 n) = Nat.ofDigitChars 10 (Nat.toDigits 10 n) 0 := by
    simp only [digitsValue, Nat.ofDigitChars_eq_foldl, Nat.mul_comm 10]
  rw [ofNat, natural?, hvalue, Nat.ofDigitChars_ten_toDigits]

end Numeral

end TagNesting.Json
