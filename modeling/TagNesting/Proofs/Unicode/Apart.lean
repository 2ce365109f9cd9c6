import TagNesting.Unicode.Alphabetic
import TagNesting.Unicode.Numeric
import TagNesting.Unicode.WhiteSpace

/-!
# `Proofs.Unicode.Apart` — properties that no character has together

Where a tag name ends is decided by the first blank, and what a name may hold is decided by being alphabetic or
numeric. The two rules fit together because no blank is either of these. Two tables of ranges have nothing in common
when each range of one lies below or above each range of the other (`Apart`), which is decided by comparing their ends.
-/

namespace TagNesting.Unicode

/-- Each range of one table lies below or above each range of the other. -/
def Apart (first second : RangeTable) : Prop :=
  ∀ r ∈ first.ranges, ∀ s ∈ second.ranges, r.2 < s.1 ∨ s.2 < r.1

instance decidableApart (first second : RangeTable) : Decidable (Apart first second) :=
  inferInstanceAs (Decidable (∀ r ∈ first.ranges, ∀ s ∈ second.ranges, r.2 < s.1 ∨ s.2 < r.1))

/-- **Tables that are apart have no code point in common.** -/
theorem Apart.contains_eq_false {first second : RangeTable} (h : Apart first second) {n : Nat}
    (hn : first.contains n = true) : second.contains n = false := by
  obtain ⟨r, hr, hlow, hhigh⟩ := (first.contains_iff n).1 hn
  cases hboth : second.contains n with
  | false => rfl
  | true =>
      obtain ⟨s, hs, hlow', hhigh'⟩ := (second.contains_iff n).1 hboth
      have hapart := h r hr s hs
      omega

theorem apart_whiteSpace_alphabetic : Apart whiteSpaceTable alphabeticTable := by
  decide +kernel

theorem apart_whiteSpace_numeric : Apart whiteSpaceTable numericTable := by
  decide +kernel

/-- A blank is neither alphabetic nor numeric. -/
theorem not_alphanumeric_of_isWhiteSpace {c : Char} (h : isWhiteSpace c = true) :
    isAlphabetic c = false ∧ isNumeric c = false :=
  ⟨apart_whiteSpace_alphabetic.contains_eq_false h, apart_whiteSpace_numeric.contains_eq_false h⟩

end TagNesting.Unicode
