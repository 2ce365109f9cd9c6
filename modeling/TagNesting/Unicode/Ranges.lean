/-!
# `TagNesting.Unicode.Ranges` — sets of code points as ascending ranges

A Unicode property is a set of code points. The property modules beside this one write such a set as
a table of closed ranges in ascending order, so that looking up a code point may stop at the first
range that begins above it: an ASCII character is settled within the first few ranges.

## Contents
- `inRanges`: membership, with the early stop.
- `Ascending`: the ranges are apart and in order, which is what the early stop relies on.
- `RangeTable`: ranges that are ascending, and what the table holds.
- `RangeTable.contains_iff`: a table holds the code points of its ranges, and no others.
-/

namespace TagNesting.Unicode

/-- Whether `n` lies in one of the ranges; the search ends at the first range that begins above `n`. -/
def inRanges : List (Nat × Nat) → Nat → Bool
  | [], _ => false
  | (low, high) :: rest, n =>
    if n < low then false else if n ≤ high then true else inRanges rest n

/-- Every range is non-empty and begins after all the ranges before it have ended; `floor` is a code
point that all of them lie above or at. -/
def Ascending (floor : Nat) : List (Nat × Nat) → Prop
  | [] => True
  | (low, high) :: rest => floor ≤ low ∧ low ≤ high ∧ Ascending (high + 1) rest

instance decidableAscending : ∀ (floor : Nat) (ranges : List (Nat × Nat)), Decidable (Ascending floor ranges)
  | _, [] => .isTrue trivial
  | floor, (low, high) :: rest =>
    have := decidableAscending (high + 1) rest
    inferInstanceAs (Decidable (floor ≤ low ∧ low ≤ high ∧ Ascending (high + 1) rest))

/-- In ascending ranges nothing lies below the floor. -/
theorem Ascending.floor_le {floor : Nat} {ranges : List (Nat × Nat)} (h : Ascending floor ranges) :
    ∀ r ∈ ranges, floor ≤ r.1 := by
  induction ranges generalizing floor with
  | nil => simp
  | cons head rest ih =>
    obtain ⟨low, high⟩ := head
    obtain ⟨hlow, hhigh, hrest⟩ := h
    intro r hr
    rcases List.mem_cons.1 hr with rfl | hr
    · exact hlow
    · have := ih hrest r hr
      omega

/-- The early stop loses nothing: **on ascending ranges, `inRanges` decides membership.** -/
theorem inRanges_iff {floor : Nat} {ranges : List (Nat × Nat)} (h : Ascending floor ranges) (n : Nat) :
    inRanges ranges n = true ↔ ∃ r ∈ ranges, r.1 ≤ n ∧ n ≤ r.2 := by
  induction ranges generalizing floor with
  | nil => simp [inRanges]
  | cons head rest ih =>
    obtain ⟨low, high⟩ := head
    obtain ⟨hlow, hhigh, hrest⟩ := h
    simp only [inRanges, List.mem_cons, exists_eq_or_imp]
    by_cases hn : n < low
    · have hnone : ∀ r ∈ rest, ¬ (r.1 ≤ n ∧ n ≤ r.2) := by
        intro r hr
        have := hrest.floor_le r hr
        omega
      simp only [hn, if_true, Bool.false_eq_true, false_iff, not_or, not_exists, not_and]
      exact ⟨fun hle => absurd hn (Nat.not_lt.2 hle), fun r hr hle h => hnone r hr ⟨hle, h⟩⟩
    · by_cases hle : n ≤ high
      · simp [hn, hle, Nat.not_lt.1 hn]
      · simp [hn, hle, ih hrest]

/-- A set of code points, by its ranges in ascending order. -/
structure RangeTable where
  /-- The first and the last code point of each range. -/
  ranges : List (Nat × Nat)
  ascending : Ascending 0 ranges

namespace RangeTable

/-- Whether the table holds a code point. -/
def contains (table : RangeTable) (n : Nat) : Bool :=
  inRanges table.ranges n

theorem contains_iff (table : RangeTable) (n : Nat) :
    table.contains n = true ↔ ∃ r ∈ table.ranges, r.1 ≤ n ∧ n ≤ r.2 :=
  inRanges_iff table.ascending n

end RangeTable

end TagNesting.Unicode
