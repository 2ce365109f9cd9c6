/-!
# `TagNesting.Collection.Stack` — last in, first out

The elements of a stack are listed from the top down. Taking or looking at an element of an empty stack is
answered with `none`, so that the empty case is always in view. Places are counted from the top, which has
place one.

## Contents
- `Stack`, `push`, `pop?`, `peek?`, `size`, `searchBy`, `search`, `contains`, `above`, `below`.
- `searchBy_eq_none_iff`, `searchBy_of_append`, `above_of_append`, `below_of_append`: a stack split at the
  element that a search finds.
-/

namespace TagNesting

/-- A stack, listed from the top down. -/
structure Stack (α : Type) where
  /-- The elements from the top down. -/
  toList : List α := []
deriving DecidableEq, Repr

namespace Stack

variable {α : Type}

/-- The stack without elements. -/
def empty : Stack α := {}

/-- Puts an element on top. -/
def push (s : Stack α) (x : α) : Stack α :=
  ⟨x :: s.toList⟩

/-- Takes the top element. -/
def pop? (s : Stack α) : Option (α × Stack α) :=
  match s.toList with
  | [] => none
  | x :: rest => some (x, ⟨rest⟩)

/-- The top element. -/
def peek? (s : Stack α) : Option α :=
  s.toList.head?

/-- The number of elements. -/
def size (s : Stack α) : Nat :=
  s.toList.length

/-- Whether there is no element. -/
def isEmpty (s : Stack α) : Bool :=
  s.toList.isEmpty

/-- The place, counted from the top, of the uppermost element that satisfies a predicate. -/
def searchBy (s : Stack α) (p : α → Bool) : Option Nat :=
  (s.toList.findIdx? p).map (· + 1)

/-- The place, counted from the top, of the uppermost element equal to `x`. -/
def search [DecidableEq α] (s : Stack α) (x : α) : Option Nat :=
  s.searchBy (· = x)

/-- Whether `x` is one of the elements. -/
def contains [DecidableEq α] (s : Stack α) (x : α) : Bool :=
  s.toList.contains x

/-- The elements above the one at the given place, from the top down. -/
def above (s : Stack α) (place : Nat) : List α :=
  s.toList.take (place - 1)

/-- What remains once the element at the given place has been taken, and all above it. -/
def below (s : Stack α) (place : Nat) : Stack α :=
  ⟨s.toList.drop place⟩

@[simp] theorem toList_empty : (empty : Stack α).toList = [] := rfl

@[simp] theorem toList_push (s : Stack α) (x : α) : (s.push x).toList = x :: s.toList := rfl

@[simp] theorem pop?_push (s : Stack α) (x : α) : (s.push x).pop? = some (x, s) := rfl

/-! ## Searching -/

theorem searchBy_eq_none_iff {s : Stack α} {p : α → Bool} :
    s.searchBy p = none ↔ ∀ x ∈ s.toList, p x = false := by
  rw [searchBy, Option.map_eq_none_iff, List.findIdx?_eq_none_iff]

/-- The uppermost element that satisfies a predicate has place one more than there are elements above it. -/
theorem searchBy_of_append {s : Stack α} {p : α → Bool} {upper lower : List α} {x : α}
    (h : s.toList = upper ++ x :: lower) (hupper : ∀ y ∈ upper, p y = false) (hx : p x = true) :
    s.searchBy p = some (upper.length + 1) := by
  have hnone : upper.findIdx? p = none := List.findIdx?_eq_none_iff.2 hupper
  rw [searchBy, h, List.findIdx?_append, hnone, List.findIdx?_cons, hx]
  simp

theorem above_of_append {s : Stack α} {upper lower : List α} {x : α}
    (h : s.toList = upper ++ x :: lower) : s.above (upper.length + 1) = upper := by
  rw [above, h, Nat.add_sub_cancel, List.take_left]

theorem below_of_append {s : Stack α} {upper lower : List α} {x : α}
    (h : s.toList = upper ++ x :: lower) : s.below (upper.length + 1) = ⟨lower⟩ := by
  rw [below, h, List.append_cons, List.drop_left' (by simp)]

end Stack

end TagNesting
