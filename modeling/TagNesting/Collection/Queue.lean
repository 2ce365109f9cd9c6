/-!
# `TagNesting.Collection.Queue` — first in, first out

A queue is kept as two lists: the front, from the oldest element on, and the back, from the newest element
on. Entering puts an element on the back and leaving takes one off the front; when the front runs out, the
back is turned round once to become the new front. So both take constant time on average, and looking at
the oldest element takes constant time always, because the front is empty only if the whole queue is — a
fact that the type carries.

How the elements are spread over the two lists means nothing. What a queue holds is `toList`, and every
operation is described by what it does to that list.

## Contents
- `Queue`, `toList`, `enqueue`, `dequeue?`, `peek?`, `size`, `search`, `contains`.
- `toList_enqueue`, `peek?_eq_head?`, `isEmpty_iff`, `dequeue?_eq_none_iff`, `toList_of_dequeue?`: the view.
-/

namespace TagNesting

/-- A queue of elements. -/
structure Queue (α : Type) where
  /-- The oldest elements, from the oldest on. -/
  front : List α := []
  /-- The elements after those of the front, from the newest on. -/
  back : List α := []
  /-- The front is empty only if the queue is. -/
  back_eq_nil : front = [] → back = [] := by simp
deriving DecidableEq, Repr

namespace Queue

variable {α : Type}

/-- The queue without elements. -/
def empty : Queue α := {}

/-- The elements, from the oldest on. -/
def toList (q : Queue α) : List α :=
  q.front ++ q.back.reverse

/-- Puts an element at the end. -/
def enqueue (q : Queue α) (x : α) : Queue α :=
  match q.front with
  | [] => { front := [x] }
  | oldest :: rest => { front := oldest :: rest, back := x :: q.back }

/-- Puts elements at the end, one after the other. -/
def enqueueAll (q : Queue α) (xs : List α) : Queue α :=
  xs.foldl enqueue q

/-- Takes the oldest element. -/
def dequeue? (q : Queue α) : Option (α × Queue α) :=
  match q.front with
  | [] => none
  | [x] => some (x, { front := q.back.reverse })
  | x :: next :: rest => some (x, { front := next :: rest, back := q.back })

/-- The oldest element. -/
def peek? (q : Queue α) : Option α :=
  q.front.head?

/-- The number of elements. -/
def size (q : Queue α) : Nat :=
  q.front.length + q.back.length

/-- Whether there is no element. -/
def isEmpty (q : Queue α) : Bool :=
  q.front.isEmpty

/-- The place, counted from the oldest element, of the first element equal to `x`. -/
def search [DecidableEq α] (q : Queue α) (x : α) : Option Nat :=
  (q.toList.findIdx? (· = x)).map (· + 1)

/-- Whether `x` is one of the elements. -/
def contains [DecidableEq α] (q : Queue α) (x : α) : Bool :=
  q.toList.contains x

/-! ## What the operations do to the list of elements -/

@[simp] theorem toList_empty : (empty : Queue α).toList = [] := rfl

@[simp] theorem toList_enqueue (q : Queue α) (x : α) : (q.enqueue x).toList = q.toList ++ [x] := by
  obtain ⟨front, back, h⟩ := q
  cases front with
  | nil => simp [enqueue, toList, h rfl]
  | cons oldest rest => simp [enqueue, toList]

@[simp] theorem toList_enqueueAll (q : Queue α) (xs : List α) :
    (q.enqueueAll xs).toList = q.toList ++ xs := by
  induction xs generalizing q with
  | nil => simp [enqueueAll]
  | cons x xs ih =>
    have := ih (q.enqueue x)
    simp_all [enqueueAll]

theorem toList_eq_nil_iff {q : Queue α} : q.toList = [] ↔ q.front = [] := by
  constructor
  · intro h
    exact (List.append_eq_nil_iff.1 h).1
  · intro h
    simp [toList, h, q.back_eq_nil h]

theorem peek?_eq_head? (q : Queue α) : q.peek? = q.toList.head? := by
  obtain ⟨front, back, h⟩ := q
  cases front with
  | nil => simp [peek?, toList, h rfl]
  | cons oldest rest => simp [peek?, toList]

theorem isEmpty_iff {q : Queue α} : q.isEmpty = true ↔ q.toList = [] := by
  simp [isEmpty, toList_eq_nil_iff]

@[simp] theorem size_eq_length (q : Queue α) : q.size = q.toList.length := by
  simp [size, toList]

theorem dequeue?_eq_none_iff {q : Queue α} : q.dequeue? = none ↔ q.toList = [] := by
  rw [toList_eq_nil_iff]
  unfold dequeue?
  split <;> simp_all

/-- Leaving is in order: **what is taken is the oldest element, and the others stay as they were.** -/
theorem toList_of_dequeue? {q rest : Queue α} {x : α} (h : q.dequeue? = some (x, rest)) :
    q.toList = x :: rest.toList := by
  unfold dequeue? at h
  split at h
  · exact absurd h (by simp)
  · next y hfront =>
      cases h
      simp [toList, hfront]
  · next y next tail hfront =>
      cases h
      simp [toList, hfront]

end Queue

end TagNesting
