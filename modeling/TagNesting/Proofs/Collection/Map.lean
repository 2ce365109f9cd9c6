import TagNesting.Collection.Queue
import TagNesting.Collection.Stack

/-!
# `Proofs.Collection.Map` — containers with every element replaced

A function on elements carries over to stacks and queues element by element, and every operation commutes with it:
what is put in, taken out or found afterwards is the image of what it was before. For a queue this holds of the two
lists themselves, and not only of the elements that they show, so that the results are equal as queues.
-/

namespace TagNesting

variable {α β : Type} (f : α → β)

namespace Stack

/-- The stack of the images. -/
def map (s : Stack α) : Stack β :=
  ⟨s.toList.map f⟩

theorem pop?_map (s : Stack α) : (s.map f).pop? = s.pop?.map fun (x, rest) => (f x, rest.map f) := by
  unfold pop? map
  cases s.toList <;> rfl

/-- A predicate that does not tell elements from their images finds them at the same place. -/
theorem searchBy_map (s : Stack α) {p : β → Bool} {q : α → Bool} (h : ∀ x, p (f x) = q x) :
    (s.map f).searchBy p = s.searchBy q := by
  have hcomp : p ∘ f = q := funext h
  rw [searchBy, searchBy, map, List.findIdx?_map, hcomp]

theorem above_map (s : Stack α) (place : Nat) : (s.map f).above place = (s.above place).map f :=
  (List.map_take ..).symm

theorem below_map (s : Stack α) (place : Nat) : (s.map f).below place = (s.below place).map f :=
  congrArg Stack.mk (List.map_drop ..).symm

end Stack

namespace Queue

/-- The queue of the images. -/
def map (q : Queue α) : Queue β where
  front := q.front.map f
  back := q.back.map f
  back_eq_nil := by
    intro hfront
    rw [q.back_eq_nil (List.map_eq_nil_iff.1 hfront), List.map_nil]

@[simp] theorem toList_map (q : Queue α) : (q.map f).toList = q.toList.map f := by
  simp [map, toList]

theorem map_enqueue (q : Queue α) (x : α) : (q.enqueue x).map f = (q.map f).enqueue (f x) := by
  obtain ⟨front, back, h⟩ := q
  cases front with
  | nil => rfl
  | cons oldest rest => rfl

theorem map_enqueueAll (q : Queue α) (xs : List α) :
    (q.enqueueAll xs).map f = (q.map f).enqueueAll (xs.map f) := by
  induction xs generalizing q with
  | nil => rfl
  | cons x xs ih =>
      show ((q.enqueue x).enqueueAll xs).map f = ((q.map f).enqueue (f x)).enqueueAll (xs.map f)
      rw [ih, map_enqueue]

theorem dequeue?_map (q : Queue α) :
    (q.map f).dequeue? = q.dequeue?.map fun (x, rest) => (f x, rest.map f) := by
  obtain ⟨front, back, h⟩ := q
  cases front with
  | nil => rfl
  | cons oldest rest =>
      cases rest with
      | nil => simp [dequeue?, map]
      | cons next rest => rfl

end Queue

end TagNesting
