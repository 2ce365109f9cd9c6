import TagNesting.Collection.Session

/-!
# `Proofs.Collection.Session` — one element after the other

What a container holds can be seen in two ways: it can be listed, or it can be asked for its next element again and
again. `Reply.draws` is what the second way brings to light if the container holds a given list, and it tells as much
as the list does. Elements that have been handed out are those in front (`draws_eq_map_item_iff`), and whoever is told
that nothing is left has seen all (`draws_eq_all_iff`).

A place that a search has found, counted from one, is thus a number of requests: the one of this number is answered
with the first element that satisfies the predicate (`place_eq_some_iff_draws`). Stacks and queues differ only in the
order in which they hold their elements, so all this is said about lists.
-/

namespace TagNesting

variable {α : Type}

/-- The container that the steps of a session leave, each of which is a container with an answer. -/
def lastOf {σ ρ : Type} (start : σ) (steps : List (σ × ρ)) : σ :=
  (steps.map Prod.fst).getLastD start

theorem lastOf_cons {σ ρ : Type} (start : σ) (step : σ × ρ) (steps : List (σ × ρ)) :
    lastOf start (step :: steps) = lastOf step.1 steps := by
  unfold lastOf
  rw [List.map_cons, List.getLastD_cons]

/-! ## Asking for the next element -/

namespace Reply

theorem ofItem?_eq_item_iff {x? : Option α} {x : α} : ofItem? x? = .item x ↔ x? = some x := by
  cases x? <;> simp [ofItem?]

theorem ofItem?_eq_nothingThere_iff {x? : Option α} : ofItem? x? = .nothingThere ↔ x? = none := by
  cases x? <;> simp [ofItem?]

/-- The answers of a container that holds these elements, the next one first, and is asked so many times for its next
element. -/
def draws (xs : List α) (count : Nat) : List (Reply α) :=
  (xs.take count).map .item ++ List.replicate (count - xs.length) .nothingThere

theorem draws_zero (xs : List α) : draws xs 0 = [] := by
  simp [draws]

theorem draws_succ (xs : List α) (count : Nat) :
    draws xs (count + 1) = ofItem? xs.head? :: draws xs.tail count := by
  cases xs <;> simp [draws, ofItem?, List.replicate_succ]

/-- The answers are all elements only as long as there are some, and those in front come first. -/
theorem draws_eq_map_item_iff {xs ys : List α} {count : Nat} :
    draws xs count = ys.map .item ↔ ys.length = count ∧ ys <+: xs := by
  induction count generalizing xs ys with
  | zero =>
      rw [draws_zero, eq_comm, List.map_eq_nil_iff, List.length_eq_zero_iff]
      exact ⟨fun h => ⟨h, h ▸ List.nil_prefix⟩, And.left⟩
  | succ count ih =>
      rw [draws_succ]
      cases ys with
      | nil => simp
      | cons y ys =>
          rw [List.map_cons, List.cons.injEq, ofItem?_eq_item_iff, ih]
          cases xs with
          | nil => simp
          | cons x xs =>
              rw [List.head?_cons, Option.some.injEq, List.tail_cons, List.length_cons, Nat.add_right_cancel_iff,
                List.cons_prefix_cons, eq_comm (a := x)]
              exact and_left_comm

/-- Whoever asks until there is nothing left has been handed all elements. -/
theorem draws_eq_all_iff {xs ys : List α} :
    draws xs (ys.length + 1) = ys.map .item ++ [.nothingThere] ↔ ys = xs := by
  induction ys generalizing xs with
  | nil =>
      show draws xs 1 = [.nothingThere] ↔ [] = xs
      rw [draws_succ, draws_zero, List.cons.injEq, ofItem?_eq_nothingThere_iff, and_iff_left rfl,
        List.head?_eq_none_iff]
      exact eq_comm
  | cons y ys ih =>
      rw [List.length_cons, draws_succ, List.map_cons, List.cons_append, List.cons.injEq, ofItem?_eq_item_iff, ih]
      cases xs with
      | nil => simp
      | cons x xs => rw [List.head?_cons, Option.some.injEq, List.tail_cons, List.cons.injEq, eq_comm (a := x)]

end Reply

/-! ## Places -/

/-- The first element that satisfies a predicate comes after elements that do not. -/
theorem place_eq_some_iff {xs : List α} {p : α → Bool} {place : Nat} :
    (xs.findIdx? p).map (· + 1) = some place ↔
      ∃ passed x, passed.length + 1 = place ∧ (∀ y ∈ passed, p y = false) ∧ p x = true ∧ passed ++ [x] <+: xs := by
  constructor
  · intro h
    obtain ⟨index, hfind, rfl⟩ := Option.map_eq_some_iff.1 h
    obtain ⟨hlt, hx, hpassed⟩ := List.findIdx?_eq_some_iff_getElem.1 hfind
    refine ⟨xs.take index, xs[index], ?_, ?_, hx, ?_⟩
    · rw [List.length_take_of_le (Nat.le_of_lt hlt)]
    · intro y hy
      obtain ⟨before, hbefore, rfl⟩ := List.mem_take_iff_getElem.1 hy
      exact Bool.eq_false_iff.2 (hpassed before (Nat.lt_of_lt_of_le hbefore (Nat.min_le_left ..)))
    · rw [List.take_append_getElem]
      exact List.take_prefix _ _
  · rintro ⟨passed, x, rfl, hpassed, hx, rest, rfl⟩
    have hnone : passed.findIdx? p = none := List.findIdx?_eq_none_iff.2 hpassed
    rw [List.append_assoc, List.findIdx?_append, hnone, List.singleton_append, List.findIdx?_cons, hx]
    simp

/-- **A place is a number of requests.** The one of this number is answered with an element that satisfies the
predicate, and those before it with elements that do not. -/
theorem place_eq_some_iff_draws {xs : List α} {p : α → Bool} {place : Nat} :
    (xs.findIdx? p).map (· + 1) = some place ↔
      ∃ passed x, passed.length + 1 = place ∧ (∀ y ∈ passed, p y = false) ∧ p x = true ∧
        Reply.draws xs place = (passed ++ [x]).map .item := by
  rw [place_eq_some_iff]
  refine exists_congr fun passed => exists_congr fun x => and_congr_right fun hplace => ?_
  rw [Reply.draws_eq_map_item_iff, List.length_append, List.length_singleton, and_iff_right hplace]

/-- What a container holds is what has a place in it. -/
theorem contains_iff_exists_place [DecidableEq α] {xs : List α} {x : α} :
    xs.contains x = true ↔ ∃ place, (xs.findIdx? (· = x)).map (· + 1) = some place := by
  rw [← Option.isSome_iff_exists, Option.isSome_map, List.findIdx?_isSome, List.contains_iff_mem, List.any_eq_true]
  simp

end TagNesting
