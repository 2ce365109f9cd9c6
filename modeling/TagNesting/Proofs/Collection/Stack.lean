import TagNesting.Proofs.Collection.Pairing
import TagNesting.Proofs.Collection.Session

/-!
# `Proofs.Collection.Stack` — a stack shows what it would give

Whatever a stack has been asked before, looking at it tells the same as taking its elements off: the list of its
elements is what pops would hand out, and the place of an element is the number of the pop that would hand it out.
Which elements these are does not hang on the list that the stack is, so they are compared with two other views.

* **The requests alone.** A session leaves the elements whose pushes have no pop, on top of those elements of the
  stack it began with that its pops have not reached (`toList_after`).
* **An array with the top at its end.** There, places are counted against the direction in which the elements are
  kept. The same requests have the same answers (`answer_ofArray`, `after_ofArray`).
-/

namespace TagNesting

namespace Stack

variable {α : Type} [DecidableEq α] {x : α} {r : Request α} {between history : List (Request α)}

/-! ## One request -/

theorem answer_look (s : Stack α) (h : r.IsLook) : (s.answer r).1 = s := by
  cases r with
  | push x | pop | clear | renew => exact h.elim
  | _ => rfl

theorem answer_empties (s : Stack α) (h : r.empties = true) : (s.answer r).1 = empty := by
  cases r with
  | clear | renew => rfl
  | _ => cases h

theorem toList_answer_pop (s : Stack α) : (s.answer .pop).1.toList = s.toList.tail := by
  obtain ⟨xs⟩ := s
  cases xs <;> rfl

theorem reply_pop (s : Stack α) : (s.answer .pop).2 = .ofItem? s.toList.head? := by
  obtain ⟨xs⟩ := s
  cases xs <;> rfl

/-! ## Sessions -/

/-- The stack that a session leaves. -/
def after (s : Stack α) (history : List (Request α)) : Stack α :=
  lastOf s (s.answers history)

theorem after_cons (s : Stack α) (r : Request α) (later : List (Request α)) :
    s.after (r :: later) = (s.answer r).1.after later :=
  lastOf_cons s (s.answer r) _

theorem after_append (s : Stack α) (earlier later : List (Request α)) :
    s.after (earlier ++ later) = (s.after earlier).after later := by
  induction earlier generalizing s with
  | nil => rfl
  | cons r earlier ih => rw [List.cons_append, after_cons, after_cons, ih]

/-- The answers to so many pops. -/
def pops (s : Stack α) (count : Nat) : List (Reply α) :=
  (s.answers (List.replicate count .pop)).map Prod.snd

theorem pops_eq_draws (s : Stack α) (count : Nat) : s.pops count = Reply.draws s.toList count := by
  induction count generalizing s with
  | zero => exact (Reply.draws_zero _).symm
  | succ count ih =>
      show (s.answer .pop).2 :: (s.answer .pop).1.pops count = _
      rw [ih, toList_answer_pop, reply_pop, Reply.draws_succ]

theorem after_of_pairsOff (h : PairsOff between) (s : Stack α) : s.after between = s := by
  induction h generalizing s with
  | nil => rfl
  | look hlook _ ih => rw [after_cons, answer_look s hlook, ih]
  | pushPop x _ _ ihbetween ihrest =>
      rw [after_cons, after_append, ihbetween, after_cons]
      exact ihrest s

/-- **Run.** A session leaves its own elements on top of those that it has not reached. -/
theorem toList_after (s : Stack α) (history : List (Request α)) :
    (s.after history).toList =
      held history ++ if IsCleared history then [] else s.toList.drop (popsBelow history) := by
  induction history generalizing s with
  | nil => rfl
  | cons r later ih =>
      rw [after_cons, ih]
      rcases r.kinds with ⟨x, rfl⟩ | rfl | hempties | hlook
      · exact held_append_drop_push x s.toList later
      · rw [held_pop, popsBelow, toList_answer_pop, List.drop_tail]
        simp only [isCleared_cons_of_not (r := .pop) rfl]
      · rw [held_empties hempties, answer_empties s hempties, if_pos (isCleared_cons.2 (Or.inl hempties)),
          toList_empty, List.drop_nil, ite_self]
      · rw [held_look hlook, popsBelow_look hlook, answer_look s hlook]
        simp only [isCleared_cons_of_not hlook.empties_eq_false]

/-- A new stack that has seen these requests holds their elements, and nothing else. -/
theorem toList_after_empty (history : List (Request α)) : (empty.after history).toList = held history := by
  rw [toList_after, toList_empty, List.drop_nil, ite_self, List.append_nil]

/-- The first pop finds nothing, and each of the others takes off the latest of the elements that are still there. -/
example :
    let history : List (Request String) :=
      [.pop, .push "a", .push "b", .push "b", .search "a", .pop, .push "a", .pop, .pop, .push "b"]
    (empty.after history).toList = ["b", "a"] ∧ held history = ["b", "a"] := by decide

/-- **A pop belongs to the push with whose element it is answered.** -/
theorem reply_pop_after_empty_iff :
    ((empty.after history).answer .pop).2 = .item x ↔
      ∃ earlier between, history = earlier ++ .push x :: between ∧ PairsOff between := by
  rw [reply_pop, Reply.ofItem?_eq_item_iff, toList_after_empty]
  constructor
  · intro htop
    obtain ⟨below, hheld⟩ := List.head?_eq_some_iff.1 htop
    exact exists_push_of_held_eq_cons hheld
  · rintro ⟨earlier, between, rfl, hbetween⟩
    rw [← toList_after_empty, after_append, after_cons, after_of_pairsOff hbetween]
    rfl

/-! ## The same stack in an array -/

/-- The stack that an array holds from the bottom up. -/
def ofArray (items : Array α) : Stack α :=
  ⟨items.toList.reverse⟩

/-- Carries out a request on an array that holds a stack from the bottom up. Elements come and go at its end, and
places are counted from there; whether it contains an element is looked up from its beginning. -/
def answerInArray (items : Array α) : Request α → Array α × Reply α
  | .push x => (items.push x, .done)
  | .pop =>
    match items.back? with
    | some x => (items.pop, .item x)
    | none => (items, .nothingThere)
  | .peek => (items, .ofItem? items.back?)
  | .size => (items, .count items.size)
  | .isEmpty => (items, .truth items.isEmpty)
  | .clear | .renew => (#[], .done)
  | .contains x => (items, .truth (items.contains x))
  | .search x => (items, .place ((items.reverse.findIdx? (· = x)).map (· + 1)))
  | .searchBy p => (items, .place ((items.reverse.findIdx? p).map (· + 1)))

/-- The array that a session leaves. -/
def arrayAfter (items : Array α) (history : List (Request α)) : Array α :=
  history.foldl (fun items r => (answerInArray items r).1) items

/-- **Step.** A request does the same to the array as to the stack, and has the same answer. -/
theorem answer_ofArray (items : Array α) (r : Request α) :
    (ofArray items).answer r = (ofArray (answerInArray items r).1, (answerInArray items r).2) := by
  obtain ⟨xs⟩ := items
  cases r with
  | push x => simp [answer, answerInArray, ofArray, push]
  | pop =>
      rcases List.eq_nil_or_concat xs with rfl | ⟨below, top, rfl⟩
      · rfl
      · simp [answer, answerInArray, ofArray, pop?]
  | peek => simp [answer, answerInArray, ofArray, peek?]
  | size => simp [answer, answerInArray, ofArray, size]
  | isEmpty => simp [answer, answerInArray, ofArray, isEmpty]
  | clear => rfl
  | renew => rfl
  | contains x => simp [answer, answerInArray, ofArray, contains]
  | search x => simp [answer, answerInArray, ofArray, search, searchBy]
  | searchBy p => simp [answer, answerInArray, ofArray, searchBy]

/-- **Run.** So does a whole session. -/
theorem after_ofArray (items : Array α) (history : List (Request α)) :
    (ofArray items).after history = ofArray (arrayAfter items history) := by
  induction history generalizing items with
  | nil => rfl
  | cons r later ih =>
      rw [after_cons, answer_ofArray, ih]
      rfl

/-! ## Looking and taking off -/

/-- **Looking at a stack tells what taking its elements off would tell.** After any requests to a new stack, let `all`
be the elements that pops would hand out until nothing is left. They are what the stack lists, in this order, and its
size is their number; and they are the elements pushed whose push has no pop and has not been cleared away, the latest
first, where a pop belongs to the push with whose element it is answered. A search finds the place of the first of them
that satisfies its predicate, counted in pops, and it finds none if no element does; the stack contains what a search
for it finds. All answers are the same if the stack is kept in an array, with the top at its end. -/
theorem inspection_agrees_with_removal (history : List (Request α)) :
    let s := (empty : Stack α).after history
    ∃ all : List α, s.pops (all.length + 1) = all.map .item ++ [.nothingThere] ∧
      s.toList = all ∧ s.size = all.length ∧ all = held history ∧
      (∀ x, (s.answer .pop).2 = .item x ↔
        ∃ earlier between, history = earlier ++ .push x :: between ∧ PairsOff between) ∧
      (∀ (p : α → Bool) (place : Nat), s.searchBy p = some place ↔
        ∃ passed x, passed.length + 1 = place ∧ (∀ y ∈ passed, p y = false) ∧ p x = true ∧
          s.pops place = (passed ++ [x]).map .item) ∧
      (∀ p : α → Bool, s.searchBy p = none ↔ ∀ x ∈ all, p x = false) ∧
      (∀ x, s.contains x = true ↔ ∃ place, s.search x = some place) ∧
      s = ofArray (arrayAfter #[] history) ∧ ∀ r, (s.answer r).2 = (answerInArray (arrayAfter #[] history) r).2 := by
  intro s
  have harray : s = ofArray (arrayAfter #[] history) := after_ofArray #[] history
  refine ⟨s.toList, ?_, rfl, rfl, toList_after_empty history, fun x => reply_pop_after_empty_iff, fun p place => ?_,
    fun p => searchBy_eq_none_iff, fun x => contains_iff_exists_place, harray, fun r => ?_⟩
  · rw [pops_eq_draws]
    exact Reply.draws_eq_all_iff.2 rfl
  · rw [pops_eq_draws]
    exact place_eq_some_iff_draws
  · rw [harray, answer_ofArray]

end Stack

end TagNesting
