import TagNesting.Proofs.Collection.Session

/-!
# `Proofs.Collection.Queue` — what leaves a queue, and when

Elements come into a queue at one end, and leave it at the other: they are handed out one at a time or all at once, or
they are discarded. Whichever way they go, they go in order, and one law says so for every kind of request: what the
queue has listed followed by what comes in is what leaves followed by what it lists then (`toList_append_entering`).
It adds up over a session (`toList_append_entered`).
-/

namespace TagNesting

namespace Queue

variable {α : Type} [DecidableEq α]

/-! ## One request -/

/-- The element that a request puts in, if it does. -/
def Request.entering : Request α → List α
  | .enqueue x => [x]
  | _ => []

/-- The elements that leave with the answer to a request. An element that is only looked at does not. -/
def Request.handedOut : Request α → Reply α → List α
  | .dequeue, .item x => [x]
  | .drain, .items xs | .drainAtMost _, .items xs => xs
  | _, _ => []

/-- The elements that leave without being handed out. A drain that is given up after some elements discards the
others. -/
def discarded (q : Queue α) : Request α → List α
  | .clear | .renew => q.toList
  | .drainAtMost n => q.toList.drop n
  | _ => []

/-- The elements that leave with a request. -/
def leaving (q : Queue α) (r : Request α) : List α :=
  r.handedOut (q.answer r).2 ++ q.discarded r

theorem reply_dequeue (q : Queue α) : (q.answer .dequeue).2 = .ofItem? q.toList.head? := by
  unfold answer
  cases h : q.dequeue? with
  | none => simp [dequeue?_eq_none_iff.1 h, Reply.ofItem?]
  | some taken => simp [toList_of_dequeue? h, Reply.ofItem?]

theorem toList_answer_dequeue (q : Queue α) : (q.answer .dequeue).1.toList = q.toList.tail := by
  unfold answer
  cases h : q.dequeue? with
  | none => simp [dequeue?_eq_none_iff.1 h]
  | some taken => simp [toList_of_dequeue? h]

theorem reply_peek (q : Queue α) : (q.answer .peek).2 = .ofItem? q.toList.head? :=
  congrArg Reply.ofItem? q.peek?_eq_head?

/-- Both requests for the oldest element are answered so where there is none, and only there. -/
theorem reply_eq_nothingThere_iff {q : Queue α} {r : Request α} (hr : r = .dequeue ∨ r = .peek) :
    (q.answer r).2 = .nothingThere ↔ q.toList = [] := by
  have hreply : (q.answer r).2 = .ofItem? q.toList.head? := by
    rcases hr with rfl | rfl
    · exact reply_dequeue q
    · exact reply_peek q
  rw [hreply, Reply.ofItem?_eq_nothingThere_iff, List.head?_eq_none_iff]

/-- Neither changes a queue without elements. -/
theorem answer_of_nil {q : Queue α} {r : Request α} (hr : r = .dequeue ∨ r = .peek) (hq : q.toList = []) :
    (q.answer r).1 = q := by
  rcases hr with rfl | rfl
  · unfold answer
    rw [dequeue?_eq_none_iff.2 hq]
  · rfl

/-- **Step.** What has been there and what comes in is what leaves and what is there then. -/
theorem toList_append_entering (q : Queue α) (r : Request α) :
    q.toList ++ r.entering = q.leaving r ++ (q.answer r).1.toList := by
  cases r with
  | enqueue x => exact (toList_enqueue q x).symm
  | dequeue =>
      rw [leaving, reply_dequeue, toList_answer_dequeue]
      cases q.toList <;> simp [Request.entering, Request.handedOut, discarded, Reply.ofItem?]
  | _ => simp [Request.entering, leaving, Request.handedOut, discarded, answer]

/-! ## Sessions -/

/-- The queue that a session leaves. -/
def after (q : Queue α) (history : List (Request α)) : Queue α :=
  lastOf q (q.answers history)

theorem after_cons (q : Queue α) (r : Request α) (later : List (Request α)) :
    q.after (r :: later) = (q.answer r).1.after later :=
  lastOf_cons q (q.answer r) _

/-- The elements that leave in the course of a session, one request after the other. -/
def departed (q : Queue α) : List (Request α) → List α
  | [] => []
  | r :: later => q.leaving r ++ (q.answer r).1.departed later

/-- The answers to so many requests for the oldest element. -/
def dequeues (q : Queue α) (count : Nat) : List (Reply α) :=
  (q.answers (List.replicate count .dequeue)).map Prod.snd

theorem dequeues_eq_draws (q : Queue α) (count : Nat) : q.dequeues count = Reply.draws q.toList count := by
  induction count generalizing q with
  | zero => exact (Reply.draws_zero _).symm
  | succ count ih =>
      show (q.answer .dequeue).2 :: (q.answer .dequeue).1.dequeues count = _
      rw [ih, toList_answer_dequeue, reply_dequeue, Reply.draws_succ]

/-- **Run.** The law of one request holds of a whole session. -/
theorem toList_append_entered (q : Queue α) (history : List (Request α)) :
    q.toList ++ history.flatMap Request.entering = q.departed history ++ (q.after history).toList := by
  induction history generalizing q with
  | nil => exact List.append_nil _
  | cons r later ih =>
      rw [List.flatMap_cons, departed, after_cons, ← List.append_assoc, toList_append_entering, List.append_assoc, ih,
        List.append_assoc]

/-- A drain that is given up after one element has handed it out and discarded the other. -/
example :
    let history : List (Request String) := [.enqueue "a", .enqueue "b", .peek, .drainAtMost 1, .dequeue, .enqueue "a"]
    empty.departed history = ["a", "b"] ∧ (empty.after history).toList = ["a"] := by decide

/-- Searching for an element finds the number of the request that would hand it out for the first time. -/
theorem search_eq_some_iff {q : Queue α} {x : α} {place : Nat} :
    q.search x = some place ↔
      ∃ passed, passed.length + 1 = place ∧ x ∉ passed ∧ q.dequeues place = (passed ++ [x]).map .item := by
  rw [dequeues_eq_draws]
  constructor
  · intro h
    obtain ⟨passed, y, hplace, hpassed, hy, hdraws⟩ := place_eq_some_iff_draws.1 h
    obtain rfl : y = x := of_decide_eq_true hy
    exact ⟨passed, hplace, fun hmem => of_decide_eq_false (hpassed y hmem) rfl, hdraws⟩
  · rintro ⟨passed, hplace, hx, hdraws⟩
    have hpassed : ∀ y ∈ passed, decide (y = x) = false := by
      intro y hy
      exact decide_eq_false fun heq => hx (heq ▸ hy)
    exact place_eq_some_iff_draws.2 ⟨passed, x, hplace, hpassed, decide_eq_true rfl, hdraws⟩

/-! ## In order and without loss -/

/-- **Elements leave a queue in the order in which they have come, and none is lost or doubled.** After any requests to
a new queue, the elements that have left, one request after the other, and then those that it lists are the elements
put in. A drain leaves nothing, whether or not it is given up. Where nothing is left, and only there, a request for the
oldest element is answered so, and changes nothing. A search finds the number of the request that would hand out the
element for the first time, and the queue contains what a search finds. -/
theorem elements_leave_in_order (history : List (Request α)) :
    let q := (empty : Queue α).after history
    (empty : Queue α).departed history ++ q.toList = history.flatMap Request.entering ∧
      (∀ r n, r = .drain ∨ r = .drainAtMost n → (q.answer r).1.toList = []) ∧
      (∀ r, r = .dequeue ∨ r = .peek →
        ((q.answer r).2 = .nothingThere ↔ q.toList = []) ∧ ((q.answer r).2 = .nothingThere → (q.answer r).1 = q)) ∧
      (∀ x place, q.search x = some place ↔
        ∃ passed, passed.length + 1 = place ∧ x ∉ passed ∧ q.dequeues place = (passed ++ [x]).map .item) ∧
      (∀ x, q.contains x = true ↔ ∃ place, q.search x = some place) := by
  intro q
  refine ⟨?_, ?_, ?_, fun x place => search_eq_some_iff, fun x => contains_iff_exists_place⟩
  · exact (toList_append_entered empty history).symm
  · rintro r n (rfl | rfl) <;> rfl
  · intro r hr
    have hnothing : (q.answer r).2 = .nothingThere ↔ q.toList = [] := reply_eq_nothingThere_iff hr
    exact ⟨hnothing, fun h => answer_of_nil hr (hnothing.1 h)⟩

end Queue

end TagNesting
