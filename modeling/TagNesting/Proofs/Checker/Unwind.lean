import Mathlib.Order.Bounds.Defs
import TagNesting.Proofs.Checker.Balance

/-!
# `Proofs.Checker.Unwind` — taking open tags off one by one

`Checker.unwind` looks for the tag to be closed, and cuts the open tags where it has been found. The same can be done
without a cut: take open tags off one at a time, and look at the name of each to see whether it is the last
(`Checker.popUntil`). Such a walk finds its end by itself. It is told whether the search has found anything, because
that decides what becomes of the tags that it passes over, but not where.

The two agree (`unwind_eq_unwindOneByOne`). The tags above the one that the search has found are those that the walk
passes over, because none of them has the name (`popUntil_eq_foldl`), and to dispose of them one after the other is to
put them into their queue together (`foldl_pass_found`, `foldl_pass_notFound`).
-/

namespace TagNesting

namespace Stack

variable {α : Type} {s : Stack α} {upper lower : List α} {place : Nat} {x : α}

/-- The element stands at this place, counted from the top, which has place one. -/
def StandsAt (s : Stack α) (place : Nat) (x : α) : Prop :=
  ∃ above, place = above + 1 ∧ s.toList[above]? = some x

theorem standsAt_of_append (h : s.toList = upper ++ x :: lower) : s.StandsAt (upper.length + 1) x := by
  refine ⟨upper.length, rfl, ?_⟩
  rw [h, List.getElem?_append_right (Nat.le_refl _), Nat.sub_self, List.getElem?_cons_zero]

/-- An element that is none of the upper ones stands below them. -/
theorem StandsAt.lt_of_not_mem (h : s.StandsAt place x) (hsplit : s.toList = upper ++ lower) (hx : x ∉ upper) :
    upper.length < place := by
  obtain ⟨above, rfl, hget⟩ := h
  refine Nat.lt_of_not_le fun hle => ?_
  rw [hsplit, List.getElem?_append_left hle] at hget
  exact hx (List.mem_of_getElem? hget)

theorem toList_of_pop? {rest : Stack α} (h : s.pop? = some (x, rest)) : s.toList = x :: rest.toList := by
  unfold pop? at h
  split at h
  · exact absurd h (by simp)
  · next hlist =>
      cases h
      exact hlist

end Stack

namespace Checker

/-! ## The walk -/

/-- Disposes of one tag that is passed over. What becomes of it depends on the policy, and on whether there is a tag
further out that is to be closed. -/
def pass (policy : SkipPolicy) (found : Option Nat) (c : Checker) (tag : Tag) : Checker :=
  match found, policy with
  | some _, .report => { c with pending := c.pending.enqueue (.ofTag .mismatch tag) }
  | some _, .extras | none, _ => { c with orphans := c.orphans.enqueue tag }

@[simp] theorem openTags_pass (policy : SkipPolicy) (found : Option Nat) (c : Checker) (tag : Tag) :
    (pass policy found c tag).openTags = c.openTags := by
  cases found <;> cases policy <;> rfl

/-- Takes open tags off, from the innermost outwards, until one of this name has come or none is left, and disposes
of each of the others as it comes. -/
def popUntil (policy : SkipPolicy) (found : Option Nat) (name : String) (c : Checker) : Checker :=
  match h : c.openTags.pop? with
  | none => c
  | some (innermost, outer) =>
    have : outer.size < c.openTags.size := by simp [Stack.size, Stack.toList_of_pop? h]
    if innermost.name = name then { c with openTags := outer }
    else popUntil policy found name (pass policy found { c with openTags := outer } innermost)
termination_by c.openTags.size
decreasing_by rwa [openTags_pass]

/-- Looks for the tag that `tag` closes, and then takes open tags off one by one; if it has not been found, `tag`
itself becomes an orphan as well. -/
def unwindOneByOne (policy : SkipPolicy) (c : Checker) (tag : Tag) : Checker :=
  let found := c.openTags.searchBy (·.name = tag.name)
  let walked := c.popUntil policy found tag.name
  if found.isNone then { walked with orphans := walked.orphans.enqueue tag } else walked

variable {policy : SkipPolicy} {found : Option Nat} {name : String} {c : Checker} {innermost : Tag}
  {passed outer : List Tag}

theorem popUntil_of_nil (h : c.openTags.toList = []) : popUntil policy found name c = c := by
  have hpop : c.openTags.pop? = none := by simp [Stack.pop?, h]
  rw [popUntil]
  split
  · rfl
  · next hsome => exact absurd (hpop.symm.trans hsome) (by simp)

theorem popUntil_of_cons (h : c.openTags.toList = innermost :: outer) :
    popUntil policy found name c =
      if innermost.name = name then { c with openTags := ⟨outer⟩ }
      else popUntil policy found name (pass policy found { c with openTags := ⟨outer⟩ } innermost) := by
  have hpop : c.openTags.pop? = some (innermost, ⟨outer⟩) := by simp [Stack.pop?, h]
  rw [popUntil]
  split
  · next hnone => exact absurd (hpop.symm.trans hnone) (by simp)
  · next hsome =>
      cases hpop.symm.trans hsome
      rfl

/-- **The walk passes over the tags that do not have the name**, and disposes of them in their order. -/
theorem popUntil_eq_foldl (hopen : c.openTags.toList = passed ++ outer) (hpassed : ∀ tag ∈ passed, tag.name ≠ name) :
    popUntil policy found name c =
      popUntil policy found name (passed.foldl (pass policy found) { c with openTags := ⟨outer⟩ }) := by
  induction passed generalizing c with
  | nil =>
      have hstack : c.openTags = ⟨outer⟩ := congrArg Stack.mk hopen
      rw [← hstack]
      rfl
  | cons innermost passed ih =>
      obtain ⟨hinnermost, hothers⟩ := List.forall_mem_cons.1 hpassed
      -- what is disposed of does not depend on the tags that are still open
      have hcut (further : Stack Tag) :
          { pass policy found { c with openTags := further } innermost with openTags := ⟨outer⟩ } =
            pass policy found { c with openTags := ⟨outer⟩ } innermost := by
        cases found <;> cases policy <;> rfl
      rw [popUntil_of_cons hopen, if_neg hinnermost, ih (by rw [openTags_pass]; rfl) hothers, hcut, List.foldl_cons]

/-! ## The queues -/

/-- If there is a tag to be closed, the policy decides. -/
theorem foldl_pass_found (policy : SkipPolicy) (depth : Nat) (c : Checker) (passed outer : List Tag) :
    passed.foldl (pass policy (some depth)) { c with openTags := ⟨outer⟩ } = c.passOver policy passed outer := by
  induction passed generalizing c with
  | nil => cases policy <;> rfl
  | cons innermost passed ih =>
      rw [List.foldl_cons]
      cases policy with
      | report => exact ih { c with pending := c.pending.enqueue (.ofTag .mismatch innermost) }
      | extras => exact ih { c with orphans := c.orphans.enqueue innermost }

/-- If there is none, all that are open become orphans. -/
theorem foldl_pass_notFound (policy : SkipPolicy) (c : Checker) (passed : List Tag) :
    passed.foldl (pass policy none) c = { c with orphans := c.orphans.enqueueAll passed } := by
  induction passed generalizing c with
  | nil => rfl
  | cons innermost passed ih =>
      rw [List.foldl_cons, ih]
      rfl

/-! ## The search and the walk -/

theorem first_named_or_none (tags : List Tag) (name : String) :
    (∀ tag ∈ tags, tag.name ≠ name) ∨
      ∃ passed target outer, tags = passed ++ target :: outer ∧ (∀ tag ∈ passed, tag.name ≠ name) ∧
        target.name = name := by
  cases hfind : tags.find? (·.name = name) with
  | none => exact Or.inl (by simpa using hfind)
  | some target =>
      obtain ⟨hname, passed, outer, htags, hpassed⟩ := List.find?_eq_some_iff_append.1 hfind
      exact Or.inr ⟨passed, target, outer, htags, by simpa using hpassed, of_decide_eq_true hname⟩

/-- **The search and the walk agree**, whatever is open. -/
theorem unwind_eq_unwindOneByOne (policy : SkipPolicy) (c : Checker) (tag : Tag) :
    c.unwind policy tag = c.unwindOneByOne policy tag := by
  rcases first_named_or_none c.openTags.toList tag.name with hopen | ⟨passed, target, outer, hopen, hpassed, hname⟩
  · have hsearch : c.openTags.searchBy (·.name = tag.name) = none :=
      Stack.searchBy_eq_none_iff.2 fun top htop => decide_eq_false (hopen top htop)
    have hall : c.openTags.toList = c.openTags.toList ++ [] := (List.append_nil _).symm
    unfold unwind unwindOneByOne
    simp only [hsearch, popUntil_eq_foldl hall hopen, foldl_pass_notFound, Option.isNone_none, if_true]
    rw [popUntil_of_nil rfl]
    rfl
  · have hsearch : c.openTags.searchBy (·.name = tag.name) = some (passed.length + 1) :=
      Stack.searchBy_of_append hopen (fun top htop => decide_eq_false (hpassed top htop)) (decide_eq_true hname)
    have hcut : c.unwind policy tag = c.passOver policy passed outer := by
      unfold unwind passOver
      rw [hsearch]
      cases policy <;> simp only [Stack.above_of_append hopen, Stack.below_of_append hopen]
    -- the walk comes to the target with the same tags disposed of, and takes it off
    have hrest : (c.passOver policy passed (target :: outer)).openTags.toList = target :: outer := by
      cases policy <;> rfl
    unfold unwindOneByOne
    simp only [hsearch, Option.isNone_some, Bool.false_eq_true, if_false]
    rw [hcut, popUntil_eq_foldl hopen hpassed, foldl_pass_found, popUntil_of_cons hrest, if_pos hname]
    cases policy <;> rfl

/-- **Rule 4.** A closing tag that no other rule takes leads to the state that the walk leads to, and its note tells
where the search has found the tag. If a tag of the name is open, this is the least place at which one stands; it is
not the innermost one. The tags down to this place are no longer open, and those above it have been put, innermost
first, at the end of the pending findings or of the orphans, as the policy says, while the other queue is as it was. If
none is open, no tag is any longer, and all of them, innermost first, and then the closing tag itself have been put at
the end of the orphans, under both policies, while the pending findings are as they were. -/
theorem close_unwinds_to_nearest (policy : SkipPolicy) (c : Checker) (name : String) (line : Nat)
    (hne : c.openTags.toList ≠ []) (htop : ∀ top ∈ c.openTags.peek?, top.name ≠ name)
    (hpending : ∀ finding ∈ c.pending.peek?, finding.detail ≠ name) :
    let next := (c.feed policy ⟨.closing, name, line⟩).1
    let note := (c.feed policy ⟨.closing, name, line⟩).2
    let tags := c.openTags.toList
    next = c.unwindOneByOne policy ⟨name, line⟩ ∧ next.malformed = c.malformed ∧
      ((∃ tag ∈ tags, tag.name = name) →
        ∃ depth, IsLeast {place | ∃ tag, c.openTags.StandsAt place tag ∧ tag.name = name} depth ∧ 2 ≤ depth ∧
          note = some (.searched ⟨name, line⟩ (some depth)) ∧ next.openTags.toList = tags.drop depth ∧
          match policy with
          | .report =>
            next.pending.toList = c.pending.toList ++ (tags.take (depth - 1)).map (.ofTag .mismatch) ∧
              next.orphans = c.orphans
          | .extras =>
            next.orphans.toList = c.orphans.toList ++ tags.take (depth - 1) ∧ next.pending = c.pending) ∧
      ((∀ tag ∈ tags, tag.name ≠ name) →
        note = some (.searched ⟨name, line⟩ none) ∧ next.openTags.toList = [] ∧
          next.orphans.toList = c.orphans.toList ++ tags ++ [⟨name, line⟩] ∧ next.pending = c.pending) := by
  intro next note tags
  let closing : Tag := ⟨name, line⟩
  refine ⟨?_, malformed_close policy c closing, ?_, ?_⟩
  · have hclose : c.close policy closing =
        (c.unwind policy closing, some (.searched closing (c.openTags.searchBy (·.name = name)))) :=
      close_of_unwind (closeInnermost?_eq_none_iff.2 htop) (takeBack?_eq_none_iff.2 hpending) hne
    rw [← unwind_eq_unwindOneByOne]
    exact congrArg Prod.fst hclose
  · rintro ⟨tag, htag, hnamed⟩
    rcases first_named_or_none tags name with hnone | ⟨passed, target, outer, hopen, hpassed, hname⟩
    · exact absurd hnamed (hnone tag htag)
    have hpassedNe : passed ≠ [] := by
      rintro rfl
      refine htop target ?_ hname
      rw [Stack.peek?, show c.openTags.toList = [] ++ target :: outer from hopen]
      rfl
    have hclose : c.close policy closing =
        (c.passOver policy passed outer, some (.searched closing (some (passed.length + 1)))) :=
      close_of_found hopen hpassedNe hpassed hname hpending
    have hnext : next = c.passOver policy passed outer := congrArg Prod.fst hclose
    have hlength : 0 < passed.length := List.length_pos_iff.2 hpassedNe
    have hleast : IsLeast {place | ∃ tag, c.openTags.StandsAt place tag ∧ tag.name = name} (passed.length + 1) := by
      refine ⟨⟨target, Stack.standsAt_of_append hopen, hname⟩, ?_⟩
      rintro place ⟨other, hstands, hother⟩
      exact hstands.lt_of_not_mem hopen fun hmem => hpassed other hmem hother
    refine ⟨passed.length + 1, hleast, by omega, congrArg Prod.snd hclose, ?_⟩
    rw [hnext, show tags = passed ++ target :: outer from hopen, Nat.add_sub_cancel, List.take_left,
      List.append_cons, List.drop_left' (by simp)]
    cases policy with
    | report => exact ⟨rfl, Queue.toList_enqueueAll _ _, rfl⟩
    | extras => exact ⟨rfl, Queue.toList_enqueueAll _ _, rfl⟩
  · intro hopen
    have hclose : c.close policy closing =
        ({ c with openTags := .empty, orphans := (c.orphans.enqueueAll tags).enqueue closing },
          some (.searched closing none)) :=
      close_of_not_found hne hopen hpending
    have hnext : next = { c with openTags := .empty, orphans := (c.orphans.enqueueAll tags).enqueue closing } :=
      congrArg Prod.fst hclose
    rw [hnext]
    refine ⟨congrArg Prod.snd hclose, rfl, ?_, rfl⟩
    rw [Queue.toList_enqueue, Queue.toList_enqueueAll]

/-- Two tags of the name are open, and the inner one is closed, under either policy; and a tag of which none is open. -/
theorem close_unwinds_to_nearest_inner :
    let c : Checker :=
      { openTags := ⟨[⟨"c", 6⟩, ⟨"b", 5⟩, ⟨"a", 4⟩, ⟨"b", 3⟩, ⟨"a", 2⟩]⟩
        pending := Queue.empty.enqueue ⟨.missingStart, 1, "x"⟩
        orphans := Queue.empty.enqueue ⟨"y", 1⟩ }
    let next (policy : SkipPolicy) (name : String) := (c.feed policy ⟨.closing, name, 7⟩).1
    c.openTags.toList ≠ [] ∧
      ((∀ top ∈ c.openTags.peek?, top.name ≠ "a") ∧ (∀ finding ∈ c.pending.peek?, finding.detail ≠ "a") ∧
        ((next .report "a").openTags.toList = [⟨"b", 3⟩, ⟨"a", 2⟩] ∧
          (next .report "a").pending.toList = [⟨.missingStart, 1, "x"⟩, ⟨.mismatch, 6, "c"⟩, ⟨.mismatch, 5, "b"⟩] ∧
          (next .report "a").orphans = c.orphans) ∧
        (next .extras "a").openTags.toList = [⟨"b", 3⟩, ⟨"a", 2⟩] ∧
          (next .extras "a").orphans.toList = [⟨"y", 1⟩, ⟨"c", 6⟩, ⟨"b", 5⟩] ∧
          (next .extras "a").pending = c.pending) ∧
      (∀ top ∈ c.openTags.peek?, top.name ≠ "z") ∧ (∀ finding ∈ c.pending.peek?, finding.detail ≠ "z") ∧
        ∀ policy, (next policy "z").openTags.toList = [] ∧
          (next policy "z").orphans.toList = ⟨"y", 1⟩ :: (c.openTags.toList ++ [⟨"z", 7⟩]) ∧
          (next policy "z").pending = c.pending := by
  intro c next
  have hne : c.openTags.toList ≠ [] := by decide
  have htop : ∀ name : String, name ≠ "c" → ∀ top ∈ c.openTags.peek?, top.name ≠ name := by
    rintro name hname top ⟨⟩
    exact hname.symm
  have hpending : ∀ name : String, name ≠ "x" → ∀ finding ∈ c.pending.peek?, finding.detail ≠ name := by
    rintro name hname finding ⟨⟩
    exact hname.symm
  have htopA := htop "a" (by decide)
  have hpendingA := hpending "a" (by decide)
  have htopZ := htop "z" (by decide)
  have hpendingZ := hpending "z" (by decide)
  refine ⟨hne, ⟨htopA, hpendingA, ?_, ?_⟩, htopZ, hpendingZ, fun policy => ?_⟩
  · obtain ⟨-, -, hfound, -⟩ := close_unwinds_to_nearest .report c "a" 7 hne htopA hpendingA
    obtain ⟨depth, -, -, hnote, hopen, hqueues⟩ := hfound (by decide)
    obtain rfl : 3 = depth := Option.some.inj (Event.searched.inj (Option.some.inj hnote)).2
    exact ⟨hopen, hqueues⟩
  · obtain ⟨-, -, hfound, -⟩ := close_unwinds_to_nearest .extras c "a" 7 hne htopA hpendingA
    obtain ⟨depth, -, -, hnote, hopen, hqueues⟩ := hfound (by decide)
    obtain rfl : 3 = depth := Option.some.inj (Event.searched.inj (Option.some.inj hnote)).2
    exact ⟨hopen, hqueues⟩
  · obtain ⟨-, -, -, hnone⟩ := close_unwinds_to_nearest policy c "z" 7 hne htopZ hpendingZ
    exact (hnone (by decide)).2

end Checker

end TagNesting
