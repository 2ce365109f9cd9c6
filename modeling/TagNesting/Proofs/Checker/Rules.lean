import TagNesting.Checker

/-!
# `Proofs.Checker.Rules` — what a closing token can do

`Checker.close` tries its rules in order, and the last of them searches. What can come of it is said here once:
`Settles` has one constructor for each outcome, with all that is known where it arises and the state it leads
to, and `settles_close` says that `close` always ends in one of them. A fact about every closing token is then
a case analysis over `Settles`, and the search is not opened again.

The search has two outcomes. If the tag is open, those inside it are *passed over* (`Checker.passOver`); if not,
all open tags are orphaned. Both are also given as equations (`close_of_found`, `close_of_not_found`), for runs
whose open tags are known, and so is the second rule (`close_of_pending`), for runs whose oldest pending finding is.
-/

namespace TagNesting

namespace Checker

/-- Drops the open tags down to `outer`; those passed over become findings or orphans. -/
def passOver (policy : SkipPolicy) (c : Checker) (passed outer : List Tag) : Checker :=
  match policy with
  | .report =>
    { c with openTags := ⟨outer⟩, pending := c.pending.enqueueAll (passed.map (.ofTag .mismatch)) }
  | .extras => { c with openTags := ⟨outer⟩, orphans := c.orphans.enqueueAll passed }

/-- The outcomes of a closing token: the state after it, and what is noted. -/
inductive Settles (policy : SkipPolicy) (c : Checker) (tag : Tag) : Checker × Option Event → Prop where
  | innermost (top : Tag) (outer : List Tag) (hopen : c.openTags.toList = top :: outer)
      (hname : top.name = tag.name) : Settles policy c tag ({ c with openTags := ⟨outer⟩ }, none)
  | takenBack (finding : Finding) (rest : Queue Finding)
      (hopen : ∀ top ∈ c.openTags.peek?, top.name ≠ tag.name)
      (hpending : c.pending.toList = finding :: rest.toList) (hname : finding.detail = tag.name) :
      Settles policy c tag ({ c with pending := rest }, some (.cancelled tag finding))
  | nothingOpen (hopen : c.openTags.toList = [])
      (hpending : ∀ finding ∈ c.pending.peek?, finding.detail ≠ tag.name) :
      Settles policy c tag
        ({ c with pending := c.pending.enqueue (.ofTag .missingStart tag) }, some (.nothingOpen tag))
  | found (passed : List Tag) (target : Tag) (outer : List Tag)
      (hopen : c.openTags.toList = passed ++ target :: outer) (hne : passed ≠ [])
      (hpassed : ∀ top ∈ passed, top.name ≠ tag.name) (hname : target.name = tag.name)
      (hpending : ∀ finding ∈ c.pending.peek?, finding.detail ≠ tag.name) :
      Settles policy c tag
        (c.passOver policy passed outer, some (.searched tag (some (passed.length + 1))))
  | notFound (hne : c.openTags.toList ≠ []) (hopen : ∀ top ∈ c.openTags.toList, top.name ≠ tag.name)
      (hpending : ∀ finding ∈ c.pending.peek?, finding.detail ≠ tag.name) :
      Settles policy c tag
        ({ c with
            openTags := .empty
            orphans := (c.orphans.enqueueAll c.openTags.toList).enqueue tag },
          some (.searched tag none))

variable {policy : SkipPolicy} {c : Checker} {tag : Tag}

/-! ## The search -/

/-- Rule 4, when the tag is open: those inside it are passed over. -/
theorem close_of_found {passed outer : List Tag} {target : Tag}
    (hopen : c.openTags.toList = passed ++ target :: outer) (hne : passed ≠ [])
    (hpassed : ∀ top ∈ passed, top.name ≠ tag.name) (hname : target.name = tag.name)
    (hpending : ∀ finding ∈ c.pending.peek?, finding.detail ≠ tag.name) :
    c.close policy tag =
      (c.passOver policy passed outer, some (.searched tag (some (passed.length + 1)))) := by
  obtain ⟨top, inside, rfl⟩ := List.exists_cons_of_ne_nil hne
  have hclose : c.closeInnermost? tag.name = none := by
    rw [closeInnermost?_eq_none_iff, Stack.peek?, hopen]
    simpa using hpassed top List.mem_cons_self
  have hsearch : c.openTags.searchBy (·.name = tag.name) = some ((top :: inside).length + 1) := by
    apply Stack.searchBy_of_append hopen
    · intro other hother
      exact decide_eq_false (hpassed other hother)
    · exact decide_eq_true hname
  rw [close_of_unwind hclose (takeBack?_eq_none_iff.2 hpending) (by rw [hopen]; simp), hsearch]
  unfold unwind passOver
  rw [hsearch]
  cases policy <;> simp only [Stack.above_of_append hopen, Stack.below_of_append hopen]

/-- Rule 4, when the tag is not open: all open tags are orphaned, and so is the closing tag. -/
theorem close_of_not_found (hne : c.openTags.toList ≠ [])
    (hopen : ∀ top ∈ c.openTags.toList, top.name ≠ tag.name)
    (hpending : ∀ finding ∈ c.pending.peek?, finding.detail ≠ tag.name) :
    c.close policy tag =
      ({ c with
          openTags := .empty
          orphans := (c.orphans.enqueueAll c.openTags.toList).enqueue tag },
        some (.searched tag none)) := by
  have hclose : c.closeInnermost? tag.name = none := by
    rw [closeInnermost?_eq_none_iff]
    intro top htop
    exact hopen top (List.mem_of_head? htop)
  have hsearch : c.openTags.searchBy (·.name = tag.name) = none := by
    rw [Stack.searchBy_eq_none_iff]
    intro other hother
    exact decide_eq_false (hopen other hother)
  rw [close_of_unwind hclose (takeBack?_eq_none_iff.2 hpending) hne, hsearch]
  unfold unwind
  rw [hsearch]

/-! ## The oldest pending finding -/

/-- Rule 2, when the oldest pending finding is known: that finding is taken back, and the others stay. -/
theorem close_of_pending (policy : SkipPolicy) (tag : Tag) {finding : Finding} {later : List Finding}
    (hopen : ∀ top ∈ c.openTags.peek?, top.name ≠ tag.name) (hpending : c.pending.toList = finding :: later)
    (hname : finding.detail = tag.name) :
    ∃ rest : Queue Finding, rest.toList = later ∧
      c.close policy tag = ({ c with pending := rest }, some (.cancelled tag finding)) := by
  cases hdequeue : c.pending.dequeue? with
  | none =>
      have hnone : c.pending.toList = [] := Queue.dequeue?_eq_none_iff.1 hdequeue
      rw [hnone] at hpending
      exact absurd hpending (List.cons_ne_nil finding later).symm
  | some head =>
      have hhead := Queue.toList_of_dequeue? hdequeue
      rw [hpending, List.cons.injEq] at hhead
      obtain ⟨rfl, hlater⟩ := hhead
      have htake : c.takeBack? tag.name = some (head.1, { c with pending := head.2 }) := by
        simp [takeBack?, hdequeue, hname]
      exact ⟨head.2, hlater.symm, close_of_takeBack? (closeInnermost?_eq_none_iff.2 hopen) htake⟩

/-! ## All outcomes -/

/-- **Every closing token has one of the five outcomes.** -/
theorem settles_close (policy : SkipPolicy) (c : Checker) (tag : Tag) :
    Settles policy c tag (c.close policy tag) := by
  cases hclose : c.closeInnermost? tag.name with
  | some closed =>
      rw [close_of_closeInnermost? hclose]
      unfold closeInnermost? Stack.pop? at hclose
      cases hopen : c.openTags.toList with
      | nil => simp [hopen] at hclose
      | cons top outer =>
          simp only [hopen, Option.ite_none_right_eq_some, Option.some.injEq] at hclose
          obtain ⟨hname, rfl⟩ := hclose
          exact .innermost top outer hopen hname
  | none =>
      have htop := closeInnermost?_eq_none_iff.1 hclose
      cases htake : c.takeBack? tag.name with
      | some taken =>
          obtain ⟨finding, eased⟩ := taken
          rw [close_of_takeBack? hclose htake]
          unfold takeBack? at htake
          cases hdequeue : c.pending.dequeue? with
          | none => simp [hdequeue] at htake
          | some head =>
              simp only [hdequeue, Option.ite_none_right_eq_some, Option.some.injEq, Prod.mk.injEq] at htake
              obtain ⟨hname, rfl, rfl⟩ := htake
              exact .takenBack head.1 head.2 htop (Queue.toList_of_dequeue? hdequeue) hname
      | none =>
          have hpending := takeBack?_eq_none_iff.1 htake
          by_cases hempty : c.openTags.toList = []
          · rw [close_of_isEmpty htake hempty]
            exact .nothingOpen hempty hpending
          cases hfind : c.openTags.toList.find? (·.name = tag.name) with
          | none =>
              have hopen : ∀ top ∈ c.openTags.toList, top.name ≠ tag.name := by
                simpa using hfind
              rw [close_of_not_found hempty hopen hpending]
              exact .notFound hempty hopen hpending
          | some target =>
              obtain ⟨hfound, passed, outer, hopen, hpassed⟩ := List.find?_eq_some_iff_append.1 hfind
              have hname : target.name = tag.name := of_decide_eq_true hfound
              have hpassed' : ∀ top ∈ passed, top.name ≠ tag.name := by
                simpa using hpassed
              -- the target is not the innermost open tag, so at least one tag is passed over
              have hne : passed ≠ [] := by
                rintro rfl
                have hpeek : target ∈ c.openTags.peek? := by
                  rw [Stack.peek?, hopen]
                  rfl
                exact htop target hpeek hname
              rw [close_of_found hopen hne hpassed' hname hpending]
              exact .found passed target outer hopen hne hpassed' hname hpending

end Checker

end TagNesting
