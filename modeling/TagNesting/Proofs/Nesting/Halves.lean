import TagNesting.Proofs.Checker.Rules
import TagNesting.Proofs.Nesting.Invisible

/-!
# `Proofs.Nesting.Halves` — each side of a cut by itself

A cut through a well nested document leaves two documents that are not. The left one opens tags that it does not
close. They are all open at its end, and each of them is one finding.

The right one closes tags that it has not opened (`closedFromBefore`), and for a checker nothing is open wherever it
does. So each of these closing tags either takes back the oldest pending finding, if that has its name, or is one
more missing opening tag. `cancelOrWait` says the same of a plain list of tags, without a checker. The two are held
together for one closing tag (`close_from_before`) and then along the whole right side (`feedAll_from_before`), where
the well nested pieces in between are not seen at all.
-/

namespace TagNesting

/-! ## The tags that are closed from outside -/

/-- The closing tokens whose tags have been opened before these tokens, if `depth` tags are open that have not. -/
def closedFromBefore : Nat → List Token → List Tag
  | _, [] => []
  | depth, ⟨.opening, _, _⟩ :: tokens => closedFromBefore (depth + 1) tokens
  | 0, ⟨.closing, name, line⟩ :: tokens => ⟨name, line⟩ :: closedFromBefore 0 tokens
  | depth + 1, ⟨.closing, _, _⟩ :: tokens => closedFromBefore depth tokens
  | depth, _ :: tokens => closedFromBefore depth tokens

variable {tokens : List Token} {tags : List Tag}

/-- A well nested piece closes what it opens and nothing else. -/
theorem closedFromBefore_of_wellNested (h : WellNested tokens) (depth : Nat) (rest : List Token) :
    closedFromBefore depth (tokens ++ rest) = closedFromBefore depth rest := by
  induction h generalizing depth rest with
  | nil => rfl
  | selfClosing name line => simp [closedFromBefore]
  | declaration text line => simp [closedFromBefore]
  | append _ _ ihl ihr => rw [List.append_assoc, ihl, ihr]
  | wrap name opened closed _ ih =>
      rw [List.cons_append, closedFromBefore, List.append_assoc, ih, List.singleton_append, closedFromBefore]

/-- The right side of a cut has one such closing token for each tag, of its name and in the same order. -/
theorem map_name_closedFromBefore (h : Closes tags tokens) :
    (closedFromBefore 0 tokens).map Tag.name = tags.map Tag.name := by
  induction h with
  | nested hn =>
      have hnone := closedFromBefore_of_wellNested hn 0 []
      rw [List.append_nil] at hnone
      rw [hnone]
      rfl
  | outward tag line hinner _ ih =>
      rw [closedFromBefore_of_wellNested hinner, closedFromBefore, List.map_cons, List.map_cons, ih]

/-! ## Waiting in a queue -/

/-- A queue of tags when one more comes: if the tag in front has its name, that tag leaves; if not, the new one
waits at the end. -/
def cancelOrWait (waiting : List Tag) (tag : Tag) : List Tag :=
  match waiting with
  | [] => [tag]
  | front :: later => if front.name = tag.name then later else waiting ++ [tag]

namespace Checker

variable {c : Checker} {waiting : List Tag}

/-- **Step.** Where nothing is open, a closing tag does to the missing opening tags what it does in a queue of tags. -/
theorem close_from_before (policy : SkipPolicy) (hopen : c.openTags.toList = [])
    (hpending : c.pending.toList = waiting.map (.ofTag .missingStart)) (tag : Tag) :
    ∃ rest : Queue Finding, rest.toList = (cancelOrWait waiting tag).map (.ofTag .missingStart) ∧
      (c.close policy tag).1 = { c with pending := rest } := by
  have htop : ∀ top ∈ c.openTags.peek?, top.name ≠ tag.name := by
    simp [Stack.peek?, hopen]
  -- if it cancels nothing, it is one more missing opening tag
  have hwait (hhead : ∀ finding ∈ c.pending.peek?, finding.detail ≠ tag.name) :
      (c.close policy tag).1 = { c with pending := c.pending.enqueue (.ofTag .missingStart tag) } := by
    rw [close_of_isEmpty (takeBack?_eq_none_iff.2 hhead) hopen]
  cases waiting with
  | nil =>
      refine ⟨_, ?_, hwait ?_⟩
      · rw [Queue.toList_enqueue, hpending]
        rfl
      · intro finding hfinding
        rw [Queue.peek?_eq_head?, hpending] at hfinding
        exact absurd hfinding (by simp)
  | cons front later =>
      by_cases hname : front.name = tag.name
      · obtain ⟨rest, hrest, hclose⟩ := close_of_pending policy tag htop hpending hname
        refine ⟨rest, ?_, ?_⟩
        · rw [cancelOrWait, if_pos hname, hrest]
        · rw [hclose]
      · refine ⟨_, ?_, hwait ?_⟩
        · rw [cancelOrWait, if_neg hname, Queue.toList_enqueue, hpending, List.map_append]
          rfl
        · intro finding hfinding
          rw [Queue.peek?_eq_head?, hpending] at hfinding
          obtain rfl := Option.some.inj hfinding
          exact hname

end Checker

/-- **Run.** So does everything that is closed from outside, one after the other. -/
theorem feedAll_from_before (policy : SkipPolicy) (h : Closes tags tokens) {c : Checker} {waiting : List Tag}
    (hopen : c.openTags.toList = []) (hpending : c.pending.toList = waiting.map (.ofTag .missingStart)) :
    ∃ rest : Queue Finding,
      rest.toList = ((closedFromBefore 0 tokens).foldl cancelOrWait waiting).map (.ofTag .missingStart) ∧
        c.feedAll policy tokens = { c with pending := rest } := by
  induction h generalizing c waiting with
  | nested hn =>
      have hnone := closedFromBefore_of_wellNested hn 0 []
      rw [List.append_nil] at hnone
      refine ⟨c.pending, ?_, feedAll_of_wellNested policy hn c⟩
      rw [hnone, hpending]
      rfl
  | @outward tag line inner tokens tags hinner _ ih =>
      obtain ⟨next, hnext, hclose⟩ := Checker.close_from_before policy hopen hpending ⟨tag.name, line⟩
      obtain ⟨rest, hrest, hrun⟩ := ih (c := { c with pending := next }) hopen hnext
      refine ⟨rest, ?_, ?_⟩
      · rw [closedFromBefore_of_wellNested hinner, closedFromBefore, List.foldl_cons, hrest]
      · rw [Checker.feedAll_append, feedAll_of_wellNested policy hinner, Checker.feedAll_cons, Checker.feed_closing,
          hclose, hrun]

/-! ## The two sides -/

/-- Findings that meet no orphans all stand. -/
theorem Checker.reconcile_nil_right (pending : List Finding) : Checker.reconcile pending [] = pending := by
  cases pending <;> rfl

/-- **Both sides of a cut are reported exactly.** Cut a well nested document in two. The left side by itself has one
finding for each tag that it leaves open, innermost first. The right side has missing opening tags only. These are the
closing tags that belong to the left side, put in a queue one after the other, where each takes away the tag in
front if that has its name, and waits at the end if not. The tags that one side leaves open are those that the
other closes, name by name. -/
theorem findings_of_halves (policy : SkipPolicy) {before after : List Token} (h : WellNested (before ++ after)) :
    findings policy before = (stillOpen before).map (.ofTag .missingEnd) ∧
      findings policy after =
        ((closedFromBefore 0 after).foldl cancelOrWait []).map (.ofTag .missingStart) ∧
      (closedFromBefore 0 after).map Tag.name = (stillOpen before).map Tag.name := by
  obtain ⟨tags, hopens, hcloses⟩ := h.cut rfl
  rw [stillOpen_eq hopens]
  refine ⟨?_, ?_, map_name_closedFromBefore hcloses⟩
  · have hlast : (({} : Checker).within tags).finish.1 = (tags ++ []).map (.ofTag .missingEnd) :=
      Checker.reconcile_nil_right _
    rw [findings, feedAll_of_opens policy hopens, hlast, List.append_nil]
  · have hempty : ({} : Checker).pending.toList = ([] : List Tag).map (.ofTag .missingStart) := rfl
    obtain ⟨rest, hrest, hrun⟩ := feedAll_from_before policy hcloses rfl hempty
    have hlast : ({ pending := rest } : Checker).finish.1 = rest.toList ++ [] := Checker.reconcile_nil_right _
    rw [findings, hrun, hlast, List.append_nil, hrest]

/-- The second of two closing tags of one name takes the first away, but not where one of another name waits in front
of it. A pair in between is not asked. -/
theorem findings_of_halves_queue :
    let before : List Token := [⟨.opening, "b", 1⟩, ⟨.opening, "b", 2⟩, ⟨.opening, "a", 3⟩, ⟨.opening, "b", 4⟩,
      ⟨.opening, "b", 5⟩]
    let after : List Token := [⟨.closing, "b", 6⟩, ⟨.opening, "b", 7⟩, ⟨.closing, "b", 8⟩, ⟨.closing, "b", 9⟩,
      ⟨.closing, "a", 10⟩, ⟨.closing, "b", 11⟩, ⟨.closing, "b", 12⟩]
    WellNested (before ++ after) ∧
      findings .extras before =
        [⟨.missingEnd, 5, "b"⟩, ⟨.missingEnd, 4, "b"⟩, ⟨.missingEnd, 3, "a"⟩, ⟨.missingEnd, 2, "b"⟩,
          ⟨.missingEnd, 1, "b"⟩] ∧
      findings .extras after = [⟨.missingStart, 10, "a"⟩, ⟨.missingStart, 11, "b"⟩, ⟨.missingStart, 12, "b"⟩] := by
  intro before after
  have hpairs : WellNested
      [⟨.opening, "b", 5⟩, ⟨.closing, "b", 6⟩, ⟨.opening, "b", 7⟩, ⟨.closing, "b", 8⟩] :=
    .append (.wrap "b" 5 6 .nil) (.wrap "b" 7 8 .nil)
  have hnested : WellNested (before ++ after) :=
    .wrap "b" 1 12 (.wrap "b" 2 11 (.wrap "a" 3 10 (.wrap "b" 4 9 hpairs)))
  obtain ⟨hbefore, hafter, -⟩ := findings_of_halves .extras hnested
  exact ⟨hnested, hbefore, hafter⟩

end TagNesting
