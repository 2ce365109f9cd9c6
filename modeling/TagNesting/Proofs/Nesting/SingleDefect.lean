import TagNesting.Proofs.Checker.Rules
import TagNesting.Proofs.Nesting.Invisible

/-!
# `Proofs.Nesting.SingleDefect` — one tag too many

A well nested document into which one more tag has been put has exactly one defect, and exactly one finding
says so.

If the extra tag opens, the next closing token further out that has the same name closes *it*, and the tag which
that token belonged to is now the one too many. So the defect moves outwards through the run of open tags of that
name (`sameNamed`) and comes to rest on the last of them. There it is passed over by the first closing token
of another name, or stays open to the end if there is none. `surplus` is the finding that results.

The induction is on what lies behind the extra tag (`feedAll_surplus`). Each closing token moves the defect
or settles it; once it is settled nothing more can happen, because every other closing token meets its own tag
and the first rule never looks at the pending findings.
-/

namespace TagNesting

/-- The longest run of tags of the given name, from the innermost on. -/
def sameNamed (name : String) (outer : List Tag) : List Tag :=
  outer.takeWhile (·.name = name)

/-- What becomes of a tag that has been passed over, if nothing makes it good. -/
def SkipPolicy.passedKind : SkipPolicy → Finding.Kind
  | .report => .mismatch
  | .extras => .extra

/-- The finding about an opening tag too many inside the given tags. It is on the line of the last tag of
its name in the run around it. -/
def surplus (policy : SkipPolicy) (outer : List Tag) (tag : Tag) : Finding where
  kind :=
    if (sameNamed tag.name outer).length = outer.length then .missingEnd else policy.passedKind
  line := ((sameNamed tag.name outer).getLastD tag).line
  detail := tag.name

variable {policy : SkipPolicy} {tag next : Tag} {outer : List Tag} {after : List Token}

theorem surplus_nil : surplus policy [] tag = .ofTag .missingEnd tag := rfl

/-- The defect moves on to a tag of the same name. -/
theorem surplus_cons_of_eq (h : tag.name = next.name) :
    surplus policy (next :: outer) tag = surplus policy outer next := by
  have hrun : sameNamed tag.name (next :: outer) = next :: sameNamed next.name outer := by
    rw [h]
    exact List.takeWhile_cons_of_pos (decide_eq_true rfl)
  unfold surplus
  rw [hrun, List.length_cons, List.length_cons, List.getLastD_cons, h]
  simp only [Nat.add_right_cancel_iff]

/-- The defect rests at a tag of another name. -/
theorem surplus_cons_of_ne (h : tag.name ≠ next.name) :
    surplus policy (next :: outer) tag = .ofTag policy.passedKind tag := by
  have hrun : sameNamed tag.name (next :: outer) = [] :=
    List.takeWhile_cons_of_neg (by simpa using Ne.symm h)
  unfold surplus
  rw [hrun]
  rfl

namespace Checker

/-- A tag that is passed over below other open tags might as well have been passed over alone. -/
theorem passOver_within (policy : SkipPolicy) (tag next : Tag) (outer : List Tag) :
    (({} : Checker).within (tag :: next :: outer)).passOver policy [tag] outer =
      (({} : Checker).passOver policy [tag] []).within outer := by
  cases policy <;> simp only [passOver, within, Stack.toList_empty, List.append_nil]

theorem finish_passOver (policy : SkipPolicy) (tag : Tag) :
    (({} : Checker).passOver policy [tag] []).finish.1 = [.ofTag policy.passedKind tag] := by
  cases policy with
  | report => rfl
  | extras => rfl

end Checker

/-- **The defect settles on one tag.** With one tag too many inside `outer`, the rest of the document leads to
the one finding that `surplus` describes. -/
theorem feedAll_surplus (policy : SkipPolicy) (h : Closes outer after) (tag : Tag) :
    ((({} : Checker).within (tag :: outer)).feedAll policy after).finish.1 =
      [surplus policy outer tag] := by
  induction h generalizing tag with
  | nested hn =>
      -- no closing token is left for the extra tag, so it stays open
      rw [feedAll_of_wellNested policy hn, surplus_nil]
      rfl
  | @outward next line inner tokens tags hinner hrest ih =>
      rw [Checker.feedAll_append, feedAll_of_wellNested policy hinner, Checker.feedAll_cons, Checker.feed_closing]
      by_cases hname : tag.name = next.name
      · -- the closing token takes the extra tag for its own, and its own tag is now the extra one
        rw [Checker.within_cons, hname, Checker.close_push, ih next, surplus_cons_of_eq hname]
      · -- the extra tag is passed over, and what follows is well nested again
        have hopen : (({} : Checker).within (tag :: next :: tags)).openTags.toList = [tag] ++ next :: tags := by
          simp [Checker.within]
        have hpending : ∀ finding ∈ (({} : Checker).within (tag :: next :: tags)).pending.peek?,
            finding.detail ≠ next.name := by
          rintro finding ⟨⟩
        have hclose : (({} : Checker).within (tag :: next :: tags)).close policy ⟨next.name, line⟩ =
            ((({} : Checker).within (tag :: next :: tags)).passOver policy [tag] tags,
              some (.searched ⟨next.name, line⟩ (some 2))) :=
          Checker.close_of_found hopen (List.cons_ne_nil tag []) (by simpa using hname) rfl hpending
        rw [hclose, Checker.passOver_within, feedAll_of_closes policy hrest, Checker.finish_passOver,
          surplus_cons_of_ne hname]

/-- **One tag too many is one finding.** An opening token put anywhere into a well nested document gives the
finding `surplus` about it and nothing else; a closing token put where no tag is open gives the finding that its
opening tag is missing and nothing else. -/
theorem findings_of_single_defect (policy : SkipPolicy) {before after : List Token}
    (h : WellNested (before ++ after)) (name : String) (line : Nat) :
    findings policy (before ++ [⟨.opening, name, line⟩] ++ after) =
        [surplus policy (stillOpen before) ⟨name, line⟩] ∧
      (stillOpen before = [] →
        findings policy (before ++ [⟨.closing, name, line⟩] ++ after) = [⟨.missingStart, line, name⟩]) := by
  obtain ⟨tags, hopens, hcloses⟩ := h.cut rfl
  rw [stillOpen_eq hopens]
  constructor
  · rw [findings, List.append_assoc, Checker.feedAll_append, feedAll_of_opens policy hopens]
    exact feedAll_surplus policy hcloses ⟨name, line⟩
  · rintro rfl
    -- the closing token is a pending finding from here on, and no rule that looks at it is asked
    rw [findings, List.append_assoc, Checker.feedAll_append, feedAll_of_opens policy hopens, Checker.within_nil,
      List.singleton_append, Checker.feedAll_cons, Checker.feed_closing, Checker.close_of_isEmpty rfl rfl]
    have hrest := feedAll_of_closes policy hcloses
      { pending := Queue.empty.enqueue ⟨.missingStart, line, name⟩ }
    exact congrArg (·.finish.1) hrest

/-- An `a` put inside another takes its closing token, so the outer one is passed over; a closing `a` in front of
a pair of that name is not taken for the pair's own. -/
theorem findings_of_single_defect_shifted :
    WellNested ([⟨.opening, "b", 1⟩, ⟨.opening, "a", 2⟩] ++ [⟨.closing, "a", 4⟩, ⟨.closing, "b", 5⟩]) ∧
      findings .report
          ([⟨.opening, "b", 1⟩, ⟨.opening, "a", 2⟩] ++ [⟨.opening, "a", 3⟩] ++
            [⟨.closing, "a", 4⟩, ⟨.closing, "b", 5⟩]) = [⟨.mismatch, 2, "a"⟩] ∧
      WellNested ([] ++ [⟨.opening, "a", 2⟩, ⟨.closing, "a", 3⟩]) ∧ stillOpen [] = [] ∧
      findings .extras ([] ++ [⟨.closing, "a", 1⟩] ++ [⟨.opening, "a", 2⟩, ⟨.closing, "a", 3⟩]) =
        [⟨.missingStart, 1, "a"⟩] := by
  have hnested : WellNested
      ([⟨.opening, "b", 1⟩, ⟨.opening, "a", 2⟩] ++ [⟨.closing, "a", 4⟩, ⟨.closing, "b", 5⟩]) :=
    .wrap "b" 1 5 (.wrap "a" 2 4 .nil)
  have hpair : WellNested ([] ++ [⟨.opening, "a", 2⟩, ⟨.closing, "a", 3⟩]) := .wrap "a" 2 3 .nil
  refine ⟨hnested, ?_, hpair, rfl, (findings_of_single_defect .extras hpair "a" 1).2 rfl⟩
  exact (findings_of_single_defect .report hnested "a" 3).1.trans (by decide)

end TagNesting
