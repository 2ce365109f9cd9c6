import TagNesting.Checker
import TagNesting.Proofs.Nesting.WellNested

/-!
# `Proofs.Nesting.Invisible` — a checker does not see what is well nested

Within a well nested list every closing token meets the tag it closes on top of the open tags, so it is settled
by the first rule and no other rule is ever asked. That holds in every state of the checker: pending findings of
the same name, which the second rule would take back, are not looked at.

`feedTraced_of_wellNested` is this fact for a well nested list. A list that is cut opens its tags on top of
whatever was open before (`feedAll_of_opens`), and the other side of the cut takes them off again
(`feedAll_of_closes`); `Checker.within` is the state between the two sides.
-/

namespace TagNesting

namespace Checker

/-- The same state inside further open tags. -/
def within (c : Checker) (tags : List Tag) : Checker :=
  { c with openTags := ⟨tags ++ c.openTags.toList⟩ }

@[simp] theorem within_nil (c : Checker) : c.within [] = c := rfl

theorem within_cons (c : Checker) (tag : Tag) (tags : List Tag) :
    c.within (tag :: tags) =
      { c.within tags with openTags := (c.within tags).openTags.push ⟨tag.name, tag.line⟩ } := rfl

end Checker

variable {tokens : List Token} {tags : List Tag}

/-! ## Runs over well nested lists and their cuts -/

/-- **A well nested list runs through without a word** and leaves the state as it was. -/
theorem feedTraced_of_wellNested (policy : SkipPolicy) (h : WellNested tokens) (c : Checker) :
    c.feedAll policy tokens = c ∧
      (c.feedTraced policy tokens).1 = List.replicate tokens.length none := by
  induction h generalizing c with
  | nil => exact ⟨rfl, rfl⟩
  | selfClosing name line => exact ⟨rfl, rfl⟩
  | declaration text line => exact ⟨rfl, rfl⟩
  | append _ _ ihl ihr =>
      obtain ⟨hleft, hquietLeft⟩ := ihl c
      obtain ⟨hright, hquietRight⟩ := ihr c
      rw [Checker.feedAll_append, Checker.fst_feedTraced_append, hleft]
      refine ⟨hright, ?_⟩
      rw [hquietLeft, hquietRight, List.length_append, List.replicate_append_replicate]
  | @wrap name opened closed inner _ ih =>
      -- what is inside runs from the state in which the tag is open, and leaves that tag on top
      obtain ⟨hrun, hquiet⟩ := ih { c with openTags := c.openTags.push ⟨name, opened⟩ }
      constructor
      · rw [Checker.feedAll_cons, Checker.feed_opening, Checker.feedAll_append, hrun]
        simp only [Checker.feedAll_cons, Checker.feed_closing, Checker.close_push, Checker.feedAll_nil]
      · rw [Checker.feedTraced_cons, Checker.feed_opening, Checker.fst_feedTraced_append, hrun, hquiet,
          Checker.feedTraced_cons, Checker.feed_closing, Checker.close_push, Checker.feedTraced_nil,
          List.length_cons, List.length_append, List.length_singleton, List.replicate_succ,
          List.replicate_succ']

theorem feedAll_of_wellNested (policy : SkipPolicy) (h : WellNested tokens) (c : Checker) :
    c.feedAll policy tokens = c :=
  (feedTraced_of_wellNested policy h c).1

/-- The left side of a cut puts its open tags on top of those that were open before. -/
theorem feedAll_of_opens (policy : SkipPolicy) (h : Opens tokens tags) (c : Checker) :
    c.feedAll policy tokens = c.within tags := by
  induction h with
  | nested hn => exact feedAll_of_wellNested policy hn c
  | inward tag _ hinner ih =>
      rw [Checker.feedAll_append, ih, Checker.feedAll_cons, Checker.feed_opening,
        feedAll_of_wellNested policy hinner, Checker.within_cons]

/-- The right side of a cut takes them off again. -/
theorem feedAll_of_closes (policy : SkipPolicy) (h : Closes tags tokens) (c : Checker) :
    (c.within tags).feedAll policy tokens = c := by
  induction h with
  | nested hn => exact feedAll_of_wellNested policy hn c
  | outward tag line hinner _ ih =>
      rw [Checker.feedAll_append, feedAll_of_wellNested policy hinner, Checker.feedAll_cons, Checker.feed_closing,
        Checker.within_cons, Checker.close_push, ih]

/-! ## The frame of a well nested block -/

/-- **Well nested blocks are invisible.** From any state, a well nested block leads back to that state and
notes nothing on the way, so it may be put anywhere into a document or taken out of it without any effect on
the findings; by itself it has none. -/
theorem wellNested_block_invisible (policy : SkipPolicy) {block : List Token} (h : WellNested block) :
    (∀ c : Checker, c.feedTraced policy block = (List.replicate block.length none, c)) ∧
      (∀ before after : List Token,
        findings policy (before ++ block ++ after) = findings policy (before ++ after)) ∧
      findings policy block = [] := by
  refine ⟨?_, ?_, ?_⟩
  · intro c
    obtain ⟨hrun, hquiet⟩ := feedTraced_of_wellNested policy h c
    have hlast : (c.feedTraced policy block).2 = c := (Checker.snd_feedTraced policy c block).trans hrun
    exact Prod.ext hquiet hlast
  · intro before after
    unfold findings
    rw [Checker.feedAll_append, Checker.feedAll_append, feedAll_of_wellNested policy h,
      Checker.feedAll_append]
  · unfold findings
    rw [feedAll_of_wellNested policy h]
    rfl

/-- A pair whose name is also the oldest pending finding's would be settled by the second rule if the first
did not come before it. -/
theorem wellNested_block_invisible_pair :
    WellNested [⟨.opening, "a", 1⟩, ⟨.selfClosing, "a", 2⟩, ⟨.closing, "a", 3⟩] ∧
      Checker.feedTraced .report { pending := Queue.empty.enqueue ⟨.missingStart, 0, "a"⟩ }
          [⟨.opening, "a", 1⟩, ⟨.selfClosing, "a", 2⟩, ⟨.closing, "a", 3⟩] =
        ([none, none, none], { pending := Queue.empty.enqueue ⟨.missingStart, 0, "a"⟩ }) :=
  have h : WellNested [⟨.opening, "a", 1⟩, ⟨.selfClosing, "a", 2⟩, ⟨.closing, "a", 3⟩] :=
    .wrap "a" 1 3 (.selfClosing "a" 2)
  ⟨h, (wellNested_block_invisible .report h).1 _⟩

end TagNesting
