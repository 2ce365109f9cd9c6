import Mathlib.Data.List.Induction
import TagNesting.Proofs.Checker.Subjects
import TagNesting.Proofs.Scanner.Shift

/-!
# `Proofs.Checker.Order` — in which order findings come

The findings of a document come in the order in which they are made, and not in the order of the tags that they are
about. Still the one follows from the other. What is pending waits in the order in which it has come
(`Checker.Waiting`): missing opening tags as their closing tags come, and mismatches in groups, a group for each closing
tag that has passed over some tags, from the innermost of these outwards. Taking back a finding, and setting some off
against orphans, leaves the others in their order, wherever they stand (`Checker.Waiting.sublist`).

Places are told by lines here: the tokens stand on lines of their own, one behind the other, and every step is shown
for such tokens (`Checker.InOrder.feed`). A document whose tokens share lines is put on lines of its own first
(`findings_eq_map_restoring`).
-/

namespace TagNesting

namespace Checker

/-! ## Tags that a run has met -/

variable {policy : SkipPolicy} {tokens : List Token}

/-- Every open tag is that of a token. -/
theorem exists_token_of_mem_openTags {tag : Tag}
    (h : tag ∈ (feedAll policy {} tokens).openTags.toList) : ∃ token ∈ tokens, token.tag = tag := by
  obtain ⟨book, hbook⟩ := (keeps_start policy).feedAll tokens 0
  rw [hbook.opened_eq] at h
  obtain ⟨place, hplace, rfl⟩ := List.mem_map.1 h
  have hall : place ∈ book.places := by
    simp [Book.places, hplace]
  have htaken : place ∈ tokens.zipIdx := (List.mem_filter.1 (hbook.complete.subset hall)).1
  exact ⟨place.1, List.fst_mem_of_mem_zipIdx htaken, rfl⟩

/-- So is the tag of every pending finding. -/
theorem exists_token_of_mem_pending {finding : Finding}
    (h : finding ∈ (feedAll policy {} tokens).pending.toList) : ∃ token ∈ tokens, token.tag = finding.tag := by
  obtain ⟨book, hbook⟩ := (keeps_start policy).feedAll tokens 0
  rw [hbook.pending_eq] at h
  obtain ⟨entry, hentry, rfl⟩ := List.mem_map.1 h
  have hall : entry.1 ∈ book.places := by
    simp only [Book.places, List.mem_append]
    exact .inr (.inr (.inl (List.mem_map_of_mem hentry)))
  have htaken : entry.1 ∈ tokens.zipIdx := (List.mem_filter.1 (hbook.complete.subset hall)).1
  exact ⟨entry.1.1, List.fst_mem_of_mem_zipIdx htaken, (hbook.pending_reports entry hentry).tag_eq.symm⟩

/-! ## Passing over -/

/-- In a run over the tokens, `closing` is looked for below `tag`, and is found. -/
inductive PassesOver (policy : SkipPolicy) (tokens : List Token) (closing tag : Tag) : Prop where
  | intro {before after : List Token} {depth : Nat}
      (htokens : tokens = before ++ ⟨.closing, closing.name, closing.line⟩ :: after)
      (hnote : ((feedAll policy {} before).close policy closing).2 = some (.searched closing (some depth)))
      (habove : tag ∈ (feedAll policy {} before).openTags.above depth)

theorem PassesOver.append {closing tag : Tag} (h : PassesOver policy tokens closing tag) (more : List Token) :
    PassesOver policy (tokens ++ more) closing tag := by
  obtain @⟨before, after, depth, htokens, hnote, habove⟩ := h
  have hmore : tokens ++ more = before ++ ⟨.closing, closing.name, closing.line⟩ :: (after ++ more) := by
    rw [htokens, List.append_assoc, List.cons_append]
  exact .intro hmore hnote habove

/-- What passes over something is a token. -/
theorem PassesOver.exists_token {closing tag : Tag} (h : PassesOver policy tokens closing tag) :
    ∃ token ∈ tokens, token.tag = closing := by
  obtain ⟨htokens, -, -⟩ := h
  exact ⟨_, htokens ▸ List.mem_append_right _ List.mem_cons_self, rfl⟩

/-- Mismatches, each with the closing tag that has passed over its tag, in groups: those of earlier closing tags come
first, and those of one closing tag come from the innermost outwards. -/
def InGroups (skips : List (Finding × Tag)) : Prop :=
  skips.Pairwise fun first second =>
    first.2.line < second.2.line ∨ first.2 = second.2 ∧ second.1.line < first.1.line

/-! ## Findings that wait -/

/-- The missing opening tags come line by line, and the mismatches in groups. -/
structure Waiting (policy : SkipPolicy) (tokens : List Token) (waiting : List Finding) : Prop where
  missingStart_lt : (ofKind .missingStart waiting).Pairwise (·.line < ·.line)
  mismatch_inGroups : ∃ skips : List (Finding × Tag),
    skips.map Prod.fst = ofKind .mismatch waiting ∧ InGroups skips ∧
      ∀ skip ∈ skips, PassesOver policy tokens skip.2 skip.1.tag

namespace Waiting

variable {waiting : List Finding}

theorem nil (policy : SkipPolicy) (tokens : List Token) : Waiting policy tokens [] :=
  ⟨.nil, [], rfl, .nil, List.forall_mem_nil _⟩

/-- **Whatever leaves, the others wait in their order.** -/
theorem sublist (h : Waiting policy tokens waiting) {fewer : List Finding} (hfewer : fewer.Sublist waiting) :
    Waiting policy tokens fewer := by
  obtain ⟨skips, hskips, hgroups, hpasses⟩ := h.mismatch_inGroups
  have hsublist : (ofKind .mismatch fewer).Sublist (skips.map Prod.fst) := by
    rw [hskips]
    exact hfewer.filter _
  obtain ⟨rest, hrest, heq⟩ := List.sublist_map_iff.1 hsublist
  refine ⟨h.missingStart_lt.sublist (hfewer.filter _), rest, heq.symm, hgroups.sublist hrest, ?_⟩
  intro skip hskip
  exact hpasses skip (hrest.subset hskip)

/-- More tokens do not change what has passed over what. -/
theorem append (h : Waiting policy tokens waiting) (more : List Token) :
    Waiting policy (tokens ++ more) waiting := by
  obtain ⟨skips, hskips, hgroups, hpasses⟩ := h.mismatch_inGroups
  refine ⟨h.missingStart_lt, skips, hskips, hgroups, ?_⟩
  intro skip hskip
  exact (hpasses skip hskip).append more

/-- A missing opening tag comes behind those of earlier lines. -/
theorem missingStart (h : Waiting policy tokens waiting) {tag : Tag}
    (hlater : ∀ finding ∈ waiting, finding.line < tag.line) :
    Waiting policy tokens (waiting ++ [.ofTag .missingStart tag]) := by
  have hsame := ofKind_map_ofTag_self .missingStart [tag]
  have hnone := ofKind_map_ofTag_of_ne (show Finding.Kind.missingStart ≠ .mismatch by decide) [tag]
  rw [List.map_singleton] at hsame hnone
  constructor
  · rw [ofKind_append, hsame, List.pairwise_append]
    refine ⟨h.missingStart_lt, List.pairwise_singleton _ _, ?_⟩
    intro finding hfinding new hnew
    obtain rfl := List.mem_singleton.1 hnew
    exact hlater finding (List.mem_filter.1 hfinding).1
  · rw [ofKind_append, hnone, List.append_nil]
    exact h.mismatch_inGroups

/-- The tags that a closing tag passes over are one more group. -/
theorem passedOver (h : Waiting policy tokens waiting) {closing : Tag} {more : List Token}
    (hlater : ∀ token ∈ tokens, token.line < closing.line) {passed : List Tag}
    (hpassed : passed.Pairwise fun inner outer => outer.line < inner.line)
    (hpasses : ∀ tag ∈ passed, PassesOver policy (tokens ++ more) closing tag) :
    Waiting policy (tokens ++ more) (waiting ++ passed.map (.ofTag .mismatch)) := by
  obtain ⟨skips, hskips, hgroups, hearlier⟩ := h.mismatch_inGroups
  constructor
  · have hnone := ofKind_map_ofTag_of_ne (show Finding.Kind.mismatch ≠ .missingStart by decide) passed
    rw [ofKind_append, hnone, List.append_nil]
    exact h.missingStart_lt
  · refine ⟨skips ++ passed.map fun tag => (.ofTag .mismatch tag, closing), ?_, ?_, ?_⟩
    · rw [ofKind_append, ofKind_map_ofTag_self, List.map_append, hskips, List.map_map]
      rfl
    · rw [InGroups, List.pairwise_append, List.pairwise_map]
      refine ⟨hgroups, ?_, ?_⟩
      · apply hpassed.imp
        intro inner outer hlt
        exact Or.inr ⟨rfl, hlt⟩
      · -- the closing tags of the other groups are earlier tokens
        intro skip hskip new hnew
        obtain ⟨tag, -, rfl⟩ := List.mem_map.1 hnew
        obtain ⟨token, htoken, htag⟩ := (hearlier skip hskip).exists_token
        rw [← htag]
        exact Or.inl (hlater token htoken)
    · intro skip hskip
      rcases List.mem_append.1 hskip with hold | hnew
      · exact (hearlier skip hold).append more
      · obtain ⟨tag, htag, rfl⟩ := List.mem_map.1 hnew
        exact hpasses tag htag

end Waiting

/-! ## States in order -/

/-- **The order invariant.** After the tokens, an inner tag stands on a later line than those outside it, and what is
pending waits in order. -/
structure InOrder (policy : SkipPolicy) (tokens : List Token) (c : Checker) : Prop where
  openTags_gt : c.openTags.toList.Pairwise fun inner outer => outer.line < inner.line
  pending_waits : Waiting policy tokens c.pending.toList

variable {token : Token}

/-- A closing token keeps it. -/
theorem InOrder.close {tag : Tag} (h : InOrder policy tokens (feedAll policy {} tokens))
    (hlater : ∀ earlier ∈ tokens, earlier.line < tag.line) :
    InOrder policy (tokens ++ [⟨.closing, tag.name, tag.line⟩])
      ((feedAll policy {} tokens).close policy tag).1 := by
  have hsettles := settles_close policy (feedAll policy {} tokens) tag
  generalize hclose : (feedAll policy {} tokens).close policy tag = result at hsettles ⊢
  have hsame := h.pending_waits.append [⟨.closing, tag.name, tag.line⟩]
  cases hsettles with
  | innermost top outer hopen hname =>
      refine ⟨?_, hsame⟩
      have hopened := h.openTags_gt
      rw [hopen] at hopened
      exact hopened.of_cons
  | takenBack finding rest hopen hpending hname =>
      refine ⟨h.openTags_gt, hsame.sublist ?_⟩
      rw [hpending]
      exact List.sublist_cons_self finding rest.toList
  | nothingOpen hopen hpending =>
      refine ⟨h.openTags_gt, ?_⟩
      rw [Queue.toList_enqueue]
      apply hsame.missingStart
      intro finding hfinding
      obtain ⟨earlier, hearlier, htag⟩ := exists_token_of_mem_pending hfinding
      have hline : earlier.line = finding.line := congrArg Tag.line htag
      rw [← hline]
      exact hlater earlier hearlier
  | found passed target outer hopen hne hpassed hname hpending =>
      have hopened := h.openTags_gt
      rw [hopen, List.pairwise_append] at hopened
      obtain ⟨hinside, hrest, -⟩ := hopened
      have hpasses : ∀ top ∈ passed, PassesOver policy (tokens ++ [⟨.closing, tag.name, tag.line⟩]) tag top := by
        intro top htop
        refine .intro rfl (congrArg Prod.snd hclose) ?_
        rw [Stack.above_of_append hopen]
        exact htop
      cases policy with
      | report =>
          refine ⟨hrest.of_cons, ?_⟩
          simp only [passOver, Queue.toList_enqueueAll]
          exact h.pending_waits.passedOver hlater hinside hpasses
      | extras => exact ⟨hrest.of_cons, hsame⟩
  | notFound hne hopen hpending => exact ⟨.nil, hsame⟩

/-- **Step.** Every token keeps it, if it stands behind all others. -/
theorem InOrder.feed (h : InOrder policy tokens (feedAll policy {} tokens))
    (hlater : ∀ earlier ∈ tokens, earlier.line < token.line) :
    InOrder policy (tokens ++ [token]) ((feedAll policy {} tokens).feed policy token).1 := by
  have hsame := h.pending_waits.append [token]
  obtain ⟨kind, name, line⟩ := token
  cases kind with
  | opening =>
      refine ⟨?_, hsame⟩
      simp only [feed_opening, Stack.toList_push, List.pairwise_cons]
      refine ⟨?_, h.openTags_gt⟩
      intro outer houter
      obtain ⟨earlier, hearlier, rfl⟩ := exists_token_of_mem_openTags houter
      exact hlater earlier hearlier
  | closing =>
      have htag : ∀ earlier ∈ tokens, earlier.line < (⟨name, line⟩ : Tag).line := hlater
      exact h.close htag
  | selfClosing => exact ⟨h.openTags_gt, hsame⟩
  | declaration => exact ⟨h.openTags_gt, hsame⟩
  | malformed => exact ⟨h.openTags_gt, hsame⟩

/-- **Run.** Tokens that stand one behind the other leave a state in order. -/
theorem inOrder_feedAll (policy : SkipPolicy) (h : tokens.Pairwise (·.line < ·.line)) :
    InOrder policy tokens (feedAll policy {} tokens) := by
  induction tokens using List.reverseRecOn with
  | nil => exact ⟨.nil, .nil policy []⟩
  | append_singleton tokens token ih =>
      obtain ⟨htokens, -, hlater⟩ := List.pairwise_append.1 h
      rw [feedAll_append]
      apply (ih htokens).feed
      intro earlier hearlier
      exact hlater earlier hearlier token List.mem_cons_self

end Checker

/-! ## Findings in order -/

/-- Findings about tags, in the order in which a check makes them: first the missing opening tags and the mismatches,
then the tags that have not been closed, from the innermost outwards, and then the tags that belong to nothing. -/
structure Orderly (policy : SkipPolicy) (tokens : List Token) (found : List Finding) : Prop
    extends Checker.Waiting policy tokens found where
  blocks : ∃ waiting unclosed left, found = waiting ++ (unclosed ++ left) ∧
    (∀ finding ∈ waiting, finding.kind = .missingStart ∨ finding.kind = .mismatch) ∧
    (∀ finding ∈ unclosed, finding.kind = .missingEnd) ∧ ∀ finding ∈ left, finding.kind = .extra
  missingEnd_gt : (ofKind .missingEnd found).Pairwise fun first second => second.line < first.line

theorem ofKind_eq_nil {kind : Finding.Kind} {found : List Finding} (h : ∀ finding ∈ found, finding.kind ≠ kind) :
    ofKind kind found = [] := by
  apply List.filter_eq_nil_iff.2
  intro finding hfinding
  simpa using h finding hfinding

/-- **Tokens that stand one behind the other have findings in order.** -/
theorem orderly_findings (policy : SkipPolicy) {tokens : List Token} (h : tokens.Pairwise (·.line < ·.line)) :
    Orderly policy tokens (tagFindings (findings policy tokens)) := by
  have hsound := pendingSound_feedAll policy tokens
  have hinOrder := Checker.inOrder_feedAll policy h
  rw [tagFindings_findings]
  generalize Checker.feedAll policy {} tokens = last at hsound hinOrder ⊢
  obtain ⟨standing, left, heq, hstanding, -⟩ := exists_reconcile_eq last.unresolved last.orphans.toList
  obtain ⟨waiting, unclosed, rfl, hwaiting, hunclosed⟩ := List.sublist_append_iff.1 hstanding
  obtain ⟨tags, htags, rfl⟩ := List.sublist_map_iff.1 hunclosed
  have hkinds : ∀ finding ∈ waiting, finding.kind = .missingStart ∨ finding.kind = .mismatch := by
    intro finding hfinding
    rcases hsound finding (hwaiting.subset hfinding) with hkind | ⟨hkind, -⟩
    · exact Or.inl hkind
    · exact Or.inr hkind
  have hothers (kind : Finding.Kind) (hend : Finding.Kind.missingEnd ≠ kind) (hextra : Finding.Kind.extra ≠ kind) :
      ofKind kind (waiting ++ tags.map (.ofTag .missingEnd) ++ left.map (.ofTag .extra)) = ofKind kind waiting := by
    rw [ofKind_append, ofKind_append, ofKind_map_ofTag_of_ne hend, ofKind_map_ofTag_of_ne hextra, List.append_nil,
      List.append_nil]
  have hwaits := hinOrder.pending_waits.sublist hwaiting
  rw [heq]
  refine ⟨⟨?_, ?_⟩, ⟨waiting, tags.map (.ofTag .missingEnd), left.map (.ofTag .extra), ?_, hkinds, ?_, ?_⟩, ?_⟩
  · rw [hothers .missingStart (by decide) (by decide)]
    exact hwaits.missingStart_lt
  · rw [hothers .mismatch (by decide) (by decide)]
    exact hwaits.mismatch_inGroups
  · rw [List.append_assoc]
  · intro finding hfinding
    obtain ⟨tag, -, rfl⟩ := List.mem_map.1 hfinding
    rfl
  · intro finding hfinding
    obtain ⟨tag, -, rfl⟩ := List.mem_map.1 hfinding
    rfl
  · have hnone : ofKind .missingEnd waiting = [] := by
      apply ofKind_eq_nil
      intro finding hfinding
      rcases hkinds finding hfinding with hkind | hkind <;> simp [hkind]
    rw [ofKind_append, ofKind_append, hnone, ofKind_map_ofTag_self,
      ofKind_map_ofTag_of_ne (show Finding.Kind.extra ≠ .missingEnd by decide), List.nil_append, List.append_nil,
      List.pairwise_map]
    exact hinOrder.openTags_gt.sublist htags

/-! ## Lines -/

/-- The lines of a scan come in order. -/
theorem pairwise_line_linesTokens (mode : ScanMode) (first : Nat) (lines : List (List Char)) :
    (linesTokens mode first lines).Pairwise (·.line ≤ ·.line) := by
  induction lines generalizing first with
  | nil => exact .nil
  | cons line lines ih =>
      rw [linesTokens_cons, List.pairwise_append]
      refine ⟨?_, ih (first + 1), ?_⟩
      · apply List.pairwise_of_forall_mem_list
        intro earlier hearlier later hlater
        rw [line_of_mem_lineTokens hearlier, line_of_mem_lineTokens hlater]
      · intro earlier hearlier later hlater
        have hhere := line_of_mem_lineTokens hearlier
        have hbelow := (line_of_mem_linesTokens hlater).1
        omega

variable {tokens : List Token}

/-- Where lines come in order, a later place is on no earlier line. -/
theorem Relabelling.restoring_line_le (h : tokens.Pairwise (·.line ≤ ·.line)) {place later : Nat}
    (hlt : place < later) (hlater : later < tokens.length) :
    (restoring tokens).line place ≤ (restoring tokens).line later := by
  have hplace : place < tokens.length := Nat.lt_trans hlt hlater
  have hle := List.pairwise_iff_getElem.1 h place later hplace hlater hlt
  simpa [restoring, List.getElem?_eq_getElem hplace, List.getElem?_eq_getElem hlater] using hle

/-- A finding stands at a place of the document. -/
theorem line_lt_of_mem_numbered {policy : SkipPolicy} {finding : Finding}
    (h : finding ∈ findings policy (numbered 0 tokens)) : finding.line < tokens.length := by
  obtain ⟨token, htoken, htag⟩ := exists_token_of_mem_findings h
  obtain ⟨original, hplace, -⟩ := getElem?_of_mem_numbered htoken
  have hline : token.line = finding.line := congrArg Tag.line htag
  rw [hline] at hplace
  exact (List.getElem?_eq_some_iff.1 hplace).1

/-- Relabelling does not change kinds. -/
theorem ofKind_map_finding (ρ : Relabelling) (kind : Finding.Kind) (found : List Finding) :
    ofKind kind (found.map ρ.finding) = (ofKind kind found).map ρ.finding :=
  List.filter_map

theorem ofKind_tagFindings {kind : Finding.Kind} (h : kind ≠ .invalidFormat) (found : List Finding) :
    ofKind kind (tagFindings found) = ofKind kind found := by
  unfold ofKind tagFindings
  rw [List.filter_filter]
  apply List.filter_congr
  intro finding _
  by_cases hkind : finding.kind = kind <;> simp [hkind, h]

/-- **The order of the findings.** The findings of a document can be given places in it, each its own and each with
a token of its name and line, such that the findings about tags come in order of these places: missing opening tags
and mismatches first, the former from front to back, and the latter group by group as the closing tags come that have
passed over them, each group from back to front; then tags that have not been closed, from back to front; and then
tags that belong to nothing. So if no token stands on an earlier line than those before it, as in every scan, the
lines of missing opening tags do not fall, and those of tags that have not been closed do not rise. -/
theorem findings_in_order (policy : SkipPolicy) (tokens : List Token) :
    (∃ subjects : List (Finding × Nat),
      subjects.map Prod.fst = findings policy tokens ∧ (subjects.map Prod.snd).Nodup ∧
        (∀ subject ∈ subjects, tokens[subject.2]?.map Token.tag = some subject.1.tag) ∧
        Orderly policy (numbered 0 tokens)
          (tagFindings (subjects.map fun (finding, place) => { finding with line := place }))) ∧
      (tokens.Pairwise (·.line ≤ ·.line) →
        (ofKind .missingStart (findings policy tokens)).Pairwise (·.line ≤ ·.line) ∧
          (ofKind .missingEnd (findings policy tokens)).Pairwise fun first second => second.line ≤ first.line) ∧
      ∀ mode text, (scan mode text).Pairwise (·.line ≤ ·.line) := by
  let placed := findings policy (numbered 0 tokens)
  have horderly : Orderly policy (numbered 0 tokens) (tagFindings placed) :=
    orderly_findings policy (pairwise_line_numbered 0 tokens)
  have hfindings : findings policy tokens = placed.map (Relabelling.restoring tokens).finding :=
    findings_eq_map_restoring policy tokens
  refine ⟨⟨placed.map fun finding => ((Relabelling.restoring tokens).finding finding, finding.line), ?_, ?_, ?_, ?_⟩,
    ?_, ?_⟩
  · rw [hfindings, List.map_map]
    rfl
  · rw [List.map_map]
    exact nodup_line_numbered policy tokens
  · intro subject hsubject
    obtain ⟨finding, hfinding, rfl⟩ := List.mem_map.1 hsubject
    obtain ⟨token, hplace, heq⟩ := Option.map_eq_some_iff.1 (findingAt_of_mem_numbered hfinding)
    rw [← heq, hplace]
    rfl
  · have hplaced : (placed.map fun finding =>
        ((Relabelling.restoring tokens).finding finding, finding.line)).map
          (fun (finding, place) => { finding with line := place }) = placed := by
      rw [List.map_map]
      exact List.map_id placed
    rw [hplaced]
    exact horderly
  · intro hlines
    have hle {first second : Finding} (hsecond : second ∈ placed) (hlt : first.line < second.line) :
        ((Relabelling.restoring tokens).finding first).line ≤
          ((Relabelling.restoring tokens).finding second).line :=
      Relabelling.restoring_line_le hlines hlt (line_lt_of_mem_numbered hsecond)
    have hstarts := horderly.missingStart_lt
    have hends := horderly.missingEnd_gt
    rw [ofKind_tagFindings (by decide)] at hstarts hends
    rw [hfindings, ofKind_map_finding, ofKind_map_finding, List.pairwise_map, List.pairwise_map]
    constructor
    · apply hstarts.imp_of_mem
      intro first second _ hsecond hlt
      exact hle (List.mem_filter.1 hsecond).1 hlt
    · apply hends.imp_of_mem
      intro first second hfirst _ hlt
      exact hle (List.mem_filter.1 hfirst).1 hlt
  · intro mode text
    rw [scan_eq_linesTokens]
    exact pairwise_line_linesTokens mode 1 _

/-- Two groups of mismatches, a missing opening tag, and two tags of one line that have not been closed. -/
theorem findings_in_order_grouped :
    let tokens : List Token :=
      [⟨.opening, "a", 1⟩, ⟨.opening, "b", 2⟩, ⟨.opening, "c", 2⟩, ⟨.closing, "a", 3⟩, ⟨.opening, "d", 4⟩,
        ⟨.opening, "e", 5⟩, ⟨.closing, "d", 6⟩, ⟨.closing, "x", 7⟩, ⟨.opening, "f", 8⟩, ⟨.opening, "g", 8⟩]
    tokens.Pairwise (·.line ≤ ·.line) ∧
      findings .report tokens =
        [⟨.mismatch, 2, "c"⟩, ⟨.mismatch, 2, "b"⟩, ⟨.mismatch, 5, "e"⟩, ⟨.missingStart, 7, "x"⟩,
          ⟨.missingEnd, 8, "g"⟩, ⟨.missingEnd, 8, "f"⟩] ∧
      (ofKind .missingStart (findings .report tokens)).Pairwise (·.line ≤ ·.line) ∧
      (ofKind .missingEnd (findings .report tokens)).Pairwise fun first second => second.line ≤ first.line := by
  intro tokens
  have hlines : tokens.Pairwise (·.line ≤ ·.line) := by decide
  exact ⟨hlines, by decide, (findings_in_order .report tokens).2.1 hlines⟩

end TagNesting
