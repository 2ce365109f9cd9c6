import Mathlib.Data.List.Perm.Subperm
import TagNesting.Proofs.Checker.Account
import TagNesting.Proofs.Checker.Balance
import TagNesting.Proofs.Checker.Policies
import TagNesting.Proofs.Checker.Relabel
import TagNesting.Proofs.Token.Numbered

/-!
# `Proofs.Checker.Subjects` — which token a finding is about

A finding tells a name and a line, and there may be several tokens of that name on that line. Still no two findings
are about the same token (`subperm_tag_findings`): there are at least as many tokens of a name on a line as findings.

To tell these tokens apart, they are put on lines of their own first, each on the line of its place in the document.
A checker does not look at lines, so it finds the same there (`findings_eq_map_restoring`), and the line of a finding
is now the place of the token that it is about. `findingAt` reads the finding off that place (`map_findingAt`).
-/

namespace TagNesting

variable {policy : SkipPolicy} {tokens : List Token}

/-! ## Two parts of the findings -/

/-- What reconciling leaves are findings that it has been given, in their order, and then the orphans from some
place on. -/
theorem exists_reconcile_eq (pending : List Finding) (orphans : List Tag) :
    ∃ standing left, Checker.reconcile pending orphans = standing ++ left.map (.ofTag .extra) ∧
      standing.Sublist pending ∧ left <:+ orphans := by
  induction pending generalizing orphans with
  | nil => exact ⟨[], orphans, rfl, .slnil, List.suffix_refl orphans⟩
  | cons finding pending ih =>
      cases orphans with
      | nil => exact ⟨finding :: pending, [], (List.append_nil _).symm, .refl _, List.suffix_refl []⟩
      | cons orphan orphans =>
          by_cases hname : finding.detail = orphan.name
          · -- both are dropped
            obtain ⟨standing, left, heq, hstanding, hleft⟩ := ih orphans
            refine ⟨standing, left, ?_, hstanding.cons finding, hleft.trans (List.suffix_cons orphan orphans)⟩
            rw [Checker.reconcile, if_pos hname, heq]
          · obtain ⟨standing, left, heq, hstanding, hleft⟩ := ih (orphan :: orphans)
            refine ⟨finding :: standing, left, ?_, hstanding.cons_cons finding, hleft⟩
            rw [Checker.reconcile, if_neg hname, heq, List.cons_append]

/-- The findings about malformed occurrences, in the order of the document. -/
def malformedFindings (tokens : List Token) : List Finding :=
  ((tokens.filter (·.kind = .malformed)).map Token.tag).map (.ofTag .invalidFormat)

/-- **The findings come in two parts**: those about malformed occurrences, and then what reconciling leaves. -/
theorem findings_eq_append (policy : SkipPolicy) (tokens : List Token) :
    findings policy tokens =
      malformedFindings tokens ++ Checker.reconcile (Checker.feedAll policy {} tokens).unresolved
        (Checker.feedAll policy {} tokens).orphans.toList :=
  congrArg (· ++ _) (Checker.malformed_feedAll policy {} tokens)

/-- Whatever is pending at the end of a document is of a kind that can be. -/
theorem pendingSound_feedAll (policy : SkipPolicy) (tokens : List Token) :
    Checker.PendingSound policy (Checker.feedAll policy {} tokens) := by
  have hstart : Checker.PendingSound policy {} := fun _ hnone => nomatch hnone
  exact (Checker.feedAll_sound hstart tokens).1

/-- The second part are the findings about tags. -/
theorem tagFindings_findings (policy : SkipPolicy) (tokens : List Token) :
    tagFindings (findings policy tokens) =
      Checker.reconcile (Checker.feedAll policy {} tokens).unresolved
        (Checker.feedAll policy {} tokens).orphans.toList := by
  have hunresolved := isUnresolved_of_mem_unresolved (pendingSound_feedAll policy tokens)
  have hmalformed : tagFindings (malformedFindings tokens) = [] := by
    unfold tagFindings malformedFindings
    rw [List.filter_eq_nil_iff]
    intro finding hfinding
    obtain ⟨tag, -, rfl⟩ := List.mem_map.1 hfinding
    simp [Finding.ofTag]
  rw [findings_eq_append]
  unfold tagFindings at hmalformed ⊢
  rw [List.filter_append, hmalformed, List.nil_append, List.filter_eq_self]
  intro finding hfinding
  obtain ⟨standing, left, heq, hstanding, -⟩ := exists_reconcile_eq
    (Checker.feedAll policy {} tokens).unresolved (Checker.feedAll policy {} tokens).orphans.toList
  rw [heq] at hfinding
  rcases List.mem_append.1 hfinding with hstands | hextra
  · rcases hunresolved finding (hstanding.subset hstands) with hkind | hkind | hkind <;> simp [hkind]
  · obtain ⟨tag, -, rfl⟩ := List.mem_map.1 hextra
    simp [Finding.ofTag]

/-! ## One token a finding -/

/-- What one list has at most as often as another, it still has so when both are mapped. -/
theorem subperm_map {α β : Type} (f : α → β) {first second : List α} (h : first.Subperm second) :
    (first.map f).Subperm (second.map f) := by
  obtain ⟨middle, hperm, hsublist⟩ := h
  exact ⟨middle.map f, hperm.map f, hsublist.map f⟩

theorem Reports.tag_eq {token : Token} {finding : Finding} (h : Reports policy token finding) :
    finding.tag = token.tag := by
  cases h <;> rfl

theorem map_fst_tagPlaces (tokens : List Token) : (tagPlaces tokens).map Prod.fst = tokens.filter Token.isTag := by
  conv_rhs => rw [← List.zipIdx_map_fst 0 tokens, List.filter_map]
  rfl

/-- No two findings about tags are about the same token that opens or closes a tag. -/
theorem subperm_tag_tagFindings (policy : SkipPolicy) (tokens : List Token) :
    ((tagFindings (findings policy tokens)).map Finding.tag).Subperm
      ((tokens.filter Token.isTag).map Token.tag) := by
  obtain ⟨book, hbook⟩ := (keeps_start policy).feedAll tokens 0
  have haccounts : ∃ pairs subjects,
      Accounts policy (tagPlaces tokens) (tagFindings (findings policy tokens)) pairs subjects :=
    hbook.accounts
  obtain ⟨pairs, subjects, haccounts⟩ := haccounts
  have htags : (tagFindings (findings policy tokens)).map Finding.tag =
      ((subjects.map Prod.fst).map Prod.fst).map Token.tag := by
    rw [← haccounts.findings_eq, List.map_map, List.map_map, List.map_map]
    apply List.map_congr_left
    intro subject hsubject
    exact (haccounts.reports subject hsubject).tag_eq
  have hsubjects : (subjects.map Prod.fst).Subperm (tagPlaces tokens) :=
    (List.sublist_append_right _ _).subperm.trans haccounts.complete.subperm
  rw [htags, ← map_fst_tagPlaces]
  exact subperm_map Token.tag (subperm_map Prod.fst hsubjects)

/-- **No two findings are about the same token.** -/
theorem subperm_tag_findings (policy : SkipPolicy) (tokens : List Token) :
    ((findings policy tokens).map Finding.tag).Subperm (tokens.map Token.tag) := by
  have hmalformed : (malformedFindings tokens).map Finding.tag =
      (tokens.filter (·.kind = .malformed)).map Token.tag :=
    map_tag_map_ofTag ..
  have hothers : (tokens.filter Token.isTag).Sublist (tokens.filter fun token => !decide (token.kind = .malformed)) := by
    apply List.monotone_filter_right
    intro token htag
    cases hkind : token.kind <;> simp_all [Token.isTag]
  rw [findings_eq_append, ← tagFindings_findings, List.map_append, hmalformed]
  refine (List.Subperm.append (.refl _) (subperm_tag_tagFindings policy tokens)).trans ?_
  rw [← List.map_append]
  apply subperm_map
  exact (List.Subperm.append (.refl _) hothers.subperm).trans (List.filter_append_perm _ tokens).subperm

/-- Every finding is about a token of the document. -/
theorem exists_token_of_mem_findings {finding : Finding} (h : finding ∈ findings policy tokens) :
    ∃ token ∈ tokens, token.tag = finding.tag :=
  List.mem_map.1 ((subperm_tag_findings policy tokens).subset (List.mem_map_of_mem h))

/-! ## Places -/

/-- The line of the token at each place. -/
def Relabelling.restoring (tokens : List Token) : Relabelling where
  name := fun name => name
  line := fun place => (tokens[place]?.map Token.line).getD 0
  name_injective := fun heq => heq

theorem map_restoring_numbered (tokens : List Token) :
    (numbered 0 tokens).map (Relabelling.restoring tokens).token = tokens := by
  have hback : (numbered 0 tokens).map (Relabelling.restoring tokens).token = tokens.zipIdx.map Prod.fst := by
    rw [numbered, List.map_map]
    apply List.map_congr_left
    intro entry hentry
    have hplace : tokens[entry.2]? = some entry.1 := List.mem_zipIdx_iff_getElem?.1 hentry
    simp [Relabelling.token, Relabelling.restoring, hplace]
  rw [hback]
  exact List.zipIdx_map_fst 0 tokens

/-- **Putting the tokens on lines of their own changes nothing but the lines.** -/
theorem findings_eq_map_restoring (policy : SkipPolicy) (tokens : List Token) :
    findings policy tokens =
      (findings policy (numbered 0 tokens)).map (Relabelling.restoring tokens).finding := by
  rw [← Relabelling.findings_map, map_restoring_numbered]

/-- The finding of this kind about the token at this place. -/
def findingAt (tokens : List Token) (subject : Finding.Kind × Nat) : Option Finding :=
  tokens[subject.2]?.map fun token => .ofTag subject.1 token.tag

theorem findingAt_of_mem_numbered {finding : Finding} (h : finding ∈ findings policy (numbered 0 tokens)) :
    findingAt tokens (finding.kind, finding.line) = some ((Relabelling.restoring tokens).finding finding) := by
  obtain ⟨token, htoken, htag⟩ := exists_token_of_mem_findings h
  obtain ⟨original, hplace, hnumbered⟩ := getElem?_of_mem_numbered htoken
  rw [hnumbered] at htag
  obtain ⟨hname, hline⟩ := Tag.mk.inj htag
  rw [hline] at hplace
  simp [findingAt, hplace, Relabelling.finding, Relabelling.restoring, Finding.ofTag, Token.tag, ← hname]

/-- **The findings can be read off their places.** -/
theorem map_findingAt (policy : SkipPolicy) (tokens : List Token) :
    ((findings policy (numbered 0 tokens)).map fun finding => (finding.kind, finding.line)).map
      (findingAt tokens) = (findings policy tokens).map some := by
  rw [findings_eq_map_restoring policy tokens, List.map_map, List.map_map]
  apply List.map_congr_left
  intro finding hfinding
  exact findingAt_of_mem_numbered hfinding

/-- No place has two findings. -/
theorem nodup_line_numbered (policy : SkipPolicy) (tokens : List Token) :
    ((findings policy (numbered 0 tokens)).map Finding.line).Nodup := by
  have hlines : ((numbered 0 tokens).map Token.line).Nodup := by
    rw [List.Nodup, List.pairwise_map]
    apply (pairwise_line_numbered 0 tokens).imp
    intro earlier later hlt
    exact Nat.ne_of_lt hlt
  have hsubperm := subperm_map Tag.line (subperm_tag_findings policy (numbered 0 tokens))
  rw [List.map_map, List.map_map] at hsubperm
  obtain ⟨lines, hperm, hsublist⟩ := hsubperm
  exact hperm.nodup_iff.1 (hlines.sublist hsublist)

end TagNesting
