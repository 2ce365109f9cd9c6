import Mathlib.Data.List.Sigma
import TagNesting.Proofs.Checker.Ledger

/-!
# `Proofs.Checker.Account` — every tag is accounted for

At the end of a document the open tags become pending findings, and reconciling sets some of those off against
orphans. This file follows the book of the ledger through that: `reconcile_accounts` pairs what is set off, and
what is left is the subject of a finding.

So each opening or closing token of a document is either one half of a pair of one name or the subject of exactly
one finding, and each finding about a tag has one such subject (`findings_account_for_tags`): no tag is lost,
none is reported twice, and no finding is made up.
-/

namespace TagNesting

/-- The opening and closing tokens with their positions. -/
def tagPlaces (tokens : List Token) : List Placed :=
  tokens.zipIdx.filter (·.1.isTag)

variable {policy : SkipPolicy} {places : List Placed} {book : Book} {c : Checker}

/-- The places are halves of pairs of one name and subjects of the findings, each place exactly once. The
subjects are listed with their findings, in the order of the findings. -/
structure Accounts (policy : SkipPolicy) (places : List Placed) (findings : List Finding)
    (pairs : List (Placed × Placed)) (subjects : List (Placed × Finding)) : Prop where
  complete : (bothOf pairs ++ subjects.map Prod.fst).Perm places
  same_name : ∀ pair ∈ pairs, pair.1.1.name = pair.2.1.name
  findings_eq : subjects.map Prod.snd = findings
  reports : ∀ subject ∈ subjects, Reports policy subject.1.1 subject.2

/-! ## Reconciling -/

/-- A finding that stands has its own place for a subject. -/
theorem Accounts.stands {findings : List Finding} {pairs : List (Placed × Placed)}
    {subjects : List (Placed × Finding)} (h : Accounts policy places findings pairs subjects)
    {entry : Placed × Finding} (hreports : Reports policy entry.1.1 entry.2) :
    Accounts policy (entry.1 :: places) (entry.2 :: findings) pairs (entry :: subjects) where
  complete := by
    rw [List.perm_iff_count]
    intro place
    have hcount := h.complete.count_eq place
    rw [List.count_append] at hcount
    simp only [List.map_cons, List.count_append, List.count_cons]
    omega
  same_name := h.same_name
  findings_eq := congrArg (entry.2 :: ·) h.findings_eq
  reports := List.forall_mem_cons.2 ⟨hreports, h.reports⟩

/-- A finding and an orphan that cancel each other are a pair. -/
theorem Accounts.cancel {findings : List Finding} {pairs : List (Placed × Placed)}
    {subjects : List (Placed × Finding)} {before after : List Placed}
    (h : Accounts policy (before ++ after) findings pairs subjects) {first second : Placed}
    (hname : first.1.name = second.1.name) :
    Accounts policy (first :: before ++ second :: after) findings ((first, second) :: pairs) subjects where
  complete := by
    rw [List.perm_iff_count]
    intro place
    have hcount := h.complete.count_eq place
    rw [List.count_append, List.count_append] at hcount
    simp only [count_bothOf_cons, List.count_append, List.count_cons, List.count_nil]
    omega
  same_name := List.forall_mem_cons.2 ⟨hname, h.same_name⟩
  findings_eq := h.findings_eq
  reports := h.reports

/-- **Reconciling accounts for what it is given.** Findings and orphans of one name that meet are pairs; all
others stay findings or become some. -/
theorem reconcile_accounts (pending : List (Placed × Finding)) (orphans : List Placed)
    (hpending : ∀ entry ∈ pending, Reports policy entry.1.1 entry.2)
    (horphans : ∀ place ∈ orphans, place.1.isTag = true) :
    ∃ pairs subjects, Accounts policy (pending.map Prod.fst ++ orphans)
      (Checker.reconcile (pending.map Prod.snd) (orphans.map (·.1.tag))) pairs subjects := by
  induction pending generalizing orphans with
  | nil =>
      -- orphans that are left over become findings
      refine ⟨[], entriesOf .extra orphans, ?_, List.forall_mem_nil _, ?_, ?_⟩
      · rw [map_fst_entriesOf]
        exact .refl _
      · rw [map_snd_entriesOf]
        rfl
      · apply reports_of_mem_entriesOf
        intro place hplace
        exact .extra (horphans place hplace)
  | cons entry pending ih =>
      obtain ⟨hentry, hlater⟩ := List.forall_mem_cons.1 hpending
      cases orphans with
      | nil =>
          refine ⟨[], entry :: pending, ?_, List.forall_mem_nil _, rfl, hpending⟩
          rw [List.append_nil]
          exact .refl _
      | cons orphan orphans =>
          by_cases hname : entry.2.detail = orphan.1.name
          · -- the finding and the orphan cancel each other
            obtain ⟨pairs, subjects, h⟩ := ih orphans hlater (List.forall_mem_cons.1 horphans).2
            refine ⟨(entry.1, orphan) :: pairs, subjects, ?_⟩
            have hstep : Checker.reconcile ((entry :: pending).map Prod.snd) ((orphan :: orphans).map (·.1.tag)) =
                Checker.reconcile (pending.map Prod.snd) (orphans.map (·.1.tag)) := if_pos hname
            rw [hstep]
            exact h.cancel (hentry.detail_eq.symm.trans hname)
          · -- the finding stands, and the orphan waits for a later one
            obtain ⟨pairs, subjects, h⟩ := ih (orphan :: orphans) hlater horphans
            refine ⟨pairs, entry :: subjects, ?_⟩
            have hstep : Checker.reconcile ((entry :: pending).map Prod.snd) ((orphan :: orphans).map (·.1.tag)) =
                entry.2 :: Checker.reconcile (pending.map Prod.snd) ((orphan :: orphans).map (·.1.tag)) :=
              if_neg hname
            rw [hstep]
            exact h.stands hentry

/-! ## The end of the document -/

/-- The places behind the findings that are to be reconciled. -/
def Book.unresolved (book : Book) : List (Placed × Finding) :=
  book.pending ++ entriesOf .missingEnd book.opened

theorem Book.map_fst_unresolved (book : Book) :
    book.unresolved.map Prod.fst = book.pending.map Prod.fst ++ book.opened := by
  rw [Book.unresolved, List.map_append, map_fst_entriesOf]

theorem Keeps.unresolved_eq (h : Keeps policy places book c) :
    book.unresolved.map Prod.snd = c.unresolved := by
  rw [Checker.unresolved, h.pending_eq, h.opened_eq, Book.unresolved, List.map_append, map_snd_entriesOf]

theorem Keeps.unresolved_reports (h : Keeps policy places book c) :
    ∀ entry ∈ book.unresolved, Reports policy entry.1.1 entry.2 := by
  intro entry hentry
  rcases List.mem_append.1 hentry with hold | hnew
  · exact h.pending_reports entry hold
  · exact reports_of_mem_entriesOf (fun place hplace => .missingEnd (h.opened_kind place hplace)) entry hnew

/-- Findings about tags are those that are not about malformed occurrences. -/
def tagFindings (findings : List Finding) : List Finding :=
  findings.filter (·.kind ≠ .invalidFormat)

/-- The findings about tags are those that reconciling leaves. -/
theorem Keeps.tagFindings_finish (h : Keeps policy places book c) {findings : List Finding}
    {pairs : List (Placed × Placed)} {subjects : List (Placed × Finding)}
    (haccounts : Accounts policy places findings pairs subjects)
    (hfinish : c.finish.1 = c.malformed.toList ++ findings) : tagFindings c.finish.1 = findings := by
  have hmalformed : tagFindings c.malformed.toList = [] := by
    unfold tagFindings
    rw [List.filter_eq_nil_iff]
    intro finding hfinding
    simp [h.malformed_kind finding hfinding]
  have htags : tagFindings findings = findings := by
    unfold tagFindings
    rw [List.filter_eq_self]
    intro finding hfinding
    rw [← haccounts.findings_eq] at hfinding
    obtain ⟨subject, hsubject, rfl⟩ := List.mem_map.1 hfinding
    exact decide_eq_true (haccounts.reports subject hsubject).kind_ne
  rw [hfinish]
  unfold tagFindings at hmalformed htags ⊢
  rw [List.filter_append, hmalformed, htags, List.nil_append]

/-- What a book holds at the end is accounted for by the findings about tags. -/
theorem Keeps.accounts (h : Keeps policy places book c) :
    ∃ pairs subjects, Accounts policy places (tagFindings c.finish.1) pairs subjects := by
  obtain ⟨pairs, subjects, hend⟩ := reconcile_accounts book.unresolved book.orphans h.unresolved_reports
    h.orphans_isTag
  have hall : Accounts policy places
      (Checker.reconcile (book.unresolved.map Prod.snd) (book.orphans.map (·.1.tag))) (book.pairs ++ pairs)
      subjects :=
    { complete := by
        rw [List.perm_iff_count]
        intro place
        have hbook := h.complete.count_eq place
        have hcount := hend.complete.count_eq place
        rw [Book.count_places] at hbook
        simp only [Book.map_fst_unresolved, List.count_append] at hcount
        simp only [bothOf, List.flatMap_append, List.count_append] at hbook hcount ⊢
        omega
      same_name := by
        intro pair hpair
        rcases List.mem_append.1 hpair with hold | hnew
        · exact h.same_name pair hold
        · exact hend.same_name pair hnew
      findings_eq := hend.findings_eq
      reports := hend.reports }
  refine ⟨book.pairs ++ pairs, subjects, ?_⟩
  rw [h.tagFindings_finish hall]
  · exact hall
  · rw [h.unresolved_eq, ← h.orphans_eq]
    rfl

/-! ## Whole documents -/

theorem keeps_start (policy : SkipPolicy) : Keeps policy [] {} {} where
  complete := .refl _
  same_name := List.forall_mem_nil _
  opened_eq := rfl
  opened_kind := List.forall_mem_nil _
  pending_eq := rfl
  pending_reports := List.forall_mem_nil _
  orphans_eq := rfl
  orphans_isTag := List.forall_mem_nil _
  malformed_kind := List.forall_mem_nil _

/-- No place occurs twice. -/
theorem nodup_tagPlaces (tokens : List Token) : (tagPlaces tokens).Nodup :=
  (List.Nodup.of_map Prod.snd (List.nodup_zipIdx_map_snd tokens)).filter _

/-- The tags of a name in a document, counted by place. -/
theorem countP_tagPlaces (tokens : List Token) (name : String) :
    (tagPlaces tokens).countP (·.1.name = name) =
      tokens.countP fun token => token.isTag && token.name = name := by
  rw [tagPlaces, List.countP_filter]
  conv_rhs => rw [← List.zipIdx_map_fst 0 tokens, List.countP_map]
  apply List.countP_congr
  intro place _
  simp [and_comm]

/-- Each pair of one name counts twice. -/
theorem countP_bothOf {pairs : List (Placed × Placed)} (h : ∀ pair ∈ pairs, pair.1.1.name = pair.2.1.name)
    (name : String) :
    (bothOf pairs).countP (·.1.name = name) = 2 * pairs.countP (·.1.1.name = name) := by
  induction pairs with
  | nil => rfl
  | cons pair pairs ih =>
      obtain ⟨hpair, hpairs⟩ := List.forall_mem_cons.1 h
      rw [bothOf, List.flatMap_cons, List.countP_append, ← bothOf, ih hpairs]
      simp only [List.countP_cons, List.countP_nil, hpair]
      omega

/-- The subjects of findings have the names that the findings tell. -/
theorem Accounts.countP_subjects {findings : List Finding} {pairs : List (Placed × Placed)}
    {subjects : List (Placed × Finding)} (h : Accounts policy places findings pairs subjects) (name : String) :
    (subjects.map Prod.fst).countP (·.1.name = name) = findings.countP (·.detail = name) := by
  rw [← h.findings_eq, List.countP_map, List.countP_map]
  apply List.countP_congr
  intro subject hsubject
  have hdetail : subject.2.detail = subject.1.1.name := (h.reports subject hsubject).detail_eq
  simp [hdetail]

/-- **Every tag is accounted for, once.** The opening and closing tokens of any document fall into pairs of one
name and single tokens, and the single tokens are the subjects of the findings about tags, one each. So of the tags
of any name, an even number has no finding. -/
theorem findings_account_for_tags (policy : SkipPolicy) (tokens : List Token) :
    ∃ pairs subjects,
      Accounts policy (tagPlaces tokens) (tagFindings (findings policy tokens)) pairs subjects ∧
        (bothOf pairs ++ subjects.map Prod.fst).Nodup ∧
        ∀ name, ∃ half,
          tokens.countP (fun token => token.isTag && token.name = name) =
            (tagFindings (findings policy tokens)).countP (·.detail = name) + 2 * half := by
  obtain ⟨book, hbook⟩ := (keeps_start policy).feedAll tokens 0
  have hall : ∃ pairs subjects,
      Accounts policy (tagPlaces tokens) (tagFindings (findings policy tokens)) pairs subjects :=
    hbook.accounts
  obtain ⟨pairs, subjects, haccounts⟩ := hall
  refine ⟨pairs, subjects, haccounts, ?_, ?_⟩
  · exact haccounts.complete.nodup_iff.2 (nodup_tagPlaces tokens)
  · intro name
    refine ⟨pairs.countP (·.1.1.name = name), ?_⟩
    have hcount := haccounts.complete.countP_eq (·.1.name = name)
    rw [List.countP_append, countP_bothOf haccounts.same_name, haccounts.countP_subjects] at hcount
    rw [← countP_tagPlaces, ← hcount, Nat.add_comm]

end TagNesting
