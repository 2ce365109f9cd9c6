import TagNesting.Proofs.Checker.Rules

/-!
# `Proofs.Checker.Balance` — what the notes of a check add up to

The notes of a check tell which closing tokens have settled another tag, and the last of them how many findings
and how many orphans there are to be set off against each other. This file shows that these numbers agree with the
tokens and with the findings.

Every tag that has not been settled is open, pending or an orphan, once (`Checker.unsettled`). A closing token
either is one more of them or settles one of them, and its note, or its silence, tells which (`feed_balance`). Along a
run the numbers add up (`feedAll_balance`), and reconciling takes away as many findings as orphans
(`reconcile_balance`, `finish_balance`). What a note may say about a finding rests on the kinds that can be pending
(`Checker.CanBePending`), which every step keeps (`feed_sound`).
-/

namespace TagNesting

namespace Checker

/-! ## Reading the notes -/

/-- Whether the token closes a tag and gives rise to no note. -/
def isQuietClose (step : Token × Option Event) : Bool :=
  step.1.kind = .closing && step.2.isNone

/-- Whether a finding has been taken back. -/
def isCancel : Option Event → Bool
  | some (.cancelled _ _) => true
  | _ => false

/-- Whether a tag has been looked for and found. -/
def isFound : Option Event → Bool
  | some (.searched _ (some _)) => true
  | _ => false

/-- How many closing tokens have settled a tag, as the notes tell. -/
def settledPairs (tokens : List Token) (notes : List (Option Event)) : Nat :=
  (tokens.zip notes).countP isQuietClose + notes.countP isCancel + notes.countP isFound

/-- How many tokens open or close a tag. -/
def tagCount (tokens : List Token) : Nat :=
  tokens.countP (·.kind = .opening) + tokens.countP (·.kind = .closing)

theorem settledPairs_cons (token : Token) (note : Option Event) (tokens : List Token)
    (notes : List (Option Event)) :
    settledPairs (token :: tokens) (note :: notes) =
      settledPairs [token] [note] + settledPairs tokens notes := by
  simp only [settledPairs, List.zip_cons_cons, List.zip_nil_left, List.countP_cons, List.countP_nil]
  omega

theorem tagCount_cons (token : Token) (tokens : List Token) :
    tagCount (token :: tokens) = tagCount [token] + tagCount tokens := by
  simp only [tagCount, List.countP_cons, List.countP_nil]
  omega

/-! ## Tags that are not settled -/

/-- How many tags have not been settled so far. -/
def unsettled (c : Checker) : Nat :=
  c.openTags.toList.length + c.pending.toList.length + c.orphans.toList.length

/-- Tags that are passed over stay unsettled. -/
theorem unsettled_passOver (policy : SkipPolicy) (c : Checker) (passed outer : List Tag) :
    (c.passOver policy passed outer).unsettled + c.openTags.toList.length =
      c.unsettled + passed.length + outer.length := by
  cases policy with
  | report =>
      simp only [passOver, unsettled, Queue.toList_enqueueAll, List.length_append, List.length_map]
      omega
  | extras =>
      simp only [passOver, unsettled, Queue.toList_enqueueAll, List.length_append]
      omega

variable {policy : SkipPolicy} {c : Checker} {tag : Tag}

/-- A closing token is one more unsettled tag, or it settles one of them and there is one less. -/
theorem Settles.balance {result : Checker × Option Event} (h : Settles policy c tag result) (line : Nat) :
    result.1.unsettled + 2 * settledPairs [⟨.closing, tag.name, line⟩] [result.2] = c.unsettled + 1 := by
  cases h with
  | innermost top outer hopen hname =>
      have hcount : settledPairs [⟨.closing, tag.name, line⟩] [none] = 1 := rfl
      simp only [hcount, unsettled, hopen, List.length_cons]
      omega
  | takenBack finding rest hopen hpending hname =>
      have hcount : settledPairs [⟨.closing, tag.name, line⟩] [some (.cancelled tag finding)] = 1 := rfl
      simp only [hcount, unsettled, hpending, List.length_cons]
      omega
  | nothingOpen hopen hpending =>
      have hcount : settledPairs [⟨.closing, tag.name, line⟩] [some (.nothingOpen tag)] = 0 := rfl
      simp only [hcount, unsettled, Queue.toList_enqueue, List.length_append, List.length_singleton]
      omega
  | found passed target outer hopen hne hpassed hname hpending =>
      have hcount : settledPairs [⟨.closing, tag.name, line⟩]
          [some (.searched tag (some (passed.length + 1)))] = 1 := rfl
      have hmoved := unsettled_passOver policy c passed outer
      have hlength : c.openTags.toList.length = passed.length + (outer.length + 1) := by
        rw [hopen, List.length_append, List.length_cons]
      simp only [hcount]
      omega
  | notFound hne hopen hpending =>
      have hcount : settledPairs [⟨.closing, tag.name, line⟩] [some (.searched tag none)] = 0 := rfl
      simp only [hcount, unsettled, Queue.toList_enqueue, Queue.toList_enqueueAll, List.length_append,
        List.length_singleton, Stack.toList_empty, List.length_nil]
      omega

/-- **Step.** A token changes the number of unsettled tags by what it is and by what is noted. -/
theorem feed_balance (policy : SkipPolicy) (c : Checker) (token : Token) :
    (c.feed policy token).1.unsettled + 2 * settledPairs [token] [(c.feed policy token).2] =
      c.unsettled + tagCount [token] := by
  obtain ⟨kind, name, line⟩ := token
  cases kind with
  | opening =>
      have hcount : settledPairs [⟨.opening, name, line⟩] [none] = 0 := rfl
      have htag : tagCount [⟨.opening, name, line⟩] = 1 := rfl
      simp only [feed_opening, hcount, htag, unsettled, Stack.toList_push, List.length_cons]
      omega
  | closing => exact (settles_close policy c ⟨name, line⟩).balance line
  | selfClosing => rfl
  | declaration => rfl
  | malformed => rfl

/-- **Run.** Of the tags of a run, two are settled for each closing token that has settled one, and the others
are still there. -/
theorem feedAll_balance (policy : SkipPolicy) (c : Checker) (tokens : List Token) :
    (c.feedAll policy tokens).unsettled + 2 * settledPairs tokens (c.feedTraced policy tokens).1 =
      c.unsettled + tagCount tokens := by
  induction tokens generalizing c with
  | nil => rfl
  | cons token tokens ih =>
      have hstep := feed_balance policy c token
      have hrun := ih (c.feed policy token).1
      rw [feedTraced_cons, feedAll_cons, settledPairs_cons, tagCount_cons]
      omega

/-! ## What may be noted -/

/-- The kinds of finding that can be pending before the document is over. -/
def CanBePending (policy : SkipPolicy) (kind : Finding.Kind) : Prop :=
  kind = .missingStart ∨ kind = .mismatch ∧ policy = .report

/-- All pending findings are of a kind that can be. -/
def PendingSound (policy : SkipPolicy) (c : Checker) : Prop :=
  ∀ finding ∈ c.pending.toList, CanBePending policy finding.kind

/-- What is noted can have happened: a finding taken back has been pending, and a tag found by a search has not
been the innermost one. -/
def Event.Sound (policy : SkipPolicy) : Event → Prop
  | .cancelled _ finding => CanBePending policy finding.kind
  | .searched _ (some depth) => 2 ≤ depth
  | _ => True

/-- Tags that are passed over become findings only where such findings can be pending. -/
theorem pendingSound_passOver (h : PendingSound policy c) (passed outer : List Tag) :
    PendingSound policy (c.passOver policy passed outer) := by
  cases policy with
  | extras => exact h
  | report =>
      intro finding hfinding
      simp only [passOver, Queue.toList_enqueueAll, List.mem_append, List.mem_map] at hfinding
      rcases hfinding with hold | ⟨top, -, rfl⟩
      · exact h finding hold
      · exact Or.inr ⟨rfl, rfl⟩

theorem Settles.sound {result : Checker × Option Event} (hsettles : Settles policy c tag result)
    (h : PendingSound policy c) :
    PendingSound policy result.1 ∧ ∀ event ∈ result.2, event.Sound policy := by
  cases hsettles with
  | innermost top outer hopen hname => exact ⟨h, fun _ hnone => nomatch hnone⟩
  | takenBack finding rest hopen hpending hname =>
      unfold PendingSound at h
      rw [hpending, List.forall_mem_cons] at h
      refine ⟨h.2, ?_⟩
      rintro event ⟨⟩
      exact h.1
  | nothingOpen hopen hpending =>
      constructor
      · intro finding hfinding
        rw [Queue.toList_enqueue] at hfinding
        rcases List.mem_append.1 hfinding with hold | hnew
        · exact h finding hold
        · obtain rfl := List.mem_singleton.1 hnew
          exact Or.inl rfl
      · rintro event ⟨⟩
        exact trivial
  | found passed target outer hopen hne hpassed hname hpending =>
      refine ⟨pendingSound_passOver h passed outer, ?_⟩
      rintro event ⟨⟩
      -- at least one tag lies above the one that is found
      have hpos : 0 < passed.length := List.length_pos_iff.2 hne
      show 2 ≤ passed.length + 1
      omega
  | notFound hne hopen hpending =>
      refine ⟨h, ?_⟩
      rintro event ⟨⟩
      exact trivial

/-- **Step.** A token keeps the pending findings of the kinds that they can be of, and its note can have
happened. -/
theorem feed_sound (h : PendingSound policy c) (token : Token) :
    PendingSound policy (c.feed policy token).1 ∧
      ∀ event ∈ (c.feed policy token).2, event.Sound policy := by
  obtain ⟨kind, name, line⟩ := token
  cases kind with
  | closing => exact (settles_close policy c ⟨name, line⟩).sound h
  | malformed =>
      refine ⟨h, ?_⟩
      rintro event ⟨⟩
      exact trivial
  | opening => exact ⟨h, fun _ hnone => nomatch hnone⟩
  | selfClosing => exact ⟨h, fun _ hnone => nomatch hnone⟩
  | declaration => exact ⟨h, fun _ hnone => nomatch hnone⟩

/-- **Run.** So do any tokens, one after the other. -/
theorem feedAll_sound (h : PendingSound policy c) (tokens : List Token) :
    PendingSound policy (c.feedAll policy tokens) ∧
      ∀ event, some event ∈ (c.feedTraced policy tokens).1 → event.Sound policy := by
  induction tokens generalizing c with
  | nil => exact ⟨h, fun _ hevent => nomatch hevent⟩
  | cons token tokens ih =>
      obtain ⟨hnext, hnote⟩ := feed_sound h token
      obtain ⟨hlast, hlater⟩ := ih hnext
      refine ⟨hlast, ?_⟩
      intro event hevent
      rw [feedTraced_cons] at hevent
      rcases List.mem_cons.1 hevent with hfirst | hrest
      · exact hnote event hfirst.symm
      · exact hlater event hrest

/-- There is one note, or one silence, for each token. -/
theorem length_feedTraced (policy : SkipPolicy) (c : Checker) (tokens : List Token) :
    (c.feedTraced policy tokens).1.length = tokens.length := by
  induction tokens generalizing c with
  | nil => rfl
  | cons token tokens ih => rw [feedTraced_cons, List.length_cons, List.length_cons, ih]

/-! ## Malformed occurrences -/

/-- No closing token touches the findings about malformed occurrences. -/
theorem malformed_close (policy : SkipPolicy) (c : Checker) (tag : Tag) :
    (c.close policy tag).1.malformed = c.malformed := by
  have hsettles := settles_close policy c tag
  generalize c.close policy tag = result at hsettles ⊢
  cases hsettles with
  | found passed target outer => cases policy <;> rfl
  | _ => rfl

/-- **The findings about malformed occurrences are these occurrences**, in order. -/
theorem malformed_feedAll (policy : SkipPolicy) (c : Checker) (tokens : List Token) :
    (c.feedAll policy tokens).malformed.toList =
      c.malformed.toList ++
        ((tokens.filter (·.kind = .malformed)).map Token.tag).map (.ofTag .invalidFormat) := by
  induction tokens generalizing c with
  | nil => exact (List.append_nil _).symm
  | cons token tokens ih =>
      rw [feedAll_cons, ih]
      obtain ⟨kind, name, line⟩ := token
      cases kind with
      | malformed =>
          rw [feed_malformed, Array.toList_push, List.append_assoc, List.filter_cons_of_pos (by rfl)]
          rfl
      | closing =>
          rw [feed_closing, malformed_close, List.filter_cons_of_neg (by simp)]
      | opening => rfl
      | selfClosing => rfl
      | declaration => rfl

end Checker

/-! ## Reconciling -/

/-- How many of the findings are of the given kind. -/
def kindCount (findings : List Finding) (kind : Finding.Kind) : Nat :=
  findings.countP (·.kind = kind)

theorem kindCount_append (first second : List Finding) (kind : Finding.Kind) :
    kindCount (first ++ second) kind = kindCount first kind + kindCount second kind :=
  List.countP_append

theorem kindCount_cons (finding : Finding) (rest : List Finding) (kind : Finding.Kind) :
    kindCount (finding :: rest) kind = kindCount [finding] kind + kindCount rest kind := by
  rw [← kindCount_append, List.singleton_append]

/-- Findings made from tags are all of the kind that they are made of. -/
theorem kindCount_map_ofTag (made kind : Finding.Kind) (tags : List Tag) :
    kindCount (tags.map (.ofTag made)) kind = if made = kind then tags.length else 0 := by
  rw [kindCount, List.countP_map]
  by_cases h : made = kind
  · rw [if_pos h]
    exact List.countP_eq_length.2 fun tag _ => decide_eq_true h
  · rw [if_neg h]
    apply List.countP_eq_zero.2
    intro tag _
    have hkind : (Finding.ofTag made tag).kind ≠ kind := h
    simpa using hkind

/-- The kinds of finding that reconciling starts from. -/
def IsUnresolved (kind : Finding.Kind) : Prop :=
  kind = .missingStart ∨ kind = .missingEnd ∨ kind = .mismatch

/-- How many findings are of these kinds. -/
def unresolvedCount (findings : List Finding) : Nat :=
  kindCount findings .missingStart + kindCount findings .missingEnd + kindCount findings .mismatch

/-- Each finding that reconciling starts from counts once. -/
theorem counts_of_isUnresolved {finding : Finding} (h : IsUnresolved finding.kind) :
    unresolvedCount [finding] = 1 ∧ kindCount [finding] .extra = 0 ∧ kindCount [finding] .invalidFormat = 0 := by
  simp only [unresolvedCount, kindCount, List.countP_singleton]
  rcases h with h | h | h <;> rw [h] <;> decide

/-- All findings of these kinds count. -/
theorem counts_of_forall_isUnresolved {findings : List Finding}
    (h : ∀ finding ∈ findings, IsUnresolved finding.kind) :
    unresolvedCount findings = findings.length ∧ kindCount findings .extra = 0 ∧
      kindCount findings .invalidFormat = 0 := by
  induction findings with
  | nil => exact ⟨rfl, rfl, rfl⟩
  | cons finding rest ih =>
      obtain ⟨hfirst, hrest⟩ := List.forall_mem_cons.1 h
      have hone := counts_of_isUnresolved hfirst
      have hmany := ih hrest
      simp only [unresolvedCount] at hone hmany ⊢
      simp only [kindCount_cons finding rest, List.length_cons]
      omega

/-- **Reconciling takes away as many findings as orphans.** -/
theorem reconcile_balance (pending : List Finding) (orphans : List Tag)
    (h : ∀ finding ∈ pending, IsUnresolved finding.kind) :
    unresolvedCount (Checker.reconcile pending orphans) + orphans.length =
        pending.length + kindCount (Checker.reconcile pending orphans) .extra ∧
      kindCount (Checker.reconcile pending orphans) .invalidFormat = 0 := by
  induction pending generalizing orphans with
  | nil =>
      -- what is left of the orphans is all extra
      simp only [Checker.reconcile, unresolvedCount, kindCount_map_ofTag, List.length_nil]
      simp
  | cons finding pending ih =>
      obtain ⟨hfirst, hlater⟩ := List.forall_mem_cons.1 h
      cases orphans with
      | nil =>
          have hall := counts_of_forall_isUnresolved h
          simp only [Checker.reconcile, List.length_nil]
          omega
      | cons orphan orphans =>
          by_cases hname : finding.detail = orphan.name
          · -- both go
            have hrest := ih orphans hlater
            simp only [Checker.reconcile, if_pos hname, List.length_cons]
            omega
          · -- the finding stands
            have hone := counts_of_isUnresolved hfirst
            have hrest := ih (orphan :: orphans) hlater
            simp only [unresolvedCount] at hone hrest ⊢
            simp only [Checker.reconcile, if_neg hname, List.length_cons,
              kindCount_cons finding (Checker.reconcile pending (orphan :: orphans))] at hrest ⊢
            omega

/-! ## The end of a check -/

/-- When the document is over, all that has not been settled is set off against each other. -/
theorem unsettled_eq (c : Checker) : c.unsettled = c.unresolved.length + c.orphans.toList.length := by
  rw [Checker.unsettled, Checker.unresolved, List.length_append, List.length_map,
    Nat.add_comm c.openTags.toList.length]

/-- Everything that waits to be reconciled is of a kind that reconciling starts from. -/
theorem isUnresolved_of_mem_unresolved {policy : SkipPolicy} {c : Checker} (h : c.PendingSound policy) :
    ∀ finding ∈ c.unresolved, IsUnresolved finding.kind := by
  intro finding hfinding
  rcases List.mem_append.1 hfinding with hpending | hopen
  · rcases h finding hpending with hkind | ⟨hkind, -⟩
    · exact Or.inl hkind
    · exact Or.inr (Or.inr hkind)
  · obtain ⟨tag, -, rfl⟩ := List.mem_map.1 hopen
    exact Or.inr (Or.inl rfl)

/-- **The findings balance with what was to be set off**, if those made before are about malformed occurrences. -/
theorem finish_balance {policy : SkipPolicy} {c : Checker} {occurrences : List Tag} (hpending : c.PendingSound policy)
    (hmalformed : c.malformed.toList = occurrences.map (.ofTag .invalidFormat)) :
    unresolvedCount c.finish.1 + c.orphans.toList.length = c.unresolved.length + kindCount c.finish.1 .extra ∧
      kindCount c.finish.1 .invalidFormat = occurrences.length := by
  have hfindings : c.finish.1 =
      occurrences.map (.ofTag .invalidFormat) ++ Checker.reconcile c.unresolved c.orphans.toList :=
    congrArg (· ++ Checker.reconcile c.unresolved c.orphans.toList) hmalformed
  obtain ⟨hhalves, hinvalid⟩ :=
    reconcile_balance c.unresolved c.orphans.toList (isUnresolved_of_mem_unresolved hpending)
  simp only [unresolvedCount] at hhalves ⊢
  simp only [hfindings, kindCount_append, kindCount_map_ofTag, reduceCtorEq, if_false, if_true]
  omega

/-! ## Whole checks -/

/-- **The notes of a check balance.** Of the opening and closing tokens, two are settled for each closing token
that is taken without a note, that takes back a finding, or whose search finds; the last note counts the others, as
findings and as orphans. A search never finds the innermost open tag, and only missing opening tags and, under the
policy that reports them, mismatches are taken back. Reconciling keeps the difference of the two numbers, and
every malformed token is one finding. -/
theorem trace_balances (policy : SkipPolicy) (tokens : List Token) :
    let run := trace policy tokens
    let quiet := (tokens.zip run.steps).countP Checker.isQuietClose
    let cancels := run.steps.countP Checker.isCancel
    let found := run.steps.countP Checker.isFound
    run.findings = findings policy tokens ∧ run.steps.length = tokens.length ∧
      ∃ errors orphans,
        run.ending = .reconciling errors orphans ∧
        errors + orphans + 2 * (quiet + cancels + found) =
          tokens.countP (·.kind = .opening) + tokens.countP (·.kind = .closing) ∧
        (∀ tag depth, some (.searched tag (some depth)) ∈ run.steps → 2 ≤ depth) ∧
        (∀ tag finding, some (.cancelled tag finding) ∈ run.steps →
          finding.kind = .missingStart ∨ finding.kind = .mismatch ∧ policy = .report) ∧
        kindCount run.findings .missingStart + kindCount run.findings .missingEnd +
            kindCount run.findings .mismatch + orphans =
          errors + kindCount run.findings .extra ∧
        kindCount run.findings .invalidFormat = tokens.countP (·.kind = .malformed) := by
  intro run quiet cancels found
  let last := Checker.feedAll policy {} tokens
  have hlast : (Checker.feedTraced policy {} tokens).2 = last := Checker.snd_feedTraced policy {} tokens
  have hsteps : run.steps = (Checker.feedTraced policy {} tokens).1 := rfl
  have hending : run.ending = .reconciling last.unresolved.length last.orphans.toList.length := by
    rw [← hlast]
    rfl
  have hfindings : run.findings = last.finish.1 := by
    rw [← hlast]
    rfl
  have hstart : Checker.PendingSound policy {} := fun _ hnone => nomatch hnone
  obtain ⟨hpending, hnotes⟩ := Checker.feedAll_sound hstart tokens
  obtain ⟨hhalves, hinvalid⟩ := finish_balance hpending (Checker.malformed_feedAll policy {} tokens)
  rw [← hsteps] at hnotes
  rw [← hfindings] at hhalves hinvalid
  refine ⟨hfindings, ?_, _, _, hending, ?_, ?_, ?_, hhalves, ?_⟩
  · exact (congrArg List.length hsteps).trans (Checker.length_feedTraced policy {} tokens)
  · have hbalance := Checker.feedAll_balance policy {} tokens
    have hnothing : Checker.unsettled {} = 0 := rfl
    rw [hnothing, Nat.zero_add] at hbalance
    rw [← unsettled_eq]
    exact hbalance
  · intro tag depth hstep
    exact hnotes _ hstep
  · intro tag finding hstep
    exact hnotes _ hstep
  · rw [hinvalid, List.length_map, ← List.countP_eq_length_filter]

end TagNesting
