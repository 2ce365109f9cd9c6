import TagNesting.Proofs.Checker.Balance

/-!
# `Proofs.Checker.Policies` — the two policies side by side

The policies differ in one thing only: what becomes of an open tag that is passed over. It is a pending finding under
one and an orphan under the other. So if the same tokens are given to both, the state under one tells nearly all
about the state under the other (`Alike`): the same tags are open, the pending findings that only one of them has are
mismatches, and the other has the tags of these among its orphans.

That holds for as long as no finding is taken back. The second rule looks at the oldest pending finding, which need
not be the same under both, and so the same closing token may be taken by different rules. Where it is not asked
(`peek?_ne_of_not_isCancel`), the rules that remain look at the open tags alone (`Alike.close`).

In which order the orphans come is not told by either state by itself: those that both policies make and those that
one of them adds come in the order in which they are made. `Interleaves` leaves this open.
-/

namespace TagNesting

/-! ## Interleaving -/

section Interleaving

variable {α : Type} {left right both : List α}

/-- The third list consists of the other two, each in its own order. -/
inductive Interleaves : List α → List α → List α → Prop where
  | nil : Interleaves [] [] []
  | left (x : α) {left right both : List α} :
      Interleaves left right both → Interleaves (x :: left) right (x :: both)
  | right (x : α) {left right both : List α} :
      Interleaves left right both → Interleaves left (x :: right) (x :: both)

theorem interleaves_left (left : List α) : Interleaves left [] left := by
  induction left with
  | nil => exact .nil
  | cons x left ih => exact .left x ih

theorem interleaves_right (right : List α) : Interleaves [] right right := by
  induction right with
  | nil => exact .nil
  | cons x right ih => exact .right x ih

/-- What comes last on the left may come last of all. -/
theorem Interleaves.append_left (h : Interleaves left right both) (more : List α) :
    Interleaves (left ++ more) right (both ++ more) := by
  induction h with
  | nil => exact interleaves_left more
  | left x _ ih => exact .left x ih
  | right x _ ih => exact .right x ih

/-- What comes last on the right may come last of all. -/
theorem Interleaves.append_right (h : Interleaves left right both) (more : List α) :
    Interleaves left (right ++ more) (both ++ more) := by
  induction h with
  | nil => exact interleaves_right more
  | left x _ ih => exact .left x ih
  | right x _ ih => exact .right x ih

end Interleaving

/-! ## Findings of one kind -/

/-- The tag that a finding is about. -/
def Finding.tag (finding : Finding) : Tag :=
  ⟨finding.detail, finding.line⟩

/-- Those of the findings that are of the given kind. -/
def ofKind (kind : Finding.Kind) (findings : List Finding) : List Finding :=
  findings.filter (·.kind = kind)

theorem ofKind_append (kind : Finding.Kind) (first second : List Finding) :
    ofKind kind (first ++ second) = ofKind kind first ++ ofKind kind second :=
  List.filter_append first second

theorem ofKind_map_ofTag_self (kind : Finding.Kind) (tags : List Tag) :
    ofKind kind (tags.map (.ofTag kind)) = tags.map (.ofTag kind) := by
  apply List.filter_eq_self.2
  intro finding hfinding
  obtain ⟨tag, -, rfl⟩ := List.mem_map.1 hfinding
  exact decide_eq_true rfl

theorem ofKind_map_ofTag_of_ne {kind made : Finding.Kind} (h : made ≠ kind) (tags : List Tag) :
    ofKind kind (tags.map (.ofTag made)) = [] := by
  apply List.filter_eq_nil_iff.2
  intro finding hfinding
  obtain ⟨tag, -, rfl⟩ := List.mem_map.1 hfinding
  have hkind : (Finding.ofTag made tag).kind ≠ kind := h
  simpa using hkind

/-- Findings made from tags are about these tags. -/
theorem map_tag_map_ofTag (kind : Finding.Kind) (tags : List Tag) :
    (tags.map (.ofTag kind)).map Finding.tag = tags := by
  rw [List.map_map]
  exact List.map_id tags

/-! ## States side by side -/

namespace Checker

/-- **The relation between the policies.** Under the one that reports mismatches and under the other, the same tags
are open. What is pending under the other are the missing opening tags, and its orphans are those that both have
and, in between, the tags that mismatches are pending about. -/
structure Alike (reported other : Checker) : Prop where
  openTags_eq : other.openTags = reported.openTags
  pending_eq : other.pending.toList = ofKind .missingStart reported.pending.toList
  orphans_interleave : Interleaves ((ofKind .mismatch reported.pending.toList).map Finding.tag)
    reported.orphans.toList other.orphans.toList

theorem alike_start : Alike {} {} :=
  ⟨rfl, rfl, .nil⟩

/-- A closing token that takes nothing back, and is not taken by the first rule, is not the one that the oldest
pending finding waits for. -/
theorem peek?_ne_of_not_isCancel {policy : SkipPolicy} {c : Checker} {tag : Tag}
    (hopen : ∀ top ∈ c.openTags.peek?, top.name ≠ tag.name) (h : isCancel (c.close policy tag).2 = false) :
    ∀ finding ∈ c.pending.peek?, finding.detail ≠ tag.name := by
  rw [← takeBack?_eq_none_iff]
  cases htake : c.takeBack? tag.name with
  | none => rfl
  | some taken =>
      obtain ⟨finding, eased⟩ := taken
      rw [close_of_takeBack? (closeInnermost?_eq_none_iff.2 hopen) htake] at h
      exact absurd h (by simp [isCancel])

variable {reported other : Checker}

/-- A tag that is opened is open under both. -/
theorem Alike.opening (h : Alike reported other) (tag : Tag) :
    Alike { reported with openTags := reported.openTags.push tag }
      { other with openTags := other.openTags.push tag } :=
  { h with openTags_eq := congrArg (·.push tag) h.openTags_eq }

/-- A missing opening tag is pending under both. -/
theorem Alike.missingStart (h : Alike reported other) (tag : Tag) :
    Alike { reported with pending := reported.pending.enqueue (.ofTag .missingStart tag) }
      { other with pending := other.pending.enqueue (.ofTag .missingStart tag) } where
  openTags_eq := h.openTags_eq
  pending_eq := by
    have hnew := ofKind_map_ofTag_self .missingStart [tag]
    rw [List.map_singleton] at hnew
    rw [Queue.toList_enqueue, Queue.toList_enqueue, ofKind_append, hnew, h.pending_eq]
  orphans_interleave := by
    have hnone := ofKind_map_ofTag_of_ne (show Finding.Kind.missingStart ≠ .mismatch by decide) [tag]
    rw [List.map_singleton] at hnone
    rw [Queue.toList_enqueue, ofKind_append, hnone, List.append_nil]
    exact h.orphans_interleave

/-- **Where the policies part.** Tags that are passed over go to the pending findings of one and to the orphans of
the other. -/
theorem Alike.passOver (h : Alike reported other) (passed outer : List Tag) :
    Alike (reported.passOver .report passed outer) (other.passOver .extras passed outer) where
  openTags_eq := rfl
  pending_eq := by
    have hnone := ofKind_map_ofTag_of_ne (show Finding.Kind.mismatch ≠ .missingStart by decide) passed
    simp only [Checker.passOver, Queue.toList_enqueueAll]
    rw [ofKind_append, hnone, List.append_nil]
    exact h.pending_eq
  orphans_interleave := by
    simp only [Checker.passOver, Queue.toList_enqueueAll]
    rw [ofKind_append, ofKind_map_ofTag_self, List.map_append, map_tag_map_ofTag]
    exact h.orphans_interleave.append_left passed

/-- Tags that belong to nothing are orphans of both. -/
theorem Alike.orphaned (h : Alike reported other) (tag : Tag) :
    Alike
      { reported with
        openTags := .empty
        orphans := (reported.orphans.enqueueAll reported.openTags.toList).enqueue tag }
      { other with
        openTags := .empty
        orphans := (other.orphans.enqueueAll other.openTags.toList).enqueue tag } where
  openTags_eq := rfl
  pending_eq := h.pending_eq
  orphans_interleave := by
    simp only [Queue.toList_enqueue, Queue.toList_enqueueAll]
    rw [h.openTags_eq]
    exact (h.orphans_interleave.append_right _).append_right [tag]

/-- **Closing tokens keep it**, as long as neither policy takes a finding back. -/
theorem Alike.close (h : Alike reported other) {tag : Tag}
    (hreported : isCancel (reported.close .report tag).2 = false)
    (hother : isCancel (other.close .extras tag).2 = false) :
    Alike (reported.close .report tag).1 (other.close .extras tag).1 := by
  have hsettles := settles_close .report reported tag
  -- the pending findings of the other are not asked, unless the innermost tag is closed
  have hpeek (htop : ∀ top ∈ reported.openTags.peek?, top.name ≠ tag.name) :
      ∀ finding ∈ other.pending.peek?, finding.detail ≠ tag.name := by
    rw [← h.openTags_eq] at htop
    exact peek?_ne_of_not_isCancel htop hother
  generalize reported.close .report tag = result at hreported hsettles ⊢
  cases hsettles with
  | innermost top outer hopen hname =>
      have hclosed : other.closeInnermost? tag.name = some { other with openTags := ⟨outer⟩ } := by
        simp [closeInnermost?, Stack.pop?, h.openTags_eq, hopen, hname]
      rw [close_of_closeInnermost? hclosed]
      exact { h with openTags_eq := rfl }
  | takenBack finding rest => exact absurd hreported (by simp [isCancel])
  | nothingOpen hopen hpending =>
      have htop : ∀ top ∈ reported.openTags.peek?, top.name ≠ tag.name := by
        simp [Stack.peek?, hopen]
      have htake := takeBack?_eq_none_iff.2 (hpeek htop)
      rw [← h.openTags_eq] at hopen
      rw [close_of_isEmpty htake hopen]
      exact h.missingStart tag
  | found passed target outer hopen hne hpassed hname hpending =>
      have htop : ∀ top ∈ reported.openTags.peek?, top.name ≠ tag.name := by
        obtain ⟨first, inside, rfl⟩ := List.exists_cons_of_ne_nil hne
        have hfirst : first.name ≠ tag.name := hpassed first List.mem_cons_self
        simpa [Stack.peek?, hopen] using hfirst
      rw [← h.openTags_eq] at hopen
      rw [close_of_found hopen hne hpassed hname (hpeek htop)]
      exact h.passOver passed outer
  | notFound hne hopen hpending =>
      have htop : ∀ top ∈ reported.openTags.peek?, top.name ≠ tag.name := by
        intro top hhead
        exact hopen top (List.mem_of_head? hhead)
      have hsame := h.orphaned tag
      rw [← h.openTags_eq] at hne hopen
      rw [close_of_not_found hne hopen (hpeek htop)]
      exact hsame

/-- **Step.** Any token keeps it, as long as neither policy takes a finding back. -/
theorem Alike.feed (h : Alike reported other) (token : Token)
    (hreported : isCancel (reported.feed .report token).2 = false)
    (hother : isCancel (other.feed .extras token).2 = false) :
    Alike (reported.feed .report token).1 (other.feed .extras token).1 := by
  obtain ⟨kind, name, line⟩ := token
  cases kind with
  | opening => exact h.opening ⟨name, line⟩
  | closing => exact h.close hreported hother
  | selfClosing => exact h
  | declaration => exact h
  | malformed => exact { h with }

/-- **Run.** So do any tokens, one after the other. -/
theorem Alike.feedAll (h : Alike reported other) (tokens : List Token)
    (hreported : ∀ note ∈ (reported.feedTraced .report tokens).1, isCancel note = false)
    (hother : ∀ note ∈ (other.feedTraced .extras tokens).1, isCancel note = false) :
    Alike (reported.feedAll .report tokens) (other.feedAll .extras tokens) := by
  induction tokens generalizing reported other with
  | nil => exact h
  | cons token tokens ih =>
      rw [feedTraced_cons, List.forall_mem_cons] at hreported hother
      rw [feedAll_cons, feedAll_cons]
      exact ih (h.feed token hreported.1 hother.1) hreported.2 hother.2

/-- What is noted up to some token is noted in the whole run. -/
theorem mem_steps_of_take {policy : SkipPolicy} {tokens : List Token} {count : Nat} {note : Option Event}
    (h : note ∈ (Checker.feedTraced policy {} (tokens.take count)).1) : note ∈ (trace policy tokens).steps := by
  have hsteps : (trace policy tokens).steps =
      (Checker.feedTraced policy {} (tokens.take count ++ tokens.drop count)).1 := by
    rw [List.take_append_drop]
    rfl
  rw [hsteps, fst_feedTraced_append]
  exact List.mem_append_left _ h

end Checker

/-- **The policies differ in mismatches only.** If neither policy takes a finding back on the way, then after any
number of the tokens the same tags are open under both. What is pending under the policy that makes orphans are the
missing opening tags that are pending under the other; and its orphans are the tags of the other's mismatches
and the other's orphans, each in their order. -/
theorem states_of_both_policies (tokens : List Token)
    (hreport : ∀ note ∈ (trace .report tokens).steps, Checker.isCancel note = false)
    (hextras : ∀ note ∈ (trace .extras tokens).steps, Checker.isCancel note = false) (count : Nat) :
    let reported := Checker.feedAll .report {} (tokens.take count)
    let other := Checker.feedAll .extras {} (tokens.take count)
    other.openTags = reported.openTags ∧
      other.pending.toList = reported.pending.toList.filter (·.kind = .missingStart) ∧
      Interleaves ((reported.pending.toList.filter (·.kind = .mismatch)).map Finding.tag)
        reported.orphans.toList other.orphans.toList := by
  intro reported other
  have halike : Checker.Alike reported other := by
    apply Checker.alike_start.feedAll (tokens.take count)
    · intro note hnote
      exact hreport note (Checker.mem_steps_of_take hnote)
    · intro note hnote
      exact hextras note (Checker.mem_steps_of_take hnote)
  exact ⟨halike.openTags_eq, halike.pending_eq, halike.orphans_interleave⟩

/-- One mismatch between orphans: `b` is passed over after `c` and `d` have been orphaned, and before `e` and `f`
are. -/
theorem states_of_both_policies_between :
    let tokens : List Token :=
      [⟨.closing, "x", 1⟩, ⟨.opening, "c", 2⟩, ⟨.closing, "d", 3⟩, ⟨.opening, "a", 4⟩, ⟨.opening, "b", 5⟩,
        ⟨.closing, "a", 6⟩, ⟨.opening, "e", 7⟩, ⟨.closing, "f", 8⟩]
    (∀ note ∈ (trace .report tokens).steps, Checker.isCancel note = false) ∧
      (∀ note ∈ (trace .extras tokens).steps, Checker.isCancel note = false) ∧
      (Checker.feedAll .report {} tokens).pending.toList = [⟨.missingStart, 1, "x"⟩, ⟨.mismatch, 5, "b"⟩] ∧
      (Checker.feedAll .extras {} tokens).pending.toList = [⟨.missingStart, 1, "x"⟩] ∧
      Interleaves [⟨"b", 5⟩] [⟨"c", 2⟩, ⟨"d", 3⟩, ⟨"e", 7⟩, ⟨"f", 8⟩]
        (Checker.feedAll .extras {} tokens).orphans.toList := by
  intro tokens
  have hreport : ∀ note ∈ (trace .report tokens).steps, Checker.isCancel note = false := by decide
  have hextras : ∀ note ∈ (trace .extras tokens).steps, Checker.isCancel note = false := by decide
  obtain ⟨-, hpending, horphans⟩ := states_of_both_policies tokens hreport hextras 8
  exact ⟨hreport, hextras, by decide, hpending, horphans⟩

end TagNesting
