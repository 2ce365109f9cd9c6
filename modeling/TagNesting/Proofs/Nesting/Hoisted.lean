import TagNesting.Proofs.Checker.Rules
import TagNesting.Proofs.Nesting.Invisible

/-!
# `Proofs.Nesting.Hoisted` — an outer closing tag that comes first

A closing tag that comes before those of the tags inside it passes over all of these, and none of them has done
anything wrong: their closing tags are still to come. Both policies come to see that, each in its own way.

Where the tags passed over are pending findings, they are pending innermost first, which is the order in which their
closing tags come. So each closing tag meets the finding about its own tag as the oldest one and takes it back
(`feedAll_of_pending`), and nothing is left at the end.

Where they are orphans, every closing tag finds nothing open, and its opening tag is missing. Such a finding could be
taken back by the next closing tag, if the two had the same name; but they do not (`feedAll_of_distinct`). At the
end the missing opening tags and the orphans are of the same names in the same order, and reconciling drops
them all (`reconcile_eq_nil`).
-/

namespace TagNesting

namespace Checker

/-- The finding that has been taken back, if that is what is noted. -/
def takenBack? : Option Event → Option Finding
  | some (.cancelled _ finding) => some finding
  | _ => none

/-- Where nothing is noted, nothing is taken back. -/
theorem filterMap_takenBack?_replicate (count : Nat) :
    (List.replicate count (none : Option Event)).filterMap takenBack? = [] := by
  apply List.filterMap_eq_nil_iff.2
  intro note hnote
  rw [List.eq_of_mem_replicate hnote]
  rfl

/-- A closing tag takes nothing back if no pending finding is about its name. -/
theorem takeBack?_of_not_mem {c : Checker} {name : String} (h : name ∉ c.pending.toList.map Finding.detail) :
    c.takeBack? name = none := by
  rw [takeBack?_eq_none_iff, Queue.peek?_eq_head?]
  intro finding hhead hname
  apply h
  rw [← hname]
  exact List.mem_map_of_mem (List.mem_of_head? hhead)

theorem map_detail_enqueue (pending : Queue Finding) (kind : Finding.Kind) (tag : Tag) :
    (pending.enqueue (.ofTag kind tag)).toList.map Finding.detail =
      pending.toList.map Finding.detail ++ [tag.name] := by
  rw [Queue.toList_enqueue, List.map_append]
  rfl

/-- Findings and orphans of the same names in the same order account for each other. -/
theorem reconcile_eq_nil {findings : List Finding} {orphans : List Tag}
    (h : findings.map Finding.detail = orphans.map Tag.name) : reconcile findings orphans = [] := by
  induction findings generalizing orphans with
  | nil =>
      rw [List.map_nil, eq_comm, List.map_eq_nil_iff] at h
      rw [h]
      rfl
  | cons finding findings ih =>
      cases orphans with
      | nil => exact absurd h (by simp)
      | cons orphan orphans =>
          rw [List.map_cons, List.map_cons, List.cons.injEq] at h
          rw [reconcile, if_pos h.1, ih h.2]

end Checker

/-- The last note of a check is about the state that its tokens lead to. -/
theorem ending_trace (policy : SkipPolicy) (tokens : List Token) :
    (trace policy tokens).ending = (Checker.feedAll policy {} tokens).finish.2 := by
  rw [← Checker.snd_feedTraced]
  rfl

variable {tags : List Tag} {tokens : List Token} {c : Checker}

/-- Opening tags are taken without a word. -/
theorem fst_feedTraced_of_opens (policy : SkipPolicy) (h : Opens tokens tags) (c : Checker) :
    (c.feedTraced policy tokens).1 = List.replicate tokens.length none := by
  induction h with
  | nested hn => exact (feedTraced_of_wellNested policy hn c).2
  | @inward tag tokens inner tags hbefore hinner ih =>
      have hquiet := (feedTraced_of_wellNested policy hinner (c.within (tag :: tags))).2
      rw [Checker.fst_feedTraced_append, ih, feedAll_of_opens policy hbefore, Checker.feedTraced_cons,
        Checker.feed_opening, ← Checker.within_cons, hquiet, List.length_append, List.length_cons,
        ← List.replicate_succ, List.replicate_append_replicate]

/-- **One closing token behind others that are taken without a word.** The run goes on from where it leads. -/
theorem feedTraced_quiet_append {quiet : List Token} {next : Checker} (policy : SkipPolicy)
    (hnotes : (c.feedTraced policy quiet).1 = List.replicate quiet.length none)
    (hrun : c.feedAll policy quiet = next) (name : String) (line : Nat) (later : List Token) :
    let closed := next.close policy ⟨name, line⟩
    (c.feedTraced policy (quiet ++ ⟨.closing, name, line⟩ :: later)).1.filterMap Checker.takenBack? =
        (closed.2 :: (closed.1.feedTraced policy later).1).filterMap Checker.takenBack? ∧
      c.feedAll policy (quiet ++ ⟨.closing, name, line⟩ :: later) = closed.1.feedAll policy later := by
  intro closed
  rw [Checker.fst_feedTraced_append, Checker.feedAll_append, hnotes, hrun, Checker.feedTraced_cons,
    Checker.feedAll_cons, Checker.feed_closing, List.filterMap_append, Checker.filterMap_takenBack?_replicate]
  exact ⟨rfl, rfl⟩

/-! ## Closing tags that come late -/

/-- **Closing tags take back what is pending.** If the pending findings are about the tags that are closed next, in
this order, and nothing is open, then all of them are taken back, one after the other. -/
theorem feedAll_of_pending (policy : SkipPolicy) (h : Closes tags tokens) (hopen : c.openTags.toList = [])
    (hpending : c.pending.toList.map Finding.detail = tags.map Tag.name) :
    (c.feedTraced policy tokens).1.filterMap Checker.takenBack? = c.pending.toList ∧
      (c.feedAll policy tokens).unresolved = [] ∧ (c.feedAll policy tokens).orphans = c.orphans ∧
      (c.feedAll policy tokens).malformed = c.malformed := by
  induction h generalizing c with
  | nested hn =>
      rw [List.map_nil, List.map_eq_nil_iff] at hpending
      rw [(feedTraced_of_wellNested policy hn c).2, feedAll_of_wellNested policy hn,
        Checker.filterMap_takenBack?_replicate, Checker.unresolved, hpending, hopen]
      exact ⟨rfl, rfl, rfl, rfl⟩
  | @outward tag line inner tokens tags hinner _ ih =>
      obtain ⟨finding, later, hqueue, hdetail, hlater⟩ := List.map_eq_cons_iff.1 hpending
      have htop : ∀ top ∈ c.openTags.peek?, top.name ≠ tag.name := by
        simp [Stack.peek?, hopen]
      obtain ⟨rest, hrest, hclose⟩ := Checker.close_of_pending policy ⟨tag.name, line⟩ htop hqueue hdetail
      obtain ⟨hrun, hquiet⟩ := feedTraced_of_wellNested policy hinner c
      obtain ⟨hfirst, hlast⟩ := feedTraced_quiet_append policy hquiet hrun tag.name line tokens
      rw [hclose] at hfirst hlast
      -- the rest runs on without the finding that has just been taken back
      obtain ⟨hnotes, hunresolved, horphans, hmalformed⟩ :=
        ih (c := { c with pending := rest }) hopen (by rw [hrest, hlater])
      rw [hrest] at hnotes
      rw [hfirst, hlast, hqueue]
      exact ⟨congrArg (finding :: ·) hnotes, hunresolved, horphans, hmalformed⟩

/-- **Closing tags of different names do not take each other back.** If nothing is open and no pending finding is
about one of the tags that are closed next, each of them is one more finding that its opening tag is missing. -/
theorem feedAll_of_distinct (policy : SkipPolicy) (h : Closes tags tokens) (hopen : c.openTags.toList = [])
    (hdistinct : (c.pending.toList.map Finding.detail ++ tags.map Tag.name).Nodup) :
    (c.feedTraced policy tokens).1.filterMap Checker.takenBack? = [] ∧
      (c.feedAll policy tokens).unresolved.map Finding.detail =
        c.pending.toList.map Finding.detail ++ tags.map Tag.name ∧
      (c.feedAll policy tokens).orphans = c.orphans ∧ (c.feedAll policy tokens).malformed = c.malformed := by
  induction h generalizing c with
  | nested hn =>
      rw [(feedTraced_of_wellNested policy hn c).2, feedAll_of_wellNested policy hn,
        Checker.filterMap_takenBack?_replicate, Checker.unresolved, hopen]
      simp
  | @outward tag line inner tokens tags hinner _ ih =>
      have htake : c.takeBack? tag.name = none := by
        apply Checker.takeBack?_of_not_mem
        intro hmem
        exact (List.nodup_append.1 hdistinct).2.2 _ hmem _ List.mem_cons_self rfl
      let next := { c with pending := c.pending.enqueue (.ofTag .missingStart ⟨tag.name, line⟩) }
      have hclose : c.close policy ⟨tag.name, line⟩ = (next, some (.nothingOpen ⟨tag.name, line⟩)) :=
        Checker.close_of_isEmpty htake hopen
      have hdetails : next.pending.toList.map Finding.detail ++ tags.map Tag.name =
          c.pending.toList.map Finding.detail ++ (tag :: tags).map Tag.name := by
        rw [Checker.map_detail_enqueue, List.append_assoc]
        rfl
      obtain ⟨hrun, hquiet⟩ := feedTraced_of_wellNested policy hinner c
      obtain ⟨hfirst, hlast⟩ := feedTraced_quiet_append policy hquiet hrun tag.name line tokens
      rw [hclose] at hfirst hlast
      -- the rest runs on with one more pending finding
      obtain ⟨hnotes, hunresolved, horphans, hmalformed⟩ := ih (c := next) hopen (hdetails ▸ hdistinct)
      rw [hfirst, hlast, hunresolved, hdetails]
      exact ⟨hnotes, rfl, horphans, hmalformed⟩

/-! ## The closing tag that comes first -/

/-- **The hoisted tag passes over those inside it**, and opens the way for theirs. -/
theorem close_hoisted {inner : List Tag} {outer : Tag} (hne : inner ≠ [])
    (hdistinct : ((inner ++ [outer]).map Tag.name).Nodup) (policy : SkipPolicy) (line : Nat) :
    (({} : Checker).within (inner ++ [outer])).close policy ⟨outer.name, line⟩ =
      (({} : Checker).passOver policy inner [],
        some (.searched ⟨outer.name, line⟩ (some (inner.length + 1)))) := by
  have hopen : (({} : Checker).within (inner ++ [outer])).openTags.toList = inner ++ outer :: [] := by
    simp [Checker.within]
  have hpassed : ∀ top ∈ inner, top.name ≠ outer.name := by
    rw [List.map_append] at hdistinct
    intro top htop
    exact (List.nodup_append.1 hdistinct).2.2 _ (List.mem_map_of_mem htop) _ List.mem_cons_self
  have hpending : ∀ finding ∈ (({} : Checker).within (inner ++ [outer])).pending.peek?,
      finding.detail ≠ outer.name := by
    rintro finding ⟨⟩
  exact Checker.close_of_found hopen hne hpassed rfl hpending

variable {before after : List Token} {inner : List Tag} {outer : Tag}

/-- The run over a document with a hoisted tag goes on from the state in which the tags inside are passed over. -/
theorem feedAll_hoisted (policy : SkipPolicy) (hne : inner ≠ []) (hopens : Opens before (inner ++ [outer]))
    (hdistinct : ((inner ++ [outer]).map Tag.name).Nodup) (line : Nat) (after : List Token) :
    let tokens := before ++ ⟨.closing, outer.name, line⟩ :: after
    let start := ({} : Checker).passOver policy inner []
    (Checker.feedTraced policy {} tokens).1.filterMap Checker.takenBack? =
        (start.feedTraced policy after).1.filterMap Checker.takenBack? ∧
      Checker.feedAll policy {} tokens = start.feedAll policy after := by
  intro tokens start
  obtain ⟨hnotes, hrun⟩ := feedTraced_quiet_append policy (fst_feedTraced_of_opens policy hopens {})
    (feedAll_of_opens policy hopens {}) outer.name line after
  rw [close_hoisted hne hdistinct] at hnotes hrun
  exact ⟨hnotes, hrun⟩

/-- Where mismatches are reported, those about the tags passed over are all taken back. -/
theorem feedAll_passOver_report (hcloses : Closes inner after) :
    let start := ({} : Checker).passOver .report inner []
    (start.feedTraced .report after).1.filterMap Checker.takenBack? = inner.map (.ofTag .mismatch) ∧
      (start.feedAll .report after).finish = ([], .reconciling 0 0) := by
  intro start
  have hpending : start.pending.toList = inner.map (.ofTag .mismatch) := by
    show (Queue.empty.enqueueAll (inner.map (Finding.ofTag .mismatch))).toList = _
    rw [Queue.toList_enqueueAll, Queue.toList_empty, List.nil_append]
  have hdetails : start.pending.toList.map Finding.detail = inner.map Tag.name := by
    rw [hpending, List.map_map]
    rfl
  obtain ⟨hnotes, hunresolved, horphans, hmalformed⟩ := feedAll_of_pending .report hcloses rfl hdetails
  rw [hpending] at hnotes
  refine ⟨hnotes, ?_⟩
  unfold Checker.finish
  rw [hunresolved, horphans, hmalformed]
  rfl

/-- Where they are not, nothing is taken back, and the missing opening tags account for the orphans. -/
theorem feedAll_passOver_extras (hcloses : Closes inner after) (hdistinct : (inner.map Tag.name).Nodup) :
    let start := ({} : Checker).passOver .extras inner []
    (start.feedTraced .extras after).1.filterMap Checker.takenBack? = [] ∧
      (start.feedAll .extras after).finish = ([], .reconciling inner.length inner.length) := by
  intro start
  have horphaned : start.orphans.toList = inner := by
    show (Queue.empty.enqueueAll inner).toList = _
    rw [Queue.toList_enqueueAll, Queue.toList_empty, List.nil_append]
  obtain ⟨hnotes, hunresolved, horphans, hmalformed⟩ :=
    feedAll_of_distinct .extras hcloses (c := start) rfl hdistinct
  refine ⟨hnotes, ?_⟩
  have hlength : (start.feedAll .extras after).unresolved.length = inner.length := by
    rw [← List.length_map Finding.detail, hunresolved]
    exact List.length_map Tag.name
  have hnone : Checker.reconcile (start.feedAll .extras after).unresolved inner = [] :=
    Checker.reconcile_eq_nil hunresolved
  simp only [Checker.finish, horphans, hmalformed, horphaned, hlength, hnone]
  rfl

/-- **A hoisted closing tag does no harm.** If the closing tag of the outermost of several open tags of different
names comes first, and the closing tags of the others follow in their order, there is no finding under either policy.
Where mismatches are reported, those about the tags inside are taken back one by one, innermost first; where they
are not, as many missing opening tags are set off against as many orphans at the end. -/
theorem findings_of_hoisted_closing (hne : inner ≠ []) (hopens : Opens before (inner ++ [outer]))
    (hcloses : Closes inner after) (hdistinct : ((inner ++ [outer]).map Tag.name).Nodup) (line : Nat) :
    let tokens := before ++ ⟨.closing, outer.name, line⟩ :: after
    (∀ policy, findings policy tokens = []) ∧
      ((trace .report tokens).steps.filterMap Checker.takenBack? = inner.map (.ofTag .mismatch) ∧
        (trace .report tokens).ending = .reconciling 0 0) ∧
      ((trace .extras tokens).steps.filterMap Checker.takenBack? = [] ∧
        (trace .extras tokens).ending = .reconciling inner.length inner.length) := by
  intro tokens
  have hinner : (inner.map Tag.name).Nodup := by
    rw [List.map_append] at hdistinct
    exact (List.nodup_append.1 hdistinct).1
  obtain ⟨hreportNotes, hreportRun⟩ := feedAll_hoisted .report hne hopens hdistinct line after
  obtain ⟨hreportTaken, hreportEnd⟩ := feedAll_passOver_report hcloses
  obtain ⟨hextrasNotes, hextrasRun⟩ := feedAll_hoisted .extras hne hopens hdistinct line after
  obtain ⟨hextrasTaken, hextrasEnd⟩ := feedAll_passOver_extras hcloses hinner
  rw [← hreportRun] at hreportEnd
  rw [← hextrasRun] at hextrasEnd
  refine ⟨?_, ⟨?_, ?_⟩, ?_, ?_⟩
  · intro policy
    cases policy with
    | report => exact congrArg Prod.fst hreportEnd
    | extras => exact congrArg Prod.fst hextrasEnd
  · exact hreportNotes.trans hreportTaken
  · exact (ending_trace .report tokens).trans (congrArg Prod.snd hreportEnd)
  · exact hextrasNotes.trans hextrasTaken
  · exact (ending_trace .extras tokens).trans (congrArg Prod.snd hextrasEnd)

/-- Three tags, the outermost closed first. A pair between them has the name of a tag that is still to be closed,
and is not taken for it. -/
theorem findings_of_hoisted_closing_three :
    let before : List Token :=
      [⟨.opening, "a", 1⟩, ⟨.opening, "b", 2⟩, ⟨.selfClosing, "c", 3⟩, ⟨.opening, "c", 4⟩]
    let after : List Token :=
      [⟨.opening, "c", 6⟩, ⟨.closing, "c", 7⟩, ⟨.closing, "c", 8⟩, ⟨.closing, "b", 9⟩]
    let inner : List Tag := [⟨"c", 4⟩, ⟨"b", 2⟩]
    let outer : Tag := ⟨"a", 1⟩
    (inner ≠ [] ∧ Opens before (inner ++ [outer]) ∧ Closes inner after ∧ ((inner ++ [outer]).map Tag.name).Nodup) ∧
      (∀ policy, findings policy (before ++ ⟨.closing, "a", 5⟩ :: after) = []) ∧
      (trace .report (before ++ ⟨.closing, "a", 5⟩ :: after)).steps.filterMap Checker.takenBack? =
        [⟨.mismatch, 4, "c"⟩, ⟨.mismatch, 2, "b"⟩] ∧
      (trace .extras (before ++ ⟨.closing, "a", 5⟩ :: after)).ending = .reconciling 2 2 := by
  intro before after inner outer
  have hne : inner ≠ [] := List.cons_ne_nil _ _
  have hopens : Opens before (inner ++ [outer]) :=
    .inward ⟨"c", 4⟩ (.inward ⟨"b", 2⟩ (.inward ⟨"a", 1⟩ (.nested .nil) .nil) (.selfClosing "c" 3)) .nil
  have hcloses : Closes inner after :=
    .outward ⟨"c", 4⟩ 8 (.wrap "c" 6 7 .nil) (.outward ⟨"b", 2⟩ 9 .nil (.nested .nil))
  have hdistinct : ((inner ++ [outer]).map Tag.name).Nodup := by decide
  obtain ⟨hnone, ⟨htaken, -⟩, -, hending⟩ := findings_of_hoisted_closing hne hopens hcloses hdistinct 5
  exact ⟨⟨hne, hopens, hcloses, hdistinct⟩, hnone, htaken, hending⟩

end TagNesting
