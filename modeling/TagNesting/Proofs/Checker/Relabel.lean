import TagNesting.Checker
import TagNesting.Proofs.Collection.Map
import TagNesting.Proofs.Nesting.WellNested

/-!
# `Proofs.Checker.Relabel` — a checker only compares names

A checker asks of two names whether they are the same, and of a line nothing at all. So it does not matter what the
names are, as long as different names stay different, or on which lines the tags stand. A `Relabelling` changes both,
and each function of the checker commutes with it: the rules one by one, then a token (`feed_relabel`), a run
(`feedAll_relabel`), reconciling (`reconcile_relabel`) and the end (`finish_relabel`). The states are equal, not only
alike, so the equations can be put after one another without an invariant.
-/

namespace TagNesting

/-- New names, different for different names, and new lines. -/
structure Relabelling where
  name : String → String
  line : Nat → Nat
  name_injective : ∀ {first second : String}, name first = name second → first = second

namespace Relabelling

variable (ρ : Relabelling)

/-- A tag with its new name and line. -/
def tag (tag : Tag) : Tag :=
  ⟨ρ.name tag.name, ρ.line tag.line⟩

/-- A token with its new name and line. -/
def token (token : Token) : Token :=
  ⟨token.kind, ρ.name token.name, ρ.line token.line⟩

/-- A finding with its new line and detail. -/
def finding (finding : Finding) : Finding :=
  ⟨finding.kind, ρ.line finding.line, ρ.name finding.detail⟩

/-- A state of a check with all names and lines new. -/
def checker (c : Checker) : Checker where
  openTags := c.openTags.map ρ.tag
  pending := c.pending.map ρ.finding
  orphans := c.orphans.map ρ.tag
  malformed := c.malformed.map ρ.finding

theorem name_eq_iff {first second : String} : ρ.name first = ρ.name second ↔ first = second :=
  ⟨ρ.name_injective, congrArg ρ.name⟩

/-- Findings about tags are relabelled with the tags. -/
theorem map_ofTag (kind : Finding.Kind) (tags : List Tag) :
    (tags.map ρ.tag).map (.ofTag kind) = (tags.map (.ofTag kind)).map ρ.finding := by
  rw [List.map_map, List.map_map]
  rfl

end Relabelling

namespace Checker

variable (ρ : Relabelling) (policy : SkipPolicy) (c : Checker)

/-! ## The rules -/

theorem closeInnermost?_relabel (name : String) :
    (ρ.checker c).closeInnermost? (ρ.name name) = (c.closeInnermost? name).map ρ.checker := by
  have hpop : (ρ.checker c).openTags.pop? =
      c.openTags.pop?.map fun (innermost, outer) => (ρ.tag innermost, outer.map ρ.tag) :=
    Stack.pop?_map ρ.tag c.openTags
  unfold closeInnermost?
  rw [hpop]
  cases c.openTags.pop? with
  | none => rfl
  | some popped =>
      obtain ⟨innermost, outer⟩ := popped
      by_cases h : innermost.name = name
      · have hnew : (ρ.tag innermost).name = ρ.name name := congrArg ρ.name h
        simp only [Option.map_some, if_pos h, if_pos hnew]
        rfl
      · have hnew : (ρ.tag innermost).name ≠ ρ.name name := fun heq => h (ρ.name_injective heq)
        simp only [Option.map_some, if_neg h, if_neg hnew, Option.map_none]

theorem takeBack?_relabel (name : String) :
    (ρ.checker c).takeBack? (ρ.name name) =
      (c.takeBack? name).map fun (finding, eased) => (ρ.finding finding, ρ.checker eased) := by
  have hdequeue : (ρ.checker c).pending.dequeue? =
      c.pending.dequeue?.map fun (finding, pending) => (ρ.finding finding, pending.map ρ.finding) :=
    Queue.dequeue?_map ρ.finding c.pending
  unfold takeBack?
  rw [hdequeue]
  cases c.pending.dequeue? with
  | none => rfl
  | some taken =>
      obtain ⟨finding, pending⟩ := taken
      by_cases h : finding.detail = name
      · have hnew : (ρ.finding finding).detail = ρ.name name := congrArg ρ.name h
        simp only [Option.map_some, if_pos h, if_pos hnew]
        rfl
      · have hnew : (ρ.finding finding).detail ≠ ρ.name name := fun heq => h (ρ.name_injective heq)
        simp only [Option.map_some, if_neg h, if_neg hnew, Option.map_none]

theorem searchBy_relabel (tag : Tag) :
    (ρ.checker c).openTags.searchBy (·.name = (ρ.tag tag).name) =
      c.openTags.searchBy (·.name = tag.name) := by
  apply Stack.searchBy_map
  intro other
  exact decide_eq_decide.2 ρ.name_eq_iff

theorem unwind_relabel (tag : Tag) :
    (ρ.checker c).unwind policy (ρ.tag tag) = ρ.checker (c.unwind policy tag) := by
  unfold unwind
  rw [searchBy_relabel]
  cases c.openTags.searchBy (·.name = tag.name) with
  | none =>
      simp only [Relabelling.checker, Queue.map_enqueue, Queue.map_enqueueAll]
      rfl
  | some depth =>
      cases policy with
      | report =>
          simp only [Relabelling.checker, Stack.below_map, Stack.above_map, Queue.map_enqueueAll, ρ.map_ofTag]
      | extras =>
          simp only [Relabelling.checker, Stack.below_map, Stack.above_map, Queue.map_enqueueAll]

theorem close_relabel (tag : Tag) :
    ((ρ.checker c).close policy (ρ.tag tag)).1 = ρ.checker (c.close policy tag).1 := by
  have hinnermost := closeInnermost?_relabel ρ c tag.name
  have hback := takeBack?_relabel ρ c tag.name
  cases hclose : c.closeInnermost? tag.name with
  | some closed =>
      rw [hclose] at hinnermost
      rw [close_of_closeInnermost? hclose, close_of_closeInnermost? hinnermost]
  | none =>
      rw [hclose] at hinnermost
      cases htake : c.takeBack? tag.name with
      | some taken =>
          rw [htake] at hback
          rw [close_of_takeBack? hclose htake, close_of_takeBack? hinnermost hback]
      | none =>
          rw [htake] at hback
          by_cases hempty : c.openTags.toList = []
          · have hempty' : (ρ.checker c).openTags.toList = [] := List.map_eq_nil_iff.2 hempty
            rw [close_of_isEmpty htake hempty, close_of_isEmpty hback hempty']
            simp only [Relabelling.checker, Queue.map_enqueue]
            rfl
          · have hempty' : (ρ.checker c).openTags.toList ≠ [] := fun h => hempty (List.map_eq_nil_iff.1 h)
            rw [close_of_unwind hclose htake hempty, close_of_unwind hinnermost hback hempty']
            exact unwind_relabel ρ policy c tag

/-! ## Tokens and runs -/

/-- **Step.** A token with a new name and line leads to the state with all names and lines new. -/
theorem feed_relabel (token : Token) :
    ((ρ.checker c).feed policy (ρ.token token)).1 = ρ.checker (c.feed policy token).1 := by
  obtain ⟨kind, name, line⟩ := token
  cases kind with
  | opening => rfl
  | closing => exact close_relabel ρ policy c ⟨name, line⟩
  | selfClosing => rfl
  | declaration => rfl
  | malformed =>
      show { ρ.checker c with
        malformed := (c.malformed.map ρ.finding).push ⟨.invalidFormat, ρ.line line, ρ.name name⟩ } = _
      simp only [feed_malformed, Relabelling.checker, Array.map_push]
      rfl

/-- **Run.** So do any tokens, one after the other. -/
theorem feedAll_relabel (tokens : List Token) :
    (ρ.checker c).feedAll policy (tokens.map ρ.token) = ρ.checker (c.feedAll policy tokens) := by
  induction tokens generalizing c with
  | nil => rfl
  | cons token tokens ih => rw [List.map_cons, feedAll_cons, feed_relabel, ih, feedAll_cons]

/-! ## The end of the document -/

theorem reconcile_relabel (pending : List Finding) (orphans : List Tag) :
    reconcile (pending.map ρ.finding) (orphans.map ρ.tag) = (reconcile pending orphans).map ρ.finding := by
  induction pending generalizing orphans with
  | nil => exact ρ.map_ofTag .extra orphans
  | cons finding pending ih =>
      cases orphans with
      | nil => rfl
      | cons orphan orphans =>
          by_cases h : finding.detail = orphan.name
          · have hnew : (ρ.finding finding).detail = (ρ.tag orphan).name := congrArg ρ.name h
            have hstep := ih orphans
            simp only [List.map_cons, reconcile, if_pos h, if_pos hnew]
            exact hstep
          · have hnew : (ρ.finding finding).detail ≠ (ρ.tag orphan).name := fun heq => h (ρ.name_injective heq)
            have hstep := ih (orphan :: orphans)
            simp only [List.map_cons, reconcile, if_neg h, if_neg hnew] at hstep ⊢
            rw [hstep]

theorem finish_relabel : (ρ.checker c).finish.1 = c.finish.1.map ρ.finding := by
  have hunresolved : (ρ.checker c).unresolved = c.unresolved.map ρ.finding := by
    unfold unresolved
    rw [List.map_append, ← ρ.map_ofTag, ← Queue.toList_map]
    rfl
  have horphans : (ρ.checker c).orphans.toList = c.orphans.toList.map ρ.tag := Queue.toList_map ρ.tag c.orphans
  have hmalformed : (ρ.checker c).malformed.toList = c.malformed.toList.map ρ.finding := Array.toList_map
  show (ρ.checker c).malformed.toList ++ reconcile (ρ.checker c).unresolved (ρ.checker c).orphans.toList = _
  rw [hunresolved, horphans, hmalformed, reconcile_relabel, ← List.map_append]
  rfl

end Checker

/-! ## Whole documents -/

/-- **The findings about relabelled tokens are the relabelled findings.** -/
theorem Relabelling.findings_map (ρ : Relabelling) (policy : SkipPolicy) (tokens : List Token) :
    findings policy (tokens.map ρ.token) = (findings policy tokens).map ρ.finding := by
  have hstart : ρ.checker {} = {} := congrArg (Checker.mk .empty .empty .empty) Array.map_empty
  have hrun := Checker.feedAll_relabel ρ policy {} tokens
  rw [hstart] at hrun
  unfold findings
  rw [hrun, Checker.finish_relabel]

/-- Well nested tokens stay well nested. -/
theorem WellNested.relabel {tokens : List Token} (h : WellNested tokens) (ρ : Relabelling) :
    WellNested (tokens.map ρ.token) := by
  induction h with
  | nil => exact .nil
  | selfClosing name line => exact .selfClosing (ρ.name name) (ρ.line line)
  | declaration text line => exact .declaration (ρ.name text) (ρ.line line)
  | append _ _ ihl ihr =>
      rw [List.map_append]
      exact ihl.append ihr
  | wrap name opened closed _ ih =>
      rw [List.map_cons, List.map_append]
      exact ih.wrap (ρ.name name) (ρ.line opened) (ρ.line closed)

end TagNesting
