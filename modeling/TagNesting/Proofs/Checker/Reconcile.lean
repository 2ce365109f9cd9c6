import Mathlib.Data.List.Forall2
import Mathlib.Order.Bounds.Defs
import TagNesting.Checker

/-!
# `Proofs.Checker.Reconcile` — which findings the orphans account for

At the end of a document, `reconcile` goes along the findings with the oldest orphan in hand. It drops the first
finding about the name of that orphan, takes the next orphan, and goes on behind the finding. So the names of the
orphans are read off the details of the findings, from left to right and each as soon as it comes (`IsLeftmost`). This
goes on as long as the names can be read at all, and no other way of reading them gets any further: if a name comes at
the first detail, a reading that takes it from a later one leaves less for the other names (`IsLeftmost.here`).

So the orphans that are set off are the longest beginning of the queue whose names, in order, are a part of the
details (`reconcile_eq`), and the findings that they account for are where those names can be read first.
-/

namespace TagNesting

/-! ## Reading names off details -/

section Readings

variable {α : Type} {details names : List α} {detail name : α} {places : List Nat}

/-- The names are read off the details at these places, from left to right. -/
structure ReadsAt (details names : List α) (places : List Nat) : Prop where
  increasing : places.Pairwise (· < ·)
  reads : places.map (details[·]?) = names.map some

/-- No name is read further to the left when the names are read at other places. -/
structure IsLeftmost (details names : List α) (places : List Nat) : Prop extends
    ReadsAt details names places where
  le_of_readsAt : ∀ others, ReadsAt details names others → List.Forall₂ (· ≤ ·) places others

theorem ReadsAt.length_eq (h : ReadsAt details names places) : places.length = names.length := by
  simpa using congrArg List.length h.reads

theorem ReadsAt.eq_nil (h : ReadsAt details [] places) : places = [] :=
  List.eq_nil_of_length_eq_zero h.length_eq

theorem readsAt_nil (details : List α) : ReadsAt details [] [] :=
  ⟨.nil, rfl⟩

/-- The first name is read before the others. -/
theorem ReadsAt.exists_cons (h : ReadsAt details (name :: names) places) :
    ∃ place later, places = place :: later ∧ details[place]? = some name ∧ (∀ other ∈ later, place < other) ∧
      ReadsAt details names later := by
  obtain ⟨hincreasing, hreads⟩ := h
  cases places with
  | nil => exact absurd hreads (by simp)
  | cons place later =>
      obtain ⟨hfirst, hlater⟩ := List.pairwise_cons.1 hincreasing
      obtain ⟨hname, hnames⟩ := List.cons.inj hreads
      exact ⟨place, later, rfl, hname, hfirst, hlater, hnames⟩

/-- With a detail in front, the places of the others are one further. -/
theorem readsAt_later_iff :
    ReadsAt (detail :: details) names (places.map (· + 1)) ↔ ReadsAt details names places := by
  have hreads : (places.map (· + 1)).map ((detail :: details)[·]?) = places.map (details[·]?) := by
    rw [List.map_map]
    rfl
  constructor
  · rintro ⟨hincreasing, hnames⟩
    refine ⟨?_, hreads.symm.trans hnames⟩
    exact (List.pairwise_map.1 hincreasing).imp Nat.lt_of_succ_lt_succ
  · rintro ⟨hincreasing, hnames⟩
    refine ⟨?_, hreads.trans hnames⟩
    exact List.pairwise_map.2 (hincreasing.imp Nat.succ_lt_succ)

/-- A name that is the first detail may be read there. -/
theorem ReadsAt.here (h : ReadsAt details names places) (name : α) :
    ReadsAt (name :: details) (name :: names) (0 :: places.map (· + 1)) := by
  have hlater : ReadsAt (name :: details) names (places.map (· + 1)) := readsAt_later_iff.2 h
  obtain ⟨hincreasing, hreads⟩ := hlater
  refine ⟨List.pairwise_cons.2 ⟨?_, hincreasing⟩, ?_⟩
  · exact List.forall_mem_map.2 fun place _ => Nat.succ_pos place
  · rw [List.map_cons, hreads]
    rfl

theorem exists_eq_map_succ (h : ∀ place ∈ places, 0 < place) : ∃ inner : List Nat, places = inner.map (· + 1) := by
  refine ⟨places.map (· - 1), ?_⟩
  rw [List.map_map]
  refine (List.map_id' places).symm.trans (List.map_congr_left ?_)
  intro place hplace
  exact (Nat.sub_add_cancel (h place hplace)).symm

/-- **The first name is read at the first detail**, and the others behind it, **or all are read behind it.** -/
theorem ReadsAt.cons_cases (h : ReadsAt (detail :: details) (name :: names) places) :
    (detail = name ∧ ∃ inner, places = 0 :: inner.map (· + 1) ∧ ReadsAt details names inner) ∨
      ∃ inner, places = inner.map (· + 1) ∧ ReadsAt details (name :: names) inner := by
  obtain ⟨place, later, rfl, hname, hlater, hnames⟩ := h.exists_cons
  obtain ⟨inner, rfl⟩ := exists_eq_map_succ fun other hother => Nat.zero_lt_of_lt (hlater other hother)
  cases place with
  | zero => exact Or.inl ⟨Option.some.inj hname, inner, rfl, readsAt_later_iff.1 hnames⟩
  | succ place => exact Or.inr ⟨place :: inner, rfl, readsAt_later_iff.1 h⟩

/-- What can be read off the details is a part of them. -/
theorem ReadsAt.sublist (h : ReadsAt details names places) : names.Sublist details := by
  induction details generalizing names places with
  | nil =>
      cases names with
      | nil => exact List.Sublist.slnil
      | cons name names =>
          obtain ⟨place, later, -, hname, -⟩ := h.exists_cons
          exact absurd hname (by simp)
  | cons detail details ih =>
      cases names with
      | nil => exact List.nil_sublist _
      | cons name names =>
          rcases h.cons_cases with ⟨rfl, inner, -, hinner⟩ | ⟨inner, -, hinner⟩
          · exact (ih hinner).cons_cons detail
          · exact (ih hinner).cons detail

/-! ## Reading as soon as possible -/

theorem isLeftmost_nil (details : List α) : IsLeftmost details [] [] where
  toReadsAt := readsAt_nil details
  le_of_readsAt := by
    intro others hothers
    rw [hothers.eq_nil]
    exact .nil

theorem forall₂_le_map_succ {first second : List Nat} (h : List.Forall₂ (· ≤ ·) first second) :
    List.Forall₂ (· ≤ ·) (first.map (· + 1)) (second.map (· + 1)) := by
  rw [List.forall₂_map_left_iff, List.forall₂_map_right_iff]
  exact h.imp fun _ _ => Nat.succ_le_succ

/-- **It is never better to wait.** A name that is the first detail is read there. -/
theorem IsLeftmost.here (h : IsLeftmost details names places) (name : α) :
    IsLeftmost (name :: details) (name :: names) (0 :: places.map (· + 1)) where
  toReadsAt := h.toReadsAt.here name
  le_of_readsAt := by
    intro others hothers
    rcases hothers.cons_cases with ⟨-, inner, rfl, hinner⟩ | ⟨inner, rfl, hinner⟩
    · exact .cons (Nat.le_refl 0) (forall₂_le_map_succ (h.le_of_readsAt inner hinner))
    · -- the other reading takes the name from a later detail, and the other names from behind it
      obtain ⟨place, later, rfl, -, -, hlater⟩ := hinner.exists_cons
      exact .cons (Nat.zero_le _) (forall₂_le_map_succ (h.le_of_readsAt later hlater))

/-- A detail that is not the name to be read is passed over. -/
theorem IsLeftmost.later (h : IsLeftmost details names places) (hne : names.head? ≠ some detail) :
    IsLeftmost (detail :: details) names (places.map (· + 1)) where
  toReadsAt := readsAt_later_iff.2 h.toReadsAt
  le_of_readsAt := by
    intro others hothers
    cases names with
    | nil =>
        rw [hothers.eq_nil, h.eq_nil]
        exact .nil
    | cons name names =>
        rcases hothers.cons_cases with ⟨rfl, -⟩ | ⟨inner, rfl, hinner⟩
        · exact absurd rfl hne
        · exact forall₂_le_map_succ (h.le_of_readsAt inner hinner)

end Readings

/-! ## What is left -/

section Without

variable {α : Type} {places : List Nat} {x : α} {xs : List α}

/-- The elements that do not stand at any of these places. -/
def without (places : List Nat) (xs : List α) : List α :=
  (xs.zipIdx.filter (·.2 ∉ places)).map Prod.fst

@[simp] theorem without_nil (xs : List α) : without [] xs = xs := by
  simp [without]

/-- Behind the first element, the places are those of the rest. -/
theorem filter_zipIdx_one {others : List Nat} (h : ∀ place, place + 1 ∈ others ↔ place ∈ places) (xs : List α) :
    ((xs.zipIdx 1).filter (·.2 ∉ others)).map Prod.fst = without places xs := by
  rw [without, List.zipIdx_succ, List.filter_map, List.map_map]
  congr 1
  apply List.filter_congr
  rintro ⟨x, place⟩ -
  simp [h]

/-- An element that is not dropped stays in front of the rest. -/
theorem without_later (places : List Nat) (x : α) (xs : List α) :
    without (places.map (· + 1)) (x :: xs) = x :: without places xs := by
  have hplaces : ∀ place, place + 1 ∈ places.map (· + 1) ↔ place ∈ places := by simp
  rw [without, List.zipIdx_cons, List.filter_cons_of_pos (by simp), List.map_cons, filter_zipIdx_one hplaces]

/-- An element that is dropped leaves the rest. -/
theorem without_here (places : List Nat) (x : α) (xs : List α) :
    without (0 :: places.map (· + 1)) (x :: xs) = without places xs := by
  have hplaces : ∀ place, place + 1 ∈ 0 :: places.map (· + 1) ↔ place ∈ places := by simp
  rw [without, List.zipIdx_cons, List.filter_cons_of_neg (by simp), filter_zipIdx_one hplaces]

end Without

/-! ## Findings and orphans -/

variable {finding : Finding} {orphan : Tag} {findings : List Finding} {orphans : List Tag} {count : Nat}

/-- As many findings are dropped as there are names to be read. -/
theorem length_without {names : List String} {places : List Nat}
    (h : ReadsAt (findings.map Finding.detail) names places) :
    (without places findings).length + places.length = findings.length := by
  induction findings generalizing names places with
  | nil =>
      have hnil : names = [] := List.eq_nil_of_sublist_nil h.sublist
      rw [hnil] at h
      rw [h.eq_nil]
      rfl
  | cons finding findings ih =>
      cases names with
      | nil =>
          rw [h.eq_nil, without_nil]
          rfl
      | cons name names =>
          rcases h.cons_cases with ⟨-, inner, rfl, hinner⟩ | ⟨inner, rfl, hinner⟩
          · have hrest := ih hinner
            rw [without_here, List.length_cons, List.length_cons, List.length_map]
            omega
          · have hrest := ih hinner
            rw [without_later, List.length_cons, List.length_cons, List.length_map]
            omega

/-- How many orphans, from the oldest on, may be set off: their names are a part of the details, in order. -/
def cancellable (findings : List Finding) (orphans : List Tag) : Set Nat :=
  {count | count ≤ orphans.length ∧
    ((orphans.take count).map Tag.name).Sublist (findings.map Finding.detail)}

theorem zero_mem_cancellable (findings : List Finding) (orphans : List Tag) : 0 ∈ cancellable findings orphans :=
  ⟨Nat.zero_le _, List.nil_sublist _⟩

/-- Without findings, no orphan may be set off. -/
theorem isGreatest_cancellable_nil (orphans : List Tag) : IsGreatest (cancellable [] orphans) 0 := by
  refine ⟨zero_mem_cancellable [] orphans, ?_⟩
  rintro count ⟨hle, hsublist⟩
  have hlength := hsublist.length_le
  rw [List.length_map, List.length_take_of_le hle] at hlength
  exact hlength

/-- Without orphans, there is none to set off. -/
theorem isGreatest_cancellable_nil_right (findings : List Finding) : IsGreatest (cancellable findings []) 0 :=
  ⟨zero_mem_cancellable findings [], fun _ hcount => hcount.1⟩

/-- Setting an orphan off against the first finding leaves the rest of both. -/
theorem isGreatest_cancellable_here (h : IsGreatest (cancellable findings orphans) count)
    (hname : finding.detail = orphan.name) :
    IsGreatest (cancellable (finding :: findings) (orphan :: orphans)) (count + 1) := by
  obtain ⟨⟨hle, hsublist⟩, hgreatest⟩ := h
  refine ⟨⟨Nat.succ_le_succ hle, ?_⟩, ?_⟩
  · rw [List.take_succ_cons, List.map_cons, List.map_cons, hname]
    exact hsublist.cons_cons orphan.name
  · rintro (_ | other) ⟨hother, hpart⟩
    · exact Nat.zero_le _
    · rw [List.take_succ_cons, List.map_cons, List.map_cons, hname, List.cons_sublist_cons] at hpart
      exact Nat.succ_le_succ (hgreatest ⟨Nat.le_of_succ_le_succ hother, hpart⟩)

/-- A finding about another name is of no use to the oldest orphan, nor to those behind it. -/
theorem isGreatest_cancellable_later (h : IsGreatest (cancellable findings (orphan :: orphans)) count)
    (hname : finding.detail ≠ orphan.name) :
    IsGreatest (cancellable (finding :: findings) (orphan :: orphans)) count := by
  obtain ⟨⟨hle, hsublist⟩, hgreatest⟩ := h
  refine ⟨⟨hle, hsublist.cons finding.detail⟩, ?_⟩
  rintro (_ | other) ⟨hother, hpart⟩
  · exact Nat.zero_le _
  · rw [List.take_succ_cons, List.map_cons, List.map_cons] at hpart
    exact hgreatest ⟨hother, List.Sublist.of_cons_of_ne (Ne.symm hname) hpart⟩

/-- **What reconciling leaves.** The longest beginning of the orphans whose names can be read off the details is set
off, against the findings at which they are read first. -/
theorem reconcile_eq (findings : List Finding) (orphans : List Tag) :
    ∃ count places, IsGreatest (cancellable findings orphans) count ∧
      IsLeftmost (findings.map Finding.detail) ((orphans.take count).map Tag.name) places ∧
      Checker.reconcile findings orphans =
        without places findings ++ (orphans.drop count).map (.ofTag .extra) := by
  induction findings, orphans using Checker.reconcile.induct with
  | case1 orphans => exact ⟨0, [], isGreatest_cancellable_nil orphans, isLeftmost_nil _, rfl⟩
  | case2 findings hne =>
      refine ⟨0, [], isGreatest_cancellable_nil_right findings, isLeftmost_nil _, ?_⟩
      rw [Checker.reconcile, without_nil]
      · exact (List.append_nil findings).symm
      · exact hne
  | case3 finding findings orphan orphans hname ih =>
      obtain ⟨count, places, hcount, hplaces, hrest⟩ := ih
      refine ⟨count + 1, 0 :: places.map (· + 1), isGreatest_cancellable_here hcount hname, ?_, ?_⟩
      · rw [List.take_succ_cons, List.map_cons, List.map_cons, hname]
        exact hplaces.here orphan.name
      · rw [Checker.reconcile, if_pos hname, hrest, without_here, List.drop_succ_cons]
  | case4 finding findings orphan orphans hname ih =>
      obtain ⟨count, places, hcount, hplaces, hrest⟩ := ih
      refine ⟨count, places.map (· + 1), isGreatest_cancellable_later hcount hname, ?_, ?_⟩
      · apply hplaces.later
        cases count with
        | zero => simp
        | succ count => simpa using Ne.symm hname
      · rw [Checker.reconcile, if_neg hname, hrest, without_later, List.cons_append]

/-- An orphan that no finding accounts for keeps those behind it from being set off. -/
example :
    Checker.reconcile [⟨.missingStart, 1, "a"⟩, ⟨.missingStart, 2, "b"⟩, ⟨.missingEnd, 3, "a"⟩]
        [⟨"b", 4⟩, ⟨"c", 5⟩, ⟨"a", 6⟩] =
      [⟨.missingStart, 1, "a"⟩, ⟨.missingEnd, 3, "a"⟩, ⟨.extra, 5, "c"⟩, ⟨.extra, 6, "a"⟩] := by
  decide

/-- **What is reported at the end of a document.** The findings that wait are those that are pending and one for each
open tag, innermost first. Of the orphans, as many are set off as have names that are, in order, a part of what the
waiting findings are about. The findings are those about malformed occurrences, the waiting ones in their order, but
for those where the names of these orphans can be read first, and one for each of the other orphans in their order.
So each of these orphans accounts for one finding, and whenever the oldest orphans are set off in order, each against
a finding about its name, there are no more of them. -/
theorem finish_cancels_longest (c : Checker) :
    let waiting := c.pending.toList ++ c.openTags.toList.map (.ofTag .missingEnd)
    let details := waiting.map Finding.detail
    let orphans := c.orphans.toList
    ∃ count places,
      IsGreatest {n | n ≤ orphans.length ∧ ((orphans.take n).map Tag.name).Sublist details} count ∧
      IsLeftmost details ((orphans.take count).map Tag.name) places ∧
      c.finish.1 = c.malformed.toList ++ without places waiting ++ (orphans.drop count).map (.ofTag .extra) ∧
      (places.length = count ∧ (without places waiting).length + count = waiting.length) ∧
      ∀ others, ReadsAt details ((orphans.take others.length).map Tag.name) others → others.length ≤ count := by
  intro waiting details orphans
  obtain ⟨count, places, hcount, hplaces, hrest⟩ := reconcile_eq waiting orphans
  have hlength : places.length = count := by
    rw [hplaces.length_eq, List.length_map, List.length_take_of_le hcount.1.1]
  refine ⟨count, places, hcount, hplaces, ?_, ⟨hlength, ?_⟩, ?_⟩
  · show c.malformed.toList ++ Checker.reconcile waiting orphans = _
    rw [hrest, List.append_assoc]
  · rw [← hlength]
    exact length_without hplaces.toReadsAt
  · intro others hothers
    refine hcount.2 ⟨?_, hothers.sublist⟩
    have hothersLength := hothers.length_eq
    rw [List.length_map, List.length_take] at hothersLength
    omega

end TagNesting
