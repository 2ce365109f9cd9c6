import Mathlib.Data.List.TakeWhile
import TagNesting.Proofs.Text.Stretch
import TagNesting.Token.Occurrence

/-!
# `Proofs.Token.Cut` — a line as occurrences and the text between them

`occurrences` walks along a line and skips what lies between the occurrences. `IsCut` speaks of the whole line: some
text without `<`, then the occurrences from left to right, each with the text behind it. A closed occurrence takes in
all the `>` that it ends with, so the text behind it does not begin with one; an occurrence that is not closed goes on
to the end of the line, so it is the last.

Every line has such a cut (`exists_isCut`), and no other (`IsCut.unique`), and its occurrences are those that
`occurrences` lists (`occurrences_of_isCut`). The last two rest on `cutOccurrence?_of_areParts`: what `cutOccurrence?`
takes off a line is the first part of a cut. Each `<` of a line stands in one of its occurrences
(`IsCut.exists_unique_covers`).
-/

namespace TagNesting

open Text

/-- A line cut at its occurrences of tags. -/
@[ext]
structure Cut where
  /-- The text before the first occurrence. -/
  first : List Char
  /-- The occurrences from left to right, each with the text behind it. -/
  parts : List (List Char × List Char)
deriving DecidableEq, Repr

/-- The text of some occurrences, each with the text behind it. -/
def partsText (parts : List (List Char × List Char)) : List Char :=
  (parts.map fun part => part.1 ++ part.2).flatten

/-- The line that has been cut. -/
def Cut.text (cut : Cut) : List Char :=
  cut.first ++ partsText cut.parts

/-- The occurrences of a cut, from left to right. -/
def Cut.occurrences (cut : Cut) : List (List Char) :=
  cut.parts.map Prod.fst

/-- `<`, a body without `>`, and one or more `>`. -/
inductive IsClosed : List Char → Prop where
  | intro {body : List Char} (more : Nat) (hbody : '>' ∉ body) :
      IsClosed ('<' :: (body ++ List.replicate (more + 1) '>'))

/-- `<` and a body without `>`. -/
inductive IsUnclosed : List Char → Prop where
  | intro {body : List Char} (hbody : '>' ∉ body) : IsUnclosed ('<' :: body)

/-- Closed occurrences with text behind each that holds no `<` and does not begin with `>`; the last occurrence may
be unclosed, and then nothing stands behind it. -/
inductive AreParts : List (List Char × List Char) → Prop where
  | nil : AreParts []
  | unclosed {occurrence : List Char} : IsUnclosed occurrence → AreParts [(occurrence, [])]
  | closed {occurrence gap : List Char} {parts : List (List Char × List Char)} : IsClosed occurrence →
      '<' ∉ gap → gap.head? ≠ some '>' → AreParts parts → AreParts ((occurrence, gap) :: parts)

/-- The cut is one of this line, at its occurrences. -/
structure IsCut (line : List Char) (cut : Cut) : Prop where
  text_eq : cut.text = line
  first_free : '<' ∉ cut.first
  parts : AreParts cut.parts

/-! ## The first occurrence -/

theorem partsText_cons (occurrence gap : List Char) (parts : List (List Char × List Char)) :
    partsText ((occurrence, gap) :: parts) = occurrence ++ (gap ++ partsText parts) := by
  rw [partsText, List.map_cons, List.flatten_cons, List.append_assoc]
  rfl

/-- The text of any parts is empty or begins with `<`. -/
theorem AreParts.head?_partsText {parts : List (List Char × List Char)} (h : AreParts parts) :
    ∀ c ∈ (partsText parts).head?, c = '<' := by
  intro c hc
  cases h with
  | nil => exact absurd hc (by simp [partsText])
  | unclosed hshape =>
      cases hshape
      rw [partsText_cons] at hc
      exact (Option.some.inj hc).symm
  | closed hshape =>
      cases hshape
      rw [partsText_cons] at hc
      exact (Option.some.inj hc).symm

/-- Behind a gap and in front of further parts there is no `>`. -/
theorem head?_gap_append {gap : List Char} {parts : List (List Char × List Char)} (hgap : gap.head? ≠ some '>')
    (hparts : AreParts parts) : (gap ++ partsText parts).head? ≠ some '>' := by
  cases gap with
  | nil =>
      intro hhead
      exact absurd (hparts.head?_partsText '>' hhead) (by decide)
  | cons c rest => exact hgap

/-- A line is looked through up to its first `<`. -/
theorem dropWhile_ne_open {before opened : List Char} (hbefore : '<' ∉ before)
    (hopened : ∀ c ∈ opened.head?, c = '<') : (before ++ opened).dropWhile (· != '<') = opened := by
  apply dropWhile_stop
  · intro c hc
    exact bne_iff_ne.2 (ne_of_mem_of_not_mem hc hbefore)
  · intro c hc
    rw [hopened c hc]
    rfl

/-- Neither the `<` that opens an occurrence nor its body is a `>`. -/
theorem ne_close_of_mem {body : List Char} (hbody : '>' ∉ body) : ∀ c ∈ '<' :: body, (c != '>') = true := by
  intro c hc
  rcases List.mem_cons.1 hc with rfl | hmem
  · rfl
  · exact bne_iff_ne.2 (ne_of_mem_of_not_mem hmem hbody)

theorem cutOccurrence?_of_not_mem {line : List Char} (h : '<' ∉ line) : cutOccurrence? line = none := by
  have hnone : line.dropWhile (· != '<') = [] := by
    rw [List.dropWhile_eq_nil_iff]
    intro c hc
    exact bne_iff_ne.2 (ne_of_mem_of_not_mem hc h)
  unfold cutOccurrence?
  rw [hnone]

/-- Without a `>` behind it, the first occurrence goes on to the end of the line. -/
theorem cutOccurrence?_of_unclosed {before body : List Char} (hbefore : '<' ∉ before) (hbody : '>' ∉ body) :
    cutOccurrence? (before ++ '<' :: body) = some ('<' :: body, []) := by
  have hopened : (before ++ '<' :: body).dropWhile (· != '<') = '<' :: body :=
    dropWhile_ne_open hbefore (by simp)
  have hall := ne_close_of_mem hbody
  unfold cutOccurrence?
  simp only [hopened, List.takeWhile_eq_self_iff.2 hall, List.dropWhile_eq_nil_iff.2 hall, List.takeWhile_nil,
    List.dropWhile_nil, List.append_nil]

/-- With a `>` behind it, the first occurrence takes in all the `>` that stand there. -/
theorem cutOccurrence?_of_closed {before body rest : List Char} (more : Nat) (hbefore : '<' ∉ before)
    (hbody : '>' ∉ body) (hrest : rest.head? ≠ some '>') :
    cutOccurrence? (before ++ ('<' :: (body ++ List.replicate (more + 1) '>') ++ rest)) =
      some ('<' :: (body ++ List.replicate (more + 1) '>'), rest) := by
  have hopened : (before ++ ('<' :: (body ++ List.replicate (more + 1) '>') ++ rest)).dropWhile (· != '<') =
      '<' :: body ++ (List.replicate (more + 1) '>' ++ rest) := by
    rw [dropWhile_ne_open hbefore (by simp), List.cons_append, List.cons_append, List.append_assoc]
  have hstop : ∀ c ∈ (List.replicate (more + 1) '>' ++ rest).head?, (c != '>') = false := by
    intro c hc
    cases hc
    rfl
  have hclosers : ∀ c ∈ List.replicate (more + 1) '>', (c == '>') = true := by
    intro c hc
    rw [List.eq_of_mem_replicate hc]
    rfl
  have hbehind : ∀ c ∈ rest.head?, (c == '>') = false := by
    intro c hc
    rw [beq_eq_false_iff_ne]
    rintro rfl
    exact hrest hc
  have hall := ne_close_of_mem hbody
  unfold cutOccurrence?
  rw [hopened]
  show some _ = _
  rw [takeWhile_stop hall hstop, dropWhile_stop hall hstop, takeWhile_stop hclosers hbehind,
    dropWhile_stop hclosers hbehind, List.cons_append]

/-- **What `cutOccurrence?` takes off a line is the first part of a cut.** -/
theorem cutOccurrence?_of_areParts {before occurrence gap : List Char} {parts : List (List Char × List Char)}
    (hbefore : '<' ∉ before) (h : AreParts ((occurrence, gap) :: parts)) :
    cutOccurrence? (before ++ partsText ((occurrence, gap) :: parts)) =
      some (occurrence, gap ++ partsText parts) := by
  rw [partsText_cons]
  cases h with
  | unclosed hshape =>
      obtain ⟨hbody⟩ := hshape
      rw [partsText, List.map_nil, List.flatten_nil, List.append_nil, List.append_nil]
      exact cutOccurrence?_of_unclosed hbefore hbody
  | closed hshape hfree hhead hparts =>
      obtain ⟨more, hbody⟩ := hshape
      exact cutOccurrence?_of_closed more hbefore hbody (head?_gap_append hhead hparts)

/-! ## All occurrences -/

theorem occurrences_of_none {line : List Char} (h : cutOccurrence? line = none) : occurrences line = [] := by
  rw [occurrences]
  split
  · rfl
  · next hsome => exact absurd (h.symm.trans hsome) (by simp)

theorem occurrences_of_some {line occurrence rest : List Char}
    (h : cutOccurrence? line = some (occurrence, rest)) :
    occurrences line = occurrence :: occurrences rest := by
  rw [occurrences]
  split
  · next hnone => exact absurd (h.symm.trans hnone) (by simp)
  · next hsome =>
      cases h.symm.trans hsome
      rfl

/-- In front of any parts, `occurrences` lists what they are. -/
theorem occurrences_of_areParts {parts : List (List Char × List Char)} (h : AreParts parts)
    {before : List Char} (hbefore : '<' ∉ before) :
    occurrences (before ++ partsText parts) = parts.map Prod.fst := by
  induction h generalizing before with
  | nil =>
      apply occurrences_of_none
      apply cutOccurrence?_of_not_mem
      rwa [partsText, List.map_nil, List.flatten_nil, List.append_nil]
  | unclosed hshape =>
      rw [occurrences_of_some (cutOccurrence?_of_areParts hbefore (.unclosed hshape)), List.nil_append,
        partsText, List.map_nil, List.flatten_nil, occurrences_of_none rfl]
      rfl
  | closed hshape hfree hhead hparts ih =>
      rw [occurrences_of_some (cutOccurrence?_of_areParts hbefore (.closed hshape hfree hhead hparts)), ih hfree]
      rfl

/-- **The occurrences of a line are those of its cut.** -/
theorem occurrences_of_isCut {line : List Char} {cut : Cut} (h : IsCut line cut) :
    occurrences line = cut.occurrences := by
  rw [← h.text_eq]
  exact occurrences_of_areParts h.parts h.first_free

/-! ## One cut, and only one -/

theorem AreParts.tail {part : List Char × List Char} {parts : List (List Char × List Char)}
    (h : AreParts (part :: parts)) : '<' ∉ part.2 ∧ AreParts parts := by
  cases h with
  | unclosed _ => exact ⟨List.not_mem_nil, .nil⟩
  | closed _ hfree _ hparts => exact ⟨hfree, hparts⟩

/-- The text before some parts ends at their first `<`. -/
theorem gap_unique {gap gap' : List Char} {parts parts' : List (List Char × List Char)} (hgap : '<' ∉ gap)
    (hgap' : '<' ∉ gap') (h : AreParts parts) (h' : AreParts parts')
    (htext : gap ++ partsText parts = gap' ++ partsText parts') :
    gap = gap' ∧ partsText parts = partsText parts' := by
  have hparts : partsText parts = partsText parts' := by
    rw [← dropWhile_ne_open hgap h.head?_partsText, htext, dropWhile_ne_open hgap' h'.head?_partsText]
  rw [hparts] at htext
  exact ⟨List.append_cancel_right htext, hparts⟩

/-- The text of some parts determines them. -/
theorem AreParts.unique {parts parts' : List (List Char × List Char)} (h : AreParts parts)
    (h' : AreParts parts') (htext : partsText parts = partsText parts') : parts = parts' := by
  induction parts generalizing parts' with
  | nil =>
      cases parts' with
      | nil => rfl
      | cons part' parts' =>
          have hcut' := cutOccurrence?_of_areParts List.not_mem_nil h'
          rw [← htext] at hcut'
          exact absurd ((cutOccurrence?_of_not_mem List.not_mem_nil).symm.trans hcut') (by simp)
  | cons part parts ih =>
      have hcut := cutOccurrence?_of_areParts List.not_mem_nil h
      cases parts' with
      | nil =>
          rw [htext] at hcut
          exact absurd ((cutOccurrence?_of_not_mem List.not_mem_nil).symm.trans hcut) (by simp)
      | cons part' parts' =>
          obtain ⟨occurrence, gap⟩ := part
          obtain ⟨occurrence', gap'⟩ := part'
          -- the first occurrences are what `cutOccurrence?` finds in one text
          have hcut' := cutOccurrence?_of_areParts List.not_mem_nil h'
          rw [← htext, hcut, Option.some.injEq, Prod.mk.injEq] at hcut'
          obtain ⟨rfl, hbehind⟩ := hcut'
          obtain ⟨hfree, hparts⟩ := h.tail
          obtain ⟨hfree', hparts'⟩ := h'.tail
          obtain ⟨rfl, hlater⟩ := gap_unique hfree hfree' hparts hparts' hbehind
          rw [ih hparts hparts' hlater]

/-- **A line has no two cuts.** -/
theorem IsCut.unique {line : List Char} {cut cut' : Cut} (h : IsCut line cut) (h' : IsCut line cut') :
    cut = cut' := by
  have htext : cut.first ++ partsText cut.parts = cut'.first ++ partsText cut'.parts :=
    h.text_eq.trans h'.text_eq.symm
  obtain ⟨hfirst, hparts⟩ := gap_unique h.first_free h'.first_free h.parts h'.parts htext
  exact Cut.ext hfirst (h.parts.unique h'.parts hparts)

/-- A text begins with a run of `>`, which may be empty. -/
theorem exists_run (text : List Char) :
    ∃ count rest, text = List.replicate count '>' ++ rest ∧ rest.head? ≠ some '>' := by
  induction text with
  | nil => exact ⟨0, [], rfl, by simp⟩
  | cons c text ih =>
      by_cases hc : c = '>'
      · obtain ⟨count, rest, rfl, hrest⟩ := ih
        exact ⟨count + 1, rest, by rw [hc, List.replicate_succ, List.cons_append], hrest⟩
      · exact ⟨0, c :: text, rfl, by simpa using hc⟩

/-- A line with a `<` is some text, an occurrence, and what `cutOccurrence?` leaves. -/
theorem exists_cutOccurrence? {line : List Char} (h : '<' ∈ line) :
    ∃ before occurrence rest, line = before ++ (occurrence ++ rest) ∧ '<' ∉ before ∧
      cutOccurrence? line = some (occurrence, rest) ∧
      (IsClosed occurrence ∧ rest.head? ≠ some '>' ∨ IsUnclosed occurrence ∧ rest = []) := by
  obtain ⟨before, tail, rfl, hbefore⟩ := List.eq_append_cons_of_mem h
  by_cases hclose : '>' ∈ tail
  · obtain ⟨body, behind, rfl, hbody⟩ := List.eq_append_cons_of_mem hclose
    obtain ⟨more, rest, rfl, hrest⟩ := exists_run behind
    have hline : '<' :: (body ++ '>' :: (List.replicate more '>' ++ rest)) =
        '<' :: (body ++ List.replicate (more + 1) '>') ++ rest := by
      rw [List.replicate_succ, List.cons_append, List.append_assoc, List.cons_append]
    rw [hline]
    exact ⟨before, _, rest, rfl, hbefore, cutOccurrence?_of_closed more hbefore hbody hrest,
      Or.inl ⟨.intro more hbody, hrest⟩⟩
  · refine ⟨before, '<' :: tail, [], ?_, hbefore, cutOccurrence?_of_unclosed hbefore hclose,
      Or.inr ⟨.intro hclose, rfl⟩⟩
    rw [List.append_nil]

/-- **Every line has a cut.** -/
theorem exists_isCut (line : List Char) : ∃ cut, IsCut line cut := by
  induction line using occurrences.induct with
  | case1 line hnone =>
      have hfree : '<' ∉ line := by
        intro hmem
        obtain ⟨before, occurrence, rest, -, -, hsome, -⟩ := exists_cutOccurrence? hmem
        exact absurd (hnone.symm.trans hsome) (by simp)
      exact ⟨⟨line, []⟩, List.append_nil line, hfree, .nil⟩
  | case2 line occurrence rest hsome _ ih =>
      obtain ⟨⟨gap, parts⟩, hcut⟩ := ih
      have hmem : '<' ∈ line := by
        by_contra hfree
        exact absurd ((cutOccurrence?_of_not_mem hfree).symm.trans hsome) (by simp)
      obtain ⟨before, occurrence', rest', rfl, hbefore, hsome', hshape⟩ := exists_cutOccurrence? hmem
      cases hsome.symm.trans hsome'
      -- the text before the first occurrence of the rest is the gap behind this one
      have hrest : gap ++ partsText parts = rest := hcut.text_eq
      refine ⟨⟨before, (occurrence, gap) :: parts⟩, ?_, hbefore, ?_⟩
      · rw [Cut.text, partsText_cons, hrest]
      rcases hshape with ⟨hclosed, hhead⟩ | ⟨hunclosed, rfl⟩
      · refine .closed hclosed hcut.first_free ?_ hcut.parts
        intro hgap
        apply hhead
        rw [← hrest, List.head?_append, hgap]
        rfl
      · obtain ⟨rfl, hnil⟩ := List.append_eq_nil_iff.1 hrest
        have hparts : parts = [] := hcut.parts.unique .nil hnil
        rw [hparts]
        exact .unclosed hunclosed

/-! ## The occurrence that a `<` stands in -/

/-- The column at which the occurrence with this index begins. -/
def Cut.start (cut : Cut) (index : Nat) : Nat :=
  cut.first.length + (partsText (cut.parts.take index)).length

/-- The occurrence with this index takes in the column. -/
def Cut.Covers (cut : Cut) (index column : Nat) : Prop :=
  ∃ occurrence, cut.occurrences[index]? = some occurrence ∧
    cut.start index ≤ column ∧ column < cut.start index + occurrence.length

/-- The parts as blocks of the line behind `first`. -/
def Cut.blocks (cut : Cut) : List (List Char) :=
  cut.parts.map fun part => part.1 ++ part.2

theorem Cut.length_take_blocks (cut : Cut) (index : Nat) :
    cut.first.length + (cut.blocks.take index).flatten.length = cut.start index := by
  rw [Cut.blocks, ← List.map_take]
  rfl

/-- No text between occurrences holds a `<`. -/
theorem AreParts.gap_free {parts : List (List Char × List Char)} (h : AreParts parts) :
    ∀ part ∈ parts, '<' ∉ part.2 := by
  induction parts with
  | nil => exact List.forall_mem_nil _
  | cons part parts ih =>
      obtain ⟨hfree, hparts⟩ := h.tail
      exact List.forall_mem_cons.2 ⟨hfree, ih hparts⟩

/-- A column that an occurrence takes in lies in the block of its part. -/
theorem Cut.Covers.inBlock {cut : Cut} {index column : Nat} (h : cut.Covers index column) :
    ∃ inner block, InBlock cut.blocks (column - cut.first.length) index inner block := by
  obtain ⟨occurrence, hoccurrence, hle, hlt⟩ := h
  rw [Cut.occurrences, List.getElem?_map, Option.map_eq_some_iff] at hoccurrence
  obtain ⟨part, hpart, rfl⟩ := hoccurrence
  have hstart := cut.length_take_blocks index
  refine ⟨column - cut.start index, part.1 ++ part.2, ?_, ?_, ?_⟩
  · rw [Cut.blocks, List.getElem?_map, hpart]
    rfl
  · rw [List.length_append]
    omega
  · omega

/-- An occurrence does not go on behind the end of the line. -/
theorem IsCut.lt_of_covers {line : List Char} {cut : Cut} (h : IsCut line cut) {index column : Nat}
    (hcovers : cut.Covers index column) : column < line.length := by
  obtain ⟨inner, block, hblock⟩ := hcovers.inBlock
  have hchar := hblock.getElem?_eq.trans (List.getElem?_eq_getElem hblock.column_lt)
  obtain ⟨hlt, -⟩ := List.getElem?_eq_some_iff.1 hchar
  have htext : line = cut.first ++ cut.blocks.flatten := h.text_eq.symm
  rw [htext, List.length_append]
  omega

/-- **Each `<` of a line stands in exactly one of its occurrences.** -/
theorem IsCut.exists_unique_covers {text : List Char} {cut : Cut} (h : IsCut text cut) {column : Nat}
    (hcolumn : text[column]? = some '<') : ∃! index, cut.Covers index column := by
  have htext : text = cut.first ++ cut.blocks.flatten := h.text_eq.symm
  have hfirst : cut.first.length ≤ column := by
    by_contra hlt
    rw [htext, List.getElem?_append_left (Nat.not_le.1 hlt)] at hcolumn
    exact h.first_free (List.mem_of_getElem? hcolumn)
  rw [htext, List.getElem?_append_right hfirst] at hcolumn
  have hlt : column - cut.first.length < cut.blocks.flatten.length :=
    (List.getElem?_eq_some_iff.1 hcolumn).1
  obtain ⟨index, inner, block, hblock⟩ := exists_inBlock hlt
  have hopen : block[inner]? = some '<' := hblock.getElem?_eq.symm.trans hcolumn
  refine ⟨index, ?_, ?_⟩
  · have hpart := hblock.block_eq
    rw [Cut.blocks, List.getElem?_map, Option.map_eq_some_iff] at hpart
    obtain ⟨part, hpart, rfl⟩ := hpart
    -- the `<` does not stand in the text behind the occurrence
    have hinner : inner < part.1.length := by
      by_contra hge
      rw [List.getElem?_append_right (Nat.not_lt.1 hge)] at hopen
      exact h.parts.gap_free part (List.mem_of_getElem? hpart) (List.mem_of_getElem? hopen)
    have hposition := hblock.position_eq
    have hstart := cut.length_take_blocks index
    refine ⟨part.1, ?_, by omega, by omega⟩
    rw [Cut.occurrences, List.getElem?_map, hpart]
    rfl
  · intro other hother
    obtain ⟨inner', block', hblock'⟩ := hother.inBlock
    exact hblock'.unique hblock

end TagNesting
