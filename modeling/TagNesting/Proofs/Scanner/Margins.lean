import TagNesting.Checker
import TagNesting.Proofs.Scanner.Shift
import TagNesting.Proofs.Token.Print

/-!
# `Proofs.Scanner.Margins` — blanks round a line

Blanks at the ends of a line change none of its tokens, and a carriage return before the line feed is such a blank. A
line that is read as a whole is trimmed first, so there is nothing to show. A line of tags is not trimmed, only its
occurrences are, and for such a line it depends on its cut where the blanks go (`IsCut.append_blanks`): in front of
the line they are text before the first occurrence; behind it they are text behind the last occurrence, which they
cannot make longer since no `>` is a blank, or else they become a part of the last occurrence, if that is not closed,
and are taken off again when it is trimmed.

So the tokens of a line are those of the trimmed line (`lineTokens_trim`), and those of a document depend on its
trimmed lines only.
-/

namespace TagNesting

open Text Unicode

variable {line blanks : List Char} {cut : Cut}

/-! ## Occurrences -/

/-- An occurrence is trimmed before anything else is done with it. -/
theorem classify_trim (raw : List Char) (number : Nat) : classify (trim raw) number = classify raw number := by
  unfold classify
  simp only [(isTight_trim raw).trim_eq]

/-- No occurrence begins in blanks. -/
theorem occurrences_blanks_append (hblanks : IsBlank blanks) (line : List Char) :
    occurrences (blanks ++ line) = occurrences line := by
  obtain ⟨cut, hcut⟩ := exists_isCut line
  have hlonger : IsCut (blanks ++ line) ⟨blanks ++ cut.first, cut.parts⟩ := by
    refine ⟨?_, ?_, hcut.parts⟩
    · rw [Cut.text, List.append_assoc]
      exact congrArg (blanks ++ ·) hcut.text_eq
    · rw [List.mem_append]
      exact not_or.2 ⟨hblanks.unbracketed.1, hcut.first_free⟩
  rw [occurrences_of_isCut hlonger, occurrences_of_isCut hcut]
  rfl

/-- A gap does not begin with `>` when there are blanks behind it either. -/
theorem head?_append_blanks {gap : List Char} (hgap : gap.head? ≠ some '>') (hblanks : IsBlank blanks) :
    (gap ++ blanks).head? ≠ some '>' := by
  cases gap with
  | nil =>
      intro hhead
      exact hblanks.unbracketed.2 (List.mem_of_head? hhead)
  | cons c rest => exact hgap

/-- **Blanks behind the last part** are taken in by its gap, or by its occurrence if that is not closed. -/
theorem AreParts.append_blanks {parts : List (List Char × List Char)} (h : AreParts parts) (hne : parts ≠ [])
    (hblanks : IsBlank blanks) :
    ∃ longer, AreParts longer ∧ partsText longer = partsText parts ++ blanks ∧
      longer.map (trim ·.1) = parts.map (trim ·.1) := by
  induction h with
  | nil => exact absurd rfl hne
  | @unclosed occurrence hshape =>
      obtain ⟨hbody⟩ := hshape
      refine ⟨[(_, [])], .unclosed (.intro (List.not_mem_append hbody hblanks.unbracketed.2)), ?_, ?_⟩
      · simp [partsText]
      · simp only [List.map_cons, List.map_nil, ← List.cons_append, trim_append_blanks _ hblanks]
  | @closed occurrence gap parts hshape hfree hhead hparts ih =>
      by_cases hlast : parts = []
      · subst hlast
        refine ⟨[(occurrence, gap ++ blanks)], ?_, ?_, rfl⟩
        · exact .closed hshape (List.not_mem_append hfree hblanks.unbracketed.1)
            (head?_append_blanks hhead hblanks) .nil
        · simp [partsText]
      · obtain ⟨longer, hlonger, htext, hsame⟩ := ih hlast
        refine ⟨(occurrence, gap) :: longer, .closed hshape hfree hhead hlonger, ?_, ?_⟩
        · simp only [partsText_cons, htext, List.append_assoc]
        · rw [List.map_cons, List.map_cons, hsame]

/-- A line with blanks behind it has a cut with the same occurrences, but for blanks. -/
theorem IsCut.append_blanks (h : IsCut line cut) (hblanks : IsBlank blanks) :
    ∃ longer, IsCut (line ++ blanks) longer ∧ longer.occurrences.map trim = cut.occurrences.map trim := by
  obtain ⟨first, parts⟩ := cut
  by_cases hnone : parts = []
  · subst hnone
    refine ⟨⟨first ++ blanks, []⟩, ⟨?_, List.not_mem_append h.first_free hblanks.unbracketed.1, .nil⟩, rfl⟩
    rw [← h.text_eq]
    simp [Cut.text, partsText]
  · obtain ⟨longer, hlonger, htext, hsame⟩ := h.parts.append_blanks hnone hblanks
    refine ⟨⟨first, longer⟩, ⟨?_, h.first_free, hlonger⟩, ?_⟩
    · rw [Cut.text, htext, ← List.append_assoc]
      exact congrArg (· ++ blanks) h.text_eq
    · rw [Cut.occurrences, Cut.occurrences, List.map_map, List.map_map]
      exact hsame

/-- **A line and the trimmed line have the same occurrences**, but for blanks. -/
theorem map_trim_occurrences (line : List Char) :
    (occurrences (trim line)).map trim = (occurrences line).map trim := by
  obtain ⟨before, after, hbefore, hafter, hline⟩ := trim_eq line
  obtain ⟨cut, hcut⟩ := exists_isCut (trim line)
  obtain ⟨longer, hlonger, hsame⟩ := hcut.append_blanks hafter
  rw [occurrences_of_isCut hcut, ← hsame, ← occurrences_of_isCut hlonger,
    ← occurrences_blanks_append hbefore, ← hline]

/-! ## Lines -/

/-- **A line has the tokens of the trimmed line.** -/
theorem lineTokens_trim (mode : ScanMode) (number : Nat) (line : List Char) :
    lineTokens mode number (trim line) = lineTokens mode number line := by
  cases mode with
  | tags =>
      have htokens : ∀ text, lineTokens .tags number text =
          ((occurrences text).map trim).map (classify · number) := by
        intro text
        rw [List.map_map]
        exact List.map_congr_left fun raw _ => (classify_trim raw number).symm
      rw [htokens, htokens, map_trim_occurrences]
  | lines => simp only [lineTokens, (isTight_trim line).trim_eq]

/-- The carriage return of a line break is a blank. -/
theorem trim_dropReturn (line : List Char) : trim (dropReturn line) = trim line := by
  unfold dropReturn
  cases hlast : withoutLast? '\r' line with
  | none => rfl
  | some init =>
      have hblank : IsBlank ['\r'] := List.forall_mem_singleton.2 (by decide)
      rw [withoutLast?_eq_some_iff.1 hlast]
      exact (trim_append_blanks init hblank).symm

theorem lineTokens_dropReturn (mode : ScanMode) (number : Nat) (line : List Char) :
    lineTokens mode number (dropReturn line) = lineTokens mode number (trim line) := by
  rw [← lineTokens_trim, trim_dropReturn]

/-- So have consecutive lines. -/
theorem linesTokens_map_trim (mode : ScanMode) (first : Nat) (lines : List (List Char)) :
    linesTokens mode first (lines.map trim) = linesTokens mode first lines := by
  induction lines generalizing first with
  | nil => rfl
  | cons line lines ih =>
      rw [List.map_cons, linesTokens_cons, linesTokens_cons, ih, lineTokens_dropReturn, lineTokens_dropReturn,
        (isTight_trim line).trim_eq]

/-! ## Documents -/

/-- **Documents with the same trimmed lines have the same tokens.** -/
theorem scan_eq_of_map_trim_eq {first second : List Char}
    (h : (first.splitOn '\n').map trim = (second.splitOn '\n').map trim) (mode : ScanMode) :
    scan mode first = scan mode second := by
  rw [scan_eq_linesTokens, ← linesTokens_map_trim, h, linesTokens_map_trim, ← scan_eq_linesTokens]

/-- A line with blanks on both sides of it. -/
structure Spaced where
  before : List Char
  line : List Char
  after : List Char
  before_blank : IsBlank before
  after_blank : IsBlank after
  newline_not_mem : '\n' ∉ before ++ (line ++ after)

/-- The whole line, blanks and all. -/
def Spaced.whole (spaced : Spaced) : List Char :=
  spaced.before ++ (spaced.line ++ spaced.after)

theorem Spaced.trim_whole (spaced : Spaced) : trim spaced.whole = trim spaced.line :=
  trim_between_blanks spaced.before_blank spaced.after_blank spaced.line

/-- So the line without its blanks holds no line feed either. -/
theorem Spaced.newline_not_mem_line (spaced : Spaced) : '\n' ∉ spaced.line := by
  intro hmem
  exact spaced.newline_not_mem (List.mem_append_right _ (List.mem_append_left _ hmem))

/-- Blanks on both sides of the lines of a document change nothing. -/
theorem scan_spaced (mode : ScanMode) (lines : List Spaced) :
    scan mode (['\n'].intercalate (lines.map Spaced.whole)) =
      scan mode (['\n'].intercalate (lines.map Spaced.line)) := by
  by_cases hnil : lines = []
  · rw [hnil]
    rfl
  · apply scan_eq_of_map_trim_eq
    have hwhole : ∀ line ∈ lines.map Spaced.whole, '\n' ∉ line :=
      List.forall_mem_map.2 fun spaced _ => spaced.newline_not_mem
    have hline : ∀ line ∈ lines.map Spaced.line, '\n' ∉ line :=
      List.forall_mem_map.2 fun spaced _ => spaced.newline_not_mem_line
    rw [List.splitOn_intercalate '\n' hwhole (by simpa using hnil),
      List.splitOn_intercalate '\n' hline (by simpa using hnil), List.map_map, List.map_map]
    exact List.map_congr_left fun spaced _ => spaced.trim_whole

/-- **Blanks round lines never matter.** If two documents have as many lines, and each line of the one is trimmed to
the same text as that of the other, a scan finds the same tokens on the same lines in both, and a check the same
defects. So blanks may be put on both sides of the lines of a document; tabulators, carriage returns and the blanks
beyond ASCII are among them. -/
theorem scan_ignores_margins :
    (∀ first second : List Char, (first.splitOn '\n').map trim = (second.splitOn '\n').map trim →
      (∀ mode, scan mode first = scan mode second) ∧
        ∀ settings, check settings first = check settings second) ∧
      (∀ mode (lines : List Spaced), scan mode (['\n'].intercalate (lines.map Spaced.whole)) =
        scan mode (['\n'].intercalate (lines.map Spaced.line))) ∧
      ∀ c ∈ [' ', '\t', '\r', '\u0085', '\u00a0', '\u2028'], isWhiteSpace c = true := by
  refine ⟨?_, scan_spaced, ?_⟩
  · intro first second h
    have hscan : ∀ mode, scan mode first = scan mode second := scan_eq_of_map_trim_eq h
    refine ⟨hscan, ?_⟩
    intro settings
    rw [check, check, hscan]
  · simp only [List.forall_mem_cons, List.not_mem_nil, false_implies, implies_true, and_true]
    decide

/-- An indented document with carriage returns, one of them too many, and an occurrence that is not closed. -/
theorem scan_ignores_margins_indented :
    let plain := "<a>\n</a\n x <b>".toList
    let indented := "\t<a>\r\r\n\u00a0</a \u2028\r\n x <b>\u0085\r".toList
    (indented.splitOn '\n').map trim = (plain.splitOn '\n').map trim ∧
      scan .tags indented = [⟨.opening, "a", 1⟩, ⟨.malformed, "</a", 2⟩, ⟨.opening, "b", 3⟩] ∧
      check {} indented = check {} plain := by
  intro plain indented
  have hlines : (indented.splitOn '\n').map trim = (plain.splitOn '\n').map trim := by decide +kernel
  obtain ⟨hscan, hcheck⟩ := scan_ignores_margins.1 indented plain hlines
  refine ⟨hlines, ?_, hcheck {}⟩
  rw [hscan]
  decide +kernel

end TagNesting
