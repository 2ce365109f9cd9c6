import TagNesting.Proofs.Scanner.Margins

/-!
# `Proofs.Scanner.Modes` — where both scan modes agree

A document may be scanned as lines, each of which holds one occurrence or text, or as tags with text between them. The
modes look for the ends of an occurrence in different places: at the ends of the trimmed line, or at brackets. A line
that has one of the shapes of a tag has a bracket at each end and none between, so both find the same occurrence
(`lineTokens_of_shaped`), and neither finds one in a line without `<` (`lineTokens_of_not_mem`). If a document has no
other lines, its tokens are the same in both modes.
-/

namespace TagNesting

open Text

variable {line name : List Char} {kind : Token.Kind}

/-- What is not malformed comes from the grammar. -/
theorem exists_shaped_of_kind_ne {raw : List Char} {number : Nat} (h : (classify raw number).kind ≠ .malformed) :
    ∃ kind name, Shaped (trim raw) kind name := by
  rcases classify_cases raw number with ⟨kind, name, hshaped, -⟩ | ⟨-, htoken⟩
  · exact ⟨kind, name, hshaped⟩
  · rw [htoken] at h
    exact absurd rfl h

/-- **A line with the shape of a tag has one token**, in either mode. -/
theorem lineTokens_of_shaped (mode : ScanMode) (number : Nat) (h : Shaped (trim line) kind name) :
    lineTokens mode number line = [classify line number] := by
  have hoccurrence : IsOccurrence (trim line) := Or.inl h.isClosed
  rw [← lineTokens_trim, ← classify_trim]
  cases mode with
  | tags => rw [lineTokens, hoccurrence.occurrences_eq, List.map_singleton]
  | lines => simp only [lineTokens, (isTight_trim line).trim_eq, if_pos hoccurrence.head?_eq]

/-- A line without `<` has none, in either mode. -/
theorem lineTokens_of_not_mem (mode : ScanMode) (number : Nat) (h : '<' ∉ line) :
    lineTokens mode number line = [] := by
  cases mode with
  | tags => rw [lineTokens, occurrences_of_none (cutOccurrence?_of_not_mem h), List.map_nil]
  | lines =>
      have hhead : (trim line).head? ≠ some '<' := fun hhead =>
        h ((trim_sublist line).subset (List.mem_of_head? hhead))
      simp only [lineTokens, if_neg hhead]

/-- A line that is text or has the shape of a tag has the same tokens in both modes. -/
theorem lineTokens_tags_eq_lines {number : Nat}
    (h : '<' ∈ line → (classify (trim line) number).kind ≠ .malformed) :
    lineTokens .tags number line = lineTokens .lines number line := by
  by_cases hopen : '<' ∈ line
  · have hkind := h hopen
    rw [classify_trim] at hkind
    obtain ⟨kind, name, hshaped⟩ := exists_shaped_of_kind_ne hkind
    rw [lineTokens_of_shaped _ _ hshaped, lineTokens_of_shaped _ _ hshaped]
  · rw [lineTokens_of_not_mem _ _ hopen, lineTokens_of_not_mem _ _ hopen]

/-- **Both modes agree on well-shaped lines.** If a line that is read as a whole has a token that is not malformed,
this is its only token when it is read as tags. So if each line of a document that holds a `<` has one of the shapes
of a tag once it is trimmed, a scan finds the same tokens in both modes, and a check the same defects under either
policy. -/
theorem modes_agree_on_shaped :
    (∀ number line, ∀ token ∈ lineTokens .lines number line, token.kind ≠ .malformed →
      lineTokens .tags number line = [token]) ∧
      ∀ text : List Char,
        (∀ line number, (line, number) ∈ (text.splitOn '\n').zipIdx 1 → '<' ∈ line →
          (classify (trim line) number).kind ≠ .malformed) →
        scan .tags text = scan .lines text ∧
          ∀ policy, check ⟨policy, .tags⟩ text = check ⟨policy, .lines⟩ text := by
  refine ⟨?_, ?_⟩
  · intro number line token htoken hkind
    simp only [lineTokens] at htoken
    split at htoken
    · obtain rfl := List.mem_singleton.1 htoken
      rw [classify_trim] at hkind ⊢
      obtain ⟨kind, name, hshaped⟩ := exists_shaped_of_kind_ne hkind
      exact lineTokens_of_shaped .tags number hshaped
    · exact absurd htoken List.not_mem_nil
  · intro text h
    have hscan : scan .tags text = scan .lines text := by
      rw [scan_eq_linesTokens, scan_eq_linesTokens, linesTokens, linesTokens, List.flatMap_def,
        List.flatMap_def]
      refine congrArg List.flatten (List.map_congr_left ?_)
      rintro ⟨line, number⟩ hmem
      -- the line is trimmed in either case, so its line break makes no difference
      show lineTokens .tags number (dropReturn line) = lineTokens .lines number (dropReturn line)
      rw [lineTokens_dropReturn, lineTokens_dropReturn, lineTokens_trim, lineTokens_trim]
      exact lineTokens_tags_eq_lines (h line number hmem)
    refine ⟨hscan, ?_⟩
    intro policy
    rw [check, check, hscan]

/-- A line with blanks in and round a tag, and a document with a line of each shape, and text. -/
theorem modes_agree_on_shaped_each :
    let line := "\t<b / >\u00a0".toList
    let text := "<?xml?>\n <a x='/'>\r\n1 > 0\n<b / >\t\n</b >\n<c/>\n</a>".toList
    (⟨.opening, "b", 4⟩ ∈ lineTokens .lines 4 line ∧ lineTokens .tags 4 line = [⟨.opening, "b", 4⟩]) ∧
      (∀ line number, (line, number) ∈ (text.splitOn '\n').zipIdx 1 → '<' ∈ line →
        (classify (trim line) number).kind ≠ .malformed) ∧
      scan .tags text = scan .lines text ∧
      check ⟨.report, .lines⟩ text = [] ∧
      check ⟨.report, .tags⟩ text = check ⟨.report, .lines⟩ text := by
  intro line text
  have hone : ⟨.opening, "b", 4⟩ ∈ lineTokens .lines 4 line := by decide +kernel
  have hshapes : ∀ entry ∈ (text.splitOn '\n').zipIdx 1, '<' ∈ entry.1 →
      (classify (trim entry.1) entry.2).kind ≠ .malformed := by
    decide +kernel
  have hlines : ∀ line number, (line, number) ∈ (text.splitOn '\n').zipIdx 1 → '<' ∈ line →
      (classify (trim line) number).kind ≠ .malformed :=
    fun line number hmem => hshapes (line, number) hmem
  obtain ⟨htokens, hdocuments⟩ := modes_agree_on_shaped
  obtain ⟨hscan, hcheck⟩ := hdocuments text hlines
  exact ⟨⟨hone, htokens 4 line _ hone (by decide)⟩, hlines, hscan, by decide +kernel, hcheck .report⟩

end TagNesting
