import TagNesting.Proofs.Scanner.Pieces
import TagNesting.Proofs.Token.Cut
import TagNesting.Proofs.Token.Grammar

/-!
# `Proofs.Scanner.Lines` — what a scan is, line by line

The scanner keeps a rest and a number of lines, and looks along each line for the next occurrence. None of this shows
in what it returns: the text is taken apart at its line feeds, and the tokens of the pieces follow each other, each
with the number of its piece (`scan_eq_linesTokens`). A line of a document of tags gives one token for each occurrence
of its cut, and it has only one cut.

A `<` anywhere in a document stands in one of the lines, and there in one of the occurrences (`Covers`); so no tag is
skipped, and none is read twice (`exists_unique_covers`).
-/

namespace TagNesting

open Text

/-! ## Lines -/

theorem line_of_mem_lineTokens {mode : ScanMode} {number : Nat} {line : List Char} {token : Token}
    (h : token ∈ lineTokens mode number line) : token.line = number := by
  cases mode with
  | tags =>
      obtain ⟨occurrence, -, rfl⟩ := List.mem_map.1 h
      exact line_classify occurrence number
  | lines =>
      simp only [lineTokens] at h
      split at h
      · rw [List.mem_singleton.1 h]
        exact line_classify _ number
      · exact absurd h List.not_mem_nil

/-- An empty line has no tokens. -/
theorem lineTokens_nil (mode : ScanMode) (number : Nat) : lineTokens mode number [] = [] := by
  cases mode with
  | tags =>
      have hnone : occurrences [] = [] := occurrences_of_none rfl
      rw [lineTokens, hnone, List.map_nil]
  | lines => rfl

theorem linesTokens_singleton (mode : ScanMode) (number : Nat) (line : List Char) :
    linesTokens mode number [line] = lineTokens mode number (dropReturn line) :=
  List.append_nil _

/-- **A scan is the tokens of what stands between the line feeds**, numbered from one. -/
theorem scan_eq_linesTokens (mode : ScanMode) (text : List Char) :
    scan mode text = linesTokens mode 1 (text.splitOn '\n') := by
  rw [Scanner.scan_eq, splitOn_newline, linesTokens_append, linesTokens_singleton, Scanner.completeTokens]
  congr 1
  show (if (splitLines text).2.isEmpty then [] else _) = _
  cases hrest : (splitLines text).2 with
  | nil =>
      -- nothing stands behind the last line feed, and there are no tokens in it
      exact (lineTokens_nil mode _).symm
  | cons c rest =>
      rw [List.isEmpty_cons, if_neg Bool.false_ne_true, Nat.add_comm]
      exact congrArg (fun line => lineTokens mode (1 + (splitLines text).1.length) (dropReturn line)) hrest

/-! ## Where a `<` stands -/

/-- Where the line with this number begins in a text, counting from zero. -/
def lineStart (text : List Char) (number : Nat) : Nat :=
  (joinLines ((text.splitOn '\n').take number)).length

/-- The occurrence at this place, a line and the index of an occurrence in it, takes in the position of the text. -/
def Covers (text : List Char) (place : Nat × Nat) (position : Nat) : Prop :=
  ∃ piece cut, (text.splitOn '\n')[place.1]? = some piece ∧ IsCut (dropReturn piece) cut ∧
    lineStart text place.1 ≤ position ∧ cut.Covers place.2 (position - lineStart text place.1)

/-- The lines of a text as blocks, each with a line feed behind it. -/
def lineBlocks (text : List Char) : List (List Char) :=
  (text.splitOn '\n').map (· ++ ['\n'])

theorem flatten_lineBlocks (text : List Char) : (lineBlocks text).flatten = text ++ ['\n'] := by
  rw [lineBlocks, ← List.flatMap_def]
  exact joinLines_splitOn text

theorem length_take_lineBlocks (text : List Char) (number : Nat) :
    ((lineBlocks text).take number).flatten.length = lineStart text number := by
  rw [lineBlocks, ← List.map_take, ← List.flatMap_def]
  rfl

/-- What an occurrence of a line takes in lies in the block of the line. -/
theorem Covers.inBlock {text : List Char} {place : Nat × Nat} {position : Nat} (h : Covers text place position) :
    ∃ column block, InBlock (lineBlocks text) position place.1 column block := by
  obtain ⟨piece, cut, hpiece, hcut, hle, hcovers⟩ := h
  have hcolumn : position - lineStart text place.1 < (dropReturn piece).length := hcut.lt_of_covers hcovers
  have hlength := (dropReturn_starts piece).length_le
  have hstart := length_take_lineBlocks text place.1
  refine ⟨position - lineStart text place.1, piece ++ ['\n'], ?_, ?_, ?_⟩
  · rw [lineBlocks, List.getElem?_map, hpiece]
    rfl
  · rw [List.length_append]
    omega
  · omega

/-- **Each `<` of a text stands in exactly one occurrence.** -/
theorem exists_unique_covers {text : List Char} {position : Nat} (h : text[position]? = some '<') :
    ∃! place, Covers text place position := by
  have hlt : position < text.length := (List.getElem?_eq_some_iff.1 h).1
  have hin : position < (lineBlocks text).flatten.length := by
    rw [flatten_lineBlocks, List.length_append]
    omega
  obtain ⟨number, column, block, hblock⟩ := exists_inBlock hin
  have hopen : block[column]? = some '<' := by
    rw [← hblock.getElem?_eq, flatten_lineBlocks, List.getElem?_append_left hlt]
    exact h
  have hpiece := hblock.block_eq
  rw [lineBlocks, List.getElem?_map, Option.map_eq_some_iff] at hpiece
  obtain ⟨piece, hpiece, rfl⟩ := hpiece
  -- the `<` is neither the line feed behind the line nor the carriage return at its end
  have hcolumn : piece[column]? = some '<' := by
    rcases Nat.lt_or_ge column piece.length with hinner | hge
    · rwa [List.getElem?_append_left hinner] at hopen
    · rw [List.getElem?_append_right hge] at hopen
      exact absurd (List.mem_singleton.1 (List.mem_of_getElem? hopen)) (by decide)
  have hline : (dropReturn piece)[column]? = some '<' := getElem?_dropReturn (by decide) hcolumn
  obtain ⟨cut, hcut⟩ := exists_isCut (dropReturn piece)
  obtain ⟨index, hindex, honly⟩ := hcut.exists_unique_covers hline
  have hposition : position - lineStart text number = column := by
    have hstart := length_take_lineBlocks text number
    have heq := hblock.position_eq
    omega
  refine ⟨(number, index), ⟨piece, cut, hpiece, hcut, ?_, ?_⟩, ?_⟩
  · have hstart := length_take_lineBlocks text number
    have heq := hblock.position_eq
    show lineStart text number ≤ position
    omega
  · show cut.Covers index (position - lineStart text number)
    rwa [hposition]
  · rintro ⟨number', index'⟩ hother
    obtain ⟨column', block', hblock'⟩ := hother.inBlock
    have hnumber : number' = number := hblock'.unique hblock
    subst hnumber
    obtain ⟨piece', cut', hpiece', hcut', -, hcovers'⟩ := hother
    cases hpiece'.symm.trans hpiece
    obtain rfl : cut' = cut := hcut'.unique hcut
    have hindex' : cut'.Covers index' column := by
      rw [← hposition]
      exact hcovers'
    rw [honly index' hindex']

/-! ## The scan of a text -/

/-- **A scan, line by line and cut by cut.** The tokens of a text are those of the lines between its line feeds, one
after the other, each on its line. In a document of lines, a line has the token of its trimmed text if that begins
with `<`, and none otherwise. In a document of tags, a line has one cut, and its tokens are those of the occurrences
in it; an occurrence that is not closed, that holds a second `<`, or that is closed by more than one `>` is malformed.
Each `<` of the text stands in exactly one occurrence. -/
theorem scan_by_lines_and_cuts (text : List Char) :
    (∀ mode, scan mode text =
      ((text.splitOn '\n').zipIdx 1).flatMap fun (piece, number) => lineTokens mode number (dropReturn piece)) ∧
    (∀ mode number line, ∀ token ∈ lineTokens mode number line, token.line = number) ∧
    (∀ number line, lineTokens .lines number line =
      if (trim line).head? = some '<' then [classify (trim line) number] else []) ∧
    (∀ number line, ∃ cut, IsCut line cut ∧ (∀ other, IsCut line other → other = cut) ∧
      lineTokens .tags number line = cut.occurrences.map (classify · number) ∧
      ∀ occurrence ∈ cut.occurrences,
        IsUnclosed occurrence ∨ 1 < occurrence.count '<' ∨ 1 < occurrence.count '>' →
          (classify occurrence number).kind = .malformed) ∧
    ∀ position, text[position]? = some '<' → ∃! place, Covers text place position := by
  refine ⟨?_, ?_, ?_, ?_, ?_⟩
  · intro mode
    exact scan_eq_linesTokens mode text
  · intro mode number line token htoken
    exact line_of_mem_lineTokens htoken
  · intro number line
    rfl
  · intro number line
    obtain ⟨cut, hcut⟩ := exists_isCut line
    refine ⟨cut, hcut, fun other hother => hother.unique hcut, ?_, ?_⟩
    · rw [lineTokens, occurrences_of_isCut hcut]
    · rintro occurrence - (hunclosed | hopen | hclose)
      · apply malformed_of_count
        right
        obtain ⟨hbody⟩ := hunclosed
        rw [List.count_cons_of_ne (by decide), List.count_eq_zero.2 hbody]
        decide
      · exact malformed_of_count (Or.inl (Nat.ne_of_gt hopen)) number
      · exact malformed_of_count (Or.inr (Nat.ne_of_gt hclose)) number
  · intro position hposition
    exact exists_unique_covers hposition

end TagNesting
