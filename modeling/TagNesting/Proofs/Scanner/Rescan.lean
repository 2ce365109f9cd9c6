import TagNesting.Proofs.Scanner.Shift
import TagNesting.Proofs.Token.Numbered
import TagNesting.Proofs.Token.Print

/-!
# `Proofs.Scanner.Rescan` — a document made of tokens

The tokens of a document, written out on a line each, are a document again, and a scan of it in the same mode finds
these tokens. Only the lines that they stand on are others: each token stands on the line of its own number.

Whatever a scan finds, in either mode, is written out on one line and is the only token there (`OnOneLine`). That is
shown for one line of a document (`onOneLine_of_mem_lineTokens`), where the modes differ: a line of tags is cut into
occurrences, and an occurrence that is written out is the only one on its line; elsewhere the whole line is trimmed,
and what has been trimmed begins with the same bracket. The lines are then numbered one by one
(`linesTokens_print`), and it makes no difference whether a line feed stands behind the last of them.
-/

namespace TagNesting

open Text

variable {mode : ScanMode} {token : Token} {tokens : List Token}

/-! ## One token -/

/-- Written out, the token takes one line and is the only one on it. -/
structure OnOneLine (mode : ScanMode) (token : Token) : Prop where
  newline_not_mem : '\n' ∉ token.print
  lineTokens_eq : ∀ number, lineTokens mode number (dropReturn token.print) = [{ token with line := number }]

/-- A tight line has no line break to be taken off. -/
theorem dropReturn_of_isTight {line : List Char} (h : IsTight line) : dropReturn line = line := by
  have hnone : withoutLast? '\r' line = none := by
    rw [withoutLast?_eq_none_iff]
    intro hlast
    exact absurd (h.last '\r' hlast) (by decide)
  rw [dropReturn, hnone]
  rfl

/-- **What a line holds, each for itself holds a line.** -/
theorem onOneLine_of_mem_lineTokens {number : Nat} {line : List Char} (hline : '\n' ∉ line)
    (h : token ∈ lineTokens mode number line) : OnOneLine mode token := by
  cases mode with
  | tags =>
      obtain ⟨raw, hraw, rfl⟩ := List.mem_map.1 h
      obtain ⟨hoccurrence, hsublist⟩ := isOccurrence_of_mem hraw
      refine ⟨fun hmem => hline (((print_sublist raw number).trans hsublist).subset hmem), ?_⟩
      intro other
      rw [dropReturn_of_isTight (isTight_print raw number), lineTokens,
        (isOccurrence_print hoccurrence number).occurrences_eq, List.map_singleton, classify_print]
  | lines =>
      simp only [lineTokens] at h
      split at h
      · next hhead =>
          obtain rfl := List.mem_singleton.1 h
          have hsublist := (print_sublist (trim line) number).trans (trim_sublist line)
          have htight := isTight_print (trim line) number
          refine ⟨fun hmem => hline (hsublist.subset hmem), ?_⟩
          intro other
          -- the line has been trimmed already, and is not changed by being trimmed again
          have hbracket : (classify (trim line) number).print.head? = some '<' := by
            apply head?_print
            rw [(isTight_trim line).trim_eq]
            exact hhead
          simp only [dropReturn_of_isTight htight, lineTokens, htight.trim_eq, if_pos hbracket, classify_print]
      · exact absurd h List.not_mem_nil

/-- So does whatever a scan finds. -/
theorem onOneLine_of_mem_scan {text : List Char} (h : token ∈ scan mode text) : OnOneLine mode token := by
  rw [scan_eq_linesTokens] at h
  obtain ⟨⟨piece, number⟩, hpiece, htoken⟩ := List.mem_flatMap.1 h
  have hnone : '\n' ∉ piece := newline_not_mem_splitOn text piece (List.fst_mem_of_mem_zipIdx hpiece)
  exact onOneLine_of_mem_lineTokens (fun hbreak => hnone ((dropReturn_starts piece).subset hbreak)) htoken

/-- So its name does not go beyond a line. -/
theorem newline_not_mem_name_of_mem_scan {text : List Char} (h : token ∈ scan mode text) :
    '\n' ∉ token.name.toList := by
  intro hname
  apply (onOneLine_of_mem_scan h).newline_not_mem
  show '\n' ∈ token.kind.print token.name.toList
  cases token.kind <;> simp [Token.Kind.print, hname]

/-! ## All of them -/

/-- **Lines with a token each have these tokens**, numbered as the lines are. -/
theorem linesTokens_print (h : ∀ token ∈ tokens, OnOneLine mode token) (first : Nat) :
    linesTokens mode first (tokens.map Token.print) = numbered first tokens := by
  induction tokens generalizing first with
  | nil => rfl
  | cons token tokens ih =>
      obtain ⟨htoken, htokens⟩ := List.forall_mem_cons.1 h
      rw [List.map_cons, linesTokens_cons, htoken.lineTokens_eq, ih htokens, numbered_cons]
      rfl

theorem newline_not_mem_print (h : ∀ token ∈ tokens, OnOneLine mode token) :
    ∀ line ∈ tokens.map Token.print, '\n' ∉ line := by
  intro line hline
  obtain ⟨token, htoken, rfl⟩ := List.mem_map.1 hline
  exact (h token htoken).newline_not_mem

/-- With a line feed behind each line. -/
theorem scan_joinLines_print (h : ∀ token ∈ tokens, OnOneLine mode token) :
    scan mode (joinLines (tokens.map Token.print)) = numbered 1 tokens := by
  rw [scan_of_ended (joinLines_ended _), splitLines_joinLines (newline_not_mem_print h), linesTokens_print h]

/-- With a line feed between the lines. -/
theorem scan_intercalate_print (h : ∀ token ∈ tokens, OnOneLine mode token) :
    scan mode (['\n'].intercalate (tokens.map Token.print)) = numbered 1 tokens := by
  rw [scan_eq_linesTokens]
  by_cases hnil : tokens = []
  · -- nothing is written out, and one empty line is scanned
    rw [hnil]
    exact (linesTokens_singleton mode 1 []).trans (lineTokens_nil mode 1)
  · rw [List.splitOn_intercalate '\n' (newline_not_mem_print h) (by simpa using hnil), linesTokens_print h]

/-- **Scanning what a scan has found finds it again.** If the tokens of a text are written out on a line each, with
or without a line feed behind the last line, a scan in the same mode finds as many tokens, of the same kinds and names
and in the same order, each on the line of its own number. -/
theorem scan_print (mode : ScanMode) (text : List Char) :
    let tokens := scan mode text
    let again := (tokens.zipIdx 1).map fun (token, number) => { token with line := number }
    scan mode (joinLines (tokens.map Token.print)) = again ∧
      scan mode (['\n'].intercalate (tokens.map Token.print)) = again := by
  intro tokens again
  have hlines : ∀ token ∈ tokens, OnOneLine mode token := fun _ htoken => onOneLine_of_mem_scan htoken
  exact ⟨scan_joinLines_print hlines, scan_intercalate_print hlines⟩

/-- What stands beside a name is left out, and a malformed occurrence keeps its brackets. -/
example : (scan .tags "<a x>\n <<c>>\t</d >".toList).map Token.print =
    ["<a>".toList, "<<c>>".toList, "</d>".toList] := by
  decide +kernel

end TagNesting
