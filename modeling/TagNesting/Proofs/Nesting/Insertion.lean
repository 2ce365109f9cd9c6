import TagNesting.Proofs.Checker.Relabel
import TagNesting.Proofs.Nesting.Invisible
import TagNesting.Proofs.Scanner.Shift

/-!
# `Proofs.Nesting.Insertion` — well nested lines put into a document

Lines whose tags match up can be put between any two lines of a document, and its findings stay what they were; those
about later lines only tell the new line numbers. Three facts come together here: the scanner numbers what comes
behind complete lines on from there (`scan_append`), a checker does not see what is well nested
(`feedAll_of_wellNested`), and it never looks at a line (`Relabelling.findings_map`).

The lines of a document without the inserted ones are turned into those of the document with them by one function
(`Relabelling.makingRoom`), whatever the tokens are (`scan_around`).
-/

namespace TagNesting

/-! ## New line numbers -/

/-- Every line comes so much later. -/
def Relabelling.later (count : Nat) : Relabelling where
  name := id
  line := (· + count)
  name_injective := id

/-- Room for `count` lines behind the first `limit` lines: the lines behind them come so much later. -/
def Relabelling.makingRoom (limit count : Nat) : Relabelling where
  name := id
  line := fun line => if limit < line then line + count else line
  name_injective := id

variable {limit count : Nat}

theorem Relabelling.token_makingRoom_of_le {token : Token} (h : token.line ≤ limit) :
    (makingRoom limit count).token token = token := by
  have hline : (makingRoom limit count).line token.line = token.line := if_neg (Nat.not_lt.2 h)
  rw [Relabelling.token, hline]
  rfl

theorem Relabelling.token_makingRoom_of_lt {token : Token} (h : limit < token.line) :
    (makingRoom limit count).token token = token.later count := by
  have hline : (makingRoom limit count).line token.line = token.line + count := if_pos h
  rw [Relabelling.token, hline]
  rfl

theorem Relabelling.finding_makingRoom (finding : Finding) :
    (makingRoom limit count).finding finding =
      if limit < finding.line then { finding with line := finding.line + count } else finding := by
  by_cases h : limit < finding.line
  · have hline : (makingRoom limit count).line finding.line = finding.line + count := if_pos h
    rw [Relabelling.finding, hline, if_pos h]
    rfl
  · have hline : (makingRoom limit count).line finding.line = finding.line := if_neg h
    rw [Relabelling.finding, hline, if_neg h]
    rfl

/-- Tokens that all come so much later are as well nested as before. -/
theorem WellNested.later {tokens : List Token} (h : WellNested tokens) (count : Nat) :
    WellNested (tokens.map (.later count)) :=
  h.relabel (Relabelling.later count)

/-! ## Room between two lines -/

/-- **Making room moves the tokens behind the room, and no others.** -/
theorem scan_around {before : List Char} (h : before = [] ∨ before.getLast? = some '\n') (mode : ScanMode)
    (after : List Char) (count : Nat) :
    (scan mode (before ++ after)).map (Relabelling.makingRoom (before.count '\n') count).token =
      scan mode before ++ ((scan mode after).map (.later count)).map (.later (before.count '\n')) := by
  have hbefore : (scan mode before).map (Relabelling.makingRoom (before.count '\n') count).token =
      scan mode before := by
    apply (List.map_congr_left _).trans (List.map_id _)
    intro token htoken
    exact Relabelling.token_makingRoom_of_le (line_le_of_mem_scan h htoken)
  have hafter : ((scan mode after).map (.later (before.count '\n'))).map
      (Relabelling.makingRoom (before.count '\n') count).token =
        ((scan mode after).map (.later count)).map (.later (before.count '\n')) := by
    rw [List.map_map, List.map_map]
    apply List.map_congr_left
    intro token htoken
    have hroom : before.count '\n' < (token.later (before.count '\n')).line :=
      Nat.lt_add_of_pos_left (line_pos_of_mem_scan htoken)
    show (Relabelling.makingRoom _ count).token (token.later _) = (token.later count).later _
    rw [Relabelling.token_makingRoom_of_lt hroom, Token.later_later, Token.later_later, Nat.add_comm]
  rw [scan_append h, List.map_append, hbefore, hafter]

/-- **Well nested lines only shift the lines behind them.** Put between two lines of a document, they change its
findings in nothing but the numbers of the lines that come after them. -/
theorem check_insert_wellNested (settings : Settings) {before block : List Char}
    (hbefore : before = [] ∨ before.getLast? = some '\n') (hblock : block = [] ∨ block.getLast? = some '\n')
    (hnested : WellNested (scan settings.mode block)) (after : List Char) :
    check settings (before ++ block ++ after) =
      (check settings (before ++ after)).map fun finding =>
        if before.count '\n' < finding.line then { finding with line := finding.line + block.count '\n' }
        else finding := by
  have hfinding : (fun finding : Finding =>
      if before.count '\n' < finding.line then { finding with line := finding.line + block.count '\n' }
      else finding) = (Relabelling.makingRoom (before.count '\n') (block.count '\n')).finding :=
    funext fun finding => (Relabelling.finding_makingRoom finding).symm
  unfold check
  rw [hfinding, ← Relabelling.findings_map, scan_around hbefore, List.append_assoc, scan_append hbefore,
    scan_append hblock, List.map_append]
  unfold findings
  rw [Checker.feedAll_append, Checker.feedAll_append, Checker.feedAll_append,
    feedAll_of_wellNested settings.policy (hnested.later (before.count '\n'))]

/-- A finding on either side of the inserted lines: the one behind them moves, the other does not. -/
theorem check_insert_wellNested_pair :
    WellNested (scan .tags "<b>\n</b>\n".toList) ∧
      check {} ("</x>\n<a>\n".toList ++ "</a>\n<c>".toList) =
        [⟨.missingStart, 1, "x"⟩, ⟨.missingEnd, 4, "c"⟩] ∧
      check {} ("</x>\n<a>\n".toList ++ "<b>\n</b>\n".toList ++ "</a>\n<c>".toList) =
        [⟨.missingStart, 1, "x"⟩, ⟨.missingEnd, 6, "c"⟩] := by
  have hnested : WellNested (scan .tags "<b>\n</b>\n".toList) := by
    have hscan : scan .tags "<b>\n</b>\n".toList = [⟨.opening, "b", 1⟩, ⟨.closing, "b", 2⟩] := by decide +kernel
    rw [hscan]
    exact WellNested.nil.wrap "b" 1 2
  have hwithout : check {} ("</x>\n<a>\n".toList ++ "</a>\n<c>".toList) =
      [⟨.missingStart, 1, "x"⟩, ⟨.missingEnd, 4, "c"⟩] := by
    decide +kernel
  refine ⟨hnested, hwithout, ?_⟩
  rw [check_insert_wellNested {} (.inr rfl) (.inr rfl) hnested, hwithout]
  rfl

end TagNesting
