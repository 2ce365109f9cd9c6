import TagNesting.Text.Line

/-!
# `Proofs.Text.Line` — lines and the text they come from

`splitLines` takes a text apart and `joinLines` puts lines together again, each with its line feed. The first
part of this file relates the two: nothing is lost in splitting, no line holds a line feed, and what has been
joined splits into the same lines.

The second part is about a text that goes on. `splitLines_append` says that splitting may stop anywhere and go
on from the unfinished rest, which is all that a text in pieces needs. What has come in complete lines by then is
the longest part of the text from its beginning that is empty or ends with a line feed (`IsCompletePart`).
-/

namespace TagNesting.Text

/-- Lines one after the other, each with its line feed. -/
def joinLines (lines : List (List Char)) : List Char :=
  lines.flatMap (· ++ ['\n'])

@[simp] theorem joinLines_cons (line : List Char) (lines : List (List Char)) :
    joinLines (line :: lines) = line ++ '\n' :: joinLines lines := by
  rw [joinLines, List.flatMap_cons, List.append_assoc]
  rfl

/-! ## Splitting and joining -/

/-- What `consSplit` does in front of a line feed and elsewhere. -/
theorem consSplit_newline (split : List (List Char) × List Char) :
    consSplit '\n' split = ([] :: split.1, split.2) := rfl

theorem consSplit_nil {c : Char} (h : c ≠ '\n') (rest : List Char) :
    consSplit c ([], rest) = ([], c :: rest) := if_neg h

theorem consSplit_cons {c : Char} (h : c ≠ '\n') (line rest : List Char) (lines : List (List Char)) :
    consSplit c (line :: lines, rest) = ((c :: line) :: lines, rest) := if_neg h

/-- Nothing is lost: the lines with their line feeds, and then the rest, are the text. -/
theorem joinLines_splitLines (text : List Char) :
    joinLines (splitLines text).1 ++ (splitLines text).2 = text := by
  induction text with
  | nil => rfl
  | cons c text ih =>
      rw [splitLines_cons]
      by_cases hc : c = '\n'
      · subst hc
        rw [consSplit_newline, joinLines_cons, List.nil_append, List.cons_append, ih]
      · rcases hsplit : splitLines text with ⟨_ | ⟨line, lines⟩, rest⟩
        · rw [hsplit] at ih
          rw [consSplit_nil hc]
          exact congrArg (c :: ·) ih
        · rw [hsplit] at ih
          rw [consSplit_cons hc, joinLines_cons]
          rw [joinLines_cons] at ih
          exact congrArg (c :: ·) ih

/-- No line holds a line feed, and neither does the rest. -/
theorem newline_not_mem_splitLines (text : List Char) :
    (∀ line ∈ (splitLines text).1, '\n' ∉ line) ∧ '\n' ∉ (splitLines text).2 := by
  induction text with
  | nil => exact ⟨fun _ hline => absurd hline List.not_mem_nil, List.not_mem_nil⟩
  | cons c text ih =>
      rw [splitLines_cons]
      by_cases hc : c = '\n'
      · subst hc
        exact ⟨List.forall_mem_cons.2 ⟨List.not_mem_nil, ih.1⟩, ih.2⟩
      · have hne : '\n' ≠ c := Ne.symm hc
        rcases hsplit : splitLines text with ⟨_ | ⟨line, lines⟩, rest⟩
        · rw [hsplit] at ih
          rw [consSplit_nil hc]
          exact ⟨ih.1, List.not_mem_cons_of_ne_of_not_mem hne ih.2⟩
        · rw [hsplit] at ih
          rw [consSplit_cons hc]
          obtain ⟨hline, hlines⟩ := List.forall_mem_cons.1 ih.1
          exact ⟨List.forall_mem_cons.2 ⟨List.not_mem_cons_of_ne_of_not_mem hne hline, hlines⟩, ih.2⟩

/-- Lines that have been joined split again into themselves, and leave what is behind them. -/
theorem splitLines_joinLines_append {lines : List (List Char)} {rest : List Char} (h : ∀ line ∈ lines, '\n' ∉ line)
    (hrest : '\n' ∉ rest) : splitLines (joinLines lines ++ rest) = (lines, rest) := by
  induction lines with
  | nil => exact splitLines_of_not_mem hrest
  | cons line lines ih =>
      obtain ⟨hline, hlines⟩ := List.forall_mem_cons.1 h
      rw [joinLines_cons, List.append_assoc, List.cons_append, splitLines_append_newline hline, ih hlines]

theorem splitLines_joinLines {lines : List (List Char)} (h : ∀ line ∈ lines, '\n' ∉ line) :
    splitLines (joinLines lines) = (lines, []) := by
  rw [← List.append_nil (joinLines lines)]
  exact splitLines_joinLines_append h List.not_mem_nil

/-- There are as many complete lines as line feeds. -/
theorem length_splitLines (text : List Char) : (splitLines text).1.length = text.count '\n' := by
  induction text with
  | nil => rfl
  | cons c text ih =>
      rw [splitLines_cons]
      by_cases hc : c = '\n'
      · subst hc
        rw [consSplit_newline, List.length_cons, ih, List.count_cons_self]
      · rw [List.count_cons_of_ne hc, ← ih]
        rcases splitLines text with ⟨_ | ⟨line, lines⟩, rest⟩
        · rw [consSplit_nil hc]
        · rw [consSplit_cons hc, List.length_cons, List.length_cons]

/-! ## Between line feeds -/

/-- The complete lines and the rest are what stands between the line feeds of a text. -/
theorem splitOn_newline (text : List Char) :
    text.splitOn '\n' = (splitLines text).1 ++ [(splitLines text).2] := by
  rw [List.splitOn_eq_splitOnP]
  induction text with
  | nil => rfl
  | cons c text ih =>
      rw [List.splitOnP_cons_eq_if_modifyHead, ih, splitLines_cons]
      by_cases hc : c = '\n'
      · subst hc
        rw [consSplit_newline]
        rfl
      · rw [if_neg (by simpa using hc)]
        rcases splitLines text with ⟨_ | ⟨line, lines⟩, rest⟩
        · rw [consSplit_nil hc]
          rfl
        · rw [consSplit_cons hc]
          rfl

/-- None of it holds a line feed. -/
theorem newline_not_mem_splitOn (text : List Char) : ∀ line ∈ text.splitOn '\n', '\n' ∉ line := by
  obtain ⟨hlines, hrest⟩ := newline_not_mem_splitLines text
  rw [splitOn_newline]
  exact List.forall_mem_append.2 ⟨hlines, List.forall_mem_singleton.2 hrest⟩

theorem joinLines_append (before after : List (List Char)) :
    joinLines (before ++ after) = joinLines before ++ joinLines after :=
  List.flatMap_append

/-- With a line feed behind each, they are the text and one line feed more. -/
theorem joinLines_splitOn (text : List Char) : joinLines (text.splitOn '\n') = text ++ ['\n'] := by
  have hlast : joinLines [(splitLines text).2] = (splitLines text).2 ++ ['\n'] := joinLines_cons _ _
  rw [splitOn_newline, joinLines_append, hlast, ← List.append_assoc, joinLines_splitLines]

/-- Only the end of a line is taken off. -/
theorem dropReturn_starts (line : List Char) : dropReturn line <+: line := by
  unfold dropReturn
  cases h : withoutLast? '\r' line with
  | none => exact List.prefix_refl line
  | some init =>
      rw [withoutLast?_eq_some_iff.1 h]
      exact List.prefix_append init ['\r']

/-- What is no carriage return stays where it stands. -/
theorem getElem?_dropReturn {text : List Char} {column : Nat} {c : Char} (hc : c ≠ '\r')
    (h : text[column]? = some c) : (dropReturn text)[column]? = some c := by
  unfold dropReturn
  cases hlast : withoutLast? '\r' text with
  | none => exact h
  | some init =>
      rw [withoutLast?_eq_some_iff.1 hlast] at h
      rcases Nat.lt_or_ge column init.length with hlt | hge
      · rwa [List.getElem?_append_left hlt] at h
      · -- behind `init` there is nothing but the carriage return
        rw [List.getElem?_append_right hge] at h
        have hreturn := List.mem_of_getElem? h
        exact absurd (List.mem_singleton.1 hreturn) hc

/-! ## A text that goes on -/

/-- **Splitting may stop and go on.** The lines of a text that goes on are the lines so far, and then those of
the unfinished rest with what follows. -/
theorem splitLines_append (text more : List Char) :
    splitLines (text ++ more) =
      ((splitLines text).1 ++ (splitLines ((splitLines text).2 ++ more)).1,
        (splitLines ((splitLines text).2 ++ more)).2) := by
  induction text with
  | nil => rfl
  | cons c text ih =>
      rw [List.cons_append, splitLines_cons, splitLines_cons, ih]
      by_cases hc : c = '\n'
      · subst hc
        rw [consSplit_newline, consSplit_newline]
        rfl
      · rcases splitLines text with ⟨_ | ⟨line, lines⟩, rest⟩
        · rw [consSplit_nil hc]
          rfl
        · rw [consSplit_cons hc]
          exact consSplit_cons hc _ _ _

/-- `part` is the longest beginning of `text` that is empty or ends with a line feed. -/
structure IsCompletePart (part text : List Char) : Prop where
  beginning : part <+: text
  ended : part = [] ∨ part.getLast? = some '\n'
  longest : ∀ other, other <+: text → other = [] ∨ other.getLast? = some '\n' →
    other.length ≤ part.length

/-- What has been joined is empty or ends with a line feed. -/
theorem joinLines_ended (lines : List (List Char)) :
    joinLines lines = [] ∨ (joinLines lines).getLast? = some '\n' := by
  rcases List.eq_nil_or_concat lines with rfl | ⟨init, last, rfl⟩
  · exact Or.inl rfl
  · right
    rw [joinLines, List.concat_eq_append, List.flatMap_append, List.flatMap_singleton, ← List.append_assoc,
      List.getLast?_concat]

/-- **The complete lines of a text are its longest complete part.** What lies behind them holds no line feed
that a longer part could end with. -/
theorem isCompletePart_joinLines (text : List Char) :
    IsCompletePart (joinLines (splitLines text).1) text where
  beginning := ⟨(splitLines text).2, joinLines_splitLines text⟩
  ended := joinLines_ended _
  longest := by
    intro other hother hended
    rcases Nat.lt_or_ge (joinLines (splitLines text).1).length other.length with hlonger | hle
    · have hprefix : joinLines (splitLines text).1 <+: other :=
        List.prefix_of_prefix_length_le ⟨_, joinLines_splitLines text⟩ hother (Nat.le_of_lt hlonger)
      obtain ⟨beyond, rfl⟩ := hprefix
      have hbeyond : beyond <+: (splitLines text).2 := by
        apply (List.prefix_append_right_inj (joinLines (splitLines text).1)).1
        rw [joinLines_splitLines]
        exact hother
      have hne : beyond ≠ [] := by
        rintro rfl
        rw [List.append_nil] at hlonger
        exact Nat.lt_irrefl _ hlonger
      rcases hended with hnil | hlast
      · exact absurd (List.append_eq_nil_iff.1 hnil).2 hne
      · rw [List.getLast?_append, List.getLast?_eq_some_getLast hne, Option.some_or] at hlast
        have hmem := hbeyond.subset (List.getLast_mem hne)
        rw [Option.some.inj hlast] at hmem
        exact absurd hmem (newline_not_mem_splitLines text).2
    · exact hle

end TagNesting.Text
