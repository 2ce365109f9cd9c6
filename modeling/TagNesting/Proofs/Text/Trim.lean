import TagNesting.Text.Trim

/-!
# `Proofs.Text.Trim` — what trimming takes off

Trimming takes off blanks, and nothing else (`trim_eq`); so a character that is no blank stands in the trimmed text
as often as in the text (`count_trim`). A text whose ends are no blanks is left as it is (`IsTight.trim_eq`), and such
a text is what trimming leaves (`isTight_trim`); so what has been trimmed once is not changed by it any more.
Whatever blanks are put round a text, trimming leaves the same (`trim_between_blanks`).
-/

namespace TagNesting.Text

open Unicode

/-- The text consists of blanks. -/
def IsBlank (text : List Char) : Prop :=
  ∀ c ∈ text, isWhiteSpace c = true

/-! ## What is taken off -/

theorem trimStart_eq (text : List Char) : ∃ blanks, IsBlank blanks ∧ text = blanks ++ trimStart text := by
  refine ⟨text.takeWhile isWhiteSpace, ?_, ?_⟩
  · intro c hc
    exact List.all_eq_true.1 List.all_takeWhile c hc
  · exact List.takeWhile_append_dropWhile.symm

theorem trimEnd_eq (text : List Char) : ∃ blanks, IsBlank blanks ∧ text = trimEnd text ++ blanks := by
  obtain ⟨blanks, hblanks, hreverse⟩ := trimStart_eq text.reverse
  refine ⟨blanks.reverse, ?_, ?_⟩
  · intro c hc
    exact hblanks c (List.mem_reverse.1 hc)
  · have htext := congrArg List.reverse hreverse
    rw [List.reverse_reverse, List.reverse_append] at htext
    exact htext

/-- **Trimming takes off blanks at both ends, and nothing else.** -/
theorem trim_eq (text : List Char) :
    ∃ before after, IsBlank before ∧ IsBlank after ∧ text = before ++ (trim text ++ after) := by
  obtain ⟨before, hbefore, hstart⟩ := trimStart_eq text
  obtain ⟨after, hafter, hend⟩ := trimEnd_eq (trimStart text)
  refine ⟨before, after, hbefore, hafter, ?_⟩
  rw [trim, ← hend]
  exact hstart

/-- Blanks do not hold what is no blank. -/
theorem IsBlank.count_eq_zero {blanks : List Char} (h : IsBlank blanks) {c : Char}
    (hc : isWhiteSpace c = false) : blanks.count c = 0 := by
  rw [List.count_eq_zero]
  intro hmem
  exact absurd (h c hmem) (by simp [hc])

/-- A character that is no blank is kept wherever it stands. -/
theorem count_trim (text : List Char) {c : Char} (hc : isWhiteSpace c = false) :
    (trim text).count c = text.count c := by
  obtain ⟨before, after, hbefore, hafter, htext⟩ := trim_eq text
  have hcount := congrArg (List.count c) htext
  rw [List.count_append, List.count_append, hbefore.count_eq_zero hc, hafter.count_eq_zero hc] at hcount
  omega

/-! ## What is left -/

/-- Blanks at the end are taken off. -/
theorem trimEnd_append_blanks (text : List Char) {blanks : List Char} (h : IsBlank blanks) :
    trimEnd (text ++ blanks) = trimEnd text := by
  unfold trimEnd
  rw [List.reverse_append, List.dropWhile_append_of_pos]
  intro c hc
  exact h c (List.mem_reverse.1 hc)

/-- A text that does not end with a blank is left as it is. -/
theorem trimEnd_of_getLast? {text : List Char} (h : ∀ c ∈ text.getLast?, isWhiteSpace c = false) :
    trimEnd text = text := by
  unfold trimEnd
  rcases List.eq_nil_or_concat text with rfl | ⟨init, last, rfl⟩
  · rfl
  · have hlast : isWhiteSpace last = false := by
      apply h
      rw [List.concat_eq_append, List.getLast?_concat]
      rfl
    rw [List.concat_eq_append, List.reverse_append, List.reverse_singleton, List.singleton_append,
      List.dropWhile_cons_of_neg (by simp [hlast]), List.reverse_cons, List.reverse_reverse]

/-- A text that does not begin with a blank is left as it is. -/
theorem trimStart_of_head? {text : List Char} (h : ∀ c ∈ text.head?, isWhiteSpace c = false) :
    trimStart text = text := by
  cases text with
  | nil => rfl
  | cons c rest =>
      have hc : isWhiteSpace c = false := h c rfl
      exact List.dropWhile_cons_of_neg (by simp [hc])

/-- Neither end of the text is a blank. -/
structure IsTight (text : List Char) : Prop where
  head : ∀ c ∈ text.head?, isWhiteSpace c = false
  last : ∀ c ∈ text.getLast?, isWhiteSpace c = false

theorem IsTight.trim_eq {text : List Char} (h : IsTight text) : trim text = text := by
  rw [trim, trimStart_of_head? h.head, trimEnd_of_getLast? h.last]

/-- Behind the blanks that have been taken off there is none. -/
theorem head?_trimStart (text : List Char) : ∀ c ∈ (trimStart text).head?, isWhiteSpace c = false := by
  intro c hc
  have hhead := List.head?_dropWhile_not isWhiteSpace text
  unfold trimStart at hc
  rw [Option.mem_def.1 hc] at hhead
  exact hhead

theorem getLast?_trimEnd (text : List Char) : ∀ c ∈ (trimEnd text).getLast?, isWhiteSpace c = false := by
  unfold trimEnd
  rw [List.getLast?_reverse]
  exact head?_trimStart text.reverse

theorem trimEnd_starts (text : List Char) : trimEnd text <+: text := by
  obtain ⟨blanks, -, htext⟩ := trimEnd_eq text
  exact ⟨blanks, htext.symm⟩

theorem trim_sublist (text : List Char) : (trim text).Sublist text :=
  (trimEnd_starts _).sublist.trans (List.dropWhile_sublist isWhiteSpace)

/-- **Trimming leaves no blank at either end.** -/
theorem isTight_trim (text : List Char) : IsTight (trim text) where
  head := by
    intro c hc
    obtain ⟨blanks, hstart⟩ := trimEnd_starts (trimStart text)
    apply head?_trimStart text
    -- the first character that is left is the first one behind the blanks
    rw [← hstart, List.head?_append, ← trim, Option.mem_def.1 hc]
    rfl
  last := getLast?_trimEnd (trimStart text)

/-- **A tight text between blanks is what trimming leaves.** -/
theorem trim_of_isTight {before core after : List Char} (hbefore : IsBlank before) (hafter : IsBlank after)
    (h : IsTight core) : trim (before ++ (core ++ after)) = core := by
  have hstart : trimStart (before ++ (core ++ after)) = trimStart (core ++ after) :=
    List.dropWhile_append_of_pos hbefore
  rw [trim, hstart]
  cases core with
  | nil =>
      have hnil : trimStart (after ++ []) = [] := List.dropWhile_append_of_pos hafter
      rw [List.append_nil] at hnil
      rw [List.nil_append, hnil]
      rfl
  | cons c rest =>
      have hhead : trimStart (c :: rest ++ after) = c :: rest ++ after := trimStart_of_head? h.head
      rw [hhead, trimEnd_append_blanks _ hafter, trimEnd_of_getLast? h.last]

theorem IsBlank.append {first second : List Char} (hfirst : IsBlank first) (hsecond : IsBlank second) :
    IsBlank (first ++ second) :=
  List.forall_mem_append.2 ⟨hfirst, hsecond⟩

/-- Blanks round a text are taken off with those that it has. -/
theorem trim_between_blanks {before after : List Char} (hbefore : IsBlank before) (hafter : IsBlank after)
    (text : List Char) : trim (before ++ (text ++ after)) = trim text := by
  obtain ⟨first, last, hfirst, hlast, htext⟩ := trim_eq text
  have hwhole : before ++ (text ++ after) = before ++ first ++ (trim text ++ (last ++ after)) :=
    calc before ++ (text ++ after)
      _ = before ++ (first ++ (trim text ++ last) ++ after) := by rw [← htext]
      _ = before ++ first ++ (trim text ++ (last ++ after)) := by simp only [List.append_assoc]
  rw [hwhole]
  exact trim_of_isTight (hbefore.append hfirst) (hlast.append hafter) (isTight_trim text)

theorem trim_append_blanks (text : List Char) {blanks : List Char} (h : IsBlank blanks) :
    trim (text ++ blanks) = trim text :=
  trim_between_blanks (fun _ hc => absurd hc List.not_mem_nil) h text

theorem withoutLast?_eq_none_iff {c : Char} {text : List Char} :
    withoutLast? c text = none ↔ text.getLast? ≠ some c := by
  unfold withoutLast?
  by_cases h : text.getLast? = some c
  · simp [h]
  · simp [h]

end TagNesting.Text
