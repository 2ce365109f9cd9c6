import TagNesting.Proofs.Text.Line
import TagNesting.Proofs.Token.Cut
import TagNesting.Proofs.Token.Grammar

/-!
# `Proofs.Token.Print` — a token written out and read again

A token does not keep the text that it comes from, but it keeps enough of it to be written out: a tag by its name,
without what stood beside the name, and any other token by its text (`Token.print`). This file shows that nothing is
lost: what is written out is read as the same token (`classify_print`), and it is one occurrence (`isOccurrence_print`),
the only one on a line of its own (`IsOccurrence.occurrences_eq`).

For a tag this rests on the grammar. The name that the grammar finds in one text may be put between brackets again,
and gives a text of the same kind and name (`Shaped.print`). For a malformed occurrence it rests on trimming, which
does not change what has been trimmed. In both cases what is written out has no characters but those of the text that
the token comes from, in their order (`print_sublist`), and so it does not go beyond a line.
-/

namespace TagNesting

open Text Unicode

/-- A tag of this kind and name, written out. A declaration and a malformed occurrence have their text for a name. -/
def Token.Kind.print (kind : Kind) (name : List Char) : List Char :=
  match kind with
  | .opening => '<' :: (name ++ ['>'])
  | .closing => '<' :: '/' :: (name ++ ['>'])
  | .selfClosing => '<' :: (name ++ ['/', '>'])
  | .declaration | .malformed => name

/-- The token written out. -/
def Token.print (token : Token) : List Char :=
  token.kind.print token.name.toList

variable {text raw name : List Char} {kind : Token.Kind}

/-! ## Whole occurrences -/

/-- The text is an occurrence, closed or not. -/
def IsOccurrence (text : List Char) : Prop :=
  IsClosed text ∨ IsUnclosed text

theorem IsOccurrence.head?_eq (h : IsOccurrence text) : text.head? = some '<' := by
  rcases h with hclosed | hunclosed
  · cases hclosed
    rfl
  · cases hunclosed
    rfl

/-- A closed occurrence is tight, since angle brackets are no blanks. -/
theorem IsClosed.isTight (h : IsClosed text) : IsTight text := by
  obtain ⟨more, hbody⟩ := h
  constructor
  · rintro c ⟨⟩
    decide
  · intro c hc
    rw [List.replicate_succ', ← List.append_assoc, ← List.cons_append, List.getLast?_concat] at hc
    obtain ⟨⟩ := hc
    decide

/-- **Trimming an occurrence leaves an occurrence.** -/
theorem IsOccurrence.trim (h : IsOccurrence raw) : IsOccurrence (trim raw) := by
  rcases h with hclosed | @⟨body, hbody⟩
  · rw [hclosed.isTight.trim_eq]
    exact Or.inl hclosed
  · have hstart : trimStart ('<' :: body) = '<' :: body :=
      trimStart_of_head? (by rintro c ⟨⟩; decide)
    rw [Text.trim, hstart]
    obtain ⟨blanks, hblanks, htext⟩ := trimEnd_eq ('<' :: body)
    cases hleft : trimEnd ('<' :: body) with
    | nil =>
        -- then the first bracket would be a blank
        rw [hleft, List.nil_append] at htext
        have hopen : '<' ∈ blanks := by
          rw [← htext]
          exact List.mem_cons_self
        exact absurd (hblanks '<' hopen) (by decide)
    | cons c rest =>
        rw [hleft, List.cons_append, List.cons.injEq] at htext
        obtain ⟨rfl, rfl⟩ := htext
        exact Or.inr (.intro fun hmem => hbody (List.mem_append_left blanks hmem))

/-- On a line of its own, an occurrence is the only one. -/
theorem IsOccurrence.occurrences_eq (h : IsOccurrence text) : occurrences text = [text] := by
  have hparts : AreParts [(text, [])] := by
    rcases h with hclosed | hunclosed
    · exact .closed hclosed List.not_mem_nil (by simp) .nil
    · exact .unclosed hunclosed
  have hline : [] ++ partsText [(text, [])] = text := by
    simp [partsText]
  have hoccurrences : occurrences ([] ++ partsText [(text, [])]) = [text] :=
    occurrences_of_areParts hparts List.not_mem_nil
  rw [hline] at hoccurrences
  exact hoccurrences

theorem AreParts.isOccurrence {parts : List (List Char × List Char)} (h : AreParts parts) :
    ∀ part ∈ parts, IsOccurrence part.1 := by
  induction h with
  | nil => exact fun _ hpart => absurd hpart List.not_mem_nil
  | unclosed hshape => exact List.forall_mem_singleton.2 (Or.inr hshape)
  | closed hshape _ _ _ ih => exact List.forall_mem_cons.2 ⟨Or.inl hshape, ih⟩

/-- What is found in a line are occurrences, and their characters are those of the line. -/
theorem isOccurrence_of_mem {line : List Char} (h : raw ∈ occurrences line) :
    IsOccurrence raw ∧ raw.Sublist line := by
  obtain ⟨cut, hcut⟩ := exists_isCut line
  rw [occurrences_of_isCut hcut] at h
  obtain ⟨part, hpart, rfl⟩ := List.mem_map.1 h
  refine ⟨hcut.parts.isOccurrence part hpart, ?_⟩
  have hblock : part.1 ++ part.2 ∈ cut.parts.map fun part => part.1 ++ part.2 :=
    List.mem_map_of_mem hpart
  rw [← hcut.text_eq]
  exact (List.sublist_append_left part.1 part.2).trans
    ((List.sublist_flatten_of_mem hblock).trans (List.sublist_append_right cut.first _))

/-! ## Tags of the grammar -/

theorem Shaped.isClosed (h : Shaped text kind name) : IsClosed text := by
  obtain ⟨inner, rfl, hfree⟩ := h.exists_inner
  exact .intro 0 hfree.2

/-- **What the grammar finds may be put together again**: the kind and the name stay what they are. -/
theorem Shaped.print (h : Shaped text kind name) : Shaped (kind.print name) kind name := by
  have hnone : IsAttributes [] := ⟨⟨List.not_mem_nil, List.not_mem_nil⟩, by simp⟩
  cases h with
  | instruction htext hcontent hfree => exact .instruction htext hcontent hfree
  | declaration htext hcontent hfree => exact .declaration htext hcontent hfree
  | closing htext hname hblanks =>
      have hblank : IsBlank [] := fun _ hc => absurd hc List.not_mem_nil
      refine .closing ?_ hname hblank
      rw [List.append_nil]
      rfl
  | selfClosing htext hname hattributes =>
      refine .selfClosing ?_ hname hnone
      rw [List.append_nil]
      rfl
  | opening htext hname hattributes hlast =>
      refine .opening ?_ hname hnone (by simp)
      rw [List.append_nil]
      rfl

/-- What stood beside the name is left out, and nothing is added. -/
theorem Shaped.print_sublist (h : Shaped text kind name) : (kind.print name).Sublist text := by
  cases h with
  | instruction => exact List.Sublist.refl text
  | declaration => exact List.Sublist.refl text
  | closing htext =>
      rw [htext]
      exact (((List.sublist_append_left name _).append_right ['>']).cons_cons '/').cons_cons '<'
  | selfClosing htext =>
      rw [htext]
      exact ((List.sublist_append_left name _).append_right ['/', '>']).cons_cons '<'
  | opening htext =>
      rw [htext]
      exact ((List.sublist_append_left name _).append_right ['>']).cons_cons '<'

/-! ## Tokens -/

/-- A token comes from the grammar, or it is malformed and has the trimmed text. -/
theorem classify_cases (raw : List Char) (line : Nat) :
    (∃ kind name, Shaped (trim raw) kind name ∧ classify raw line = ⟨kind, String.ofList name, line⟩) ∨
      (∀ kind name, ¬ Shaped (trim raw) kind name) ∧
        classify raw line = ⟨.malformed, String.ofList (trim raw), line⟩ := by
  by_cases hshaped : ∃ kind name, Shaped (trim raw) kind name
  · obtain ⟨kind, name, h⟩ := hshaped
    exact Or.inl ⟨kind, name, h, classify_of_shaped h line⟩
  · have hnone : ∀ kind name, ¬ Shaped (trim raw) kind name := fun kind name h => hshaped ⟨kind, name, h⟩
    exact Or.inr ⟨hnone, classify_of_not_shaped hnone line⟩

/-- What a token is written as, by where it comes from. -/
theorem print_classify_cases (raw : List Char) (line : Nat) :
    (∃ kind name, Shaped (trim raw) kind name ∧ (classify raw line).print = kind.print name) ∨
      (classify raw line).print = trim raw := by
  rcases classify_cases raw line with ⟨kind, name, h, htoken⟩ | ⟨-, htoken⟩
  · refine Or.inl ⟨kind, name, h, ?_⟩
    rw [htoken, Token.print, String.toList_ofList]
  · right
    rw [htoken, Token.print, String.toList_ofList]
    rfl

/-- **A token that is written out is read as the same token.** -/
theorem classify_print (raw : List Char) (line number : Nat) :
    classify (classify raw line).print number = { classify raw line with line := number } := by
  rcases classify_cases raw line with ⟨kind, name, h, htoken⟩ | ⟨hnone, htoken⟩
  · have htight := h.print.isClosed.isTight
    have hshaped : Shaped (trim (kind.print name)) kind name := by
      rw [htight.trim_eq]
      exact h.print
    rw [htoken, Token.print, String.toList_ofList]
    exact classify_of_shaped hshaped number
  · have htrim : trim (trim raw) = trim raw := (isTight_trim raw).trim_eq
    rw [htoken, Token.print, String.toList_ofList]
    show classify (trim raw) number = _
    rw [← htrim] at hnone
    rw [classify_of_not_shaped hnone, htrim]

/-- What is written out has the characters of the text that it comes from, in their order. -/
theorem print_sublist (raw : List Char) (line : Nat) : (classify raw line).print.Sublist raw := by
  apply List.Sublist.trans _ (trim_sublist raw)
  rcases print_classify_cases raw line with ⟨kind, name, h, hprint⟩ | hprint
  · rw [hprint]
    exact h.print_sublist
  · simp [hprint]

theorem isTight_print (raw : List Char) (line : Nat) : IsTight (classify raw line).print := by
  rcases print_classify_cases raw line with ⟨kind, name, h, hprint⟩ | hprint
  · rw [hprint]
    exact h.print.isClosed.isTight
  · rw [hprint]
    exact isTight_trim raw

/-- **What is read from an occurrence is written out as one.** -/
theorem isOccurrence_print (h : IsOccurrence raw) (line : Nat) : IsOccurrence (classify raw line).print := by
  rcases print_classify_cases raw line with ⟨kind, name, hshaped, hprint⟩ | hprint
  · rw [hprint]
    exact Or.inl hshaped.print.isClosed
  · rw [hprint]
    exact h.trim

/-- What begins with a bracket is written out beginning with one. -/
theorem head?_print (h : (trim raw).head? = some '<') (line : Nat) :
    (classify raw line).print.head? = some '<' := by
  rcases print_classify_cases raw line with ⟨kind, name, hshaped, hprint⟩ | hprint
  · rw [hprint]
    exact IsOccurrence.head?_eq (Or.inl hshaped.print.isClosed)
  · rw [hprint]
    exact h

end TagNesting
