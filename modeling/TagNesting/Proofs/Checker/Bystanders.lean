import TagNesting.Proofs.Checker.Subjects

/-!
# `Proofs.Checker.Bystanders` — tokens that neither open nor close a tag

Self-closing tags, declarations and malformed occurrences stand among the tags of a document without being part of its
nesting. That their names may be those of open tags or of pending findings makes no difference: a checker looks at
what is open, pending or orphaned only when a closing token comes, and no bystander adds to any of these.

Two facts about one token carry this. The rules for closing tokens do not look at the findings about malformed
occurrences, so a token that opens or closes a tag does the same whatever these are (`feed_withMalformed`); and a
bystander changes nothing but these (`feed_of_not_isTag`). So a run may leave all bystanders out, and differs from the
full run in these findings only (`feedAll_filter`).
-/

namespace TagNesting

namespace Checker

/-- The state with other findings about malformed occurrences. -/
def withMalformed (malformed : Array Finding) (c : Checker) : Checker :=
  { c with malformed }

variable (policy : SkipPolicy) (malformed : Array Finding) (c : Checker)

/-! ## Closing tokens -/

theorem closeInnermost?_withMalformed (name : String) :
    (c.withMalformed malformed).closeInnermost? name = (c.closeInnermost? name).map (withMalformed malformed) := by
  unfold closeInnermost? withMalformed
  cases c.openTags.pop? with
  | none => rfl
  | some popped =>
      by_cases h : popped.1.name = name
      · simp only [if_pos h, Option.map_some]
      · simp only [if_neg h, Option.map_none]

theorem takeBack?_withMalformed (name : String) :
    (c.withMalformed malformed).takeBack? name =
      (c.takeBack? name).map fun (finding, eased) => (finding, eased.withMalformed malformed) := by
  unfold takeBack? withMalformed
  cases c.pending.dequeue? with
  | none => rfl
  | some taken =>
      by_cases h : taken.1.detail = name
      · simp only [if_pos h, Option.map_some]
      · simp only [if_neg h, Option.map_none]

theorem unwind_withMalformed (tag : Tag) :
    (c.withMalformed malformed).unwind policy tag = (c.unwind policy tag).withMalformed malformed := by
  unfold unwind withMalformed
  cases c.openTags.searchBy (·.name = tag.name) with
  | none => rfl
  | some depth => cases policy <;> rfl

/-- No rule looks at the findings about malformed occurrences. -/
theorem close_withMalformed (tag : Tag) :
    (c.withMalformed malformed).close policy tag =
      ((c.close policy tag).1.withMalformed malformed, (c.close policy tag).2) := by
  unfold close
  rw [closeInnermost?_withMalformed, takeBack?_withMalformed, unwind_withMalformed]
  cases c.closeInnermost? tag.name with
  | some closed => rfl
  | none =>
      cases c.takeBack? tag.name with
      | some taken => rfl
      | none =>
          have hempty : (c.withMalformed malformed).openTags = c.openTags := rfl
          rw [hempty]
          cases c.openTags.isEmpty <;> rfl

/-! ## Tokens and runs -/

/-- **Step.** A token that opens or closes a tag does the same whatever has been found malformed. -/
theorem feed_withMalformed {token : Token} (h : token.isTag = true) :
    (c.withMalformed malformed).feed policy token =
      ((c.feed policy token).1.withMalformed malformed, (c.feed policy token).2) := by
  obtain ⟨kind, name, line⟩ := token
  cases kind with
  | opening => rfl
  | closing => exact close_withMalformed policy malformed c ⟨name, line⟩
  | selfClosing => exact absurd h (by simp [Token.isTag])
  | declaration => exact absurd h (by simp [Token.isTag])
  | malformed => exact absurd h (by simp [Token.isTag])

/-- **Step.** Any other token changes nothing but that. -/
theorem feed_of_not_isTag {token : Token} (h : token.isTag = false) :
    (c.feed policy token).1.withMalformed malformed = c.withMalformed malformed := by
  obtain ⟨kind, name, line⟩ := token
  cases kind with
  | opening => exact absurd h (by simp [Token.isTag])
  | closing => exact absurd h (by simp [Token.isTag])
  | selfClosing => rfl
  | declaration => rfl
  | malformed => rfl

/-- **Run.** Without the bystanders, a run leads to the same state but for that. -/
theorem feedAll_filter (tokens : List Token) :
    (c.withMalformed malformed).feedAll policy (tokens.filter Token.isTag) =
      (c.feedAll policy tokens).withMalformed malformed := by
  induction tokens generalizing c with
  | nil => rfl
  | cons token tokens ih =>
      cases htag : token.isTag with
      | true =>
          rw [List.filter_cons_of_pos htag, feedAll_cons, feed_withMalformed policy malformed c htag, ih]
          rfl
      | false =>
          rw [List.filter_cons_of_neg (by simp [htag]), ← feed_of_not_isTag policy malformed c htag, ih]
          rfl

end Checker

/-- **Bystanders do not interfere.** Wherever they stand, and whatever their names are, the findings are those about
malformed occurrences, one each and in order, and then the findings of the document without any bystanders, none of
which is about a malformed occurrence. -/
theorem findings_without_bystanders (policy : SkipPolicy) (tokens : List Token) :
    let tags := tokens.filter fun token => token.kind = .opening || token.kind = .closing
    findings policy tokens =
        (tokens.filter (·.kind = .malformed)).map (fun token => ⟨.invalidFormat, token.line, token.name⟩) ++
          findings policy tags ∧
      (findings policy tags).filter (·.kind = .invalidFormat) = [] := by
  intro tags
  have htags : findings policy tags =
      Checker.reconcile (Checker.feedAll policy {} tokens).unresolved
        (Checker.feedAll policy {} tokens).orphans.toList := by
    have hrun := Checker.feedAll_filter policy #[] {} tokens
    exact congrArg (fun last : Checker => last.finish.1) hrun
  constructor
  · rw [htags, findings_eq_append, malformedFindings, List.map_map]
    rfl
  · rw [htags, ← tagFindings_findings, List.filter_eq_nil_iff]
    intro finding hfinding
    simpa using (List.mem_filter.1 hfinding).2

/-- A malformed occurrence and a self-closing tag of the name of an open tag, a declaration of the name of a pending
finding. -/
example :
    findings .report
        [⟨.closing, "x", 1⟩, ⟨.opening, "a", 2⟩, ⟨.malformed, "a", 3⟩, ⟨.declaration, "x", 4⟩, ⟨.closing, "x", 5⟩,
          ⟨.selfClosing, "a", 6⟩] =
      ⟨.invalidFormat, 3, "a"⟩ :: findings .report [⟨.closing, "x", 1⟩, ⟨.opening, "a", 2⟩, ⟨.closing, "x", 5⟩] := by
  decide

end TagNesting
