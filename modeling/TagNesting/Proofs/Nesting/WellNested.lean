import TagNesting.Token

/-!
# `Proofs.Nesting.WellNested` — documents whose tags match up

A list of tokens is *well nested* if each opening token has its closing token of the same name, with a well
nested list between the two. This is a fact about the tokens alone: no checker is mentioned here.

A cut through a well nested list leaves tags open on its left that are closed on its right. The two sides are
described apart, each as well nested pieces with single tokens between them:

* `Opens before tags` — `before` leaves exactly `tags` open, innermost first;
* `Closes tags after` — `after` closes exactly `tags`, innermost first.

`WellNested.cut` says that every cut has this form, so an induction over what happens to a document after a
cut is an induction over `Closes`: one well nested piece, one closing token, and the rest further out.
`stillOpen` computes the tags that a cut leaves open (`stillOpen_eq`).
-/

namespace TagNesting

/-- Every opening token has its closing token, and nothing else closes. -/
inductive WellNested : List Token → Prop where
  | nil : WellNested []
  | selfClosing (name : String) (line : Nat) : WellNested [⟨.selfClosing, name, line⟩]
  | declaration (text : String) (line : Nat) : WellNested [⟨.declaration, text, line⟩]
  | append {left right : List Token} :
      WellNested left → WellNested right → WellNested (left ++ right)
  | wrap (name : String) (opened closed : Nat) {inner : List Token} : WellNested inner →
      WellNested (⟨.opening, name, opened⟩ :: (inner ++ [⟨.closing, name, closed⟩]))

/-- The tokens leave exactly these tags open, innermost first. -/
inductive Opens : List Token → List Tag → Prop where
  | nested {tokens : List Token} : WellNested tokens → Opens tokens []
  | inward (tag : Tag) {tokens inner : List Token} {tags : List Tag} :
      Opens tokens tags → WellNested inner →
      Opens (tokens ++ ⟨.opening, tag.name, tag.line⟩ :: inner) (tag :: tags)

/-- The tokens close exactly these tags, innermost first. -/
inductive Closes : List Tag → List Token → Prop where
  | nested {tokens : List Token} : WellNested tokens → Closes [] tokens
  | outward (tag : Tag) (line : Nat) {inner tokens : List Token} {tags : List Tag} :
      WellNested inner → Closes tags tokens →
      Closes (tag :: tags) (inner ++ ⟨.closing, tag.name, line⟩ :: tokens)

/-! ## The tags that are still open -/

/-- The open tags after one more token, when each closing token closes the innermost of them. -/
def openAfter (opened : List Tag) (token : Token) : List Tag :=
  match token.kind with
  | .opening => token.tag :: opened
  | .closing => opened.tail
  | .selfClosing | .declaration | .malformed => opened

/-- The tags that a start of a well nested list leaves open, innermost first. -/
def stillOpen (tokens : List Token) : List Tag :=
  tokens.foldl openAfter []

theorem foldl_openAfter_of_wellNested {tokens : List Token} (h : WellNested tokens)
    (opened : List Tag) : tokens.foldl openAfter opened = opened := by
  induction h generalizing opened with
  | nil => rfl
  | selfClosing name line => rfl
  | declaration text line => rfl
  | append _ _ ihl ihr => rw [List.foldl_append, ihl, ihr]
  | wrap name first last _ ih =>
      rw [List.foldl_cons, List.foldl_append, ih]
      rfl

theorem stillOpen_eq {tokens : List Token} {tags : List Tag} (h : Opens tokens tags) :
    stillOpen tokens = tags := by
  induction h with
  | nested hn => exact foldl_openAfter_of_wellNested hn []
  | @inward tag tokens inner tags _ hinner ih =>
      unfold stillOpen at ih ⊢
      rw [List.foldl_append, List.foldl_cons, ih, foldl_openAfter_of_wellNested hinner]
      rfl

/-! ## Pieces put on the far side -/

/-- A well nested piece in front leaves nothing open. -/
theorem Opens.prepend {piece tokens : List Token} {tags : List Tag} (hp : WellNested piece)
    (h : Opens tokens tags) : Opens (piece ++ tokens) tags := by
  induction h with
  | nested hn => exact .nested (hp.append hn)
  | inward tag _ hinner ih =>
      rw [← List.append_assoc]
      exact .inward tag ih hinner

/-- A well nested piece at the end closes nothing. -/
theorem Closes.append {tokens piece : List Token} {tags : List Tag} (h : Closes tags tokens)
    (hp : WellNested piece) : Closes tags (tokens ++ piece) := by
  induction h with
  | nested hn => exact .nested (hn.append hp)
  | outward tag line hinner _ ih =>
      rw [List.append_assoc, List.cons_append]
      exact .outward tag line hinner ih

/-- An opening token in front opens the outermost tag. -/
theorem Opens.enclose {tokens : List Token} {tags : List Tag} (tag : Tag) (h : Opens tokens tags) :
    Opens (⟨.opening, tag.name, tag.line⟩ :: tokens) (tags ++ [tag]) := by
  induction h with
  | nested hn =>
      have hfirst := Opens.inward tag (.nested .nil : Opens [] []) hn
      exact hfirst
  | inward inmost _ hinner ih => exact .inward inmost ih hinner

/-- A closing token at the end closes the outermost tag. -/
theorem Closes.enclose {tokens : List Token} {tags : List Tag} (tag : Tag) (line : Nat)
    (h : Closes tags tokens) : Closes (tags ++ [tag]) (tokens ++ [⟨.closing, tag.name, line⟩]) := by
  induction h with
  | nested hn => exact .outward tag line hn (.nested .nil)
  | outward inmost inmostLine hinner _ ih =>
      rw [List.append_assoc, List.cons_append]
      exact .outward inmost inmostLine hinner ih

/-! ## Cutting a well nested list -/

/-- **The two sides of a cut belong together.** Whatever the left side of a cut through a well nested list
leaves open, the right side closes. -/
theorem WellNested.cut {tokens : List Token} (h : WellNested tokens) {before after : List Token}
    (heq : before ++ after = tokens) : ∃ tags, Opens before tags ∧ Closes tags after := by
  induction h generalizing before after with
  | nil =>
      obtain ⟨rfl, rfl⟩ := List.append_eq_nil_iff.1 heq
      exact ⟨[], .nested .nil, .nested .nil⟩
  | selfClosing name line =>
      rcases List.append_eq_singleton_iff.1 heq with ⟨rfl, rfl⟩ | ⟨rfl, rfl⟩
      · exact ⟨[], .nested .nil, .nested (.selfClosing name line)⟩
      · exact ⟨[], .nested (.selfClosing name line), .nested .nil⟩
  | declaration text line =>
      rcases List.append_eq_singleton_iff.1 heq with ⟨rfl, rfl⟩ | ⟨rfl, rfl⟩
      · exact ⟨[], .nested .nil, .nested (.declaration text line)⟩
      · exact ⟨[], .nested (.declaration text line), .nested .nil⟩
  | @append left right hl hr ihl ihr =>
      -- the cut lies in one of the two halves; the other half is a piece on the far side
      rcases List.append_eq_append_iff.1 heq with ⟨middle, rfl, rfl⟩ | ⟨middle, rfl, rfl⟩
      · obtain ⟨tags, hopens, hcloses⟩ := ihl rfl
        exact ⟨tags, hopens, hcloses.append hr⟩
      · obtain ⟨tags, hopens, hcloses⟩ := ihr rfl
        exact ⟨tags, hopens.prepend hl, hcloses⟩
  | @wrap name opened closed inner hi ih =>
      -- a cut inside the pair leaves the pair's own tag open, outside all others
      rcases List.eq_nil_or_concat after with rfl | ⟨after, last, rfl⟩
      · rw [List.append_nil] at heq
        exact ⟨[], .nested (heq ▸ hi.wrap name opened closed), .nested .nil⟩
      cases before with
      | nil =>
          rw [List.nil_append] at heq
          exact ⟨[], .nested .nil, .nested (heq ▸ hi.wrap name opened closed)⟩
      | cons first before =>
          rw [List.concat_eq_append, List.cons_append, List.cons.injEq, ← List.append_assoc] at heq
          obtain ⟨rfl, htail⟩ := heq
          obtain ⟨hinner, hlast⟩ := List.append_inj' htail rfl
          obtain ⟨tags, hopens, hcloses⟩ := ih hinner
          refine ⟨tags ++ [⟨name, opened⟩], hopens.enclose ⟨name, opened⟩, ?_⟩
          rw [List.concat_eq_append, hlast]
          exact hcloses.enclose ⟨name, opened⟩ closed

end TagNesting
