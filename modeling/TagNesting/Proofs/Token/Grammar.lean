import TagNesting.Proofs.Text.Stretch
import TagNesting.Proofs.Text.Trim
import TagNesting.Proofs.Unicode.Apart
import TagNesting.Token.Shape

/-!
# `Proofs.Token.Grammar` — the shapes of a tag as a grammar

`shape?` takes a text apart from its ends inwards, and which rule it comes to depends on the order of its tests.
`Shaped` says how a text of each shape is put together, without any order: brackets, a name, and what may stand
beside the name. `shape?_eq_some_iff` shows that both agree on every text. So the tests of `shape?` never get in each
other's way, a text has at most one shape, and its name is determined (`Shaped.unique`).

What makes the parts of a text determined is that no character of a name is a blank, a bracket or a slash
(`IsName.of_mem`): a name ends where the first other character stands.
-/

namespace TagNesting

open Text Unicode

/-- A first character that is a letter, `_` or `:`, and then letters, digits, `_`, `:`, `-` and `.`. -/
def IsName (name : List Char) : Prop :=
  ∃ first rest, name = first :: rest ∧
    (isAlphabetic first = true ∨ first = '_' ∨ first = ':') ∧
    ∀ c ∈ rest, isAlphabetic c = true ∨ isNumeric c = true ∨ c = '_' ∨ c = ':' ∨ c = '-' ∨ c = '.'

/-- The text holds no angle bracket. -/
def Unbracketed (text : List Char) : Prop :=
  '<' ∉ text ∧ '>' ∉ text

/-- What may stand after a name: nothing, or a blank and then anything but angle brackets. -/
structure IsAttributes (text : List Char) : Prop where
  unbracketed : Unbracketed text
  blank_first : ∀ c ∈ text.head?, isWhiteSpace c = true

/-- How a text of each shape is put together, with the kind and the name of its token. -/
inductive Shaped : List Char → Token.Kind → List Char → Prop where
  /-- `<?` content `?>` -/
  | instruction {text content : List Char} (htext : text = '<' :: '?' :: (content ++ ['?', '>']))
      (hcontent : content ≠ []) (hfree : Unbracketed content) : Shaped text .declaration text
  /-- `<!` content `>` -/
  | declaration {text content : List Char} (htext : text = '<' :: '!' :: (content ++ ['>']))
      (hcontent : content ≠ []) (hfree : Unbracketed content) : Shaped text .declaration text
  /-- `</` name blanks `>` -/
  | closing {text name blanks : List Char} (htext : text = '<' :: '/' :: (name ++ blanks ++ ['>']))
      (hname : IsName name) (hblanks : IsBlank blanks) : Shaped text .closing name
  /-- `<` name attributes `/>` -/
  | selfClosing {text name attributes : List Char}
      (htext : text = '<' :: (name ++ attributes ++ ['/', '>']))
      (hname : IsName name) (hattributes : IsAttributes attributes) : Shaped text .selfClosing name
  /-- `<` name attributes `>`, where the attributes do not end with `/` -/
  | opening {text name attributes : List Char} (htext : text = '<' :: (name ++ attributes ++ ['>']))
      (hname : IsName name) (hattributes : IsAttributes attributes)
      (hlast : attributes.getLast? ≠ some '/') : Shaped text .opening name

/-! ## Names -/

theorem isIdentifier_iff {name : List Char} : isIdentifier name = true ↔ IsName name := by
  cases name with
  | nil =>
      constructor
      · intro h
        exact absurd h (by decide)
      · rintro ⟨first, rest, hname, -⟩
        exact absurd hname (List.cons_ne_nil first rest).symm
  | cons first rest =>
      simp only [isIdentifier, isIdentifierStart, isIdentifierRest, Bool.and_eq_true, Bool.or_eq_true,
        List.all_eq_true, decide_eq_true_eq, or_assoc]
      constructor
      · rintro ⟨hfirst, hrest⟩
        exact ⟨first, rest, rfl, hfirst, hrest⟩
      · rintro ⟨first', rest', hname, hfirst, hrest⟩
        cases hname
        exact ⟨hfirst, hrest⟩

theorem named?_eq_some_iff {kind kind' : Token.Kind} {name name' : List Char} :
    Token.named? kind name = some (kind', name') ↔ IsName name ∧ kind = kind' ∧ name = name' := by
  unfold Token.named?
  by_cases h : isIdentifier name = true
  · rw [if_pos h, Option.some.injEq, Prod.mk.injEq]
    exact ⟨fun hsame => ⟨isIdentifier_iff.1 h, hsame⟩, fun hsame => hsame.2⟩
  · rw [if_neg h]
    constructor
    · intro hnone
      exact absurd hnone (by simp)
    · rintro ⟨hname, -⟩
      exact absurd (isIdentifier_iff.2 hname) h

/-- A character of a name is none of those that a shape is made of. -/
theorem IsName.of_mem {name : List Char} (h : IsName name) {c : Char} (hc : c ∈ name) :
    isWhiteSpace c = false ∧ c ≠ '<' ∧ c ≠ '>' ∧ c ≠ '/' ∧ c ≠ '?' ∧ c ≠ '!' := by
  have hrest : isAlphabetic c = true ∨ isNumeric c = true ∨ c = '_' ∨ c = ':' ∨ c = '-' ∨ c = '.' := by
    obtain ⟨first, rest, rfl, hfirst, hrest⟩ := h
    rcases List.mem_cons.1 hc with rfl | hmem
    · rcases hfirst with halpha | hlow | hcolon
      · exact Or.inl halpha
      · exact Or.inr (Or.inr (Or.inl hlow))
      · exact Or.inr (Or.inr (Or.inr (Or.inl hcolon)))
    · exact hrest c hmem
  constructor
  · cases hblank : isWhiteSpace c with
    | false => rfl
    | true =>
        obtain ⟨hnotAlpha, hnotNumeric⟩ := not_alphanumeric_of_isWhiteSpace hblank
        rcases hrest with h | h | rfl | rfl | rfl | rfl
        · exact absurd h (by simp [hnotAlpha])
        · exact absurd h (by simp [hnotNumeric])
        all_goals exact absurd hblank (by decide)
  · refine ⟨?_, ?_, ?_, ?_, ?_⟩ <;> rintro rfl <;> exact absurd hrest (by decide)

/-- A name does not begin with any of the marks that other shapes begin with. -/
theorem IsName.cons_of {name : List Char} (h : IsName name) :
    ∃ first rest, name = first :: rest ∧ first ≠ '/' ∧ first ≠ '?' ∧ first ≠ '!' := by
  obtain ⟨first, rest, rfl, -⟩ := id h
  obtain ⟨-, -, -, hslash, hquestion, hbang⟩ := h.of_mem List.mem_cons_self
  exact ⟨first, rest, rfl, hslash, hquestion, hbang⟩

theorem IsName.unbracketed {name : List Char} (h : IsName name) : Unbracketed name :=
  ⟨fun hmem => (h.of_mem hmem).2.1 rfl, fun hmem => (h.of_mem hmem).2.2.1 rfl⟩

/-- A name ends where the first blank stands, if what follows it begins with a blank. -/
theorem IsName.takeWhile_append {name attributes : List Char} (h : IsName name)
    (hblank : ∀ c ∈ attributes.head?, isWhiteSpace c = true) :
    (name ++ attributes).takeWhile (!isWhiteSpace ·) = name := by
  apply takeWhile_stop
  · intro c hc
    rw [(h.of_mem hc).1]
    rfl
  · intro c hc
    rw [hblank c hc]
    rfl

/-- Behind the longest part without blanks there is nothing or a blank. -/
theorem blank_first_of_dropWhile (text : List Char) :
    ∀ c ∈ (text.dropWhile (!isWhiteSpace ·)).head?, isWhiteSpace c = true := by
  intro c hc
  have hhead := List.head?_dropWhile_not (!isWhiteSpace ·) text
  rw [Option.mem_def.1 hc] at hhead
  simpa using hhead

/-! ## Brackets -/

theorem Unbracketed.append {first second : List Char} (hfirst : Unbracketed first)
    (hsecond : Unbracketed second) : Unbracketed (first ++ second) := by
  unfold Unbracketed at *
  simp only [List.mem_append]
  exact ⟨not_or.2 ⟨hfirst.1, hsecond.1⟩, not_or.2 ⟨hfirst.2, hsecond.2⟩⟩

theorem unbracketed_singleton {c : Char} (hopen : c ≠ '<') (hclose : c ≠ '>') : Unbracketed [c] :=
  ⟨fun hmem => hopen (List.mem_singleton.1 hmem).symm, fun hmem => hclose (List.mem_singleton.1 hmem).symm⟩

theorem Text.IsBlank.unbracketed {blanks : List Char} (h : IsBlank blanks) : Unbracketed blanks :=
  ⟨fun hmem => absurd (h _ hmem) (by decide), fun hmem => absurd (h _ hmem) (by decide)⟩

theorem Unbracketed.of_sublist {part text : List Char} (h : Unbracketed text) (hpart : part.Sublist text) :
    Unbracketed part :=
  ⟨fun hmem => h.1 (hpart.subset hmem), fun hmem => h.2 (hpart.subset hmem)⟩

/-- What stands between the brackets, put together again. -/
theorem bracketed?_eq_some_iff {text inner : List Char} :
    Token.bracketed? text = some inner ↔ text = '<' :: (inner ++ ['>']) ∧ Unbracketed inner := by
  constructor
  · intro h
    unfold Token.bracketed? at h
    split at h
    · split at h
      · next rest inner' hinner =>
          by_cases hfree : '<' ∈ inner' ∨ '>' ∈ inner'
          · rw [if_pos hfree] at h
            exact absurd h (by simp)
          · rw [if_neg hfree] at h
            cases h
            rw [withoutLast?_eq_some_iff.1 hinner]
            exact ⟨rfl, not_or.1 hfree⟩
      · exact absurd h (by simp)
    · exact absurd h (by simp)
  · rintro ⟨rfl, hfree⟩
    simp only [Token.bracketed?, withoutLast?_append_singleton]
    exact if_neg (not_or.2 hfree)

/-! ## Shapes -/

/-- Every text that `shape?` accepts is put together as the grammar says. -/
theorem shaped_of_shape? {text name : List Char} {kind : Token.Kind}
    (h : Token.shape? text = some (kind, name)) : Shaped text kind name := by
  unfold Token.shape? at h
  split at h
  · exact absurd h (by simp)
  · next rest hinner =>
      -- `?` at both ends
      obtain ⟨htext, hfree⟩ := bracketed?_eq_some_iff.1 hinner
      split at h
      · next c content hcontent =>
          cases h
          have hrest : rest = (c :: content) ++ ['?'] := withoutLast?_eq_some_iff.1 hcontent
          have hsub : (c :: content).Sublist ('?' :: rest) := by
            rw [hrest]
            exact (List.sublist_append_left _ _).cons _
          refine .instruction ?_ (List.cons_ne_nil c content) (hfree.of_sublist hsub)
          rw [htext, hrest, List.cons_append, List.append_assoc]
          rfl
      · exact absurd h (by simp)
  · next rest hinner =>
      -- `!` in front
      obtain ⟨htext, hfree⟩ := bracketed?_eq_some_iff.1 hinner
      by_cases hrest : rest = []
      · rw [if_pos hrest] at h
        exact absurd h (by simp)
      · rw [if_neg hrest] at h
        cases h
        exact .declaration htext hrest (hfree.of_sublist (List.sublist_cons_self _ _))
  · next rest hinner =>
      -- `/` in front
      obtain ⟨htext, -⟩ := bracketed?_eq_some_iff.1 hinner
      obtain ⟨hname, rfl, rfl⟩ := named?_eq_some_iff.1 h
      obtain ⟨blanks, hblanks, hrest⟩ := trimEnd_eq rest
      refine .closing ?_ hname hblanks
      rw [← hrest]
      exact htext
  · next inner _ _ _ hinner =>
      -- a name in front
      obtain ⟨htext, hfree⟩ := bracketed?_eq_some_iff.1 hinner
      split at h
      · next body hbody =>
          obtain ⟨hname, rfl, rfl⟩ := named?_eq_some_iff.1 h
          have hslash : inner = body ++ ['/'] := withoutLast?_eq_some_iff.1 hbody
          have hattributes : IsAttributes (body.dropWhile (!isWhiteSpace ·)) := by
            refine ⟨hfree.of_sublist ?_, blank_first_of_dropWhile body⟩
            rw [hslash]
            exact (List.dropWhile_sublist _).trans (List.sublist_append_left _ _)
          refine .selfClosing ?_ hname hattributes
          rw [List.takeWhile_append_dropWhile, htext, hslash, List.append_assoc]
          rfl
      · next hnone =>
          obtain ⟨hname, rfl, rfl⟩ := named?_eq_some_iff.1 h
          have hsplit : inner.takeWhile (!isWhiteSpace ·) ++ inner.dropWhile (!isWhiteSpace ·) = inner :=
            List.takeWhile_append_dropWhile
          have hattributes : IsAttributes (inner.dropWhile (!isWhiteSpace ·)) :=
            ⟨hfree.of_sublist (List.dropWhile_sublist _), blank_first_of_dropWhile inner⟩
          refine .opening ?_ hname hattributes ?_
          · rw [hsplit]
            exact htext
          · intro hlast
            -- the last character of the attributes is that of the whole
            apply withoutLast?_eq_none_iff.1 hnone
            rw [← hsplit, List.getLast?_append, hlast]
            rfl

/-- The rules for a name in front are those that are left when no mark stands there. -/
theorem shape?_of_name_first {text inner : List Char} (hinner : Token.bracketed? text = some inner)
    (hfirst : ∃ first rest, inner = first :: rest ∧ first ≠ '/' ∧ first ≠ '?' ∧ first ≠ '!') :
    Token.shape? text =
      match withoutLast? '/' inner with
      | some body => Token.named? .selfClosing (body.takeWhile (!isWhiteSpace ·))
      | none => Token.named? .opening (inner.takeWhile (!isWhiteSpace ·)) := by
  obtain ⟨first, rest, rfl, hslash, hquestion, hbang⟩ := hfirst
  unfold Token.shape?
  rw [hinner]
  split
  · next heq => exact absurd heq (by simp)
  · next heq => exact absurd (List.cons.inj (Option.some.inj heq)).1 hquestion
  · next heq => exact absurd (List.cons.inj (Option.some.inj heq)).1 hbang
  · next heq => exact absurd (List.cons.inj (Option.some.inj heq)).1 hslash
  · next heq =>
      cases heq
      rfl

/-- `shape?` accepts every text of the grammar, and finds its kind and its name. -/
theorem Shaped.shape?_eq {text name : List Char} {kind : Token.Kind} (h : Shaped text kind name) :
    Token.shape? text = some (kind, name) := by
  cases h with
  | @instruction content htext hcontent hfree =>
      have hinner : Token.bracketed? text = some ('?' :: (content ++ ['?'])) := by
        refine bracketed?_eq_some_iff.2 ⟨?_, ?_⟩
        · rw [htext, List.cons_append, List.append_assoc]
          rfl
        · have hmark : Unbracketed ['?'] := unbracketed_singleton (by decide) (by decide)
          exact hmark.append (hfree.append hmark)
      obtain ⟨c, rest, rfl⟩ := List.exists_cons_of_ne_nil hcontent
      simp only [Token.shape?, hinner, withoutLast?_append_singleton]
  | @declaration content htext hcontent hfree =>
      have hinner : Token.bracketed? text = some ('!' :: content) := by
        refine bracketed?_eq_some_iff.2 ⟨htext, ?_⟩
        exact (unbracketed_singleton (by decide) (by decide) : Unbracketed ['!']).append hfree
      simp only [Token.shape?, hinner, if_neg hcontent]
  | @closing name blanks htext hname hblanks =>
      have hinner : Token.bracketed? text = some ('/' :: (name ++ blanks)) := by
        refine bracketed?_eq_some_iff.2 ⟨htext, ?_⟩
        have hmark : Unbracketed ['/'] := unbracketed_singleton (by decide) (by decide)
        exact hmark.append (hname.unbracketed.append hblanks.unbracketed)
      have htrim : trimEnd (name ++ blanks) = name := by
        rw [trimEnd_append_blanks name hblanks]
        apply trimEnd_of_getLast?
        intro c hc
        exact (hname.of_mem (List.mem_of_getLast? hc)).1
      simp only [Token.shape?, hinner, htrim]
      exact named?_eq_some_iff.2 ⟨hname, rfl, rfl⟩
  | @selfClosing name attributes htext hname hattributes =>
      have hinner : Token.bracketed? text = some (name ++ attributes ++ ['/']) := by
        refine bracketed?_eq_some_iff.2 ⟨?_, ?_⟩
        · rw [htext, List.append_assoc (name ++ attributes)]
          rfl
        · have hmark : Unbracketed ['/'] := unbracketed_singleton (by decide) (by decide)
          exact (hname.unbracketed.append hattributes.unbracketed).append hmark
      obtain ⟨first, rest, hcons, hfirst⟩ := hname.cons_of
      rw [shape?_of_name_first hinner ⟨first, rest ++ attributes ++ ['/'], by rw [hcons]; rfl, hfirst⟩,
        withoutLast?_append_singleton]
      show Token.named? .selfClosing ((name ++ attributes).takeWhile (!isWhiteSpace ·)) = _
      rw [hname.takeWhile_append hattributes.blank_first]
      exact named?_eq_some_iff.2 ⟨hname, rfl, rfl⟩
  | @opening name attributes htext hname hattributes hlast =>
      have hinner : Token.bracketed? text = some (name ++ attributes) :=
        bracketed?_eq_some_iff.2 ⟨htext, hname.unbracketed.append hattributes.unbracketed⟩
      have hslash : withoutLast? '/' (name ++ attributes) = none := by
        rw [withoutLast?_eq_none_iff, List.getLast?_append]
        intro hboth
        rcases Option.or_eq_some_iff.1 hboth with hslash | ⟨-, hslash⟩
        · exact hlast hslash
        · exact (hname.of_mem (List.mem_of_getLast? hslash)).2.2.2.1 rfl
      obtain ⟨first, rest, hcons, hfirst⟩ := hname.cons_of
      rw [shape?_of_name_first hinner ⟨first, rest ++ attributes, by rw [hcons]; rfl, hfirst⟩, hslash]
      show Token.named? .opening ((name ++ attributes).takeWhile (!isWhiteSpace ·)) = _
      rw [hname.takeWhile_append hattributes.blank_first]
      exact named?_eq_some_iff.2 ⟨hname, rfl, rfl⟩

/-- **`shape?` finds a shape just where the grammar has it.** -/
theorem shape?_eq_some_iff {text name : List Char} {kind : Token.Kind} :
    Token.shape? text = some (kind, name) ↔ Shaped text kind name :=
  ⟨shaped_of_shape?, Shaped.shape?_eq⟩

/-- A text has one kind and one name at most. -/
theorem Shaped.unique {text name name' : List Char} {kind kind' : Token.Kind} (h : Shaped text kind name)
    (h' : Shaped text kind' name') : kind = kind' ∧ name = name' := by
  rw [← shape?_eq_some_iff] at h h'
  cases h.symm.trans h'
  exact ⟨rfl, rfl⟩

/-- A text of any shape has a bracket at each end and none between. -/
theorem Shaped.exists_inner {text name : List Char} {kind : Token.Kind} (h : Shaped text kind name) :
    ∃ inner, text = '<' :: (inner ++ ['>']) ∧ Unbracketed inner := by
  have hshape := shape?_eq_some_iff.2 h
  unfold Token.shape? at hshape
  cases hinner : Token.bracketed? text with
  | none =>
      rw [hinner] at hshape
      exact absurd hshape (by simp)
  | some inner => exact ⟨inner, bracketed?_eq_some_iff.1 hinner⟩

/-- A text of any shape holds one `<` and one `>`, its first and its last character. -/
theorem Shaped.count_brackets {text name : List Char} {kind : Token.Kind} (h : Shaped text kind name) :
    text.count '<' = 1 ∧ text.count '>' = 1 := by
  obtain ⟨inner, rfl, hopen, hclose⟩ := h.exists_inner
  have hcountOpen : inner.count '<' = 0 := List.count_eq_zero.2 hopen
  have hcountClose : inner.count '>' = 0 := List.count_eq_zero.2 hclose
  simp [List.count_append, hcountOpen, hcountClose]

theorem Shaped.kind_ne {text name : List Char} {kind : Token.Kind} (h : Shaped text kind name) :
    kind ≠ .malformed := by
  cases h <;> exact Token.Kind.noConfusion

/-! ## Tokens -/

theorem line_classify (raw : List Char) (line : Nat) : (classify raw line).line = line := by
  simp only [classify]
  split <;> rfl

/-- The token of a text that the grammar knows. -/
theorem classify_of_shaped {raw name : List Char} {kind : Token.Kind} (h : Shaped (trim raw) kind name)
    (line : Nat) : classify raw line = ⟨kind, String.ofList name, line⟩ := by
  unfold classify
  simp only [shape?_eq_some_iff.2 h]

/-- The token of a text that the grammar does not know. -/
theorem classify_of_not_shaped {raw : List Char} (h : ∀ kind name, ¬ Shaped (trim raw) kind name)
    (line : Nat) : classify raw line = ⟨.malformed, String.ofList (trim raw), line⟩ := by
  unfold classify
  cases hshape : Token.shape? (trim raw) with
  | none => simp only [hshape]
  | some shape => exact absurd (shape?_eq_some_iff.1 hshape) (h shape.1 shape.2)

/-- An occurrence with a bracket too many or too few is malformed. -/
theorem malformed_of_count {raw : List Char} (h : raw.count '<' ≠ 1 ∨ raw.count '>' ≠ 1) (line : Nat) :
    (classify raw line).kind = .malformed := by
  have hnone : ∀ kind name, ¬ Shaped (trim raw) kind name := by
    intro kind name hshaped
    obtain ⟨hopen, hclose⟩ := hshaped.count_brackets
    rw [count_trim raw (by decide)] at hopen hclose
    rcases h with hne | hne
    · exact hne hopen
    · exact hne hclose
  rw [classify_of_not_shaped hnone]

/-- **`classify` accepts exactly the grammar.** The token of a text stands on the given line. It has a kind and a
name of the grammar just when the trimmed text is put together in that way; it is malformed, and carries the trimmed
text, just when no rule of the grammar applies; and no two rules that differ in kind or name ever do. -/
theorem classify_accepts_grammar (raw : List Char) (line : Nat) :
    (classify raw line).line = line ∧
      (∀ kind name, kind ≠ .malformed ∧ classify raw line = ⟨kind, String.ofList name, line⟩ ↔
        Shaped (trim raw) kind name) ∧
      (classify raw line = ⟨.malformed, String.ofList (trim raw), line⟩ ↔
        ∀ kind name, ¬ Shaped (trim raw) kind name) ∧
      ∀ kind name kind' name', Shaped (trim raw) kind name → Shaped (trim raw) kind' name' →
        kind = kind' ∧ name = name' := by
  by_cases hshaped : ∃ kind name, Shaped (trim raw) kind name
  · obtain ⟨kind, name, h⟩ := hshaped
    have htoken : classify raw line = ⟨kind, String.ofList name, line⟩ := classify_of_shaped h line
    refine ⟨line_classify raw line, ?_, ?_, fun _ _ _ _ h h' => h.unique h'⟩
    · intro kind' name'
      rw [htoken, Token.mk.injEq, String.ofList_inj]
      constructor
      · rintro ⟨-, rfl, rfl, -⟩
        exact h
      · intro h'
        obtain ⟨rfl, rfl⟩ := h.unique h'
        exact ⟨h.kind_ne, rfl, rfl, rfl⟩
    · rw [htoken, Token.mk.injEq]
      constructor
      · rintro ⟨hkind, -⟩
        exact absurd hkind h.kind_ne
      · intro hnone
        exact absurd h (hnone kind name)
  · have hnone : ∀ kind name, ¬ Shaped (trim raw) kind name := fun kind name h => hshaped ⟨kind, name, h⟩
    have htoken : classify raw line = ⟨.malformed, String.ofList (trim raw), line⟩ :=
      classify_of_not_shaped hnone line
    refine ⟨line_classify raw line, ?_, ?_, fun _ _ _ _ h h' => h.unique h'⟩
    · intro kind' name'
      rw [htoken, Token.mk.injEq]
      constructor
      · rintro ⟨hne, hkind, -⟩
        exact absurd hkind.symm hne
      · intro h'
        exact absurd h' (hnone kind' name')
    · exact ⟨fun _ => hnone, fun _ => htoken⟩

/-- A blank after the last slash makes it a part of the attributes. -/
example : classify ['<', 'a', ' ', '/', ' ', '>'] 1 = ⟨.opening, "a", 1⟩ := by decide

/-- A second slash is a part of the name, and no name holds one. -/
example : classify ['<', 'a', '/', '/', '>'] 1 = ⟨.malformed, "<a//>", 1⟩ := by decide

end TagNesting
