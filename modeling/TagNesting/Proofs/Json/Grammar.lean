import TagNesting.Json.Decode
import TagNesting.Proofs.Json.Numeral
import TagNesting.Proofs.Json.QuotedText

/-!
# `Proofs.Json.Grammar` — every JSON text is read

A JSON text is a value with blanks around it. Lists and objects are made of values, so the grammar has three kinds of
phrases (`Phrase`): a value, the items of a list, and the members of an object. `Spelled` says which texts spell which
phrase, without a word about how a text is read.

Every text that spells a value is read as this value, to its end (`read_of_spelled`). The induction is on how the text
is spelled, inside whatever lists and objects are open around it. It covers a value that is the first item of a list
together with all others (`Begins`): such a value stands where the list might have ended instead.
-/

namespace TagNesting.Json

/-! ## The grammar -/

/-- What a part of a text may spell. -/
inductive Phrase where
  | value (v : Reading)
  /-- The items of a list that is not empty. -/
  | items (items : List Reading)
  /-- The members of an object that is not empty. -/
  | members (members : Members)

/-- A quoted text in the place of a key, with blanks around it. -/
inductive SpelledKey : Key → List Char → Prop where
  | intro {before characters after : List Char} {units : List CodeUnit} (hbefore : ∀ c ∈ before, isBlank c = true)
      (h : QuotedText.Spelled units characters) (hafter : ∀ c ∈ after, isBlank c = true) :
      SpelledKey (.text ⟨units, none⟩) (before ++ '"' :: (characters ++ '"' :: after))

/-- **The grammar of JSON.** -/
inductive Spelled : Phrase → List Char → Prop where
  | null : Spelled (.value .null) ['n', 'u', 'l', 'l']
  | true : Spelled (.value (.bool true)) ['t', 'r', 'u', 'e']
  | false : Spelled (.value (.bool false)) ['f', 'a', 'l', 's', 'e']
  | number {n : Numeral} {text : List Char} (h : n.Spelled text) : Spelled (.value (.number n)) text
  | text {units : List CodeUnit} {characters : List Char} (h : QuotedText.Spelled units characters) :
      Spelled (.value (.text ⟨units, none⟩)) ('"' :: (characters ++ ['"']))
  | emptyList {blanks : List Char} (h : ∀ c ∈ blanks, isBlank c = true) :
      Spelled (.value (.list [] none)) ('[' :: (blanks ++ [']']))
  | list {items : List Reading} {text : List Char} (h : Spelled (.items items) text) :
      Spelled (.value (.list items none)) ('[' :: (text ++ [']']))
  | emptyObject {blanks : List Char} (h : ∀ c ∈ blanks, isBlank c = true) :
      Spelled (.value (.object [] none)) ('\x7b' :: (blanks ++ ['\x7d']))
  | object {members : Members} {text : List Char} (h : Spelled (.members members) text) :
      Spelled (.value (.object members none)) ('\x7b' :: (text ++ ['\x7d']))
  /-- Blanks may stand before a value and behind it. -/
  | blanks {v : Reading} {before text after : List Char} (hbefore : ∀ c ∈ before, isBlank c = true)
      (h : Spelled (.value v) text) (hafter : ∀ c ∈ after, isBlank c = true) :
      Spelled (.value v) (before ++ (text ++ after))
  | lastItem {v : Reading} {text : List Char} (h : Spelled (.value v) text) : Spelled (.items [v]) text
  | item {v : Reading} {items : List Reading} {text more : List Char} (h : Spelled (.value v) text)
      (hmore : Spelled (.items items) more) : Spelled (.items (v :: items)) (text ++ ',' :: more)
  | lastMember {key : Key} {v : Reading} {keyText text : List Char} (hkey : SpelledKey key keyText)
      (h : Spelled (.value v) text) : Spelled (.members [(key, v)]) (keyText ++ ':' :: text)
  | member {key : Key} {v : Reading} {members : Members} {keyText text more : List Char}
      (hkey : SpelledKey key keyText) (h : Spelled (.value v) text) (hmore : Spelled (.members members) more) :
      Spelled (.members ((key, v) :: members)) (keyText ++ ':' :: (text ++ ',' :: more))

/-! ## The lexemes of what is spelled -/

section Lexemes

variable {c : Char} {text rest : List Char}

theorem isBlank_iff : isBlank c = true ↔ c = ' ' ∨ c = '\t' ∨ c = '\n' ∨ c = '\r' := by
  simp [isBlank, or_assoc]

/-- A text of blanks holds no lexeme. -/
theorem lexemes_of_dropWhile_nil (h : text.dropWhile isBlank = []) : lexemes text = [] := by
  unfold lexemes
  split
  · rfl
  · next hcons =>
      rw [h] at hcons
      exact absurd hcons (by simp)

/-- In any other text, the first character that is not blank begins a lexeme. -/
theorem lexemes_of_dropWhile_cons (h : text.dropWhile isBlank = c :: rest) :
    lexemes text = (lexemeFrom c rest).1 :: lexemes (lexemeFrom c rest).2 := by
  rw [lexemes]
  split
  · next hnil =>
      rw [h] at hnil
      exact absurd hnil (by simp)
  · next hcons =>
      rw [h] at hcons
      cases hcons
      rfl

/-- Blanks are dropped. -/
theorem lexemes_append_of_blank {blanks : List Char} (h : ∀ c ∈ blanks, isBlank c = true) (text : List Char) :
    lexemes (blanks ++ text) = lexemes text := by
  have hdrop : (blanks ++ text).dropWhile isBlank = text.dropWhile isBlank := List.dropWhile_append_of_pos h
  cases htext : text.dropWhile isBlank with
  | nil => rw [lexemes_of_dropWhile_nil htext, lexemes_of_dropWhile_nil (hdrop.trans htext)]
  | cons c rest => rw [lexemes_of_dropWhile_cons htext, lexemes_of_dropWhile_cons (hdrop.trans htext)]

theorem lexemes_of_blank {blanks : List Char} (h : ∀ c ∈ blanks, isBlank c = true) : lexemes blanks = [] := by
  rw [← List.append_nil blanks, lexemes_append_of_blank h]
  exact lexemes_of_dropWhile_nil rfl

/-- Anything else begins a lexeme. -/
theorem lexemes_cons {lexeme : Lexeme} (hc : isBlank c = false) (h : lexemeFrom c text = (lexeme, rest)) :
    lexemes (c :: text) = lexeme :: lexemes rest := by
  rw [lexemes_of_dropWhile_cons (List.dropWhile_cons_of_neg (by simp [hc])), h]

theorem isBlank_of_isDigit (h : c.isDigit = true) : isBlank c = false := by
  rw [← Bool.not_eq_true, isBlank_iff]
  rintro (rfl | rfl | rfl | rfl) <;> exact absurd h (by decide)

theorem lexemeFrom_of_isDigit (h : c.isDigit = true) (text : List Char) :
    lexemeFrom c text = numberLexeme (c :: text) := by
  unfold lexemeFrom
  split
  iterate 10 exact absurd h (by decide)
  rw [if_pos (by simp [h])]

theorem lexemes_of_quoted {units : List CodeUnit} {characters : List Char} (h : QuotedText.Spelled units characters)
    (rest : List Char) :
    lexemes ('"' :: (characters ++ '"' :: rest)) = .text ⟨units, none⟩ :: lexemes rest := by
  apply lexemes_cons rfl
  simp only [lexemeFrom, QuotedText.take_of_spelled h]

/-- A number begins with its sign or with a digit. -/
theorem lexemes_of_number {n : Numeral} (h : n.Spelled text) (hrest : EndsNumeral rest) :
    lexemes (text ++ rest) = .number n :: lexemes rest := by
  have hnumber : numberLexeme (text ++ rest) = (.number n, rest) := by
    rw [numberLexeme, Numeral.take_of_spelled h hrest]
  cases h with
  | positive h =>
      obtain ⟨⟨hne, hdigits⟩⟩ := h
      obtain ⟨first, others, rfl⟩ := List.exists_cons_of_ne_nil hne
      have hfirst : first.isDigit = true := hdigits first List.mem_cons_self
      exact lexemes_cons (isBlank_of_isDigit hfirst) ((lexemeFrom_of_isDigit hfirst _).trans hnumber)
  | negative h => exact lexemes_cons rfl hnumber

theorem endsNumeral_cons {c : Char} (h : c.isDigit = false ∧ c ≠ '.' ∧ c ≠ 'e' ∧ c ≠ 'E') (rest : List Char) :
    EndsNumeral (c :: rest) := by
  intro first hfirst
  obtain rfl := Option.some.inj hfirst
  exact h

/-- A blank is no part of a number. -/
theorem endsNumeral_append {blanks : List Char} (h : ∀ c ∈ blanks, isBlank c = true) (hrest : EndsNumeral rest) :
    EndsNumeral (blanks ++ rest) := by
  cases blanks with
  | nil => exact hrest
  | cons c blanks =>
      apply endsNumeral_cons
      obtain rfl | rfl | rfl | rfl := isBlank_iff.1 (h c List.mem_cons_self) <;> decide

end Lexemes

/-! ## Reading what is spelled -/

/-- A value may begin at this place, within the second frames. It may be the first item of a list. -/
inductive Begins : Place → List Frame → List Frame → Prop where
  | value (frames : List Frame) : Begins .value frames frames
  | firstItem (frames : List Frame) : Begins .firstItem frames (.list [] :: frames)

variable {place : Place} {outer frames : List Frame} {lexeme : Lexeme}

/-- Where a value may begin, a lexeme that does not end a list is the beginning of one. -/
theorem readFrom_begins (h : Begins place outer frames) (hlexeme : lexeme ≠ .closeBracket) (rest : List Lexeme) :
    readFrom place outer (lexeme :: rest) = readFrom .value frames (lexeme :: rest) := by
  cases h with
  | value => rfl
  | firstItem =>
      cases lexeme with
      | closeBracket => exact absurd rfl hlexeme
      | _ => rfl

/-- A key is read up to the value of its member. -/
theorem readFrom_key {key : Key} {keyText : List Char} (h : SpelledKey key keyText) (done : Members) (opened : Bool)
    (frames : List Frame) (rest : List Char) :
    readFrom (.key done opened) frames (lexemes (keyText ++ ':' :: rest)) =
      readFrom .value (.member done key :: frames) (lexemes rest) := by
  obtain ⟨hbefore, h, hafter⟩ := h
  have hcolon : lexemes (':' :: rest) = .colon :: lexemes rest := lexemes_cons rfl rfl
  simp only [List.append_assoc, List.cons_append]
  rw [lexemes_append_of_blank hbefore, lexemes_of_quoted h, lexemes_append_of_blank hafter, hcolon]
  rfl

/-- How a phrase is to be read from a text, whatever is open around it and whatever follows. -/
def Phrase.IsReadFrom (text : List Char) : Phrase → Prop
  | .value v => ∀ place outer frames rest, Begins place outer frames → EndsNumeral rest →
    readFrom place outer (lexemes (text ++ rest)) = readFrom (.after v) frames (lexemes rest)
  | .items further => ∀ place outer done frames rest, Begins place outer (.list done :: frames) →
    readFrom place outer (lexemes (text ++ ']' :: rest)) =
      readFrom (.after (.list (done.reverse ++ further) none)) frames (lexemes rest)
  | .members further => ∀ done opened frames rest,
    readFrom (.key done opened) frames (lexemes (text ++ '\x7d' :: rest)) =
      readFrom (.after (.object (done.reverse ++ further) none)) frames (lexemes rest)

/-- **Every phrase is read from a text that spells it.** -/
theorem isReadFrom_of_spelled {phrase : Phrase} {text : List Char} (h : Spelled phrase text) :
    phrase.IsReadFrom text := by
  induction h with
  | null =>
      intro place outer frames rest hbegins _
      have hlexemes : lexemes (['n', 'u', 'l', 'l'] ++ rest) = .null :: lexemes rest := lexemes_cons rfl rfl
      rw [hlexemes, readFrom_begins hbegins (by simp)]
      rfl
  | true =>
      intro place outer frames rest hbegins _
      have hlexemes : lexemes (['t', 'r', 'u', 'e'] ++ rest) = .bool true :: lexemes rest := lexemes_cons rfl rfl
      rw [hlexemes, readFrom_begins hbegins (by simp)]
      rfl
  | false =>
      intro place outer frames rest hbegins _
      have hlexemes : lexemes (['f', 'a', 'l', 's', 'e'] ++ rest) = .bool false :: lexemes rest := lexemes_cons rfl rfl
      rw [hlexemes, readFrom_begins hbegins (by simp)]
      rfl
  | number h =>
      intro place outer frames rest hbegins hrest
      rw [lexemes_of_number h hrest, readFrom_begins hbegins (by simp)]
      rfl
  | text h =>
      intro place outer frames rest hbegins _
      rw [List.cons_append, List.append_assoc, List.singleton_append, lexemes_of_quoted h,
        readFrom_begins hbegins (by simp)]
      rfl
  | emptyList h =>
      intro place outer frames rest hbegins _
      have hclose : lexemes (']' :: rest) = .closeBracket :: lexemes rest := lexemes_cons rfl rfl
      rw [List.cons_append, List.append_assoc, List.singleton_append, lexemes_cons (c := '[') rfl rfl,
        lexemes_append_of_blank h, hclose, readFrom_begins hbegins (by simp)]
      rfl
  | list _ ih =>
      intro place outer frames rest hbegins _
      rw [List.cons_append, List.append_assoc, List.singleton_append, lexemes_cons (c := '[') rfl rfl,
        readFrom_begins hbegins (by simp)]
      exact ih .firstItem frames [] frames rest (.firstItem frames)
  | emptyObject h =>
      intro place outer frames rest hbegins _
      have hclose : lexemes ('\x7d' :: rest) = .closeBrace :: lexemes rest := lexemes_cons rfl rfl
      rw [List.cons_append, List.append_assoc, List.singleton_append, lexemes_cons (c := '\x7b') rfl rfl,
        lexemes_append_of_blank h, hclose, readFrom_begins hbegins (by simp)]
      rfl
  | object _ ih =>
      intro place outer frames rest hbegins _
      rw [List.cons_append, List.append_assoc, List.singleton_append, lexemes_cons (c := '\x7b') rfl rfl,
        readFrom_begins hbegins (by simp)]
      exact ih [] true frames rest
  | blanks hbefore _ hafter ih =>
      intro place outer frames rest hbegins hrest
      rw [List.append_assoc, List.append_assoc, lexemes_append_of_blank hbefore,
        ih place outer frames _ hbegins (endsNumeral_append hafter hrest), lexemes_append_of_blank hafter]
  | lastItem _ ih =>
      intro place outer done frames rest hbegins
      have hclose : lexemes (']' :: rest) = .closeBracket :: lexemes rest := lexemes_cons rfl rfl
      rw [ih place outer _ _ hbegins (endsNumeral_cons (by decide) rest), hclose, ← List.reverse_cons]
      rfl
  | @item v items _ _ _ _ ih ihmore =>
      intro place outer done frames rest hbegins
      rw [List.append_assoc, List.cons_append, ih place outer _ _ hbegins (endsNumeral_cons (by decide) _),
        lexemes_cons (c := ',') rfl rfl, List.append_cons done.reverse v items, ← List.reverse_cons]
      exact ihmore .value _ _ frames rest (.value _)
  | lastMember hkey _ ih =>
      intro done opened frames rest
      have hclose : lexemes ('\x7d' :: rest) = .closeBrace :: lexemes rest := lexemes_cons rfl rfl
      rw [List.append_assoc, List.cons_append, readFrom_key hkey,
        ih .value _ _ _ (.value _) (endsNumeral_cons (by decide) rest), hclose, ← List.reverse_cons]
      rfl
  | @member key v members _ _ _ hkey _ _ ih ihmore =>
      intro done opened frames rest
      rw [List.append_assoc, List.cons_append, List.append_assoc, List.cons_append, readFrom_key hkey,
        ih .value _ _ _ (.value _) (endsNumeral_cons (by decide) _), lexemes_cons (c := ',') rfl rfl,
        List.append_cons done.reverse (key, v) members, ← List.reverse_cons]
      exact ihmore _ false frames rest

/-- **A text that spells a value holds this value**, and nothing else. -/
theorem read_of_spelled {v : Reading} {text : List Char} (h : Spelled (.value v) text) : read text = ⟨v, false⟩ := by
  have hread := isReadFrom_of_spelled h .value [] [] [] (.value []) (fun c hc => absurd hc (by simp))
  rw [List.append_nil] at hread
  rw [read, hread, lexemes_of_blank (List.forall_mem_nil _)]
  rfl

/-- So decoding the text is decoding the value. -/
theorem decode_of_spelled {α : Type} (decoder : Decoder α) {v : Reading} {text : List Char}
    (h : Spelled (.value v) text) : decode decoder text = decoder v := by
  rw [decode, read_of_spelled h]
  cases decoder v <;> rfl

/-! ## Passing over what is spelled -/

/-- The members of a value, if it is an object. -/
def Reading.members : Reading → Members
  | .object members _ => members
  | _ => []

/-- Nothing is wrong with the values of the members. -/
def CanSkip (members : Members) : Prop :=
  ∀ member ∈ members, member.2.skip = .ok ()

/-- How far a phrase can be passed over: all of a value and of the members of one. -/
def Phrase.IsSkipped : Phrase → Prop
  | .value v => v.skip = .ok () ∧ CanSkip v.members
  | .items _ => True
  | .members further => CanSkip further

/-- **Nobody who passes over what is spelled finds anything wrong with it.** -/
theorem isSkipped_of_spelled {phrase : Phrase} {text : List Char} (h : Spelled phrase text) : phrase.IsSkipped := by
  induction h with
  | object _ ih => exact ⟨rfl, ih⟩
  | blanks _ _ _ ih => exact ih
  | lastItem | item => exact trivial
  | lastMember _ _ ih => exact List.forall_mem_singleton.2 ih.1
  | member _ _ _ ih ihmore => exact List.forall_mem_cons.2 ⟨ih.1, ihmore⟩
  | _ => exact ⟨rfl, List.forall_mem_nil _⟩

end TagNesting.Json
