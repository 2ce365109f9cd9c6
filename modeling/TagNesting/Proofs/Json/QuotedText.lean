import TagNesting.Json.QuotedText
import TagNesting.Json.Value

/-!
# `Proofs.Json.QuotedText` — a quoted text is taken as it is spelled

The library spells a text in one way: a character stands for itself, or is told by a letter behind a backslash, or by a
code point in four hexadecimal digits. In texts that come from elsewhere, any character may be escaped. Which spellings
there are is said by a grammar, without the function that takes them off a text (`QuotedText.Spelled`).

Whatever is spelled is taken off the text as what it is, up to the quote behind it (`QuotedText.take_of_spelled`), and
what the library writes is spelled (`QuotedText.spelled_writeChars`).
-/

namespace TagNesting.Json

/-- A text as it is read when all its characters are written properly. -/
def QuotedText.ofText (s : String) : QuotedText :=
  ⟨s.toList.map .char, none⟩

namespace QuotedText

/-! ## Spellings -/

/-- What may stand between two quotes, and the units that it stands for. -/
inductive Spelled : List CodeUnit → List Char → Prop where
  | nil : Spelled [] []
  /-- Most characters stand for themselves. -/
  | plain {c : Char} {units : List CodeUnit} {text : List Char} (hquote : c ≠ '"') (hbackslash : c ≠ '\\')
      (hcontrol : ¬ c.toNat < 0x20) (h : Spelled units text) : Spelled (.char c :: units) (c :: text)
  /-- Some characters have a letter of their own. -/
  | letter {letter c : Char} {units : List CodeUnit} {text : List Char} (hletter : escaped? letter = some c)
      (h : Spelled units text) : Spelled (.char c :: units) ('\\' :: letter :: text)
  /-- Every unit has four hexadecimal digits. -/
  | hexadecimal {a b c d : Char} {n : Nat} {units : List CodeUnit} {text : List Char}
      (hdigits : fourHexDigits? a b c d = some n) (h : Spelled units text) :
      Spelled (.ofNat n :: units) ('\\' :: 'u' :: a :: b :: c :: d :: text)

/-- A character that is neither special nor below U+0020 is taken as it is. -/
theorem take_plain {c : Char} (hquote : c ≠ '"') (hbackslash : c ≠ '\\') (h : ¬ c.toNat < 0x20) (rest : List Char) :
    take (c :: rest) = consUnit (.char c) (take rest) := by
  rw [take]
  · rw [if_neg h]
  all_goals
    intros
    contradiction

theorem take_letter {letter c : Char} (h : escaped? letter = some c) (rest : List Char) :
    take ('\\' :: letter :: rest) = consUnit (.char c) (take rest) := by
  have hletter : letter ≠ 'u' := by
    rintro rfl
    have hnone : escaped? 'u' = none := rfl
    exact absurd (hnone.symm.trans h) (by simp)
  rw [take]
  · simp only [h]
  · intros
    contradiction
  · intros
    contradiction

theorem take_hexadecimal {a b c d : Char} {n : Nat} (h : fourHexDigits? a b c d = some n) (rest : List Char) :
    take ('\\' :: 'u' :: a :: b :: c :: d :: rest) = consUnit (.ofNat n) (take rest) := by
  rw [take, h]

/-- **A quoted text is taken as it is spelled**, up to the quote behind it. -/
theorem take_of_spelled {units : List CodeUnit} {text : List Char} (h : Spelled units text) (rest : List Char) :
    take (text ++ '"' :: rest) = (⟨units, none⟩, rest) := by
  induction h with
  | nil => rw [List.nil_append, take]
  | plain hquote hbackslash hcontrol _ ih =>
      rw [List.cons_append, take_plain hquote hbackslash hcontrol, ih]
      rfl
  | letter hletter _ ih =>
      rw [List.cons_append, List.cons_append, take_letter hletter, ih]
      rfl
  | hexadecimal hdigits _ ih =>
      simp only [List.cons_append]
      rw [take_hexadecimal hdigits, ih]
      rfl

/-! ## Written texts -/

/-- The characters below U+0020 are told by two hexadecimal digits. -/
theorem fourHexDigits?_digitChar {n : Nat} (h : n < 0x20) :
    fourHexDigits? '0' '0' (Nat.digitChar (n / 16)) (Nat.digitChar (n % 16)) = some n := by
  have hall : ∀ n < 0x20, fourHexDigits? '0' '0' (Nat.digitChar (n / 16)) (Nat.digitChar (n % 16)) = some n := by
    decide
  exact hall n h

/-- A character is spelled as it is written. -/
theorem spelled_writeChar (c : Char) : Spelled [.char c] (writeChar c) := by
  unfold writeChar
  split
  iterate 7 exact .letter rfl .nil
  next hquote hbackslash _ _ _ _ _ =>
    by_cases hcontrol : c.toNat < 0x20
    · have hunit : CodeUnit.ofNat c.toNat = .char c := by
        rw [CodeUnit.ofNat, if_neg (by omega), if_neg (by omega), Char.ofNat_toNat]
      rw [if_pos hcontrol, ← hunit]
      exact .hexadecimal (fourHexDigits?_digitChar hcontrol) .nil
    · rw [if_neg hcontrol]
      exact .plain hquote hbackslash hcontrol .nil

/-- What is spelled goes on with what is spelled. -/
theorem Spelled.append {first second : List CodeUnit} {text more : List Char} (h : Spelled first text)
    (hmore : Spelled second more) : Spelled (first ++ second) (text ++ more) := by
  induction h with
  | nil => exact hmore
  | plain hquote hbackslash hcontrol _ ih => exact .plain hquote hbackslash hcontrol ih
  | letter hletter _ ih => exact .letter hletter ih
  | hexadecimal hdigits _ ih => exact .hexadecimal hdigits ih

/-- **A text is spelled as it is written.** -/
theorem spelled_writeChars (characters : List Char) :
    Spelled (characters.map .char) (characters.flatMap writeChar) := by
  induction characters with
  | nil => exact .nil
  | cons c characters ih => exact (spelled_writeChar c).append ih

/-! ## What is said -/

/-- What is read says the characters that were written. -/
theorem valueOf_map_char (characters : List Char) : valueOf none (characters.map .char) = .ok characters := by
  induction characters with
  | nil => rfl
  | cons c characters ih =>
      rw [List.map_cons, valueOf, ih]
      rfl

@[simp] theorem value_ofText (s : String) : (ofText s).value = .ok s := by
  rw [value, ofText, valueOf_map_char]
  exact congrArg Except.ok (String.ofList_toList)

end QuotedText

end TagNesting.Json
