import TagNesting.Proofs.Json.Value
import TagNesting.Proofs.Words

/-!
# `Proofs.Json.Decode` — written values are decoded

What a decoder makes of a value that has been written: a text is the text, a number below the bound is the number, a
list is decoded item by item, and a record field by field.

Of a choice more is said, since its word may be given in two ways (`SaysWord`): a reading is decoded to a choice just if
it says the word of the choice (`decodeWord_eq_ok_iff`).
-/

namespace TagNesting.Json

/-- Two steps go well if the first does, and the second with what the first gives. -/
theorem bind_eq_ok_iff {ε α β : Type} {first : Except ε α} {second : α → Except ε β} {result : β} :
    first >>= second = .ok result ↔ ∃ value, first = .ok value ∧ second value = .ok result := by
  cases first <;> simp [bind, Except.bind]

@[simp] theorem decodeText_reading (s : String) : decodeText (Value.text s).reading = .ok s :=
  QuotedText.value_ofText s

theorem decodeNatural_reading {bound n : Nat} (h : n < bound) :
    decodeNatural bound (Value.natural n).reading = .ok n := by
  simp only [Value.reading, decodeNatural, Numeral.natural?_ofNat, if_pos h]

/-! ## Choices -/

section Choices

variable {α : Type} {choices : List (String × α)} {choice : α} {reading : Reading} {word : String}

/-- The reading says a word: the word stands between quotes, or it is the key of the only member of an object, and
`null` the value. -/
inductive SaysWord : Reading → String → Prop where
  | quoted {q : QuotedText} {word : String} (h : q.value = .ok word) : SaysWord (.text q) word
  | keyed {key : Key} {word : String} (h : key.word = .ok word) : SaysWord (.object [(key, .null)] none) word

theorem saysWord_reading (word : String) : SaysWord (Value.text word).reading word :=
  .quoted (QuotedText.value_ofText word)

theorem chosen_eq_ok_iff : chosen choices word = .ok choice ↔ choices.lookup word = some choice := by
  unfold chosen
  cases choices.lookup word <;> simp

theorem eq_null_of_decodeNull {content : Reading} (h : decodeNull content = .ok ()) : content = .null := by
  cases content with
  | null => rfl
  | _ => exact absurd h (by simp [decodeNull])

/-- **Whatever says the word of a choice is decoded to it, and nothing else is.** -/
theorem decodeChoice_eq_ok_iff :
    decodeChoice choices reading = .ok choice ↔ ∃ word, SaysWord reading word ∧ choices.lookup word = some choice := by
  constructor
  · intro h
    cases reading with
    | text q =>
        obtain ⟨word, hword, hchosen⟩ := bind_eq_ok_iff.1 h
        exact ⟨word, .quoted hword, chosen_eq_ok_iff.1 hchosen⟩
    | object members cut =>
        cases members with
        | nil => exact absurd h (by simp [decodeChoice])
        | cons member more =>
            obtain ⟨key, content⟩ := member
            obtain ⟨word, hword, hvalue⟩ := bind_eq_ok_iff.1 h
            obtain ⟨value, hchosen, hcontent⟩ := bind_eq_ok_iff.1 hvalue
            obtain ⟨⟨⟩, hnull, hmore⟩ := bind_eq_ok_iff.1 hcontent
            obtain rfl := eq_null_of_decodeNull hnull
            cases more with
            | cons _ _ => exact absurd hmore (by simp [bind, Except.bind])
            | nil =>
                obtain ⟨⟨⟩, hclosing, hvalue⟩ := bind_eq_ok_iff.1 hmore
                cases hvalue
                cases cut with
                | none => exact ⟨word, .keyed hword, chosen_eq_ok_iff.1 hchosen⟩
                | some fault => exact absurd hclosing (by simp [closing])
    | _ => exact absurd h (by simp [decodeChoice])
  · rintro ⟨word, hsays, hlookup⟩
    have hchosen := chosen_eq_ok_iff.2 hlookup
    cases hsays with
    | quoted hword => exact bind_eq_ok_iff.2 ⟨word, hword, hchosen⟩
    | keyed hword => simp [decodeChoice, hword, hchosen, decodeNull, closing, bind, Except.bind, pure, Except.pure]

theorem decodeWord_eq_ok_iff {all : List α} {word : α → String} (h : Enumerates all word) :
    decodeWord all word reading = .ok choice ↔ SaysWord reading (word choice) := by
  simp only [decodeWord, decodeChoice_eq_ok_iff, h.lookup_eq_some_iff, exists_eq_right]

end Choices

/-! ## Lists and records -/

/-- A list is decoded if its items are. -/
theorem decodeList_reading {α : Type} {item : Decoder α} {write : α → Value} {values : List α}
    (h : ∀ value ∈ values, item (write value).reading = .ok value) :
    decodeList item (Value.list (values.map write)).reading = .ok values := by
  have hitems : (itemsReading (values.map write)).mapM item = Except.ok values := by
    induction values with
    | nil => rfl
    | cons value values ih =>
        obtain ⟨hvalue, hvalues⟩ := List.forall_mem_cons.1 h
        rw [List.map_cons, itemsReading, List.mapM_cons, hvalue, ih hvalues]
        rfl
  show (do
    let values ← (itemsReading (values.map write)).mapM item
    closing none
    return values) = _
  rw [hitems]
  rfl

section Members

variable {σ : Type} {fields : List (Field σ)} {known : σ} {field : Field σ} {key : Key} {name : String}
  {value : Reading} {rest : Members}

/-- A member that nobody knows is passed over. -/
theorem decodeMembers_cons_unknown (hword : key.word = .ok name) (hfind : fields.find? (·.name = name) = none)
    (hskip : value.skip = .ok ()) :
    decodeMembers fields known ((key, value) :: rest) = decodeMembers fields known rest := by
  simp only [decodeMembers, hword, bind, Except.bind, hfind, hskip]

/-- A member of a field that is known already is a problem. -/
theorem decodeMembers_cons_again (hword : key.word = .ok name) (hfind : fields.find? (·.name = name) = some field)
    (hknown : (field.get known).isSome = true) :
    decodeMembers fields known ((key, value) :: rest) = .error (.duplicateField name) := by
  simp only [decodeMembers, hword, bind, Except.bind, hfind, hknown, if_true]

/-- A member of a field that is not known yet makes it known, if its value is decoded. -/
theorem decodeMembers_cons_new (hword : key.word = .ok name) (hfind : fields.find? (·.name = name) = some field)
    (hunknown : field.get known = none) :
    decodeMembers fields known ((key, value) :: rest) =
      field.decode value >>= fun content => decodeMembers fields (field.set known content) rest := by
  simp only [decodeMembers, hword, bind, Except.bind, hfind, hunknown, Option.isSome_none, Bool.false_eq_true, if_false]

/-- Such a member with a name that has been written. -/
theorem decodeMembers_cons {content : field.Value} (hfind : fields.find? (·.name = name) = some field)
    (hunknown : field.get known = none) (hvalue : field.decode value = .ok content) (rest : Members) :
    decodeMembers fields known ((.text (.ofText name), value) :: rest) =
      decodeMembers fields (field.set known content) rest := by
  have hword : (Key.text (.ofText name)).word = .ok name := QuotedText.value_ofText name
  rw [decodeMembers_cons_new hword hfind hunknown, hvalue]
  rfl

end Members

/-- What the members have made known is all there is to a record. -/
theorem decodeRecord_object {σ α : Type} {record : Record σ α} {members : Members} {known : σ}
    (h : decodeMembers record.fields record.blank members = .ok known) :
    decodeRecord record (.object members none) = record.finish known := by
  simp only [decodeRecord, h, bind, Except.bind, closing]

end TagNesting.Json
