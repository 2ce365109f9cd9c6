import TagNesting.Proofs.Json.Decode

/-!
# `Proofs.Json.Faithful` — what has been decoded may be written and decoded again

A text may hold a value in many ways: with any blanks, escapes and order of members, and with members that nobody
knows. Written again, the value stands in one of two layouts. Decoding that text gives the value back if the decoder
is *faithful* to the way in which values are written (`Faithful`): it reads back what is written of each value that
fits, and it gives no value that does not fit (`Faithful.decode_again`).

The second condition is about the decoder alone, and it is proved along the decoder. A number that is decoded lies
below its bound, and the items of a list are what the decoder of items gives. A record is filled field by field, so
what holds of it to begin with, and is kept whenever a field is filled (`Field.Keeps`), holds of it in the end
(`decodeRecord_keeps`), whether the fields came as members or as items.
-/

namespace TagNesting.Json

theorem toOption_eq_some_iff {ε α : Type} {result : Except ε α} {value : α} :
    result.toOption = some value ↔ result = .ok value := by
  cases result <;> simp [Except.toOption]

theorem eq_ok_of_toOption_eq_some {ε α : Type} {result : Except ε α} {value : α} (h : result.toOption = some value) :
    result = .ok value :=
  toOption_eq_some_iff.1 h

/-! ## Faithful decoders -/

section Faithful

variable {α : Type} {decoder : Decoder α} {write : α → Value} {fits : α → Prop} {value : α} {text : List Char}

/-- The decoder reads back what is written of the values that fit, and gives no others. -/
structure Faithful (decoder : Decoder α) (write : α → Value) (fits : α → Prop) : Prop where
  reads_back : ∀ value, fits value → decoder (write value).reading = .ok value
  fits_of_decoded : ∀ reading value, decoder reading = .ok value → fits value

theorem exists_reading_of_decode (h : decode decoder text = .ok value) : ∃ reading, decoder reading = .ok value := by
  obtain ⟨decoded, hdecoded, hend⟩ := bind_eq_ok_iff.1 h
  refine ⟨(read text).value, ?_⟩
  split at hend
  · exact absurd hend (by simp)
  · cases hend
    exact hdecoded

theorem Faithful.decode_render (h : Faithful decoder write fits) (hfits : fits value) (layout : Layout) :
    decode decoder ((write value).render layout).toList = .ok value :=
  (Json.decode_render decoder layout (write value)).trans (h.reads_back value hfits)

/-- **What has been decoded, from whatever text, is read back when it is written.** -/
theorem Faithful.decode_again (h : Faithful decoder write fits) (hdecoded : decode decoder text = .ok value)
    (layout : Layout) : decode decoder ((write value).render layout).toList = .ok value := by
  obtain ⟨reading, hreading⟩ := exists_reading_of_decode hdecoded
  exact h.decode_render (h.fits_of_decoded reading value hreading) layout

/-! ## Lists -/

/-- The items of a list are what the decoder of items gives. -/
theorem forall_mem_of_mapM (h : ∀ reading value, decoder reading = .ok value → fits value) {readings : List Reading}
    {values : List α} (hvalues : readings.mapM decoder = .ok values) : ∀ value ∈ values, fits value := by
  induction readings generalizing values with
  | nil =>
      cases hvalues
      exact List.forall_mem_nil _
  | cons reading readings ih =>
      rw [List.mapM_cons] at hvalues
      obtain ⟨value, hvalue, hvalues⟩ := bind_eq_ok_iff.1 hvalues
      obtain ⟨others, hothers, hcons⟩ := bind_eq_ok_iff.1 hvalues
      cases hcons
      exact List.forall_mem_cons.2 ⟨h reading value hvalue, ih hothers⟩

/-- **A list is decoded as faithfully as its items.** -/
theorem Faithful.list (h : Faithful decoder write fits) :
    Faithful (decodeList decoder) (fun values => .list (values.map write)) (∀ value ∈ ·, fits value) where
  reads_back := by
    intro values hvalues
    exact decodeList_reading fun value hvalue => h.reads_back value (hvalues value hvalue)
  fits_of_decoded := by
    intro reading values hdecoded
    cases reading with
    | list items cut =>
        obtain ⟨decoded, hitems, hrest⟩ := bind_eq_ok_iff.1 hdecoded
        obtain ⟨-, -, hend⟩ := bind_eq_ok_iff.1 hrest
        cases hend
        exact forall_mem_of_mapM h.fits_of_decoded hitems
    | _ => exact absurd hdecoded (by simp [decodeList])

end Faithful

/-! ## Numbers -/

/-- A number that is decoded lies below its bound. -/
theorem lt_of_decodeNatural {bound n : Nat} {reading : Reading} (h : decodeNatural bound reading = .ok n) :
    n < bound := by
  unfold decodeNatural at h
  split at h
  · split at h
    · split at h
      · next hlt =>
          cases h
          exact hlt
      · exact absurd h (by simp)
    · exact absurd h (by simp)
  · exact absurd h (by simp)

/-! ## Records -/

section Records

variable {σ α : Type} {holds : σ → Prop} {fields : List (Field σ)} {known last : σ}

/-- Filling the field keeps the property, whatever is decoded for it. -/
def Field.Keeps (field : Field σ) (holds : σ → Prop) : Prop :=
  ∀ known reading content, holds known → field.decode reading = .ok content → holds (field.set known content)

theorem decodeMembers_keeps (hfields : ∀ field ∈ fields, field.Keeps holds) {members : Members} (hknown : holds known)
    (h : decodeMembers fields known members = .ok last) : holds last := by
  induction members generalizing known with
  | nil =>
      cases h
      exact hknown
  | cons member members ih =>
      obtain ⟨name, -, hmember⟩ := bind_eq_ok_iff.1 h
      split at hmember
      · -- nobody knows the field
        obtain ⟨-, -, hrest⟩ := bind_eq_ok_iff.1 hmember
        exact ih hknown hrest
      · next field hfield =>
          split at hmember
          · exact absurd hmember (by simp)
          · obtain ⟨content, hcontent, hrest⟩ := bind_eq_ok_iff.1 hmember
            exact ih (hfields field (List.mem_of_find?_eq_some hfield) _ _ _ hknown hcontent) hrest

theorem decodeItems_keeps (hfields : ∀ field ∈ fields, field.Keeps holds) {items : List Reading}
    (hknown : holds known) (h : decodeItems known fields items = .ok last) : holds last := by
  induction items generalizing known fields with
  | nil =>
      rw [decodeItems] at h
      cases h
      exact hknown
  | cons item items ih =>
      cases fields with
      | nil => exact absurd h (by simp [decodeItems])
      | cons field fields =>
          obtain ⟨hfirst, hothers⟩ := List.forall_mem_cons.1 hfields
          obtain ⟨content, hcontent, hrest⟩ := bind_eq_ok_iff.1 h
          exact ih hothers (hfirst _ _ _ hknown hcontent) hrest

/-- **A record is finished with what its fields keep.** -/
theorem decodeRecord_keeps {record : Record σ α} (hfields : ∀ field ∈ record.fields, field.Keeps holds)
    (hblank : holds record.blank) {reading : Reading} {value : α} (h : decodeRecord record reading = .ok value) :
    ∃ known, holds known ∧
      (record.finish known = .ok value ∨ ∃ found, record.finishShort found known = .ok value) := by
  cases reading with
  | object members cut =>
      obtain ⟨known, hmembers, hrest⟩ := bind_eq_ok_iff.1 h
      obtain ⟨-, -, hfinish⟩ := bind_eq_ok_iff.1 hrest
      exact ⟨known, decodeMembers_keeps hfields hblank hmembers, Or.inl hfinish⟩
  | list items cut =>
      obtain ⟨known, hitems, hrest⟩ := bind_eq_ok_iff.1 h
      obtain ⟨-, -, hfinish⟩ := bind_eq_ok_iff.1 hrest
      refine ⟨known, decodeItems_keeps hfields hblank hitems, ?_⟩
      split at hfinish
      · exact Or.inr ⟨items.length, hfinish⟩
      · exact Or.inl hfinish
  | _ => exact absurd h (by simp [decodeRecord])

end Records

end TagNesting.Json
