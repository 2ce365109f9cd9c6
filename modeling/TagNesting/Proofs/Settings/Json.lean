import TagNesting.Proofs.Json.Record
import TagNesting.Proofs.Text.IllFormed
import TagNesting.Settings.Json

/-!
# `Proofs.Settings.Json` — which objects are settings, and which files

Both fields of settings may be left out, so an object is settings unless something is wrong with the values under one of
the two names. As a list, settings may end after any number of fields.

Settings are loaded from a file if its bytes are those of a text that is decoded to them, and not otherwise
(`load_eq_ok_iff`). A file that settings have been saved to is one of these (`load_save`).
-/

namespace TagNesting

open Json

theorem SkipPolicy.enumerates : Enumerates SkipPolicy.all SkipPolicy.word where
  complete := by
    intro policy
    cases policy <;> decide
  words_nodup := by decide

/-- **Which readings are skip policies**: those that say the word of one. -/
theorem SkipPolicy.ofReading_eq_ok_iff {reading : Reading} {policy : SkipPolicy} :
    SkipPolicy.ofReading reading = .ok policy ↔ SaysWord reading policy.word :=
  decodeWord_eq_ok_iff SkipPolicy.enumerates

theorem ScanMode.enumerates : Enumerates ScanMode.all ScanMode.word where
  complete := by
    intro mode
    cases mode <;> decide
  words_nodup := by decide

/-- **Which readings are scan modes**: those that say the word of one. -/
theorem ScanMode.ofReading_eq_ok_iff {reading : Reading} {mode : ScanMode} :
    ScanMode.ofReading reading = .ok mode ↔ SaysWord reading mode.word :=
  decodeWord_eq_ok_iff ScanMode.enumerates

namespace Settings

/-! ## Written settings -/

/-- **Written settings are read back.** -/
theorem ofReading_toValue (settings : Settings) : ofReading settings.toValue.reading = .ok settings := by
  obtain ⟨policy, mode⟩ := settings
  have hpolicy := SkipPolicy.ofReading_eq_ok_iff.2 (saysWord_reading policy.word)
  have hmode := ScanMode.ofReading_eq_ok_iff.2 (saysWord_reading mode.word)
  have hmembers : decodeMembers record.fields record.blank (membersReading
      [("mismatch_policy", .text policy.word), ("scan_mode", .text mode.word)]) =
        .ok { policy := some policy, mode := some mode } := by
    rw [membersReading, decodeMembers_cons rfl rfl hpolicy]
    rw [membersReading, decodeMembers_cons rfl rfl hmode]
    rfl
  exact decodeRecord_object hmembers

/-- **Which files are settings**: those with the bytes of a text that is decoded to settings. -/
theorem load_eq_ok_iff {bytes : List UInt8} {settings : Settings} :
    load (some bytes) = .ok settings ↔ ∃ text, bytes = Text.Utf8.encode text ∧ decode ofReading text = .ok settings := by
  simp only [load, ← Text.Utf8.decodeStrict?_eq_some_iff]
  cases Text.Utf8.decodeStrict? bytes with
  | none => simp
  | some text =>
      cases hdecoded : decode ofReading text <;> simp [Except.mapError, hdecoded]

/-- **Settings that have been saved are loaded again.** -/
theorem load_save (settings : Settings) : load (some (Text.Utf8.encode settings.save.toList)) = .ok settings :=
  load_eq_ok_iff.2 ⟨_, rfl, (decode_render ofReading .indented settings.toValue).trans settings.ofReading_toValue⟩

/-! ## Objects and lists from elsewhere -/

theorem lawful_record : record.Lawful where
  names_nodup := by decide
  get_blank := by simp [record]
  get_set := by simp [record]
  get_set_of_ne := by simp [record]
  ext := by
    rintro ⟨policy, mode⟩ ⟨otherPolicy, otherMode⟩ h
    simpa [record] using h

theorem requires_record : record.Requires [] where
  subset := List.nil_subset _
  finish_iff := by simp [record]

variable {text : List Char} {named : Named}

/-- **Which settings an object is.** -/
theorem decode_object_iff (h : IsObject text named) {settings : Settings} :
    decode ofReading text = .ok settings ↔
      (∃ policy, Gives SkipPolicy.ofReading (valuesOf "mismatch_policy" named) policy ∧
        settings.policy = policy.getD .report) ∧
        ∃ mode, Gives ScanMode.ofReading (valuesOf "scan_mode" named) mode ∧ settings.mode = mode.getD .tags := by
  have hholds (draft : Draft) : record.Holds named draft ↔
      Gives SkipPolicy.ofReading (valuesOf "mismatch_policy" named) draft.policy ∧
        Gives ScanMode.ofReading (valuesOf "scan_mode" named) draft.mode := by
    simp only [Record.Holds, record, List.forall_mem_cons, List.not_mem_nil, false_implies, implies_true, and_true]
  obtain ⟨settledPolicy, settledMode⟩ := settings
  rw [ofReading, decode_object_eq_ok_iff lawful_record h]
  constructor
  · rintro ⟨⟨policy, mode⟩, hknown, hfinish⟩
    obtain ⟨hpolicy, hmode⟩ := (hholds _).1 hknown
    cases hfinish
    exact ⟨⟨policy, hpolicy, rfl⟩, mode, hmode, rfl⟩
  · rintro ⟨⟨policy, hpolicy, rfl⟩, mode, hmode, rfl⟩
    exact ⟨⟨policy, mode⟩, (hholds _).2 ⟨hpolicy, hmode⟩, rfl⟩

/-- As a list, settings may end anywhere. -/
theorem decode_list_eq {items : List Reading} {listText : List Char}
    (hlist : Spelled (.value (.list items none)) listText) (hlength : items.length ≤ 2)
    (hobject : IsObject text (["mismatch_policy", "scan_mode"].zip items)) :
    decode ofReading listText = decode ofReading text :=
  decode_list_eq_object lawful_record hlist hlength hobject fun _ _ => rfl

end Settings

end TagNesting
