import TagNesting.Finding.Json
import TagNesting.Proofs.Json.Triple

/-!
# `Proofs.Finding.Json` — findings are read back

A finding is a record of three fields, and all that holds of such records holds of findings. A finding that has been
written as an object is decoded to the finding, if its line is a line number at all; and a finding that has been
decoded, from whatever object or list, has a line number. So findings are decoded faithfully.

An object from elsewhere is a finding if each of the three fields is given by one member (`decode_object_iff`).
-/

namespace TagNesting.Finding

open Json

theorem Kind.enumerates : Enumerates Kind.all Kind.word where
  complete := by
    intro kind
    cases kind <;> decide
  words_nodup := by decide

/-- **Which readings are kinds**: those that say the word of one. -/
theorem Kind.ofReading_eq_ok_iff {reading : Reading} {kind : Kind} :
    Kind.ofReading reading = .ok kind ↔ SaysWord reading kind.word :=
  decodeWord_eq_ok_iff Kind.enumerates

theorem names_nodup : ["kind", "line", "detail"].Nodup := by decide

/-- **A written finding is read back.** -/
theorem ofReading_toValue {finding : Finding} (h : finding.line < lineBound) :
    ofReading finding.toValue.reading = .ok finding :=
  decodeRecord_triple names_nodup (Kind.ofReading_eq_ok_iff.2 (saysWord_reading finding.kind.word))
    (decodeNatural_reading h) (decodeText_reading finding.detail)

/-- **A decoded finding is about a line.** -/
theorem line_lt_of_ofReading {reading : Reading} {finding : Finding} (h : ofReading reading = .ok finding) :
    finding.line < lineBound := by
  obtain ⟨kind, line, detail, rfl, -, ⟨value, hline⟩, -⟩ := exists_decoded_of_triple h
  exact lt_of_decodeNatural hline

/-- Findings are decoded faithfully. -/
theorem faithful : Faithful ofReading toValue (·.line < lineBound) where
  reads_back := fun _ hline => ofReading_toValue hline
  fits_of_decoded := fun _ _ hdecoded => line_lt_of_ofReading hdecoded

/-! ## Objects from elsewhere -/

theorem lawful_record : record.Lawful := Record.lawful_triple names_nodup

/-- **Which finding an object is.** -/
theorem decode_object_iff {text : List Char} {named : Named} (h : IsObject text named) {finding : Finding} :
    decode ofReading text = .ok finding ↔
      Gives Kind.ofReading (valuesOf "kind" named) (some finding.kind) ∧
        Gives decodeLine (valuesOf "line" named) (some finding.line) ∧
        Gives decodeText (valuesOf "detail" named) (some finding.detail) :=
  decode_triple_iff names_nodup (fun _ _ _ _ _ _ heq => Finding.mk.inj heq) h

end TagNesting.Finding
