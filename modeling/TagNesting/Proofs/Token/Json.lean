import TagNesting.Proofs.Json.Triple
import TagNesting.Token.Json

/-!
# `Proofs.Token.Json` — tokens are read back

A token is a record of three fields, and all that holds of such records holds of tokens. A token that has been written
as an object is decoded to the token, if its line is a line number at all; and a token that has been decoded, from
whatever object or list, has a line number. So tokens are decoded faithfully.

An object from elsewhere is a token if each of the three fields is given by one member (`decode_object_iff`).
-/

namespace TagNesting.Token

open Json

theorem Kind.enumerates : Enumerates Kind.all Kind.word where
  complete := by
    intro kind
    cases kind <;> decide
  words_nodup := by decide

/-- **Which readings are kinds**: those that say the word of one. -/
theorem Kind.ofReading_eq_ok_iff {reading : Reading} {kind : Kind} :
    Kind.ofReading reading = .ok kind ↔ SaysWord reading kind.word :=
  decodeWord_eq_ok_iff Kind.enumerates

theorem names_nodup : ["kind", "name", "line"].Nodup := by decide

/-- **A written token is read back.** -/
theorem ofReading_toValue {token : Token} (h : token.line < lineBound) :
    ofReading token.toValue.reading = .ok token :=
  decodeRecord_triple names_nodup (Kind.ofReading_eq_ok_iff.2 (saysWord_reading token.kind.word))
    (decodeText_reading token.name) (decodeNatural_reading h)

/-- **A decoded token stands on a line.** -/
theorem line_lt_of_ofReading {reading : Reading} {token : Token} (h : ofReading reading = .ok token) :
    token.line < lineBound := by
  obtain ⟨kind, name, line, rfl, -, -, value, hline⟩ := exists_decoded_of_triple h
  exact lt_of_decodeNatural hline

/-- Tokens are decoded faithfully. -/
theorem faithful : Faithful ofReading toValue (·.line < lineBound) where
  reads_back := fun _ hline => ofReading_toValue hline
  fits_of_decoded := fun _ _ hdecoded => line_lt_of_ofReading hdecoded

/-! ## Objects from elsewhere -/

theorem lawful_record : record.Lawful := Record.lawful_triple names_nodup

/-- **Which token an object is.** -/
theorem decode_object_iff {text : List Char} {named : Named} (h : IsObject text named) {token : Token} :
    decode ofReading text = .ok token ↔
      Gives Kind.ofReading (valuesOf "kind" named) (some token.kind) ∧
        Gives decodeText (valuesOf "name" named) (some token.name) ∧
        Gives decodeLine (valuesOf "line" named) (some token.line) :=
  decode_triple_iff names_nodup (fun _ _ _ _ _ _ heq => Token.mk.inj heq) h

end TagNesting.Token
