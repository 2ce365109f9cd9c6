import TagNesting.Proofs.Finding.Json
import TagNesting.Proofs.Token.Json

/-!
# `Proofs.Json.RoundTrip` — lists of tokens and findings written and read again

Tokens and findings leave the program as JSON lists, and may come back as such. Both layouts of a list are read as the
list that was written, whatever the names and texts in it hold; and a list that has come from elsewhere, in whatever
form, may be passed on in either layout.
-/

namespace TagNesting

open Json

/-- **What is written is read back.** A list of tokens or of findings on lines that can be numbered, written in either
layout, is decoded to the list. So whatever text is decoded to a list of tokens or findings, or to one of them, the
list or the one is read back when it is written again, in either layout. -/
theorem json_round_trip (layout : Layout) :
    (∀ tokens : List Token, (∀ token ∈ tokens, token.line < lineBound) →
      decode (decodeList Token.ofReading) ((Value.list (tokens.map Token.toValue)).render layout).toList =
        .ok tokens) ∧
      (∀ findings : List Finding, (∀ finding ∈ findings, finding.line < lineBound) →
        decode (decodeList Finding.ofReading) ((Value.list (findings.map Finding.toValue)).render layout).toList =
          .ok findings) ∧
      (∀ text tokens, decode (decodeList Token.ofReading) text = .ok tokens →
        decode (decodeList Token.ofReading) ((Value.list (tokens.map Token.toValue)).render layout).toList =
          .ok tokens) ∧
      (∀ text findings, decode (decodeList Finding.ofReading) text = .ok findings →
        decode (decodeList Finding.ofReading) ((Value.list (findings.map Finding.toValue)).render layout).toList =
          .ok findings) ∧
      (∀ text token, decode Token.ofReading text = .ok token →
        decode Token.ofReading (token.toValue.render layout).toList = .ok token) ∧
      ∀ text finding, decode Finding.ofReading text = .ok finding →
        decode Finding.ofReading (finding.toValue.render layout).toList = .ok finding := by
  have htokens := Token.faithful.list
  have hfindings := Finding.faithful.list
  refine ⟨?_, ?_, ?_, ?_, ?_, ?_⟩
  · intro tokens hlines
    exact htokens.decode_render hlines layout
  · intro findings hlines
    exact hfindings.decode_render hlines layout
  · intro text tokens hdecoded
    exact htokens.decode_again hdecoded layout
  · intro text findings hdecoded
    exact hfindings.decode_again hdecoded layout
  · intro text token hdecoded
    exact Token.faithful.decode_again hdecoded layout
  · intro text finding hdecoded
    exact Finding.faithful.decode_again hdecoded layout

/-- Names with characters that are escaped and others that are not, on the first and the last line; and tokens and
findings that are spelled in another way. -/
theorem json_round_trip_escapes :
    let tokens : List Token :=
      [⟨.malformed, "<\"\\/\n\x00\x1f\x7f\u0085😀", 18446744073709551615⟩, ⟨.closing, "", 0⟩]
    let findings : List Finding := [⟨.missingStart, 18446744073709551615, "\"\\\x00\x7f😀"⟩]
    let writtenTokens (layout : Layout) := ((Value.list (tokens.map Token.toValue)).render layout).toList
    let writtenFindings (layout : Layout) := ((Value.list (findings.map Finding.toValue)).render layout).toList
    ((∀ token ∈ tokens, token.line < lineBound) ∧
      ∀ layout, decode (decodeList Token.ofReading) (writtenTokens layout) = .ok tokens) ∧
      ((∀ finding ∈ findings, finding.line < lineBound) ∧
        ∀ layout, decode (decodeList Finding.ofReading) (writtenFindings layout) = .ok findings) ∧
      (let token : Token := ⟨.opening, "a/\x00😀", 3⟩
        let asObject :=
          "\x7b\"line\":3, \"x\":[], \"name\":\"\\u0061\\/\\u0000\\ud83d\\ude00\", \"kind\":\"start\"\x7d".toList
        let asItem := "[\n[\"start\", \"a/\\u0000😀\", 3]\t]\r".toList
        decode Token.ofReading asObject = .ok token ∧
          decode Token.ofReading (token.toValue.render .compact).toList = .ok token ∧
          decode (decodeList Token.ofReading) asItem = .ok [token] ∧
          decode (decodeList Token.ofReading) ((Value.list ([token].map Token.toValue)).render .indented).toList =
            .ok [token]) ∧
      let finding : Finding := ⟨.extra, 18446744073709551615, "\""⟩
        let asList := "[\"extra\", 18446744073709551615, \"\\\"\"]".toList
        let asItem := "[[\"extra\", 18446744073709551615, \"\\u0022\"]]".toList
        decode Finding.ofReading asList = .ok finding ∧
          decode Finding.ofReading (finding.toValue.render .compact).toList = .ok finding ∧
          decode (decodeList Finding.ofReading) asItem = .ok [finding] ∧
          decode (decodeList Finding.ofReading)
            ((Value.list ([finding].map Finding.toValue)).render .indented).toList = .ok [finding] := by
  intro tokens findings writtenTokens writtenFindings
  refine ⟨?_, ?_, ?_, ?_⟩
  · have hlines : ∀ token ∈ tokens, token.line < lineBound := by decide
    exact ⟨hlines, fun layout => (json_round_trip layout).1 tokens hlines⟩
  · have hlines : ∀ finding ∈ findings, finding.line < lineBound := by decide
    exact ⟨hlines, fun layout => (json_round_trip layout).2.1 findings hlines⟩
  · intro token asObject asItem
    obtain ⟨-, -, -, -, hone, -⟩ := json_round_trip .compact
    obtain ⟨-, -, hlist, -⟩ := json_round_trip .indented
    have hobject : decode Token.ofReading asObject = .ok token := eq_ok_of_toOption_eq_some (by decide +kernel)
    have hitem : decode (decodeList Token.ofReading) asItem = .ok [token] :=
      eq_ok_of_toOption_eq_some (by decide +kernel)
    exact ⟨hobject, hone asObject token hobject, hitem, hlist asItem [token] hitem⟩
  · intro finding asList asItem
    obtain ⟨-, -, -, -, -, hone⟩ := json_round_trip .compact
    obtain ⟨-, -, -, hlist, -⟩ := json_round_trip .indented
    have hfields : decode Finding.ofReading asList = .ok finding := eq_ok_of_toOption_eq_some (by decide +kernel)
    have hitem : decode (decodeList Finding.ofReading) asItem = .ok [finding] :=
      eq_ok_of_toOption_eq_some (by decide +kernel)
    exact ⟨hfields, hone asList finding hfields, hitem, hlist asItem [finding] hitem⟩

end TagNesting
