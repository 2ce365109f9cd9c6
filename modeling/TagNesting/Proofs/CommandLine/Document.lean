import TagNesting.CommandLine.Run
import TagNesting.Proofs.Scanner.Pieces
import TagNesting.Proofs.Text.IllFormed

/-!
# `Proofs.CommandLine.Document` — a document that is read piece by piece

A command line reads a document in pieces that end with a line feed each and decodes every piece by itself. Where a
piece ends, a character may have been cut short, and its bytes are a gap there and then; but a line feed never belongs
to a longer character, so the gap is no other than in the whole document (`decode_append_newline`).
`ArePieces` says what pieces are, and the induction over it puts decoded pieces together (`decodeLossy_flatten`). The
scanner does not mind where its pieces end anyway.
-/

namespace TagNesting.CommandLine

open Text.Utf8

/-! ## Pieces -/

/-- Pieces as they are read from a document: each of them ends with its only line feed, the last one perhaps
excepted, which has none then and is not empty. -/
inductive ArePieces : List (List UInt8) → Prop where
  | nil : ArePieces []
  | last {piece : List UInt8} (hne : piece ≠ []) (hline : 0x0A ∉ piece) : ArePieces [piece]
  | ended {line : List UInt8} {rest : List (List UInt8)} (hline : 0x0A ∉ line) :
      ArePieces rest → ArePieces ((line ++ [0x0A]) :: rest)

/-- **Step.** A byte in front leaves pieces what they are. -/
theorem ArePieces.consByte {parts : List (List UInt8)} (h : ArePieces parts) (byte : UInt8) :
    ArePieces (consByte byte parts) := by
  unfold CommandLine.consByte
  by_cases hbyte : byte = 0x0A
  · -- it is a piece of its own
    have hended : ArePieces (([] ++ [0x0A]) :: parts) := h.ended List.not_mem_nil
    rw [if_pos hbyte, hbyte]
    exact hended
  · rw [if_neg hbyte]
    cases h with
    | nil => exact .last (List.cons_ne_nil byte []) (by simpa using Ne.symm hbyte)
    | last hne hline => exact .last (List.cons_ne_nil byte _) (by simpa using ⟨Ne.symm hbyte, hline⟩)
    | @ended line rest hline hrest =>
        have hended : ArePieces ((byte :: line ++ [0x0A]) :: rest) :=
          hrest.ended (by simpa using ⟨Ne.symm hbyte, hline⟩)
        exact hended

theorem flatten_consByte (byte : UInt8) (parts : List (List UInt8)) :
    (consByte byte parts).flatten = byte :: parts.flatten := by
  unfold consByte
  by_cases hbyte : byte = 0x0A
  · rw [if_pos hbyte]
    rfl
  · rw [if_neg hbyte]
    cases parts <;> rfl

/-- **Run.** What is read from a document are its bytes, in pieces. -/
theorem arePieces_pieces (bytes : List UInt8) : ArePieces (pieces bytes) ∧ (pieces bytes).flatten = bytes := by
  induction bytes with
  | nil => exact ⟨.nil, rfl⟩
  | cons byte bytes ih =>
      obtain ⟨hparts, hbytes⟩ := ih
      have hcons : pieces (byte :: bytes) = consByte byte (pieces bytes) := rfl
      rw [hcons, flatten_consByte, hbytes]
      exact ⟨hparts.consByte byte, rfl⟩

/-! ## Decoding them one by one -/

theorem decodeLossy_append_newline (line rest : List UInt8) :
    decodeLossy (line ++ 0x0A :: rest) = decodeLossy (line ++ [0x0A]) ++ decodeLossy rest := by
  simp only [decodeLossy, decode_append_newline line rest, List.map_append]

/-- **Pieces may be decoded one by one.** -/
theorem decodeLossy_flatten {parts : List (List UInt8)} (h : ArePieces parts) :
    (parts.map decodeLossy).flatten = decodeLossy parts.flatten := by
  induction h with
  | nil => rfl
  | last => simp
  | @ended line rest _ _ ih =>
      rw [List.map_cons, List.flatten_cons, List.flatten_cons, ih, ← decodeLossy_append_newline, List.append_assoc,
        List.singleton_append]

/-- The tokens of a document that is read piece by piece are those of its whole text. -/
theorem documentTokens_eq (mode : ScanMode) (bytes : List UInt8) :
    documentTokens mode bytes = scan mode (decodeLossy bytes) := by
  obtain ⟨hparts, hbytes⟩ := arePieces_pieces bytes
  have hdecoded : ((pieces bytes).map decodeLossy).flatten = decodeLossy bytes := by
    rw [decodeLossy_flatten hparts, hbytes]
  rw [← hdecoded]
  exact (Scanner.follows_pieces mode _).tokens_eq

/-- **Reading piece by piece is reading at once.** Whatever the bytes of a document are, the pieces that it is read
in are these bytes, cut behind each line feed; and the tokens that come of decoding and scanning the pieces one after
the other are those of the whole document, decoded with U+FFFD in place of each maximal ill-formed part. -/
theorem documentTokens_eq_scan (mode : ScanMode) (bytes : List UInt8) :
    (ArePieces (pieces bytes) ∧ (pieces bytes).flatten = bytes) ∧
      (∃ parts, Decodes bytes parts ∧ decodeLossy bytes = parts.map (·.getD '\uFFFD')) ∧
      documentTokens mode bytes = scan mode (decodeLossy bytes) :=
  ⟨arePieces_pieces bytes, ⟨decode bytes, decodes_iff.2 rfl, rfl⟩, documentTokens_eq mode bytes⟩

/-- The first two bytes of a character, cut short by a line feed, are one gap, and a byte that no character begins
with is another. -/
example : documentTokens .tags [0x3C, 0xE2, 0x82, 0x0A, 0xFF, 0x3C, 0x61, 0x3E] =
    [⟨.malformed, "<\uFFFD", 1⟩, ⟨.opening, "a", 2⟩] := by
  decide +kernel

end TagNesting.CommandLine
