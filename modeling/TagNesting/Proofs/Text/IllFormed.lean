import TagNesting.Proofs.Text.Spelling
import TagNesting.Proofs.Text.Utf8

/-!
# `Proofs.Text.IllFormed` — one gap for each maximal ill-formed part

Bytes need not be what any text is written with. Where no character is written, a decoder has to skip something, and
the encoding's own rule for how much is this: the longest *start* of a character there is, or one byte if no
character starts there at all. `IsMaximalPart` says so, and `Decodes` reads whole byte strings by it. Neither mentions
a decoder, and together they leave no choice (`Decodes.unique`).

The decoder keeps to this rule (`decodes_iff`). What it must remember of the bytes that it has taken is in `Awaits`:
they are the start of a character, no character ends within them, and what completes the pending character is exactly
what characters go on with behind them. A first byte brings this about (`awaits_of_lead`), each further byte keeps it
(`Awaits.more`), and it says what the last byte makes of it (`Awaits.last`) and what it means when a byte does not fit
(`Awaits.cutShort`).

There is no gap in the bytes that a text is written with (`encode`), and only in these there is none; so the strict
decoder takes them and no others (`decodeStrict?_eq_some_iff`).
-/

namespace TagNesting.Text.Utf8

/-! ## Reading by the rule -/

/-- Some character is written with these bytes and perhaps more. -/
def IsStart (bytes : List UInt8) : Prop :=
  ∃ c : Char, bytes <+: String.utf8EncodeChar c

/-- No character is written where these bytes stand, and they are all that is to be skipped. -/
structure IsMaximalPart (part rest : List UInt8) : Prop where
  /-- No character is written here. -/
  unconvertible : ∀ c : Char, ¬ String.utf8EncodeChar c <+: part ++ rest
  ne_nil : part ≠ []
  /-- What is skipped is a start of a character, or one byte. -/
  isStart_or_length : IsStart part ∨ part.length = 1
  /-- There is no longer start of a character here. -/
  longest : ∀ start, IsStart start → start <+: part ++ rest → start <+: part

/-- Reads bytes as characters and gaps, each gap standing for a maximal ill-formed part. -/
inductive Decodes : List UInt8 → List (Option Char) → Prop where
  | nil : Decodes [] []
  | char (c : Char) {rest : List UInt8} {parts : List (Option Char)} :
      Decodes rest parts → Decodes (String.utf8EncodeChar c ++ rest) (some c :: parts)
  | gap {part rest : List UInt8} {parts : List (Option Char)} :
      IsMaximalPart part rest → Decodes rest parts → Decodes (part ++ rest) (none :: parts)

variable {part rest bytes : List UInt8} {byte : UInt8} {p : Pending} {bits further low high : Nat}

theorem encode_ne_nil (c : Char) : String.utf8EncodeChar c ≠ [] :=
  (spells_encode c).ne_nil

/-- Of two maximal parts at the same place, one is not longer than the other. -/
theorem IsMaximalPart.prefix_of_eq {part' rest' : List UInt8} (h : IsMaximalPart part rest)
    (h' : IsMaximalPart part' rest') (heq : part ++ rest = part' ++ rest') : part <+: part' := by
  have hpart : part <+: part' ++ rest' := ⟨rest, heq⟩
  rcases h.isStart_or_length with hstart | hlength
  · exact h'.longest part hstart hpart
  · -- a single byte fits into any part
    apply List.prefix_of_prefix_length_le hpart (List.prefix_append part' rest')
    have hpos := List.length_pos_iff.2 h'.ne_nil
    omega

theorem IsMaximalPart.unique {part' rest' : List UInt8} (h : IsMaximalPart part rest)
    (h' : IsMaximalPart part' rest') (heq : part ++ rest = part' ++ rest') : part = part' ∧ rest = rest' := by
  have hprefix := h.prefix_of_eq h' heq
  have hprefix' := h'.prefix_of_eq h heq.symm
  have hlength := Nat.le_antisymm hprefix.length_le hprefix'.length_le
  exact List.append_inj heq hlength

/-- At one place, at most one character is written. -/
theorem encode_append_inj {c other : Char} {rest' : List UInt8}
    (heq : String.utf8EncodeChar c ++ rest = String.utf8EncodeChar other ++ rest') : c = other ∧ rest = rest' := by
  have hone : String.utf8EncodeChar c <+: String.utf8EncodeChar other ++ rest' := ⟨rest, heq⟩
  have hencode : String.utf8EncodeChar c = String.utf8EncodeChar other := by
    rcases List.prefix_or_prefix_of_prefix hone (List.prefix_append _ rest') with hprefix | hprefix
    · exact encode_eq_of_starts hprefix
    · exact (encode_eq_of_starts hprefix).symm
  obtain ⟨-, hrest⟩ := List.append_inj heq (congrArg List.length hencode)
  exact ⟨encode_inj hencode, hrest⟩

/-- **Bytes are read in one way.** -/
theorem Decodes.unique {parts parts' : List (Option Char)} (h : Decodes bytes parts) (h' : Decodes bytes parts') :
    parts = parts' := by
  induction h generalizing parts' with
  | nil =>
      generalize hbytes : ([] : List UInt8) = bytes at h'
      cases h' with
      | nil => rfl
      | char c hrest => exact absurd (List.append_eq_nil_iff.1 hbytes.symm).1 (encode_ne_nil c)
      | gap hpart hrest => exact absurd (List.append_eq_nil_iff.1 hbytes.symm).1 hpart.ne_nil
  | @char c rest parts hrest ih =>
      generalize hbytes : String.utf8EncodeChar c ++ rest = bytes at h'
      cases h' with
      | nil => exact absurd (List.append_eq_nil_iff.1 hbytes).1 (encode_ne_nil c)
      | char other hother =>
          obtain ⟨rfl, rfl⟩ := encode_append_inj hbytes
          rw [ih hother]
      | gap hpart hother => exact absurd ⟨rest, hbytes⟩ (hpart.unconvertible c)
  | @gap part rest parts hpart hrest ih =>
      generalize hbytes : part ++ rest = bytes at h'
      cases h' with
      | nil => exact absurd (List.append_eq_nil_iff.1 hbytes).1 hpart.ne_nil
      | char other hother => exact absurd ⟨_, hbytes.symm⟩ (hpart.unconvertible other)
      | gap hpart' hother =>
          obtain ⟨rfl, rfl⟩ := hpart.unique hpart' hbytes
          rw [ih hother]

/-! ## What the decoder remembers -/

/-- **The decoder's invariant inside a character.** The bytes taken are a start of a character that is not over, and
what is pending tells how characters go on behind them. -/
structure Awaits (part : List UInt8) (p : Pending) : Prop where
  ne_nil : part ≠ []
  isStart : IsStart part
  /-- No character ends within the bytes taken. -/
  unfinished : ∀ c : Char, ¬ String.utf8EncodeChar c <+: part
  /-- What is pending tells how characters go on. -/
  completes_iff : ∀ tail value,
    Completes p tail value ↔ ∃ c : Char, c.toNat = value ∧ String.utf8EncodeChar c = part ++ tail

/-- Something completes whatever is pending, if there is a byte in the range for the next one. -/
theorem exists_completes (bits further : Nat) {low high : Nat} (hle : low ≤ high) (hhigh : high < 256) :
    ∃ tail value, Completes ⟨bits, further, low, high⟩ tail value := by
  have hlow : (UInt8.ofNat low).toNat = low := UInt8.toNat_ofNat_of_lt' (Nat.lt_of_le_of_lt hle hhigh)
  induction further generalizing bits low high with
  | zero => exact ⟨_, _, completes_last.2 ⟨UInt8.ofNat low, rfl, by omega, rfl⟩⟩
  | succ further ih =>
      obtain ⟨tail, value, h⟩ := ih (bits * 64 + (low - 0x80)) (show 0x80 ≤ 0xBF by omega) (by omega) rfl
      refine ⟨UInt8.ofNat low :: tail, value, completes_more.2 ⟨_, _, rfl, by omega, ?_⟩⟩
      rw [hlow]
      exact h

/-- What is pending behind a first byte can be completed. -/
theorem exists_completes_of_lead (h : lead byte.toNat = .longer p) : ∃ tail value, Completes p tail value := by
  cases leads_of_lead h with
  | two => exact exists_completes _ _ (by omega) (by omega)
  | three => exact exists_completes _ _ (by grind) (by grind)
  | four => exact exists_completes _ _ (by grind) (by grind)

/-- **A first byte** of a longer character brings the invariant about. -/
theorem awaits_of_lead (h : lead byte.toNat = .longer p) : Awaits [byte] p where
  ne_nil := List.cons_ne_nil byte []
  isStart := by
    obtain ⟨tail, value, hcompletes⟩ := exists_completes_of_lead h
    obtain ⟨c, -, hencode⟩ := (completes_iff_of_lead h).1 hcompletes
    exact ⟨c, tail, hencode.symm⟩
  unfinished := by
    intro c hprefix
    -- an encoding within one byte is that byte, and nothing would be left to complete it
    have hencode : String.utf8EncodeChar c = [byte] := by
      apply hprefix.eq_of_length_le
      exact List.length_pos_iff.2 (encode_ne_nil c)
    exact not_completes_nil ((completes_iff_of_lead h).2 ⟨c, rfl, hencode⟩)
  completes_iff := fun _ _ => completes_iff_of_lead h

namespace Awaits

/-- **A byte in between** keeps it. -/
theorem more (h : Awaits part ⟨bits, further + 1, low, high⟩) (hnext : low ≤ byte.toNat ∧ byte.toNat ≤ high) :
    Awaits (part ++ [byte]) ⟨bits * 64 + (byte.toNat - 0x80), further, 0x80, 0xBF⟩ := by
  have hcompletes (tail : List UInt8) (value : Nat) :
      Completes ⟨bits * 64 + (byte.toNat - 0x80), further, 0x80, 0xBF⟩ tail value ↔
        ∃ c : Char, c.toNat = value ∧ String.utf8EncodeChar c = part ++ [byte] ++ tail := by
    rw [List.append_assoc, List.singleton_append, ← h.completes_iff]
    simp only [Completes, hnext, and_self, true_and]
  refine ⟨List.append_ne_nil_of_right_ne_nil part (List.cons_ne_nil byte []), ?_, ?_, hcompletes⟩
  · obtain ⟨tail, value, hsome⟩ := exists_completes (bits * 64 + (byte.toNat - 0x80)) further
      (show 0x80 ≤ 0xBF by omega) (by omega)
    obtain ⟨c, -, hencode⟩ := (hcompletes tail value).1 hsome
    exact ⟨c, tail, hencode.symm⟩
  · intro c hprefix
    rcases List.prefix_concat_iff.1 hprefix with hwhole | hbefore
    · exact not_completes_nil ((hcompletes [] c.toNat).2 ⟨c, rfl, by rw [hwhole, List.append_nil]⟩)
    · exact h.unfinished c hbefore

/-- **The last byte** completes the character that is written with all of them. -/
theorem last (h : Awaits part ⟨bits, 0, low, high⟩) (hnext : low ≤ byte.toNat ∧ byte.toNat ≤ high) :
    String.utf8EncodeChar (Char.ofNat (bits * 64 + (byte.toNat - 0x80))) = part ++ [byte] := by
  have hcompletes : Completes ⟨bits, 0, low, high⟩ [byte] (bits * 64 + (byte.toNat - 0x80)) :=
    completes_last.2 ⟨byte, rfl, hnext, rfl⟩
  obtain ⟨c, hvalue, hencode⟩ := (h.completes_iff _ _).1 hcompletes
  rw [← hvalue, Char.ofNat_toNat]
  exact hencode

/-- **A byte that does not fit**, or the end, leaves a maximal ill-formed part behind. -/
theorem cutShort (h : Awaits part p) (hnext : ∀ byte ∈ rest.head?, ¬ (p.low ≤ byte.toNat ∧ byte.toNat ≤ p.high)) :
    IsMaximalPart part rest := by
  have hlongest : ∀ start, IsStart start → start <+: part ++ rest → start <+: part := by
    rintro start ⟨c, hstart⟩ hhere
    rcases List.prefix_or_prefix_of_prefix hhere (List.prefix_append part rest) with hwithin | ⟨more, rfl⟩
    · exact hwithin
    · cases more with
      | nil => simp
      | cons byte more =>
          -- the next byte would continue the character
          obtain ⟨tail, hencode⟩ := hstart
          have hcompletes : Completes p (byte :: (more ++ tail)) c.toNat := by
            rw [h.completes_iff]
            exact ⟨c, rfl, by rw [← hencode, List.append_assoc, List.cons_append]⟩
          obtain ⟨behind, hrest⟩ := (List.prefix_append_right_inj part).1 hhere
          have hhead : byte ∈ rest.head? := by
            rw [← hrest]
            rfl
          exact absurd hcompletes.next (hnext byte hhead)
  refine ⟨?_, h.ne_nil, Or.inl h.isStart, hlongest⟩
  intro c hhere
  exact h.unfinished c (hlongest _ ⟨c, List.prefix_refl _⟩ hhere)

end Awaits

/-- A byte that no character begins with is a maximal ill-formed part by itself. -/
theorem isMaximalPart_of_stray (h : lead byte.toNat = .stray) (rest : List UInt8) :
    IsMaximalPart [byte] rest := by
  have hlongest : ∀ start, IsStart start → start <+: [byte] ++ rest → start <+: [byte] := by
    rintro start ⟨c, tail, hencode⟩ hhere
    cases start with
    | nil => exact List.nil_prefix
    | cons first more =>
        obtain ⟨rfl, -⟩ := List.cons_prefix_cons.1 hhere
        exact absurd hencode.symm (encode_ne_of_lead_stray h c)
  refine ⟨?_, List.cons_ne_nil byte [], Or.inr rfl, hlongest⟩
  intro c hhere
  have hwithin := hlongest _ ⟨c, List.prefix_refl _⟩ hhere
  have hencode : String.utf8EncodeChar c = [byte] :=
    hwithin.eq_of_length_le (List.length_pos_iff.2 (encode_ne_nil c))
  exact encode_ne_of_lead_stray h c hencode

/-! ## The decoder keeps to the rule -/

/-- The bytes to come are read by the rule, together with those of the character that is pending. -/
theorem decodes_decodeFrom (bytes : List UInt8) :
    Decodes bytes (decodeFrom none bytes) ∧
      ∀ part p, Awaits part p → Decodes (part ++ bytes) (decodeFrom (some p) bytes) := by
  induction bytes with
  | nil =>
      rw [decodeFrom_none_nil]
      refine ⟨.nil, ?_⟩
      intro part p h
      rw [decodeFrom_some_nil]
      exact .gap (h.cutShort (by simp)) .nil
  | cons byte bytes ih =>
      obtain ⟨hbetween, hwithin⟩ := ih
      -- the byte taken between two characters
      have hfresh : Decodes (byte :: bytes) (decodeFrom none (byte :: bytes)) := by
        cases hlead : lead byte.toNat with
        | single =>
            rw [decodeFrom_of_single hlead]
            have hchar := Decodes.char (Char.ofNat byte.toNat) hbetween
            rw [encode_of_lead_single hlead] at hchar
            exact hchar
        | longer p =>
            rw [decodeFrom_of_longer hlead]
            exact hwithin [byte] p (awaits_of_lead hlead)
        | stray =>
            rw [decodeFrom_of_stray hlead]
            exact .gap (isMaximalPart_of_stray hlead bytes) hbetween
      refine ⟨hfresh, ?_⟩
      rintro part ⟨bits, further, low, high⟩ h
      by_cases hnext : low ≤ byte.toNat ∧ byte.toNat ≤ high
      · rw [List.append_cons]
        cases further with
        | zero =>
            rw [decodeFrom_of_last hnext]
            have hchar := Decodes.char (Char.ofNat (bits * 64 + (byte.toNat - 0x80))) hbetween
            rw [h.last hnext] at hchar
            exact hchar
        | succ further =>
            rw [decodeFrom_of_more hnext]
            exact hwithin _ _ (h.more hnext)
      · rw [decodeFrom_of_not_next hnext]
        exact .gap (h.cutShort (by simpa using hnext)) hfresh

/-- **The decoder reads bytes by the rule**, and the rule leaves no other reading. -/
theorem decodes_iff {parts : List (Option Char)} : Decodes bytes parts ↔ decode bytes = parts := by
  have hdecode : Decodes bytes (decode bytes) := (decodes_decodeFrom bytes).1
  constructor
  · intro h
    exact hdecode.unique h
  · rintro rfl
    exact hdecode

/-! ## Bytes without a gap -/

/-- The bytes that a text is written with. -/
def encode (text : List Char) : List UInt8 :=
  text.flatMap String.utf8EncodeChar

variable {text : List Char}

theorem decodes_encode (text : List Char) : Decodes (encode text) (text.map some) := by
  induction text with
  | nil => exact .nil
  | cons c text ih => exact .char c ih

/-- Bytes that are read as characters only are those that the characters are written with. -/
theorem Decodes.eq_encode {parts : List (Option Char)} (h : Decodes bytes parts) (hparts : parts = text.map some) :
    bytes = encode text := by
  induction h generalizing text with
  | nil =>
      rw [List.map_eq_nil_iff.1 hparts.symm]
      rfl
  | char c hrest ih =>
      obtain ⟨first, more, rfl, hfirst, hmore⟩ := List.map_eq_cons_iff.1 hparts.symm
      cases hfirst
      rw [ih hmore.symm]
      rfl
  | gap hpart hrest ih =>
      obtain ⟨first, more, -, hfirst, -⟩ := List.map_eq_cons_iff.1 hparts.symm
      exact absurd hfirst (by simp)

theorem mapM_id_eq_some_iff {parts : List (Option Char)} : parts.mapM id = some text ↔ parts = text.map some := by
  induction parts generalizing text with
  | nil => cases text <;> simp
  | cons part parts ih =>
      cases text with
      | nil => simp [Option.bind_eq_some_iff]
      | cons c text => simp [Option.bind_eq_some_iff, ih]

/-- **Bytes are taken as a text without a gap just if the text is written with them.** -/
theorem decodeStrict?_eq_some_iff : decodeStrict? bytes = some text ↔ bytes = encode text := by
  rw [decodeStrict?, mapM_id_eq_some_iff, ← decodes_iff]
  constructor
  · intro h
    exact h.eq_encode rfl
  · rintro rfl
    exact decodes_encode text

/-- Where there is no gap, nothing stands in for one. -/
theorem decodeLossy_encode (text : List Char) : decodeLossy (encode text) = text := by
  rw [decodeLossy, decodes_iff.1 (decodes_encode text), List.map_map]
  exact List.map_id text

end TagNesting.Text.Utf8
