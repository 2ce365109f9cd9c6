import TagNesting.Text.Utf8

/-!
# `Proofs.Text.Utf8` — decoding may stop behind a line feed

A decoder adds to what it has decoded and never looks at it (`finish_foldl_push`), so decoding is a function of the
pending character and of the bytes to come: `decodeFrom`, with one equation for each thing that the next byte can do.
They are what the rest of the theory of decoding rests on.

A line feed never continues a character. It lies below every byte that could, since the next byte of a pending
character is `80` or above (`low_of_lead`), so what is pending becomes a gap there and then, and the line feed is a
character by itself. So bytes can be decoded in pieces, as long as each piece but the last ends with a line feed
(`decode_append_newline`).
-/

namespace TagNesting.Text.Utf8

/-! ## Decoding from a pending character on -/

/-- What bytes are decoded to when a character is pending. -/
def decodeFrom (pending : Option Pending) (bytes : List UInt8) : List (Option Char) :=
  (bytes.foldl Decoder.push { pending }).finish

theorem begin_eq (decoded : Array (Option Char)) (byte : Nat) :
    Decoder.begin decoded byte =
      { pending := (Decoder.begin #[] byte).pending, decoded := decoded ++ (Decoder.begin #[] byte).decoded } := by
  unfold Decoder.begin
  cases lead byte with
  | single => simp
  | longer p => simp
  | stray => simp

/-- A byte adds to what has been decoded and does not look at it. -/
theorem push_eq (d : Decoder) (byte : UInt8) :
    d.push byte =
      { pending := (Decoder.push { pending := d.pending } byte).pending
        decoded := d.decoded ++ (Decoder.push { pending := d.pending } byte).decoded } := by
  obtain ⟨pending, decoded⟩ := d
  unfold Decoder.push
  cases pending with
  | none => simp only [begin_eq decoded]
  | some p =>
      by_cases hnext : p.low ≤ byte.toNat ∧ byte.toNat ≤ p.high
      · simp only [if_pos hnext]
        cases p.further <;> simp
      · simp only [if_neg hnext]
        rw [begin_eq (decoded.push none), begin_eq (#[].push none)]
        simp

/-- **What has been decoded has no say in what is decoded next.** -/
theorem finish_foldl_push (d : Decoder) (bytes : List UInt8) :
    (bytes.foldl Decoder.push d).finish = d.decoded.toList ++ decodeFrom d.pending bytes := by
  induction bytes generalizing d with
  | nil =>
      obtain ⟨pending, decoded⟩ := d
      cases pending <;> simp [decodeFrom, Decoder.finish]
  | cons byte bytes ih =>
      have hfresh : decodeFrom d.pending (byte :: bytes) =
          (bytes.foldl Decoder.push (Decoder.push { pending := d.pending } byte)).finish := rfl
      rw [List.foldl_cons, hfresh, ih, ih, push_eq d byte]
      simp

/-! ## What the next byte can do -/

variable {p : Pending} {byte : UInt8}

theorem decodeFrom_none_nil : decodeFrom none [] = [] := rfl

theorem decodeFrom_some_nil (p : Pending) : decodeFrom (some p) [] = [none] := rfl

/-- It is a character by itself. -/
theorem decodeFrom_of_single (h : lead byte.toNat = .single) (bytes : List UInt8) :
    decodeFrom none (byte :: bytes) = some (Char.ofNat byte.toNat) :: decodeFrom none bytes := by
  unfold decodeFrom
  simp only [List.foldl_cons, Decoder.push, Decoder.begin, h]
  exact finish_foldl_push _ bytes

/-- It begins a longer character. -/
theorem decodeFrom_of_longer (h : lead byte.toNat = .longer p) (bytes : List UInt8) :
    decodeFrom none (byte :: bytes) = decodeFrom (some p) bytes := by
  unfold decodeFrom
  simp only [List.foldl_cons, Decoder.push, Decoder.begin, h]

/-- No character begins with it. -/
theorem decodeFrom_of_stray (h : lead byte.toNat = .stray) (bytes : List UInt8) :
    decodeFrom none (byte :: bytes) = none :: decodeFrom none bytes := by
  unfold decodeFrom
  simp only [List.foldl_cons, Decoder.push, Decoder.begin, h]
  exact finish_foldl_push _ bytes

/-- It ends the pending character. -/
theorem decodeFrom_of_last {bits low high : Nat} (h : low ≤ byte.toNat ∧ byte.toNat ≤ high) (bytes : List UInt8) :
    decodeFrom (some ⟨bits, 0, low, high⟩) (byte :: bytes) =
      some (Char.ofNat (bits * 64 + (byte.toNat - 0x80))) :: decodeFrom none bytes := by
  unfold decodeFrom
  simp only [List.foldl_cons, Decoder.push, if_pos h]
  exact finish_foldl_push _ bytes

/-- It continues the pending character, which goes on behind it. -/
theorem decodeFrom_of_more {bits further low high : Nat} (h : low ≤ byte.toNat ∧ byte.toNat ≤ high)
    (bytes : List UInt8) :
    decodeFrom (some ⟨bits, further + 1, low, high⟩) (byte :: bytes) =
      decodeFrom (some ⟨bits * 64 + (byte.toNat - 0x80), further, 0x80, 0xBF⟩) bytes := by
  unfold decodeFrom
  simp only [List.foldl_cons, Decoder.push, if_pos h]

/-- It does not continue the pending character, and is looked at afresh. -/
theorem decodeFrom_of_not_next (h : ¬ (p.low ≤ byte.toNat ∧ byte.toNat ≤ p.high)) (bytes : List UInt8) :
    decodeFrom (some p) (byte :: bytes) = none :: decodeFrom none (byte :: bytes) := by
  have hfirst : Decoder.push { pending := some p } byte = Decoder.begin #[none] byte.toNat := by
    simp [Decoder.push, if_neg h]
  have hagain : decodeFrom none (byte :: bytes) =
      (bytes.foldl Decoder.push (Decoder.begin #[] byte.toNat)).finish := rfl
  rw [hagain, decodeFrom, List.foldl_cons, hfirst, finish_foldl_push, finish_foldl_push, begin_eq #[none]]
  simp

/-! ## Line feeds -/

/-- No character goes on with a byte below `80`. -/
theorem low_of_lead {first : Nat} (h : lead first = .longer p) : 0x80 ≤ p.low := by
  unfold lead at h
  grind

/-- A line feed leaves nothing pending. -/
theorem decodeFrom_newline {pending : Option Pending} (h : ∀ p ∈ pending, 0x80 ≤ p.low) (rest : List UInt8) :
    decodeFrom pending (0x0A :: rest) = decodeFrom pending [0x0A] ++ decodeFrom none rest := by
  have hsingle : lead (0x0A : UInt8).toNat = .single := rfl
  cases pending with
  | none => rw [decodeFrom_of_single hsingle, decodeFrom_of_single hsingle]; rfl
  | some p =>
      have hnext : ¬ (p.low ≤ (0x0A : UInt8).toNat ∧ (0x0A : UInt8).toNat ≤ p.high) := by
        have hlow : 0x80 ≤ p.low := h p rfl
        have hbyte : (0x0A : UInt8).toNat = 0x0A := rfl
        omega
      rw [decodeFrom_of_not_next hnext, decodeFrom_of_not_next hnext, decodeFrom_of_single hsingle,
        decodeFrom_of_single hsingle]
      rfl

/-- Behind a line feed, decoding starts anew, whatever has been pending in front of the line. -/
theorem decodeFrom_append_newline (line rest : List UInt8) {pending : Option Pending}
    (h : ∀ p ∈ pending, 0x80 ≤ p.low) :
    decodeFrom pending (line ++ 0x0A :: rest) = decodeFrom pending (line ++ [0x0A]) ++ decodeFrom none rest := by
  induction line generalizing pending with
  | nil => exact decodeFrom_newline h rest
  | cons byte line ih =>
      have hnone : decodeFrom none (line ++ 0x0A :: rest) =
          decodeFrom none (line ++ [0x0A]) ++ decodeFrom none rest := ih (by simp)
      -- the byte taken between two characters
      have hfresh : decodeFrom none (byte :: (line ++ 0x0A :: rest)) =
          decodeFrom none (byte :: (line ++ [0x0A])) ++ decodeFrom none rest := by
        cases hlead : lead byte.toNat with
        | single => rw [decodeFrom_of_single hlead, decodeFrom_of_single hlead, hnone, List.cons_append]
        | longer p =>
            have hlow := low_of_lead hlead
            rw [decodeFrom_of_longer hlead, decodeFrom_of_longer hlead, ih (by simpa using hlow)]
        | stray => rw [decodeFrom_of_stray hlead, decodeFrom_of_stray hlead, hnone, List.cons_append]
      cases pending with
      | none => exact hfresh
      | some p =>
          simp only [List.cons_append]
          by_cases hnext : p.low ≤ byte.toNat ∧ byte.toNat ≤ p.high
          · obtain ⟨bits, further, low, high⟩ := p
            cases further with
            | zero => rw [decodeFrom_of_last hnext, decodeFrom_of_last hnext, hnone, List.cons_append]
            | succ further => rw [decodeFrom_of_more hnext, decodeFrom_of_more hnext, ih (by simp)]
          · rw [decodeFrom_of_not_next hnext, decodeFrom_of_not_next hnext, hfresh, List.cons_append]

/-- **Decoding may stop behind a line feed and start anew.** -/
theorem decode_append_newline (line rest : List UInt8) :
    decode (line ++ 0x0A :: rest) = decode (line ++ [0x0A]) ++ decode rest :=
  decodeFrom_append_newline line rest (by simp)

end TagNesting.Text.Utf8
