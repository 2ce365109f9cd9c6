import TagNesting.Text.Utf8

/-!
# `Proofs.Text.Spelling` — the bytes that a character is written with

A character is written with one to four bytes. `Spells` says which, by the arithmetic of the encoding, and
`encode_eq_iff` says that these are the bytes of `String.utf8EncodeChar`. So whatever is shown about `Spells` holds of
the encoding that the strings of the library themselves are kept in.

The decoder looks at the same bytes from the other side. What it expects behind a first byte, it has to work out from
that byte alone, and `Completes` says which bytes satisfy it and to what value they add up. The ranges that
`lead` gives to the second byte are just what makes the two sides agree (`completes_iff_of_lead`): they leave out the
overlong forms, the surrogates and the values beyond the last character, and nothing else.
-/

namespace TagNesting.Text.Utf8

/-! ## Characters and their values -/

theorem toNat_ofNat_of_isValidChar {value : Nat} (h : value.isValidChar) : (Char.ofNat value).toNat = value := by
  have hchar : Char.ofNat value = Char.ofNatAux value h := dif_pos h
  rw [hchar]
  rfl

theorem isValidChar_toNat (c : Char) : c.toNat.isValidChar := c.valid

/-- The values of characters are those of the code space without the surrogates. -/
theorem toNat_char_cases (c : Char) : c.toNat < 0xD800 ∨ 0xDFFF < c.toNat ∧ c.toNat < 0x110000 :=
  isValidChar_toNat c

/-! ## The encoding -/

/-- The bytes that a value is written with. -/
inductive Spells (value : Nat) : List UInt8 → Prop where
  | one {first : UInt8} (hhigh : value < 0x80) (hfirst : first.toNat = value) : Spells value [first]
  | two {first second : UInt8} (hlow : 0x80 ≤ value) (hhigh : value < 0x800)
      (hfirst : first.toNat = 0xC0 + value / 64) (hsecond : second.toNat = 0x80 + value % 64) :
      Spells value [first, second]
  | three {first second third : UInt8} (hlow : 0x800 ≤ value) (hhigh : value < 0x10000)
      (hfirst : first.toNat = 0xE0 + value / 4096) (hsecond : second.toNat = 0x80 + value / 64 % 64)
      (hthird : third.toNat = 0x80 + value % 64) :
      Spells value [first, second, third]
  | four {first second third fourth : UInt8} (hlow : 0x10000 ≤ value) (hhigh : value < 0x110000)
      (hfirst : first.toNat = 0xF0 + value / 262144) (hsecond : second.toNat = 0x80 + value / 4096 % 64)
      (hthird : third.toNat = 0x80 + value / 64 % 64) (hfourth : fourth.toNat = 0x80 + value % 64) :
      Spells value [first, second, third, fourth]

theorem spells_encode (c : Char) : Spells c.toNat (String.utf8EncodeChar c) := by
  have hlast := toNat_char_cases c
  have hvalue : c.val.toNat = c.toNat := rfl
  simp only [String.utf8EncodeChar, hvalue]
  split
  · apply Spells.one (by omega)
    rw [UInt8.toNat_ofNat']
    omega
  · split
    · apply Spells.two (by omega) (by omega) <;> rw [UInt8.toNat_ofNat'] <;> omega
    · split
      · apply Spells.three (by omega) (by omega) <;> rw [UInt8.toNat_ofNat'] <;> omega
      · apply Spells.four (by omega) (by omega) <;> rw [UInt8.toNat_ofNat'] <;> omega

/-- A value is written in one way. -/
theorem Spells.unique {value : Nat} {bytes bytes' : List UInt8} (h : Spells value bytes)
    (h' : Spells value bytes') : bytes = bytes' := by
  -- the size of the value tells how many bytes there are, and its digits tell which
  cases h with
  | one =>
      cases h' with
      | one =>
          simp only [List.cons.injEq, ← UInt8.toNat_inj, and_true]
          omega
      | _ => omega
  | two =>
      cases h' with
      | two =>
          simp only [List.cons.injEq, ← UInt8.toNat_inj, and_true]
          omega
      | _ => omega
  | three =>
      cases h' with
      | three =>
          simp only [List.cons.injEq, ← UInt8.toNat_inj, and_true]
          omega
      | _ => omega
  | four =>
      cases h' with
      | four =>
          simp only [List.cons.injEq, ← UInt8.toNat_inj, and_true]
          omega
      | _ => omega

/-- **The encoding of a character is how its value is written.** -/
theorem encode_eq_iff {c : Char} {bytes : List UInt8} :
    String.utf8EncodeChar c = bytes ↔ Spells c.toNat bytes := by
  constructor
  · rintro rfl
    exact spells_encode c
  · intro h
    exact (spells_encode c).unique h

/-- Two values are not written in the same way. -/
theorem Spells.value_eq {value value' : Nat} {bytes : List UInt8} (h : Spells value bytes)
    (h' : Spells value' bytes) : value = value' := by
  cases h <;> cases h' <;> omega

theorem encode_inj {c other : Char} (h : String.utf8EncodeChar c = String.utf8EncodeChar other) : c = other := by
  have hspells := spells_encode c
  rw [h] at hspells
  exact Char.toNat_inj.1 (hspells.value_eq (spells_encode other))

theorem Spells.ne_nil {value : Nat} {bytes : List UInt8} (h : Spells value bytes) : bytes ≠ [] := by
  cases h <;> exact List.cons_ne_nil _ _

/-- The first byte tells how many there are. -/
theorem Spells.length_of_first {value : Nat} {first : UInt8} {tail : List UInt8} (h : Spells value (first :: tail)) :
    first.toNat < 0x80 ∧ tail.length = 0 ∨
      (0xC0 ≤ first.toNat ∧ first.toNat < 0xE0) ∧ tail.length = 1 ∨
      (0xE0 ≤ first.toNat ∧ first.toNat < 0xF0) ∧ tail.length = 2 ∨
      0xF0 ≤ first.toNat ∧ tail.length = 3 := by
  cases h with
  | one => exact Or.inl ⟨by omega, rfl⟩
  | two => exact Or.inr (Or.inl ⟨by omega, rfl⟩)
  | three => exact Or.inr (Or.inr (Or.inl ⟨by omega, rfl⟩))
  | four => exact Or.inr (Or.inr (Or.inr ⟨by omega, rfl⟩))

/-- **No character is written with the start of what another is written with.** -/
theorem encode_eq_of_starts {c other : Char} (h : String.utf8EncodeChar c <+: String.utf8EncodeChar other) :
    String.utf8EncodeChar c = String.utf8EncodeChar other := by
  have hspells := spells_encode c
  have hspells' := spells_encode other
  obtain ⟨first, tail, htail⟩ := List.exists_cons_of_ne_nil hspells.ne_nil
  obtain ⟨more, hmore⟩ := h
  rw [htail, List.cons_append] at hmore
  rw [htail] at hspells
  rw [← hmore] at hspells'
  -- the same first byte, so as many bytes
  have hlength := hspells.length_of_first
  have hlength' := hspells'.length_of_first
  rw [List.length_append] at hlength'
  have hnil : more = [] := by
    apply List.eq_nil_of_length_eq_zero
    omega
  rw [htail, ← hmore, hnil, List.append_nil]

/-! ## What a first byte leads to -/

/-- What is pending behind the first byte of a longer character, by the number of bytes to come. -/
inductive Leads (first : Nat) : Pending → Prop where
  | two (hlow : 0xC2 ≤ first) (hhigh : first < 0xE0) : Leads first ⟨first - 0xC0, 0, 0x80, 0xBF⟩
  | three (hlow : 0xE0 ≤ first) (hhigh : first < 0xF0) :
      Leads first ⟨first - 0xE0, 1, if first = 0xE0 then 0xA0 else 0x80, if first = 0xED then 0x9F else 0xBF⟩
  | four (hlow : 0xF0 ≤ first) (hhigh : first < 0xF5) :
      Leads first ⟨first - 0xF0, 2, if first = 0xF0 then 0x90 else 0x80, if first = 0xF4 then 0x8F else 0xBF⟩

variable {first byte : UInt8} {p : Pending} {tail : List UInt8} {bits further low high value : Nat}

theorem leads_of_lead {first : Nat} (h : lead first = .longer p) : Leads first p := by
  have hthree (hlow : 0xE0 ≤ first) (hhigh : first < 0xF0) := Leads.three hlow hhigh
  have hfour (hlow : 0xF0 ≤ first) (hhigh : first < 0xF5) := Leads.four hlow hhigh
  unfold lead at h
  grind [Leads.two]

/-- A byte that is a character by itself. -/
theorem lt_of_lead_single {first : Nat} (h : lead first = .single) : first < 0x80 := by
  unfold lead at h
  grind

/-- A byte that no character begins with. -/
theorem bounds_of_lead_stray {first : Nat} (h : lead first = .stray) :
    0x80 ≤ first ∧ (first < 0xC2 ∨ 0xF5 ≤ first) := by
  unfold lead at h
  grind

/-- The bytes complete what is pending, and it has this value then. -/
def Completes : Pending → List UInt8 → Nat → Prop
  | _, [], _ => False
  | ⟨bits, 0, low, high⟩, byte :: tail, value =>
    (low ≤ byte.toNat ∧ byte.toNat ≤ high) ∧ tail = [] ∧ value = bits * 64 + (byte.toNat - 0x80)
  | ⟨bits, further + 1, low, high⟩, byte :: tail, value =>
    (low ≤ byte.toNat ∧ byte.toNat ≤ high) ∧
      Completes ⟨bits * 64 + (byte.toNat - 0x80), further, 0x80, 0xBF⟩ tail value

theorem completes_last : Completes ⟨bits, 0, low, high⟩ tail value ↔
    ∃ byte : UInt8, tail = [byte] ∧ (low ≤ byte.toNat ∧ byte.toNat ≤ high) ∧
      value = bits * 64 + (byte.toNat - 0x80) := by
  cases tail with
  | nil => simp [Completes]
  | cons byte tail =>
      simp only [Completes, List.cons.injEq]
      grind

theorem completes_more : Completes ⟨bits, further + 1, low, high⟩ tail value ↔
    ∃ (byte : UInt8) (rest : List UInt8), tail = byte :: rest ∧ (low ≤ byte.toNat ∧ byte.toNat ≤ high) ∧
      Completes ⟨bits * 64 + (byte.toNat - 0x80), further, 0x80, 0xBF⟩ rest value := by
  cases tail with
  | nil => simp [Completes]
  | cons byte tail =>
      simp only [Completes, List.cons.injEq]
      grind

theorem not_completes_nil : ¬ Completes p [] value := by
  unfold Completes
  exact id

/-- Whatever completes a character begins with a byte in the range for the next one. -/
theorem Completes.next (h : Completes p (byte :: tail) value) : p.low ≤ byte.toNat ∧ byte.toNat ≤ p.high := by
  obtain ⟨bits, further, low, high⟩ := p
  cases further with
  | zero => exact h.1
  | succ further => exact h.1

/-- What completes a first byte is, with it, how a character is written. -/
theorem spells_of_completes (hleads : Leads first.toNat p) (h : Completes p tail value) :
    value.isValidChar ∧ Spells value (first :: tail) := by
  unfold Nat.isValidChar
  cases hleads with
  | two =>
      obtain ⟨second, rfl, hsecond, hvalue⟩ := completes_last.1 h
      exact ⟨by omega, .two (by omega) (by omega) (by omega) (by omega)⟩
  | three =>
      obtain ⟨second, rest, rfl, hsecond, hrest⟩ := completes_more.1 h
      obtain ⟨third, rfl, hthird, hvalue⟩ := completes_last.1 hrest
      -- the narrower ranges lie within the usual one; what they leave out is checked where it matters
      have hbounds : 0x80 ≤ second.toNat ∧ second.toNat ≤ 0xBF := by grind
      exact ⟨by grind, .three (by grind) (by omega) (by omega) (by omega) (by omega)⟩
  | four =>
      obtain ⟨second, rest, rfl, hsecond, hrest⟩ := completes_more.1 h
      obtain ⟨third, rest, rfl, hthird, hrest⟩ := completes_more.1 hrest
      obtain ⟨fourth, rfl, hfourth, hvalue⟩ := completes_last.1 hrest
      have hbounds : 0x80 ≤ second.toNat ∧ second.toNat ≤ 0xBF := by grind
      exact ⟨by grind, .four (by grind) (by grind) (by omega) (by omega) (by omega) (by omega)⟩

/-- What a character is written with behind its first byte completes that byte. -/
theorem completes_of_spells (hleads : Leads first.toNat p) (hvalid : value.isValidChar)
    (h : Spells value (first :: tail)) : Completes p tail value := by
  unfold Nat.isValidChar at hvalid
  cases h with
  | one => cases hleads <;> omega
  | two =>
      cases hleads with
      | two => exact completes_last.2 ⟨_, rfl, by omega, by omega⟩
      | three => omega
      | four => omega
  | three =>
      cases hleads with
      | two => omega
      | three => exact completes_more.2 ⟨_, _, rfl, by grind, completes_last.2 ⟨_, rfl, by omega, by omega⟩⟩
      | four => omega
  | four =>
      cases hleads with
      | two => omega
      | three => omega
      | four =>
          exact completes_more.2 ⟨_, _, rfl, by grind,
            completes_more.2 ⟨_, _, rfl, by omega, completes_last.2 ⟨_, rfl, by omega, by omega⟩⟩⟩

/-- **What completes a first byte is exactly what characters are written with behind it.** -/
theorem completes_iff_of_lead (h : lead first.toNat = .longer p) :
    Completes p tail value ↔ ∃ c : Char, c.toNat = value ∧ String.utf8EncodeChar c = first :: tail := by
  have hleads := leads_of_lead h
  constructor
  · intro hcompletes
    obtain ⟨hvalid, hspells⟩ := spells_of_completes hleads hcompletes
    have hvalue := toNat_ofNat_of_isValidChar hvalid
    refine ⟨Char.ofNat value, hvalue, encode_eq_iff.2 ?_⟩
    rw [hvalue]
    exact hspells
  · rintro ⟨c, rfl, hencode⟩
    exact completes_of_spells hleads (isValidChar_toNat c) (encode_eq_iff.1 hencode)

/-- A byte below `80` is written for the character of its value. -/
theorem encode_of_lead_single (h : lead first.toNat = .single) :
    String.utf8EncodeChar (Char.ofNat first.toNat) = [first] := by
  have hlt := lt_of_lead_single h
  have hvalue : (Char.ofNat first.toNat).toNat = first.toNat :=
    toNat_ofNat_of_isValidChar (Or.inl (by omega))
  exact encode_eq_iff.2 (.one (by omega) hvalue.symm)

/-- Nothing is written with a stray byte in front. -/
theorem encode_ne_of_lead_stray (h : lead first.toNat = .stray) (c : Char) :
    String.utf8EncodeChar c ≠ first :: tail := by
  intro hencode
  have hbounds := bounds_of_lead_stray h
  cases encode_eq_iff.1 hencode <;> omega

end TagNesting.Text.Utf8
