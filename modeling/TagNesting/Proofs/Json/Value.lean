import TagNesting.Proofs.Json.Grammar

/-!
# `Proofs.Json.Value` — a written value is read back

The grammar has what is written (`spelled_write`), in either layout: the layouts differ in blanks only, and these stand
where the grammar allows for them. So decoding a text that holds one written value, and blanks perhaps, is decoding the
value as it is read (`decode_write`).

The induction is over the value, together with the items and members that follow the first one. Of these it is said
how they go on with a list or an object whose first item or member is spelled in any way.
-/

namespace TagNesting.Json

/-! ## The reading of a value -/

mutual

/-- A value as it is read. -/
def Value.reading : Value → Reading
  | .natural n => .number (.ofNat n)
  | .text s => .text (.ofText s)
  | .list items => .list (itemsReading items) none
  | .object members => .object (membersReading members) none

/-- The items of a list as they are read. -/
def itemsReading : List Value → List Reading
  | [] => []
  | item :: items => item.reading :: itemsReading items

/-- The members of an object as they are read. -/
def membersReading : List (String × Value) → Members
  | [] => []
  | (key, value) :: members => (.text (.ofText key), value.reading) :: membersReading members

end

section Written

variable (layout : Layout) (level : Nat)

/-! ## Layouts -/

theorem isBlank_of_mem_lineBreak : ∀ c ∈ layout.lineBreak level, isBlank c = true := by
  cases layout with
  | compact => exact List.forall_mem_nil _
  | indented =>
      rw [Layout.lineBreak, List.forall_mem_cons]
      refine ⟨rfl, ?_⟩
      intro c hc
      rw [List.eq_of_mem_replicate hc]
      rfl

theorem exists_colon_eq : ∃ blanks, layout.colon = ':' :: blanks ∧ ∀ c ∈ blanks, isBlank c = true := by
  cases layout with
  | compact => exact ⟨[], rfl, List.forall_mem_nil _⟩
  | indented => exact ⟨[' '], rfl, List.forall_mem_singleton.2 rfl⟩

/-- Blanks may stand on one side only. -/
theorem spelled_after_blanks {v : Reading} {blanks text : List Char} (hblanks : ∀ c ∈ blanks, isBlank c = true)
    (h : Spelled (.value v) text) : Spelled (.value v) (blanks ++ text) := by
  have hboth := Spelled.blanks hblanks h (List.forall_mem_nil _)
  rwa [List.append_nil] at hboth

theorem spelled_before_blanks {v : Reading} {text blanks : List Char} (h : Spelled (.value v) text)
    (hblanks : ∀ c ∈ blanks, isBlank c = true) : Spelled (.value v) (text ++ blanks) :=
  .blanks (List.forall_mem_nil _) h hblanks

theorem spelledKey_lineBreak (key : String) :
    SpelledKey (.text (.ofText key)) (layout.lineBreak level ++ writeText key) :=
  .intro (isBlank_of_mem_lineBreak layout level) (QuotedText.spelled_writeChars key.toList) (List.forall_mem_nil _)

/-! ## The spelling of a written value -/

mutual

/-- **A value is spelled as it is written.** -/
theorem spelled_write (level : Nat) (value : Value) :
    Spelled (.value value.reading) (value.write layout level) := by
  match value with
  | .natural n => exact .number (Numeral.spelled_toDigits n)
  | .text s => exact .text (QuotedText.spelled_writeChars s.toList)
  | .list [] => exact .emptyList (List.forall_mem_nil _)
  | .list (item :: items) =>
    have hitem := spelled_after_blanks (isBlank_of_mem_lineBreak layout (level + 1)) (spelled_write (level + 1) item)
    have hitems := spelled_writeItems (level + 1) items hitem (isBlank_of_mem_lineBreak layout level)
    simpa only [Value.write, Value.reading, itemsReading, List.append_assoc, List.cons_append] using Spelled.list hitems
  | .object [] => exact .emptyObject (List.forall_mem_nil _)
  | .object ((key, value) :: members) =>
    obtain ⟨blanks, hcolon, hblanks⟩ := exists_colon_eq layout
    have hkey := spelledKey_lineBreak layout (level + 1) key
    have hvalue := spelled_after_blanks hblanks (spelled_write (level + 1) value)
    have hmembers := spelled_writeMembers (level + 1) members hkey hvalue (isBlank_of_mem_lineBreak layout level)
    simpa only [Value.write, Value.reading, membersReading, hcolon, List.append_assoc, List.cons_append] using
      Spelled.object hmembers

/-- So are the further items of a list, behind any item. -/
theorem spelled_writeItems (level : Nat) (items : List Value) {v : Reading} {text blanks : List Char}
    (h : Spelled (.value v) text) (hblanks : ∀ c ∈ blanks, isBlank c = true) :
    Spelled (.items (v :: itemsReading items)) (text ++ (writeItems layout level items ++ blanks)) := by
  match items with
  | [] => exact .lastItem (spelled_before_blanks h hblanks)
  | item :: items =>
    have hitem := spelled_after_blanks (isBlank_of_mem_lineBreak layout level) (spelled_write level item)
    have hitems := spelled_writeItems level items hitem hblanks
    simpa only [writeItems, itemsReading, List.append_assoc, List.cons_append] using Spelled.item h hitems

/-- So are the further members of an object, behind any member. -/
theorem spelled_writeMembers (level : Nat) (members : List (String × Value)) {key : Key} {v : Reading}
    {keyText text blanks : List Char} (hkey : SpelledKey key keyText) (h : Spelled (.value v) text)
    (hblanks : ∀ c ∈ blanks, isBlank c = true) :
    Spelled (.members ((key, v) :: membersReading members))
      (keyText ++ ':' :: (text ++ (writeMembers layout level members ++ blanks))) := by
  match members with
  | [] => exact .lastMember hkey (spelled_before_blanks h hblanks)
  | (name, value) :: members =>
    obtain ⟨spaces, hcolon, hspaces⟩ := exists_colon_eq layout
    have hname := spelledKey_lineBreak layout level name
    have hvalue := spelled_after_blanks hspaces (spelled_write level value)
    have hmembers := spelled_writeMembers level members hname hvalue hblanks
    simpa only [writeMembers, membersReading, hcolon, List.append_assoc, List.cons_append] using
      Spelled.member hkey h hmembers

end

end Written

/-! ## Whole texts -/

/-- **Decoding the text of a written value is decoding the value.** Blanks may follow it. -/
theorem decode_write {α : Type} (decoder : Decoder α) (layout : Layout) (value : Value) {blanks : List Char}
    (h : ∀ c ∈ blanks, isBlank c = true) :
    decode decoder (value.write layout 0 ++ blanks) = decoder value.reading :=
  decode_of_spelled decoder (spelled_before_blanks (spelled_write layout 0 value) h)

theorem decode_render {α : Type} (decoder : Decoder α) (layout : Layout) (value : Value) :
    decode decoder (value.render layout).toList = decoder value.reading := by
  rw [Value.render, String.toList_ofList, ← List.append_nil (value.write layout 0)]
  exact decode_write decoder layout value (List.forall_mem_nil _)

end TagNesting.Json
