import Mathlib.Logic.ExistsUnique

/-!
# `Proofs.Text.Stretch` — where the parts of a text begin and end

Two ways in which the parts of a text are determined by the whole.

A first part of which every character has a property, followed by one that has not, is the longest such part, so
the text alone says where it ends (`takeWhile_stop`, `dropWhile_stop`).

In a concatenation each position lies in one of the blocks and in no other. `InBlock` says in which, and at which
column of it.
-/

namespace TagNesting.Text

variable {α : Type}

/-! ## The longest part with a property -/

section Stop

variable {p : α → Bool} {part rest : List α}

theorem takeWhile_stop (hpart : ∀ c ∈ part, p c = true) (hrest : ∀ c ∈ rest.head?, p c = false) :
    (part ++ rest).takeWhile p = part := by
  rw [List.takeWhile_append_of_pos hpart]
  cases rest with
  | nil => exact List.append_nil part
  | cons c rest =>
      have hc : p c = false := hrest c rfl
      rw [List.takeWhile_cons_of_neg (by simp [hc]), List.append_nil]

theorem dropWhile_stop (hpart : ∀ c ∈ part, p c = true) (hrest : ∀ c ∈ rest.head?, p c = false) :
    (part ++ rest).dropWhile p = rest := by
  rw [List.dropWhile_append_of_pos hpart]
  cases rest with
  | nil => rfl
  | cons c rest =>
      have hc : p c = false := hrest c rfl
      exact List.dropWhile_cons_of_neg (by simp [hc])

end Stop

/-! ## The block of a position -/

/-- The position of the concatenation lies in the block with this index, at this column. -/
structure InBlock (blocks : List (List α)) (position index column : Nat) (block : List α) : Prop where
  block_eq : blocks[index]? = some block
  column_lt : column < block.length
  position_eq : position = (blocks.take index).flatten.length + column

variable {blocks : List (List α)} {block first : List α} {position index column : Nat}

/-- A position of the first block. -/
theorem InBlock.here (h : position < first.length) : InBlock (first :: blocks) position 0 position first where
  block_eq := rfl
  column_lt := h
  position_eq := (Nat.zero_add position).symm

/-- A position of a later block. -/
theorem InBlock.later (h : InBlock blocks position index column block) :
    InBlock (first :: blocks) (first.length + position) (index + 1) column block where
  block_eq := h.block_eq
  column_lt := h.column_lt
  position_eq := by
    have hposition := h.position_eq
    rw [List.take_succ_cons, List.flatten_cons, List.length_append]
    omega

/-- Every position lies in a block. -/
theorem exists_inBlock (h : position < blocks.flatten.length) :
    ∃ index column block, InBlock blocks position index column block := by
  induction blocks generalizing position with
  | nil => exact absurd h (Nat.not_lt_zero position)
  | cons first blocks ih =>
      rw [List.flatten_cons, List.length_append] at h
      rcases Nat.lt_or_ge position first.length with hfirst | hlater
      · exact ⟨0, position, first, .here hfirst⟩
      · have hrest : position - first.length < blocks.flatten.length := by omega
        obtain ⟨index, column, block, hblock⟩ := ih hrest
        refine ⟨index + 1, column, block, ?_⟩
        have hmoved : InBlock (first :: blocks) (first.length + (position - first.length)) (index + 1) column
            block := hblock.later
        rwa [Nat.add_sub_cancel' hlater] at hmoved

/-- A position of the first block, or one that lies in a later block when the first is taken away. -/
theorem InBlock.cons_cases (h : InBlock (first :: blocks) position index column block) :
    (index = 0 ∧ position < first.length) ∨
      ∃ later, index = later + 1 ∧ first.length ≤ position ∧
        InBlock blocks (position - first.length) later column block := by
  obtain ⟨hblock, hcolumn, hposition⟩ := h
  cases index with
  | zero =>
      cases hblock
      have hstart : position = column := by simpa using hposition
      exact Or.inl ⟨rfl, hstart ▸ hcolumn⟩
  | succ later =>
      rw [List.take_succ_cons, List.flatten_cons, List.length_append] at hposition
      exact Or.inr ⟨later, rfl, by omega, hblock, hcolumn, by omega⟩

/-- And in no other. -/
theorem InBlock.unique {index' column' : Nat} {block' : List α}
    (h : InBlock blocks position index column block) (h' : InBlock blocks position index' column' block') :
    index = index' := by
  induction blocks generalizing position index index' with
  | nil => exact absurd h.block_eq (by simp)
  | cons first blocks ih =>
      rcases h.cons_cases with ⟨rfl, hfirst⟩ | ⟨later, rfl, hle, hlater⟩
      · rcases h'.cons_cases with ⟨rfl, -⟩ | ⟨-, -, hle', -⟩
        · rfl
        · exact absurd hfirst (Nat.not_lt.2 hle')
      · rcases h'.cons_cases with ⟨-, hfirst'⟩ | ⟨later', rfl, -, hlater'⟩
        · exact absurd hfirst' (Nat.not_lt.2 hle)
        · rw [ih hlater hlater']

/-- What stands at the position stands at the column of its block. -/
theorem InBlock.getElem?_eq (h : InBlock blocks position index column block) :
    blocks.flatten[position]? = block[column]? := by
  obtain ⟨hblock, hcolumn, rfl⟩ := h
  obtain ⟨hindex, rfl⟩ := List.getElem?_eq_some_iff.1 hblock
  have hsplit : blocks.flatten =
      (blocks.take index).flatten ++ (blocks[index] ++ (blocks.drop (index + 1)).flatten) := by
    rw [← List.flatten_cons, ← List.drop_eq_getElem_cons hindex, ← List.flatten_append, List.take_append_drop]
  rw [hsplit, List.getElem?_append_right (Nat.le_add_right _ _), Nat.add_sub_cancel_left,
    List.getElem?_append_left hcolumn]

end TagNesting.Text
