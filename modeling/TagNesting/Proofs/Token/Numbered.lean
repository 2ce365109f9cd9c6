import TagNesting.Token

/-!
# `Proofs.Token.Numbered` — tokens on consecutive lines

Tokens can be numbered one by one and put on the lines of their numbers. Numbered from zero, the line of a token is its
place in the list that it comes from (`getElem?_of_mem_numbered`); and however they are numbered, no two of them stand
on one line, and those that come later stand on later lines (`pairwise_line_numbered`).
-/

namespace TagNesting

/-- The tokens on consecutive lines, of which the first has the given number. -/
def numbered (first : Nat) (tokens : List Token) : List Token :=
  (tokens.zipIdx first).map fun (token, number) => { token with line := number }

theorem numbered_cons (first : Nat) (token : Token) (tokens : List Token) :
    numbered first (token :: tokens) = { token with line := first } :: numbered (first + 1) tokens := rfl

variable {token : Token} {tokens : List Token}

/-- Numbered from zero, a token stands on the line of its place. -/
theorem getElem?_of_mem_numbered (h : token ∈ numbered 0 tokens) :
    ∃ original, tokens[token.line]? = some original ∧ token = { original with line := token.line } := by
  obtain ⟨⟨original, place⟩, hplace, rfl⟩ := List.mem_map.1 h
  exact ⟨original, List.mk_mem_zipIdx_iff_getElem?.1 hplace, rfl⟩

theorem le_line_of_mem_numbered {first : Nat} (h : token ∈ numbered first tokens) : first ≤ token.line := by
  obtain ⟨⟨original, number⟩, hnumber, rfl⟩ := List.mem_map.1 h
  exact (List.mem_zipIdx hnumber).1

/-- Later tokens stand on later lines. -/
theorem pairwise_line_numbered (first : Nat) (tokens : List Token) :
    (numbered first tokens).Pairwise (·.line < ·.line) := by
  induction tokens generalizing first with
  | nil => exact .nil
  | cons token tokens ih =>
      rw [numbered_cons, List.pairwise_cons]
      refine ⟨?_, ih (first + 1)⟩
      intro later hlater
      exact le_line_of_mem_numbered hlater

end TagNesting
