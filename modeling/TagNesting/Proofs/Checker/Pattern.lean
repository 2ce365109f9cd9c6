import Mathlib.Logic.Equiv.Basic
import TagNesting.Proofs.Checker.Subjects

/-!
# `Proofs.Checker.Pattern` — what the findings depend on

A checker compares names and never looks at what they are made of, nor at lines (`Relabelling.findings_map`). So the
findings are decided by the kinds of the tokens, by their order, and by which of them have the same name: by the
*pattern* of a document (`SamePattern`).

Two documents of one pattern need not be images of each other under a renaming of all names there are; only the names
that occur are paired off. `renameBy` makes one that is injective everywhere: the names that occur go where the pairs
say, and any other name gets a name in front of it that is longer than all of these. The lines of the two documents
have nothing to do with each other, so their tokens are put on lines of their own before they are compared
(`SamePattern.exists_relabelling`).
-/

namespace TagNesting

/-! ## A renaming of all names from one of some -/

/-- Some name is longer than all of these. -/
theorem exists_longer (names : List String) : ∃ long : String, ∀ name ∈ names, name.length < long.length := by
  induction names with
  | nil => exact ⟨"", List.forall_mem_nil _⟩
  | cons name names ih =>
      obtain ⟨long, hlong⟩ := ih
      refine ⟨name ++ long ++ "x", List.forall_mem_cons.2 ⟨?_, ?_⟩⟩
      · have hx : "x".length = 1 := rfl
        simp only [String.length_append, hx]
        omega
      · intro other hother
        have hlt := hlong other hother
        simp only [String.length_append]
        omega

/-- The renaming that these pairs tell. Other names get a long one in front of them. -/
def renameBy (long : String) (pairs : List (String × String)) (name : String) : String :=
  match pairs.find? (·.1 = name) with
  | some pair => pair.2
  | none => long ++ name

variable {long : String} {pairs : List (String × String)}

/-- A pair that is found for a name is one for that name. -/
theorem mem_pairs_of_find? {name : String} {pair : String × String}
    (h : pairs.find? (·.1 = name) = some pair) : pair ∈ pairs ∧ pair.1 = name :=
  ⟨List.mem_of_find?_eq_some h, by simpa using List.find?_some h⟩

/-- A renaming does what its pairs tell, if they do not contradict each other. -/
theorem renameBy_of_mem (hpairs : ∀ pair ∈ pairs, ∀ other ∈ pairs, pair.1 = other.1 → pair.2 = other.2)
    {pair : String × String} (h : pair ∈ pairs) : renameBy long pairs pair.1 = pair.2 := by
  unfold renameBy
  cases hfind : pairs.find? (·.1 = pair.1) with
  | none =>
      rw [List.find?_eq_none] at hfind
      exact absurd (hfind pair h) (by simp)
  | some found =>
      obtain ⟨hfound, hname⟩ := mem_pairs_of_find? hfind
      exact hpairs found hfound pair h hname

/-- **A renaming of some names can be one of all names.** If the pairs send different names to different ones, and
none of these is as long as the name that is put in front, different names stay different. -/
theorem renameBy_injective (hpairs : ∀ pair ∈ pairs, ∀ other ∈ pairs, pair.2 = other.2 → pair.1 = other.1)
    (hlong : ∀ pair ∈ pairs, pair.2.length < long.length) : Function.Injective (renameBy long pairs) := by
  -- a name of the pairs is too short to be one that has the long name in front
  have hapart : ∀ pair ∈ pairs, ∀ name, pair.2 ≠ long ++ name := by
    intro pair hpair name heq
    have hlt := hlong pair hpair
    rw [heq, String.length_append] at hlt
    omega
  intro first second heq
  unfold renameBy at heq
  cases hfirst : pairs.find? (·.1 = first) with
  | some pair =>
      obtain ⟨hpair, hname⟩ := mem_pairs_of_find? hfirst
      rw [hfirst] at heq
      cases hsecond : pairs.find? (·.1 = second) with
      | some other =>
          obtain ⟨hother, hname'⟩ := mem_pairs_of_find? hsecond
          rw [hsecond] at heq
          rw [← hname, ← hname']
          exact hpairs pair hpair other hother heq
      | none =>
          rw [hsecond] at heq
          exact absurd heq (hapart pair hpair second)
  | none =>
      rw [hfirst] at heq
      cases hsecond : pairs.find? (·.1 = second) with
      | some other =>
          rw [hsecond] at heq
          exact absurd heq.symm (hapart other (mem_pairs_of_find? hsecond).1 first)
      | none =>
          rw [hsecond] at heq
          exact (String.append_right_inj long).1 heq

/-! ## Documents of one pattern -/

/-- Token by token, two documents have the same kinds, and two tokens of the one have the same name if and only if
those of the other have. -/
structure SamePattern (first second : List Token) : Prop where
  length_eq : first.length = second.length
  kind_eq : ∀ pair ∈ first.zip second, pair.2.kind = pair.1.kind
  name_eq_iff : ∀ pair ∈ first.zip second, ∀ other ∈ first.zip second,
    pair.1.name = other.1.name ↔ pair.2.name = other.2.name

variable {first second : List Token}

/-- Tokens that are renamed one by one are renamed on lines of their own. -/
theorem numbered_of_zip {ρ : Relabelling} (hline : ∀ line, ρ.line line = line)
    (hlength : first.length = second.length)
    (h : ∀ pair ∈ first.zip second, pair.2.kind = pair.1.kind ∧ ρ.name pair.1.name = pair.2.name) (number : Nat) :
    numbered number second = (numbered number first).map ρ.token := by
  induction first generalizing second number with
  | nil =>
      obtain rfl : second = [] := List.length_eq_zero_iff.1 hlength.symm
      rfl
  | cons token first ih =>
      cases second with
      | nil => exact absurd hlength (by simp)
      | cons other second =>
          rw [List.zip_cons_cons] at h
          obtain ⟨⟨hkind, hname⟩, hrest⟩ := List.forall_mem_cons.1 h
          have htail := ih (Nat.succ.inj hlength) hrest (number + 1)
          rw [numbered_cons, numbered_cons, List.map_cons, ← htail, Relabelling.token, hname, hline, hkind]

/-- **Documents of one pattern are renamed copies of each other**, once each token stands on a line of its own. -/
theorem SamePattern.exists_relabelling (h : SamePattern first second) :
    ∃ ρ : Relabelling, (∀ line, ρ.line line = line) ∧ numbered 0 second = (numbered 0 first).map ρ.token := by
  let pairs := (first.zip second).map fun pair => (pair.1.name, pair.2.name)
  have hiff : ∀ pair ∈ pairs, ∀ other ∈ pairs, pair.1 = other.1 ↔ pair.2 = other.2 := by
    intro pair hpair other hother
    obtain ⟨tokens, htokens, rfl⟩ := List.mem_map.1 hpair
    obtain ⟨others, hothers, rfl⟩ := List.mem_map.1 hother
    exact h.name_eq_iff tokens htokens others hothers
  obtain ⟨long, hlong⟩ := exists_longer (pairs.map Prod.snd)
  have hinjective : Function.Injective (renameBy long pairs) := by
    apply renameBy_injective
    · intro pair hpair other hother
      exact (hiff pair hpair other hother).2
    · intro pair hpair
      exact hlong pair.2 (List.mem_map_of_mem hpair)
  refine ⟨⟨renameBy long pairs, id, fun heq => hinjective heq⟩, fun _ => rfl, ?_⟩
  apply numbered_of_zip (fun _ => rfl) h.length_eq
  intro tokens htokens
  have hpair : (tokens.1.name, tokens.2.name) ∈ pairs := List.mem_map_of_mem htokens
  refine ⟨h.kind_eq tokens htokens, renameBy_of_mem ?_ hpair⟩
  intro pair hpair other hother
  exact (hiff pair hpair other hother).1

/-- They have findings of the same kinds at the same places. -/
theorem SamePattern.subjects_eq (h : SamePattern first second) (policy : SkipPolicy) :
    (findings policy (numbered 0 second)).map (fun finding => (finding.kind, finding.line)) =
      (findings policy (numbered 0 first)).map fun finding => (finding.kind, finding.line) := by
  obtain ⟨ρ, hline, heq⟩ := h.exists_relabelling
  rw [heq, Relabelling.findings_map, List.map_map]
  apply List.map_congr_left
  intro finding _
  show (finding.kind, ρ.line finding.line) = (finding.kind, finding.line)
  rw [hline]

/-- **Names and lines are opaque.** Giving the tokens of a document new names, different ones for different names, and
any new lines gives its findings these names and lines, and changes nothing else. So where two documents have the same
pattern of kinds and equal names, there is one list of kinds and places from which the findings of both can be read:
what the names are and on which lines the tags stand decides nothing. -/
theorem findings_of_pattern (policy : SkipPolicy) (tokens : List Token) {name : String → String}
    (hname : Function.Injective name) (line : Nat → Nat) :
    findings policy (tokens.map fun token => ⟨token.kind, name token.name, line token.line⟩) =
        (findings policy tokens).map (fun finding => ⟨finding.kind, line finding.line, name finding.detail⟩) ∧
      ∀ others, SamePattern tokens others →
        ∃ subjects : List (Finding.Kind × Nat),
          subjects.map (findingAt tokens) = (findings policy tokens).map some ∧
            subjects.map (findingAt others) = (findings policy others).map some := by
  constructor
  · have hrelabelled := Relabelling.findings_map ⟨name, line, fun heq => hname heq⟩ policy tokens
    exact hrelabelled
  · intro others hpattern
    refine ⟨_, map_findingAt policy tokens, ?_⟩
    rw [← hpattern.subjects_eq policy]
    exact map_findingAt policy others

/-- Two names change places, and all tags come to stand on one line; and a document of the same pattern, one of whose
names is empty. -/
theorem findings_of_pattern_swapped :
    let tokens : List Token :=
      [⟨.opening, "a", 1⟩, ⟨.opening, "b", 2⟩, ⟨.closing, "a", 3⟩, ⟨.opening, "c", 4⟩]
    let others : List Token :=
      [⟨.opening, "a>", 9⟩, ⟨.opening, "", 0⟩, ⟨.closing, "a>", 0⟩, ⟨.opening, "b", 5⟩]
    let swap : String → String := Equiv.swap "a" "b"
    Function.Injective swap ∧ SamePattern tokens others ∧
      findings .report (tokens.map fun token => ⟨token.kind, swap token.name, 7⟩) =
        [⟨.mismatch, 7, "a"⟩, ⟨.missingEnd, 7, "c"⟩] ∧
      ∃ subjects : List (Finding.Kind × Nat),
        subjects.map (findingAt tokens) = [some ⟨.mismatch, 2, "b"⟩, some ⟨.missingEnd, 4, "c"⟩] ∧
          subjects.map (findingAt others) = [some ⟨.mismatch, 0, ""⟩, some ⟨.missingEnd, 5, "b"⟩] := by
  intro tokens others swap
  have hswap : Function.Injective swap := (Equiv.swap "a" "b").injective
  have hpattern : SamePattern tokens others := ⟨rfl, by decide, by decide⟩
  have hfindings : findings .report tokens = [⟨.mismatch, 2, "b"⟩, ⟨.missingEnd, 4, "c"⟩] := by decide
  have hothers : findings .report others = [⟨.mismatch, 0, ""⟩, ⟨.missingEnd, 5, "b"⟩] := by decide
  obtain ⟨hrenamed, hsubjects⟩ := findings_of_pattern .report tokens hswap (fun _ => 7)
  obtain ⟨subjects, hfirst, hsecond⟩ := hsubjects others hpattern
  refine ⟨hswap, hpattern, ?_, subjects, ?_, ?_⟩
  · rw [hrenamed, hfindings]
    decide
  · rw [hfirst, hfindings]
    rfl
  · rw [hsecond, hothers]
    rfl

end TagNesting
