import Mathlib.Data.List.Nodup

/-!
# `Proofs.Words` — choices and the words for them

Where there is a choice, each possible value has a word, and a list holds all of the values. A word is looked up in that
list, and this finds the value whose word it is, provided that every value is in the list and no two have the same word
(`Enumerates`). Then it does not matter how the list is searched: the two ways that occur find the same
(`Enumerates.lookup_eq_some_iff`, `Enumerates.find?_eq_some_iff`).
-/

namespace TagNesting

/-- Among keys that differ, looking up one finds what stands beside it. -/
theorem lookup_eq_some_iff_mem {κ β : Type} [DecidableEq κ] {entries : List (κ × β)}
    (h : (entries.map Prod.fst).Nodup) {key : κ} {content : β} :
    entries.lookup key = some content ↔ (key, content) ∈ entries := by
  induction entries with
  | nil => exact iff_of_false (by simp) List.not_mem_nil
  | cons entry entries ih =>
      obtain ⟨first, value⟩ := entry
      obtain ⟨hnew, hrest⟩ := List.nodup_cons.1 h
      rw [List.lookup_cons]
      by_cases hkey : key = first
      · subst hkey
        have hlater : (key, content) ∉ entries := fun hmem => hnew (List.mem_map.2 ⟨_, hmem, rfl⟩)
        simp [hlater, eq_comm]
      · rw [beq_eq_false_iff_ne.2 hkey]
        simp [ih hrest, hkey]

variable {α : Type} {all : List α} {word : α → String}

/-- The list holds all values, and their words differ. -/
structure Enumerates (all : List α) (word : α → String) : Prop where
  complete : ∀ value, value ∈ all
  words_nodup : (all.map word).Nodup

namespace Enumerates

theorem word_inj (h : Enumerates all word) {first second : α} (heq : word first = word second) : first = second :=
  List.inj_on_of_nodup_map h.words_nodup (h.complete first) (h.complete second) heq

/-- **A word stands for the value whose word it is.** -/
theorem lookup_eq_some_iff (h : Enumerates all word) {name : String} {value : α} :
    (all.map fun value => (word value, value)).lookup name = some value ↔ name = word value := by
  have hkeys : ((all.map fun value => (word value, value)).map Prod.fst).Nodup := by
    rw [List.map_map]
    exact h.words_nodup
  rw [lookup_eq_some_iff_mem hkeys, List.mem_map]
  constructor
  · rintro ⟨found, -, heq⟩
    cases heq
    rfl
  · rintro rfl
    exact ⟨value, h.complete value, rfl⟩

theorem find?_eq_some_iff (h : Enumerates all word) {name : String} {value : α} :
    all.find? (word · = name) = some value ↔ name = word value := by
  constructor
  · intro hfind
    exact (by simpa using List.find?_some hfind : word value = name).symm
  · rintro rfl
    cases hfind : all.find? (word · = word value) with
    | none => exact absurd (List.find?_eq_none.1 hfind value (h.complete value)) (by simp)
    | some found =>
        have hword : word found = word value := by simpa using List.find?_some hfind
        rw [h.word_inj hword]

end Enumerates

end TagNesting
