import Mathlib.Data.List.Forall2
import TagNesting.Proofs.Json.Value

/-!
# `Proofs.Json.Members` — the members of an object by name

An object is decoded member by member, but what comes of it can be told from the members as they stand, one name at a
time. The values of all members of a name (`valuesOf`) give something of the field of this name if there is no more
than one of them, and it can be decoded (`Gives`, `Admits`). If there is none, the field is left open.

So neither the order of the members matters, nor those with other names: two objects with the same members of some names
(`SameMembers`) have the same values of each of them, up to their order.
-/

namespace TagNesting.Json

/-! ## Members by name -/

/-- The members of an object, by what their keys say. -/
abbrev Named := List (String × Reading)

/-- The keys say these names, and the values are these. -/
def AreNamed (members : Members) (named : Named) : Prop :=
  List.Forall₂ (fun member entry => member.1.word = .ok entry.1 ∧ member.2 = entry.2) members named

/-- The text is an object with these members. -/
def IsObject (text : List Char) (named : Named) : Prop :=
  ∃ members, Spelled (.value (.object members none)) text ∧ AreNamed members named

/-- An object that has been written has the members that it has been written with. -/
theorem isObject_render (layout : Layout) (members : List (String × Value)) :
    IsObject ((Value.object members).render layout).toList
      (members.map fun member => (member.1, member.2.reading)) := by
  refine ⟨membersReading members, ?_, ?_⟩
  · rw [Value.render, String.toList_ofList]
    exact spelled_write layout 0 (.object members)
  · induction members with
    | nil => exact .nil
    | cons member members ih => exact .cons ⟨QuotedText.value_ofText member.1, rfl⟩ ih

/-- The values of the members of this name. -/
def valuesOf (name : String) (named : Named) : List Reading :=
  (named.filter (·.1 = name)).map Prod.snd

variable {β : Type} {name other : String}

theorem valuesOf_nil (name : String) : valuesOf name [] = [] := rfl

theorem valuesOf_append (name : String) (first second : Named) :
    valuesOf name (first ++ second) = valuesOf name first ++ valuesOf name second := by
  rw [valuesOf, List.filter_append, List.map_append]
  rfl

theorem valuesOf_cons_self (name : String) (value : Reading) (named : Named) :
    valuesOf name ((name, value) :: named) = value :: valuesOf name named := by
  rw [valuesOf, List.filter_cons_of_pos (by simp), List.map_cons]
  rfl

theorem valuesOf_cons_of_ne (h : other ≠ name) (value : Reading) (named : Named) :
    valuesOf name ((other, value) :: named) = valuesOf name named := by
  rw [valuesOf, List.filter_cons_of_neg (by simpa using h)]
  rfl

/-! ## What members give -/

/-- What the values under one name give of a field: nothing if there is none, and if there is one, what it is decoded
to. From two values, or from one that cannot be decoded, nothing comes at all. -/
inductive Gives (decoder : Decoder β) : List Reading → Option β → Prop where
  | absent : Gives decoder [] none
  | present {value : Reading} {content : β} (h : decoder value = .ok content) : Gives decoder [value] (some content)

variable {decoder : Decoder β} {values : List Reading}

/-- They give one thing only. -/
theorem Gives.unique {first second : Option β} (hfirst : Gives decoder values first)
    (hsecond : Gives decoder values second) : first = second := by
  cases hfirst with
  | absent =>
      cases hsecond with
      | absent => rfl
  | present hfirst =>
      cases hsecond with
      | present hsecond => exact congrArg some (Except.ok.inj (hfirst.symm.trans hsecond))

/-- A field may be filled from these values: there is no more than one, and it can be decoded. -/
def Admits (decoder : Decoder β) (values : List Reading) : Prop :=
  values.length ≤ 1 ∧ ∀ value ∈ values, ∃ content, decoder value = .ok content

theorem exists_gives_iff : (∃ given, Gives decoder values given) ↔ Admits decoder values := by
  constructor
  · rintro ⟨given, hgives⟩
    cases hgives with
    | absent => exact ⟨Nat.zero_le 1, List.forall_mem_nil _⟩
    | present h => exact ⟨Nat.le_refl 1, List.forall_mem_singleton.2 ⟨_, h⟩⟩
  · rintro ⟨hlength, hdecoded⟩
    match values with
    | [] => exact ⟨none, .absent⟩
    | [value] =>
        obtain ⟨content, hcontent⟩ := hdecoded value List.mem_cons_self
        exact ⟨some content, .present hcontent⟩
    | _ :: _ :: _ => exact absurd hlength (by simp)

/-- They give something if there are any. -/
theorem Gives.isSome_iff {given : Option β} (h : Gives decoder values given) : given.isSome = true ↔ values ≠ [] := by
  cases h <;> simp

/-- The order of the values does not matter. -/
theorem Gives.perm {others : List Reading} {given : Option β} (h : Gives decoder values given)
    (hperm : values.Perm others) : Gives decoder others given := by
  cases h with
  | absent =>
      rw [← hperm.nil_eq]
      exact .absent
  | present h =>
      rw [← List.singleton_perm.1 hperm]
      exact .present h

/-- A second value is too many. -/
theorem Gives.not_append_cons {content : β} (h : Gives decoder values (some content)) (value : Reading)
    (more : List Reading) (given : Option β) : ¬ Gives decoder (values ++ value :: more) given := by
  intro hboth
  cases h
  cases hboth

/-! ## Objects that differ in other members only -/

/-- Two objects have the same members with these names, in whatever order and among whatever others. -/
def SameMembers (names : List String) (first second : Named) : Prop :=
  (first.filter (·.1 ∈ names)).Perm (second.filter (·.1 ∈ names))

theorem SameMembers.perm_valuesOf {names : List String} {first second : Named} (h : SameMembers names first second)
    (hname : name ∈ names) : (valuesOf name first).Perm (valuesOf name second) := by
  have hfilter (named : Named) : named.filter (·.1 = name) = (named.filter (·.1 ∈ names)).filter (·.1 = name) := by
    rw [List.filter_filter]
    refine List.filter_congr fun entry _ => ?_
    by_cases hentry : entry.1 = name
    · simp [hentry, hname]
    · simp [hentry]
  rw [valuesOf, valuesOf, hfilter first, hfilter second]
  exact (h.filter _).map _

end TagNesting.Json
