import TagNesting.Collection.Session

/-!
# `Proofs.Collection.Pairing` — which pops take off which pushes

The requests that a stack has seen tell by themselves what it holds: a push and a pop belong together if the requests
between them *pair off*, and an element is still there if no pop belongs to its push and nothing has removed all
elements since. These are facts about the requests alone: no stack is mentioned here.

* `PairsOff between` — what these requests push, they pop again, so that they leave every stack as it was;
* `IsPopped later`, `IsCleared later` — what becomes, in the course of `later`, of an element pushed just before;
* `held history` — the elements that are still there after a whole history, the latest first.

To decide whether an element is popped, it is enough to count how far down the pops go (`popsBelow`, `isPopped_iff`).
-/

namespace TagNesting

namespace Stack

variable {α : Type} {x : α} {xs : List α} {r : Request α} {between later history : List (Request α)}

/-! ## Kinds of requests -/

/-- The request only looks. -/
def Request.IsLook : Request α → Prop
  | .push _ | .pop | .clear | .renew => False
  | .peek | .size | .isEmpty | .contains _ | .search _ | .searchBy _ => True

/-- The request removes all elements at once. -/
def Request.empties : Request α → Bool
  | .clear | .renew => true
  | _ => false

theorem Request.kinds (r : Request α) : (∃ x, r = .push x) ∨ r = .pop ∨ r.empties = true ∨ r.IsLook := by
  cases r <;> simp [IsLook, empties]

theorem Request.IsLook.empties_eq_false (h : r.IsLook) : r.empties = false := by
  cases r with
  | push x | pop | clear | renew => exact h.elim
  | _ => rfl

/-! ## Pushes and pops that belong together -/

/-- Requests that pop again what they push, and nothing else. -/
inductive PairsOff : List (Request α) → Prop where
  | nil : PairsOff []
  | look {r : Request α} {later : List (Request α)} : r.IsLook → PairsOff later → PairsOff (r :: later)
  | pushPop (x : α) {between later : List (Request α)} :
      PairsOff between → PairsOff later → PairsOff (.push x :: (between ++ .pop :: later))

/-- An element that is on top before these requests is popped by one of them. -/
def IsPopped (later : List (Request α)) : Prop :=
  ∃ between rest, later = between ++ .pop :: rest ∧ PairsOff between

/-- One of these requests removes all elements at once. -/
def IsCleared (later : List (Request α)) : Prop :=
  ∃ r ∈ later, r.empties = true

instance (later : List (Request α)) : Decidable (IsCleared later) :=
  inferInstanceAs (Decidable (∃ r ∈ later, r.empties = true))

theorem isCleared_cons : IsCleared (r :: later) ↔ r.empties = true ∨ IsCleared later := by
  simp [IsCleared]

theorem isCleared_cons_of_not (hr : r.empties = false) : IsCleared (r :: later) ↔ IsCleared later := by
  simp [isCleared_cons, hr]

/-! ## How far down the pops go -/

/-- How many of the elements that are there before these requests are popped by them. -/
def popsBelow : List (Request α) → Nat
  | [] => 0
  | .push _ :: later => popsBelow later - 1
  | .pop :: later => popsBelow later + 1
  | .clear :: _ | .renew :: _ => 0
  | _ :: later => popsBelow later

theorem popsBelow_look (h : r.IsLook) (later : List (Request α)) : popsBelow (r :: later) = popsBelow later := by
  cases r with
  | push x | pop | clear | renew => exact h.elim
  | _ => rfl

theorem popsBelow_empties (h : r.empties = true) (later : List (Request α)) : popsBelow (r :: later) = 0 := by
  cases r with
  | clear | renew => rfl
  | _ => cases h

/-- Requests that pair off do not count. -/
theorem popsBelow_append (h : PairsOff between) (later : List (Request α)) :
    popsBelow (between ++ later) = popsBelow later := by
  induction h generalizing later with
  | nil => rfl
  | look hlook _ ih => rw [List.cons_append, popsBelow_look hlook, ih]
  | pushPop x _ _ ihbetween ihrest =>
      rw [List.cons_append, List.append_assoc, List.cons_append, popsBelow, ihbetween, popsBelow, ihrest,
        Nat.add_sub_cancel]

/-- If the pops go down to elements that were there before, the first one to do so comes after requests that pair
off. -/
theorem exists_pop_of_popsBelow {later : List (Request α)} {count : Nat} (h : popsBelow later = count + 1) :
    ∃ between rest, later = between ++ .pop :: rest ∧ PairsOff between ∧ popsBelow rest = count := by
  match later with
  | [] => cases h
  | r :: later =>
      rcases r.kinds with ⟨x, rfl⟩ | rfl | hempties | hlook
      · -- the first such pop takes off the element pushed here, and the next one is looked for after it
        have hlater : popsBelow later = count + 1 + 1 := by
          rw [popsBelow] at h
          omega
        obtain ⟨inner, rest, hsplit, hinner, hrest⟩ := exists_pop_of_popsBelow hlater
        have : rest.length < later.length := by
          rw [hsplit, List.length_append, List.length_cons]
          omega
        obtain ⟨outer, last, rfl, houter, hlast⟩ := exists_pop_of_popsBelow hrest
        refine ⟨.push x :: (inner ++ .pop :: outer), last, ?_, .pushPop x hinner houter, hlast⟩
        rw [hsplit, List.cons_append, List.append_assoc, List.cons_append]
      · exact ⟨[], later, rfl, .nil, Nat.succ.inj h⟩
      · rw [popsBelow_empties hempties] at h
        cases h
      · rw [popsBelow_look hlook] at h
        obtain ⟨between, rest, rfl, hbetween, hrest⟩ := exists_pop_of_popsBelow h
        exact ⟨r :: between, rest, rfl, .look hlook hbetween, hrest⟩
termination_by later.length

theorem isPopped_iff : IsPopped later ↔ 0 < popsBelow later := by
  constructor
  · rintro ⟨between, rest, rfl, hbetween⟩
    rw [popsBelow_append hbetween, popsBelow]
    exact Nat.succ_pos _
  · intro h
    obtain ⟨between, rest, hsplit, hbetween, -⟩ := exists_pop_of_popsBelow (Nat.succ_pred_eq_of_pos h).symm
    exact ⟨between, rest, hsplit, hbetween⟩

instance (later : List (Request α)) : Decidable (IsPopped later) :=
  decidable_of_iff _ isPopped_iff.symm

/-! ## What is still there -/

/-- The elements that have been pushed, and that the requests after their push neither pop nor clear away; the latest
first. -/
def held : List (Request α) → List α
  | [] => []
  | .push x :: later => if IsPopped later ∨ IsCleared later then held later else held later ++ [x]
  | _ :: later => held later

theorem held_push_of_gone (h : IsPopped later ∨ IsCleared later) (x : α) : held (.push x :: later) = held later :=
  if_pos h

theorem held_push_of_stays (h : ¬(IsPopped later ∨ IsCleared later)) (x : α) :
    held (.push x :: later) = held later ++ [x] :=
  if_neg h

theorem held_pop (later : List (Request α)) : held (.pop :: later) = held later := rfl

theorem held_empties (h : r.empties = true) (later : List (Request α)) : held (r :: later) = held later := by
  cases r with
  | clear | renew => rfl
  | _ => cases h

theorem held_look (h : r.IsLook) (later : List (Request α)) : held (r :: later) = held later := by
  cases r with
  | push x | pop | clear | renew => exact h.elim
  | _ => rfl

/-- What the requests after a push leave, on top of the element pushed and of what is below it, is what the push and
they leave on top of what is below. -/
theorem held_append_drop_push (x : α) (below : List α) (later : List (Request α)) :
    (held later ++ if IsCleared later then [] else (x :: below).drop (popsBelow later)) =
      held (.push x :: later) ++
        if IsCleared (.push x :: later) then [] else below.drop (popsBelow (.push x :: later)) := by
  have hcleared : IsCleared (.push x :: later) ↔ IsCleared later := isCleared_cons_of_not rfl
  by_cases hlater : IsCleared later
  · rw [held_push_of_gone (Or.inr hlater), if_pos hlater, if_pos (hcleared.2 hlater)]
  · rw [if_neg hlater, if_neg (mt hcleared.1 hlater), popsBelow]
    cases hpops : popsBelow later with
    | zero =>
        have hstays : ¬(IsPopped later ∨ IsCleared later) := by simp [isPopped_iff, hpops, hlater]
        rw [held_push_of_stays hstays, List.append_assoc]
        rfl
    | succ count =>
        have hpopped : IsPopped later := isPopped_iff.2 (hpops ▸ Nat.succ_pos count)
        rw [held_push_of_gone (Or.inl hpopped)]
        rfl

/-- What came before is further down. -/
theorem held_prefix_append (earlier later : List (Request α)) : held later <+: held (earlier ++ later) := by
  induction earlier with
  | nil => exact List.prefix_rfl
  | cons r earlier ih =>
      refine ih.trans ?_
      rw [List.cons_append]
      cases r with
      | push x =>
          rw [held]
          split
          · exact List.prefix_rfl
          · exact List.prefix_append _ _
      | _ => exact List.prefix_rfl

/-- Requests that leave nothing of their own and take nothing away pair off. -/
theorem pairsOff_of_held_eq_nil {later : List (Request α)} (hheld : held later = []) (hbelow : popsBelow later = 0)
    (hcleared : ¬IsCleared later) : PairsOff later := by
  match later with
  | [] => exact .nil
  | r :: later =>
      rw [isCleared_cons, not_or] at hcleared
      rcases r.kinds with ⟨x, rfl⟩ | rfl | hempties | hlook
      · -- the element pushed here must be popped, and what comes after its pop leaves and takes nothing either
        by_cases hpopped : IsPopped later
        · rw [held_push_of_gone (Or.inl hpopped)] at hheld
          obtain ⟨between, rest, hsplit, hbetween⟩ := hpopped
          have : rest.length < later.length := by
            rw [hsplit, List.length_append, List.length_cons]
            omega
          rw [hsplit, List.append_cons] at hheld
          rw [hsplit, popsBelow, popsBelow_append hbetween, popsBelow, Nat.add_sub_cancel] at hbelow
          have hrest : PairsOff rest := by
            refine pairsOff_of_held_eq_nil (List.prefix_nil.1 (hheld ▸ held_prefix_append _ rest)) hbelow ?_
            rintro ⟨r, hr, hempties⟩
            refine hcleared.2 ⟨r, ?_, hempties⟩
            exact hsplit ▸ List.mem_append_right between (List.mem_cons_of_mem _ hr)
          exact hsplit ▸ .pushPop x hbetween hrest
        · rw [held_push_of_stays (not_or.2 ⟨hpopped, hcleared.2⟩)] at hheld
          exact absurd hheld (List.append_ne_nil_of_right_ne_nil _ (List.cons_ne_nil x []))
      · cases hbelow
      · exact absurd hempties hcleared.1
      · rw [held_look hlook] at hheld
        rw [popsBelow_look hlook] at hbelow
        exact .look hlook (pairsOff_of_held_eq_nil hheld hbelow hcleared.2)
termination_by later.length

/-- **The topmost element has been pushed, and what has come since pairs off.** -/
theorem exists_push_of_held_eq_cons (h : held history = x :: xs) :
    ∃ earlier between, history = earlier ++ .push x :: between ∧ PairsOff between := by
  induction history generalizing xs with
  | nil => cases h
  | cons r later ih =>
      -- if anything is left of what has come later, that is on top
      have hlater {ys : List α} (hys : held later = x :: ys) :
          ∃ earlier between, r :: later = earlier ++ .push x :: between ∧ PairsOff between := by
        obtain ⟨earlier, between, rfl, hbetween⟩ := ih hys
        exact ⟨r :: earlier, between, rfl, hbetween⟩
      rcases r.kinds with ⟨y, rfl⟩ | rfl | hempties | hlook
      · by_cases hgone : IsPopped later ∨ IsCleared later
        · exact hlater ((held_push_of_gone hgone y).symm.trans h)
        · rw [held_push_of_stays hgone] at h
          obtain ⟨hpopped, hcleared⟩ := not_or.1 hgone
          cases hys : held later with
          | nil =>
              rw [hys] at h
              cases h
              have hbelow : popsBelow later = 0 := Nat.eq_zero_of_not_pos (mt isPopped_iff.2 hpopped)
              exact ⟨[], later, rfl, pairsOff_of_held_eq_nil hys hbelow hcleared⟩
          | cons z ys =>
              rw [hys] at h
              cases h
              exact hlater hys
      · exact hlater h
      · exact hlater ((held_empties hempties later).symm.trans h)
      · exact hlater ((held_look hlook later).symm.trans h)

end Stack

end TagNesting
