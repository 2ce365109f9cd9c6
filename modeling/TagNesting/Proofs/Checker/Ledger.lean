import TagNesting.Proofs.Checker.Rules

/-!
# `Proofs.Checker.Ledger` — where each tag has gone

A checker keeps names and lines, not the tokens that they come from. A *book* (`Book`) keeps the tokens instead,
each with its position: those that have been settled in pairs, and those behind every open tag, every pending
finding and every orphan. `Keeps places book c` says that the book holds exactly the places taken so far, each
of them once, and that the state `c` is what it shows.

Every token can be booked (`Keeps.feed`). A closing token is booked by the outcome that it has (`Keeps.close`): it
settles a place that is in the book, or becomes a place of its own, and the search only moves places on. So after
any run the book holds the places of all opening and closing tokens, each of them once (`Keeps.feedAll`).
-/

namespace TagNesting

/-- A token and its position in the document. -/
abbrev Placed := Token × Nat

/-- Whether a token opens or closes a tag. -/
def Token.isTag (token : Token) : Bool :=
  token.kind = .opening || token.kind = .closing

/-- The finding is about the tag of this token, and is of a kind that such a token can give rise to. -/
inductive Reports (policy : SkipPolicy) (token : Token) : Finding → Prop where
  | missingStart (hkind : token.kind = .closing) : Reports policy token (.ofTag .missingStart token.tag)
  | missingEnd (hkind : token.kind = .opening) : Reports policy token (.ofTag .missingEnd token.tag)
  | mismatch (hkind : token.kind = .opening) (hpolicy : policy = .report) :
      Reports policy token (.ofTag .mismatch token.tag)
  | extra (htag : token.isTag = true) : Reports policy token (.ofTag .extra token.tag)

variable {policy : SkipPolicy}

theorem Reports.detail_eq {token : Token} {finding : Finding} (h : Reports policy token finding) :
    finding.detail = token.name := by
  cases h <;> rfl

theorem Reports.kind_ne {token : Token} {finding : Finding} (h : Reports policy token finding) :
    finding.kind ≠ .invalidFormat := by
  cases h <;> exact Finding.Kind.noConfusion

/-- Places with a finding of the same kind about each. -/
def entriesOf (kind : Finding.Kind) (places : List Placed) : List (Placed × Finding) :=
  places.map fun place => (place, .ofTag kind place.1.tag)

theorem map_fst_entriesOf (kind : Finding.Kind) (places : List Placed) :
    (entriesOf kind places).map Prod.fst = places := by
  rw [entriesOf, List.map_map]
  exact List.map_id places

theorem map_snd_entriesOf (kind : Finding.Kind) (places : List Placed) :
    (entriesOf kind places).map Prod.snd = (places.map (·.1.tag)).map (.ofTag kind) := by
  rw [entriesOf, List.map_map, List.map_map]
  rfl

theorem reports_of_mem_entriesOf {kind : Finding.Kind} {places : List Placed}
    (h : ∀ place ∈ places, Reports policy place.1 (.ofTag kind place.1.tag)) :
    ∀ entry ∈ entriesOf kind places, Reports policy entry.1.1 entry.2 := by
  intro entry hentry
  obtain ⟨place, hplace, rfl⟩ := List.mem_map.1 hentry
  exact h place hplace

/-! ## Books -/

/-- The halves of some pairs. -/
def bothOf (pairs : List (Placed × Placed)) : List Placed :=
  pairs.flatMap fun pair => [pair.1, pair.2]

/-- Where the opening and closing tokens have gone. -/
structure Book where
  /-- Those that have settled each other. -/
  pairs : List (Placed × Placed) := []
  /-- Those behind the open tags, innermost first. -/
  opened : List Placed := []
  /-- Those behind the pending findings, oldest first. -/
  pending : List (Placed × Finding) := []
  /-- Those behind the orphans, oldest first. -/
  orphans : List Placed := []

/-- All places in a book. -/
def Book.places (book : Book) : List Placed :=
  bothOf book.pairs ++ (book.opened ++ (book.pending.map Prod.fst ++ book.orphans))

/-- **The ledger invariant.** The book holds the given places, each as often as they do, and the state shows what
the book holds. -/
structure Keeps (policy : SkipPolicy) (places : List Placed) (book : Book) (c : Checker) : Prop where
  complete : book.places.Perm places
  same_name : ∀ pair ∈ book.pairs, pair.1.1.name = pair.2.1.name
  opened_eq : c.openTags.toList = book.opened.map (·.1.tag)
  opened_kind : ∀ place ∈ book.opened, place.1.kind = .opening
  pending_eq : c.pending.toList = book.pending.map Prod.snd
  pending_reports : ∀ entry ∈ book.pending, Reports policy entry.1.1 entry.2
  orphans_eq : c.orphans.toList = book.orphans.map (·.1.tag)
  orphans_isTag : ∀ place ∈ book.orphans, place.1.isTag = true
  malformed_kind : ∀ finding ∈ c.malformed.toList, finding.kind = .invalidFormat

variable {places : List Placed} {book : Book} {c : Checker} {token : Token}

theorem count_bothOf_cons (place : Placed) (pair : Placed × Placed) (pairs : List (Placed × Placed)) :
    (bothOf (pair :: pairs)).count place = [pair.1, pair.2].count place + (bothOf pairs).count place := by
  rw [bothOf, List.flatMap_cons, List.count_append]
  rfl

theorem Book.count_places (book : Book) (place : Placed) :
    book.places.count place =
      (bothOf book.pairs).count place + book.opened.count place +
        (book.pending.map Prod.fst).count place + book.orphans.count place := by
  rw [Book.places, List.count_append, List.count_append, List.count_append]
  omega

/-- That a book is complete may be checked by counting each place. -/
theorem complete_of_count {before after : List Placed} {book' : Book} (h : book.places.Perm before)
    (hcount : ∀ place, book'.places.count place + before.count place =
      book.places.count place + after.count place) : book'.places.Perm after := by
  rw [List.perm_iff_count] at h ⊢
  intro place
  have hbefore : book.places.count place = before.count place := h place
  have hboth := hcount place
  omega

namespace Keeps

/-! ## A place that is new -/

/-- An opening token is behind a new open tag. -/
theorem opening (h : Keeps policy places book c) (hkind : token.kind = .opening) (position : Nat) :
    Keeps policy (places ++ [(token, position)]) { book with opened := (token, position) :: book.opened }
      { c with openTags := c.openTags.push token.tag } :=
  { h with
    complete := by
      apply complete_of_count h.complete
      intro place
      simp only [Book.count_places, List.count_append, List.count_cons, List.count_nil]
      omega
    opened_eq := congrArg (token.tag :: ·) h.opened_eq
    opened_kind := List.forall_mem_cons.2 ⟨hkind, h.opened_kind⟩ }

/-- A closing token without anything to close is behind a new pending finding. -/
theorem missingStart (h : Keeps policy places book c) (hkind : token.kind = .closing) (position : Nat) :
    Keeps policy (places ++ [(token, position)])
      { book with pending := book.pending ++ [((token, position), .ofTag .missingStart token.tag)] }
      { c with pending := c.pending.enqueue (.ofTag .missingStart token.tag) } :=
  { h with
    complete := by
      apply complete_of_count h.complete
      intro place
      simp only [Book.count_places, List.map_append, List.map_cons, List.map_nil, List.count_append]
      omega
    pending_eq := by
      rw [Queue.toList_enqueue, h.pending_eq, List.map_append]
      rfl
    pending_reports := by
      intro entry hentry
      rcases List.mem_append.1 hentry with hold | hnew
      · exact h.pending_reports entry hold
      · obtain rfl := List.mem_singleton.1 hnew
        exact .missingStart hkind }

/-- A closing token may be behind a new orphan. -/
theorem orphaned (h : Keeps policy places book c) (htag : token.isTag = true) (position : Nat) :
    Keeps policy (places ++ [(token, position)]) { book with orphans := book.orphans ++ [(token, position)] }
      { c with orphans := c.orphans.enqueue token.tag } :=
  { h with
    complete := by
      apply complete_of_count h.complete
      intro place
      simp only [Book.count_places, List.count_append]
      omega
    orphans_eq := by
      rw [Queue.toList_enqueue, h.orphans_eq, List.map_append]
      rfl
    orphans_isTag := by
      intro place hplace
      rcases List.mem_append.1 hplace with hold | hnew
      · exact h.orphans_isTag place hold
      · obtain rfl := List.mem_singleton.1 hnew
        exact htag }

/-! ## A place that settles another -/

/-- A closing token and the innermost open tag of its name settle each other. -/
theorem closed (h : Keeps policy places book c) {place : Placed} {outer : List Placed}
    (hbook : book.opened = place :: outer) (hname : place.1.name = token.name) (position : Nat) :
    Keeps policy (places ++ [(token, position)])
      { book with pairs := (place, token, position) :: book.pairs, opened := outer }
      { c with openTags := ⟨outer.map (·.1.tag)⟩ } :=
  { h with
    complete := by
      apply complete_of_count h.complete
      intro other
      simp only [Book.count_places, count_bothOf_cons, hbook, List.count_append, List.count_cons, List.count_nil]
      omega
    same_name := List.forall_mem_cons.2 ⟨hname, h.same_name⟩
    opened_eq := rfl
    opened_kind := by
      intro other hother
      apply h.opened_kind
      rw [hbook]
      exact List.mem_cons_of_mem place hother }

/-- A closing token and the oldest pending finding of its name settle each other. -/
theorem takenBack (h : Keeps policy places book c) {entry : Placed × Finding} {later : List (Placed × Finding)}
    {rest : Queue Finding} (hbook : book.pending = entry :: later) (hrest : rest.toList = later.map Prod.snd)
    (hname : entry.2.detail = token.name) (position : Nat) :
    Keeps policy (places ++ [(token, position)])
      { book with pairs := (entry.1, token, position) :: book.pairs, pending := later }
      { c with pending := rest } :=
  { h with
    complete := by
      apply complete_of_count h.complete
      intro place
      simp only [Book.count_places, count_bothOf_cons, hbook, List.map_cons, List.count_append, List.count_cons,
        List.count_nil]
      omega
    same_name := by
      have hentry : entry ∈ book.pending := by
        rw [hbook]
        exact List.mem_cons_self
      -- the finding tells the name of the token that it is about
      have hdetail : entry.2.detail = entry.1.1.name := (h.pending_reports entry hentry).detail_eq
      exact List.forall_mem_cons.2 ⟨hdetail.symm.trans hname, h.same_name⟩
    pending_eq := hrest
    pending_reports := by
      intro other hother
      apply h.pending_reports
      rw [hbook]
      exact List.mem_cons_of_mem entry hother }

/-! ## Places that move on -/

/-- On both sides of a split of the open tags there are opening tokens. -/
theorem opened_kind_of_append (h : Keeps policy places book c) {passed outer : List Placed}
    (hbook : book.opened = passed ++ outer) :
    (∀ place ∈ passed, place.1.kind = .opening) ∧ ∀ place ∈ outer, place.1.kind = .opening := by
  rw [← List.forall_mem_append, ← hbook]
  exact h.opened_kind

/-- Open tags may become orphans. -/
theorem abandoned (h : Keeps policy places book c) {passed outer : List Placed}
    (hbook : book.opened = passed ++ outer) :
    Keeps policy places { book with opened := outer, orphans := book.orphans ++ passed }
      { c with openTags := ⟨outer.map (·.1.tag)⟩, orphans := c.orphans.enqueueAll (passed.map (·.1.tag)) } :=
  { h with
    complete := by
      apply complete_of_count h.complete
      intro place
      simp only [Book.count_places, hbook, List.count_append]
      omega
    opened_eq := rfl
    opened_kind := (h.opened_kind_of_append hbook).2
    orphans_eq := by
      rw [Queue.toList_enqueueAll, h.orphans_eq, List.map_append]
    orphans_isTag := by
      intro place hplace
      rcases List.mem_append.1 hplace with hold | hnew
      · exact h.orphans_isTag place hold
      · have hkind : place.1.kind = .opening := (h.opened_kind_of_append hbook).1 place hnew
        simp [Token.isTag, hkind] }

/-- Under the policy that reports them, open tags may become pending findings. -/
theorem mismatched (h : Keeps .report places book c) {passed outer : List Placed}
    (hbook : book.opened = passed ++ outer) :
    Keeps .report places
      { book with
        opened := outer
        pending := book.pending ++ entriesOf .mismatch passed }
      { c with
        openTags := ⟨outer.map (·.1.tag)⟩
        pending := c.pending.enqueueAll ((passed.map (·.1.tag)).map (.ofTag .mismatch)) } :=
  { h with
    complete := by
      apply complete_of_count h.complete
      intro place
      simp only [Book.count_places, hbook, List.map_append, map_fst_entriesOf, List.count_append]
      omega
    opened_eq := rfl
    opened_kind := (h.opened_kind_of_append hbook).2
    pending_eq := by
      rw [Queue.toList_enqueueAll, h.pending_eq, List.map_append, map_snd_entriesOf]
    pending_reports := by
      intro entry hentry
      rcases List.mem_append.1 hentry with hold | hnew
      · exact h.pending_reports entry hold
      · apply reports_of_mem_entriesOf _ entry hnew
        intro place hplace
        exact .mismatch ((h.opened_kind_of_append hbook).1 place hplace) rfl }

/-- Tags that are passed over only move on. -/
theorem passOver (h : Keeps policy places book c) {passed outer : List Placed}
    (hbook : book.opened = passed ++ outer) :
    ∃ book', book'.opened = outer ∧
      Keeps policy places book' (c.passOver policy (passed.map (·.1.tag)) (outer.map (·.1.tag))) := by
  cases policy with
  | report => exact ⟨_, rfl, h.mismatched hbook⟩
  | extras => exact ⟨_, rfl, h.abandoned hbook⟩

/-! ## Tokens -/

/-- **Closing tokens are booked**, whatever rule settles them. -/
theorem close (h : Keeps policy places book c) (hkind : token.kind = .closing) (position : Nat) :
    ∃ book', Keeps policy (places ++ [(token, position)]) book' (c.close policy token.tag).1 := by
  have hsettles := Checker.settles_close policy c token.tag
  have htag : token.isTag = true := by simp [Token.isTag, hkind]
  generalize c.close policy token.tag = result at hsettles ⊢
  cases hsettles with
  | innermost top outer hopen hname =>
      rw [h.opened_eq] at hopen
      obtain ⟨place, outer, hbook, rfl, rfl⟩ := List.map_eq_cons_iff.1 hopen
      exact ⟨_, h.closed hbook hname position⟩
  | takenBack finding rest hopen hpending hname =>
      rw [h.pending_eq] at hpending
      obtain ⟨entry, later, hbook, rfl, hrest⟩ := List.map_eq_cons_iff.1 hpending
      exact ⟨_, h.takenBack hbook hrest.symm hname position⟩
  | nothingOpen hopen hpending => exact ⟨_, h.missingStart hkind position⟩
  | found passed target outer hopen hne hpassed hname hpending =>
      rw [h.opened_eq] at hopen
      obtain ⟨passed, inside, hbook, rfl, hinside⟩ := List.map_eq_append_iff.1 hopen
      obtain ⟨place, outer, rfl, rfl, rfl⟩ := List.map_eq_cons_iff.1 hinside
      -- first the tags inside move on, then the target is the innermost one and is closed
      obtain ⟨book', hbook', hkeeps⟩ := h.passOver hbook
      have hclosed := hkeeps.closed hbook' hname position
      cases policy with
      | report => exact ⟨_, hclosed⟩
      | extras => exact ⟨_, hclosed⟩
  | notFound hne hopen hpending =>
      -- all open tags become orphans, and the closing tag comes after them
      have hall := h.abandoned (List.append_nil book.opened).symm
      rw [← h.opened_eq] at hall
      exact ⟨_, hall.orphaned htag position⟩

/-- **Step.** Every token is booked if it is a tag, and changes nothing in the book if it is not. -/
theorem feed (h : Keeps policy places book c) (token : Token) (position : Nat) :
    ∃ book', Keeps policy (places ++ [(token, position)].filter (·.1.isTag)) book' (c.feed policy token).1 := by
  obtain ⟨kind, name, line⟩ := token
  cases kind with
  | opening => exact ⟨_, h.opening rfl position⟩
  | closing => exact h.close rfl position
  | selfClosing => exact ⟨book, (List.append_nil places).symm ▸ h⟩
  | declaration => exact ⟨book, (List.append_nil places).symm ▸ h⟩
  | malformed =>
      -- the finding is made at once, and no place is taken for it
      refine ⟨book, (List.append_nil places).symm ▸ { h with malformed_kind := ?_ }⟩
      intro finding hfinding
      simp only [Checker.feed_malformed, Array.toList_push] at hfinding
      rcases List.mem_append.1 hfinding with hold | hnew
      · exact h.malformed_kind finding hold
      · obtain rfl := List.mem_singleton.1 hnew
        rfl

/-- **Run.** After any tokens the book holds the places of their tags. -/
theorem feedAll (h : Keeps policy places book c) (tokens : List Token) (position : Nat) :
    ∃ book', Keeps policy (places ++ (tokens.zipIdx position).filter (·.1.isTag)) book'
      (c.feedAll policy tokens) := by
  induction tokens generalizing places book c position with
  | nil => exact ⟨book, (List.append_nil places).symm ▸ h⟩
  | cons token tokens ih =>
      obtain ⟨book', hstep⟩ := h.feed token position
      obtain ⟨book'', hrun⟩ := ih hstep (position + 1)
      rw [List.append_assoc, ← List.filter_append] at hrun
      exact ⟨book'', hrun⟩

end Keeps

end TagNesting
