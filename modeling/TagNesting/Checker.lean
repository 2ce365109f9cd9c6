import TagNesting.Checker.Event
import TagNesting.Collection.Queue
import TagNesting.Collection.Stack
import TagNesting.Scanner

/-!
# `TagNesting.Checker` — following the nesting of tags

A check takes the tokens of a document in order and keeps three things: the tags that are open, innermost
first; the findings that are *pending*, oldest first; and the *orphans*, tags that belong to nothing and may
yet account for a pending finding. Malformed occurrences become findings at once and touch none of these.

A closing tag is settled by the first of four rules that applies.

1. The innermost open tag has its name: that tag is closed.
2. The oldest pending finding is about its name: the finding is taken back. This is how a closing tag that
   comes late, after the one of an outer tag, makes good what looked like a defect.
3. No tag is open: its opening tag is missing.
4. Otherwise it is looked for among the open tags. If it is there, the tags inside it have been passed over:
   they become pending findings or orphans, as the skip policy says, and it is closed. If it is not there,
   all the open tags become orphans, innermost first, and so does the closing tag itself.

When the document is over, each tag still open is one more pending finding, innermost first. Then the two
queues are *reconciled*: as long as both hold something, an oldest finding and an oldest orphan of the same
name account for each other and both are dropped; if the names differ, the finding stands.

## Contents
- `Checker`, `Checker.close`, `Checker.feed`: the state and the rules.
- `feed_opening` and its companions, `close_of_closeInnermost?` and its companions: each rule as an equation.
- `reconcile`, `Checker.finish`: the end of a document.
- `findings`, `trace`, `findingsAfterEach`: whole runs; `snd_feedTraced`: a trace follows the run itself.
- `check`: scanning and checking a text.
-/

namespace TagNesting

/-- The state of a check. -/
structure Checker where
  /-- The tags that are open, innermost first. -/
  openTags : Stack Tag := .empty
  /-- The findings that may yet be taken back, oldest first. -/
  pending : Queue Finding := .empty
  /-- The tags that belong to nothing, oldest first. -/
  orphans : Queue Tag := .empty
  /-- The findings about malformed occurrences, oldest first. -/
  malformed : Array Finding := #[]
deriving DecidableEq, Repr

namespace Checker

/-! ## Tokens -/

/-- Rule 1: closes the innermost open tag, if it has this name. -/
def closeInnermost? (c : Checker) (name : String) : Option Checker :=
  match c.openTags.pop? with
  | some (innermost, outer) => if innermost.name = name then some { c with openTags := outer } else none
  | none => none

/-- Rule 2: takes the oldest pending finding back, if it is about this name. -/
def takeBack? (c : Checker) (name : String) : Option (Finding × Checker) :=
  match c.pending.dequeue? with
  | some (finding, pending) => if finding.detail = name then some (finding, { c with pending }) else none
  | none => none

/-- Rule 4: looks for the tag that `tag` closes among the open tags, and disposes of those that are passed
over, or of all and of `tag` itself if there is none. -/
def unwind (policy : SkipPolicy) (c : Checker) (tag : Tag) : Checker :=
  match c.openTags.searchBy (·.name = tag.name), policy with
  | some depth, .report =>
    { c with
      openTags := c.openTags.below depth
      pending := c.pending.enqueueAll ((c.openTags.above depth).map (.ofTag .mismatch)) }
  | some depth, .extras =>
    { c with
      openTags := c.openTags.below depth
      orphans := c.orphans.enqueueAll (c.openTags.above depth) }
  | none, _ =>
    { c with
      openTags := .empty
      orphans := (c.orphans.enqueueAll c.openTags.toList).enqueue tag }

/-- Settles a closing tag by the first of the four rules that applies. -/
def close (policy : SkipPolicy) (c : Checker) (tag : Tag) : Checker × Option Event :=
  match c.closeInnermost? tag.name with
  | some closed => (closed, none)
  | none =>
    match c.takeBack? tag.name with
    | some (finding, eased) => (eased, some (.cancelled tag finding))
    | none =>
      if c.openTags.isEmpty then
        ({ c with pending := c.pending.enqueue (.ofTag .missingStart tag) }, some (.nothingOpen tag))
      else
        (c.unwind policy tag, some (.searched tag (c.openTags.searchBy (·.name = tag.name))))

/-- Takes the next token. -/
def feed (policy : SkipPolicy) (c : Checker) (token : Token) : Checker × Option Event :=
  match token.kind with
  | .selfClosing | .declaration => (c, none)
  | .malformed =>
    ({ c with malformed := c.malformed.push (.ofTag .invalidFormat token.tag) },
      some (.malformed token.tag))
  | .opening => ({ c with openTags := c.openTags.push token.tag }, none)
  | .closing => c.close policy token.tag

/-! ## The rules as equations -/

@[simp] theorem feed_opening (policy : SkipPolicy) (c : Checker) (name : String) (line : Nat) :
    c.feed policy ⟨.opening, name, line⟩ =
      ({ c with openTags := c.openTags.push ⟨name, line⟩ }, none) := rfl

@[simp] theorem feed_closing (policy : SkipPolicy) (c : Checker) (name : String) (line : Nat) :
    c.feed policy ⟨.closing, name, line⟩ = c.close policy ⟨name, line⟩ := rfl

@[simp] theorem feed_malformed (policy : SkipPolicy) (c : Checker) (name : String) (line : Nat) :
    c.feed policy ⟨.malformed, name, line⟩ =
      ({ c with malformed := c.malformed.push ⟨.invalidFormat, line, name⟩ },
        some (.malformed ⟨name, line⟩)) := rfl

/-- A tag that has just been opened can be closed by its name, and that undoes the opening. -/
@[simp] theorem closeInnermost?_push (c : Checker) (name : String) (line : Nat) :
    closeInnermost? { c with openTags := c.openTags.push ⟨name, line⟩ } name = some c := by
  simp [closeInnermost?]

/-- Closing the tag that has just been opened leaves no trace of it. -/
@[simp] theorem close_push (policy : SkipPolicy) (c : Checker) (name : String) (opened closed : Nat) :
    close policy { c with openTags := c.openTags.push ⟨name, opened⟩ } ⟨name, closed⟩ = (c, none) := by
  simp [close]

theorem closeInnermost?_eq_none_iff {c : Checker} {name : String} :
    c.closeInnermost? name = none ↔ ∀ tag ∈ c.openTags.peek?, tag.name ≠ name := by
  unfold closeInnermost? Stack.pop? Stack.peek?
  cases c.openTags.toList <;> simp

theorem takeBack?_eq_none_iff {c : Checker} {name : String} :
    c.takeBack? name = none ↔ ∀ finding ∈ c.pending.peek?, finding.detail ≠ name := by
  unfold takeBack?
  cases h : c.pending.dequeue? with
  | none => simp [Queue.peek?_eq_head?, Queue.dequeue?_eq_none_iff.1 h]
  | some result => simp [Queue.peek?_eq_head?, Queue.toList_of_dequeue? h]

/-- Rule 1 comes before all others. -/
theorem close_of_closeInnermost? {policy : SkipPolicy} {c closed : Checker} {tag : Tag}
    (h : c.closeInnermost? tag.name = some closed) : c.close policy tag = (closed, none) := by
  simp [close, h]

/-- Rule 2 comes before the rules that look at what is open. -/
theorem close_of_takeBack? {policy : SkipPolicy} {c eased : Checker} {tag : Tag} {finding : Finding}
    (hclose : c.closeInnermost? tag.name = none) (h : c.takeBack? tag.name = some (finding, eased)) :
    c.close policy tag = (eased, some (.cancelled tag finding)) := by
  simp [close, hclose, h]

/-- Rule 3 comes before the search. -/
theorem close_of_isEmpty {policy : SkipPolicy} {c : Checker} {tag : Tag}
    (htake : c.takeBack? tag.name = none) (h : c.openTags.toList = []) :
    c.close policy tag =
      ({ c with pending := c.pending.enqueue (.ofTag .missingStart tag) }, some (.nothingOpen tag)) := by
  have hclose : c.closeInnermost? tag.name = none := by
    simp [closeInnermost?_eq_none_iff, Stack.peek?, h]
  simp [close, hclose, htake, Stack.isEmpty, h]

/-- Rule 4 takes what the others leave. -/
theorem close_of_unwind {policy : SkipPolicy} {c : Checker} {tag : Tag}
    (hclose : c.closeInnermost? tag.name = none) (htake : c.takeBack? tag.name = none)
    (h : c.openTags.toList ≠ []) :
    c.close policy tag =
      (c.unwind policy tag, some (.searched tag (c.openTags.searchBy (·.name = tag.name)))) := by
  simp [close, hclose, htake, Stack.isEmpty, h]

/-! ## The end of the document -/

/-- Sets orphans off against findings of the same name, oldest against oldest. Findings that meet no orphan
of their name stand; orphans that are left when the findings have run out are findings themselves. -/
def reconcile : List Finding → List Tag → List Finding
  | [], orphans => orphans.map (.ofTag .extra)
  | findings, [] => findings
  | finding :: findings, orphan :: orphans =>
    if finding.detail = orphan.name then reconcile findings orphans
    else finding :: reconcile findings (orphan :: orphans)

/-- The findings that wait to be reconciled once the document is over: those that were pending, and one for
each tag still open, innermost first. -/
def unresolved (c : Checker) : List Finding :=
  c.pending.toList ++ c.openTags.toList.map (.ofTag .missingEnd)

/-- All findings, once the document is over, and the note about reconciling them. -/
def finish (c : Checker) : List Finding × Event :=
  let unresolved := c.unresolved
  let orphans := c.orphans.toList
  (c.malformed.toList ++ reconcile unresolved orphans, .reconciling unresolved.length orphans.length)

/-! ## Whole runs -/

/-- Takes tokens one after the other. -/
def feedAll (policy : SkipPolicy) (c : Checker) (tokens : List Token) : Checker :=
  tokens.foldl (fun c token => (c.feed policy token).1) c

@[simp] theorem feedAll_nil (policy : SkipPolicy) (c : Checker) : c.feedAll policy [] = c := rfl

@[simp] theorem feedAll_cons (policy : SkipPolicy) (c : Checker) (token : Token) (tokens : List Token) :
    c.feedAll policy (token :: tokens) = (c.feed policy token).1.feedAll policy tokens := rfl

@[simp] theorem feedAll_append (policy : SkipPolicy) (c : Checker) (before after : List Token) :
    c.feedAll policy (before ++ after) = (c.feedAll policy before).feedAll policy after :=
  List.foldl_append

/-- The findings of a check with its steps explained. -/
structure Trace where
  /-- What each token gave rise to. -/
  steps : List (Option Event)
  /-- What the end of the document gave rise to. -/
  ending : Event
  findings : List Finding
deriving DecidableEq, Repr

/-- What each token gives rise to, and the state after the last. -/
def feedTraced (policy : SkipPolicy) (c : Checker) : List Token → List (Option Event) × Checker
  | [] => ([], c)
  | token :: tokens =>
    let (c', event) := c.feed policy token
    let (events, last) := c'.feedTraced policy tokens
    (event :: events, last)

@[simp] theorem feedTraced_nil (policy : SkipPolicy) (c : Checker) :
    c.feedTraced policy [] = ([], c) := rfl

@[simp] theorem feedTraced_cons (policy : SkipPolicy) (c : Checker) (token : Token) (tokens : List Token) :
    c.feedTraced policy (token :: tokens) =
      ((c.feed policy token).2 :: ((c.feed policy token).1.feedTraced policy tokens).1,
        ((c.feed policy token).1.feedTraced policy tokens).2) := rfl

/-- Explaining the steps of a run does not change where it leads. -/
theorem snd_feedTraced (policy : SkipPolicy) (c : Checker) (tokens : List Token) :
    (c.feedTraced policy tokens).2 = c.feedAll policy tokens := by
  induction tokens generalizing c with
  | nil => rfl
  | cons token tokens ih => rw [feedTraced_cons, feedAll_cons, ih]

theorem fst_feedTraced_append (policy : SkipPolicy) (c : Checker) (before after : List Token) :
    (c.feedTraced policy (before ++ after)).1 =
      (c.feedTraced policy before).1 ++ ((c.feedAll policy before).feedTraced policy after).1 := by
  induction before generalizing c with
  | nil => rfl
  | cons token before ih => rw [List.cons_append, feedTraced_cons, ih]; rfl

/-- The findings if the document ended after the first token, after the second, and so on. -/
def findingsAfterEach (policy : SkipPolicy) (c : Checker) : List Token → List (List Finding)
  | [] => []
  | token :: tokens =>
    let c' := (c.feed policy token).1
    c'.finish.1 :: c'.findingsAfterEach policy tokens

end Checker

/-- The findings about a document with the given tokens. -/
def findings (policy : SkipPolicy) (tokens : List Token) : List Finding :=
  (Checker.feedAll policy {} tokens).finish.1

/-- The findings about a document with the given tokens, with every step explained. -/
def trace (policy : SkipPolicy) (tokens : List Token) : Checker.Trace :=
  let (steps, last) := Checker.feedTraced policy {} tokens
  let (findings, ending) := last.finish
  { steps, ending, findings }

/-- The findings about a document. -/
def check (settings : Settings) (text : List Char) : List Finding :=
  findings settings.policy (scan settings.mode text)

end TagNesting
