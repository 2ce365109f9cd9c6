import TagNesting.Collection.Queue
import TagNesting.Collection.Stack

/-!
# `TagNesting.Collection.Session` — containers by request and reply

A container in use sees one request after the other and answers each. Written out as data, the requests of
a stack or a queue make its histories lists, and what it has done a list of replies.

A queue may be *drained*: all its elements leave, in order. A drain that is given up after some elements
still empties the queue; the elements not handed out are lost.

## Contents
- `Reply`: the answers both containers give.
- `Stack.Request`, `Stack.answer`; `Queue.Request`, `Queue.answer`.
- `Stack.answers`, `Queue.answers`: a whole session, with the elements after each request.
-/

namespace TagNesting

/-- A container's answer to a request. -/
inductive Reply (α : Type) where
  /-- The request has been carried out, and there is nothing to say. -/
  | done
  /-- The element asked for. -/
  | item (x : α)
  /-- There is no element to take or to look at. -/
  | nothingThere
  | count (n : Nat)
  | truth (b : Bool)
  /-- The place of an element, if it has one. -/
  | place (n : Option Nat)
  /-- The elements that have left. -/
  | items (xs : List α)
deriving DecidableEq, Repr

/-- What a person is told when there is no element to take or to look at. -/
def nothingThereMessage : String := "container is empty"

namespace Reply

variable {α : Type}

/-- The answer to a request for one element. -/
def ofItem? : Option α → Reply α
  | some x => .item x
  | none => .nothingThere

end Reply

variable {α : Type} [DecidableEq α]

/-! ## Stacks -/

/-- What can be asked of a stack. -/
inductive Stack.Request (α : Type) where
  | push (x : α)
  | pop
  | peek
  | size
  | isEmpty
  /-- Remove all elements. -/
  | clear
  /-- Put a new stack in place of this one. -/
  | renew
  | contains (x : α)
  | search (x : α)
  | searchBy (p : α → Bool)

/-- Carries out a request. -/
def Stack.answer (s : Stack α) : Stack.Request α → Stack α × Reply α
  | .push x => (s.push x, .done)
  | .pop =>
    match s.pop? with
    | some (x, rest) => (rest, .item x)
    | none => (s, .nothingThere)
  | .peek => (s, .ofItem? s.peek?)
  | .size => (s, .count s.size)
  | .isEmpty => (s, .truth s.isEmpty)
  | .clear => (.empty, .done)
  | .renew => (.empty, .done)
  | .contains x => (s, .truth (s.contains x))
  | .search x => (s, .place (s.search x))
  | .searchBy p => (s, .place (s.searchBy p))

/-- The replies to a list of requests, each with the stack it leaves. -/
def Stack.answers (s : Stack α) : List (Stack.Request α) → List (Stack α × Reply α)
  | [] => []
  | request :: requests =>
    let step := s.answer request
    step :: step.1.answers requests

/-! ## Queues -/

/-- What can be asked of a queue. -/
inductive Queue.Request (α : Type) where
  | enqueue (x : α)
  | dequeue
  | peek
  | size
  | isEmpty
  /-- Remove all elements. -/
  | clear
  /-- Put a new queue in place of this one. -/
  | renew
  | contains (x : α)
  | search (x : α)
  /-- Let all elements leave. -/
  | drain
  /-- Begin to let all elements leave, and give up after at most `n`. -/
  | drainAtMost (n : Nat)
deriving DecidableEq, Repr

/-- Carries out a request. -/
def Queue.answer (q : Queue α) : Queue.Request α → Queue α × Reply α
  | .enqueue x => (q.enqueue x, .done)
  | .dequeue =>
    match q.dequeue? with
    | some (x, rest) => (rest, .item x)
    | none => (q, .nothingThere)
  | .peek => (q, .ofItem? q.peek?)
  | .size => (q, .count q.size)
  | .isEmpty => (q, .truth q.isEmpty)
  | .clear => (.empty, .done)
  | .renew => (.empty, .done)
  | .contains x => (q, .truth (q.contains x))
  | .search x => (q, .place (q.search x))
  | .drain => (.empty, .items q.toList)
  | .drainAtMost n => (.empty, .items (q.toList.take n))

/-- The replies to a list of requests, each with the queue it leaves. -/
def Queue.answers (q : Queue α) : List (Queue.Request α) → List (Queue α × Reply α)
  | [] => []
  | request :: requests =>
    let step := q.answer request
    step :: step.1.answers requests

end TagNesting
