import TagNesting.Json.Reading

/-!
# `TagNesting.Json.Decode` — getting typed values out of a reading

A decoder asks something of a reading and reports the first thing that is wrong, in the order of the text.

* A **text**, a **natural number** below a bound, and a **list** are asked for directly. If something else
  stands there, a literal, a number or a quoted text is looked at to its end first, so that a fault in it is
  reported as such; a list or an object is turned down at its bracket.
* A **choice** among words is a quoted word, or an object whose only member has the word as its key and
  `null` as its value. The word is judged before what follows it is looked at. Nothing else is looked at
  beyond its first character.
* A **record** is an object, or the list of its fields in order. In an object, members with other keys are
  passed over, and a field that is named twice is a problem as soon as its name is read. What becomes of a
  record with fields missing is for each record to say.

## Contents
- `Decoder`, `Reading.mismatch`, `Reading.skip`, `Key.word`: what all decoders share.
- `decodeText`, `decodeNatural`, `decodeList`, `decodeChoice`, `decodeWord`: the simple ones.
- `Field`, `Record`, `decodeRecord`: records.
- `Record.triple`: the records of three fields that must all be there.
- `decode`: a whole text.
-/

namespace TagNesting.Json

/-- A way to get a typed value out of a reading. -/
abbrev Decoder (α : Type) := Reading → Except Problem α

/-! ## What all decoders share -/

/-- The problem with a reading where something of another kind is wanted. -/
def Reading.mismatch : Reading → Problem
  | .number n => if n.overflows then .malformed else .unsuitable
  | .text q =>
    match q.value with
    | .ok _ => .unsuitable
    | .error problem => problem
  | .broken fault => fault.whenUsed
  | .null | .bool _ | .list _ _ | .object _ _ => .unsuitable

/-- Passes over a value that nobody wants: it need only be JSON. -/
def Reading.skip : Reading → Except Problem Unit
  | .null | .bool _ | .number _ => .ok ()
  | .text { cut, .. } | .list _ cut | .object _ cut =>
    match cut with
    | none => .ok ()
    | some fault => .error fault.whenSkipped
  | .broken fault => .error fault.whenSkipped

/-- The word that a key says. -/
def Key.word : Key → Except Problem String
  | .text q => q.value
  | .broken fault => .error fault.whenUsed

/-- Passes the end of a list or an object all of whose contents have been looked at. -/
def closing : Option Fault → Except Problem Unit
  | none => .ok ()
  | some fault => .error fault.whenUsed

/-! ## Simple decoders -/

/-- A text. -/
def decodeText : Decoder String
  | .text q => q.value
  | other => .error other.mismatch

/-- A natural number below a bound, written without sign, point and exponent. -/
def decodeNatural (bound : Nat) : Decoder Nat
  | .number n =>
    match n.natural? with
    | some value => if value < bound then .ok value else .error (Reading.number n).mismatch
    | none => .error (Reading.number n).mismatch
  | other => .error other.mismatch

/-- A list of values, each of which is decoded in the same way. -/
def decodeList {α : Type} (item : Decoder α) : Decoder (List α)
  | .list items cut => do
    let values ← items.mapM item
    closing cut
    return values
  | other => .error other.mismatch

/-- The value that a word stands for among the given words. -/
def chosen {α : Type} (choices : List (String × α)) (word : String) : Except Problem α :=
  match choices.lookup word with
  | some value => .ok value
  | none => .error (.unknownVariant word (choices.map Prod.fst))

/-- Nothing but `null`. -/
def decodeNull : Decoder Unit
  | .null => .ok ()
  | other => .error other.mismatch

/-- A choice among words. -/
def decodeChoice {α : Type} (choices : List (String × α)) : Decoder α
  | .text q => do
    chosen choices (← q.value)
  | .object ((key, content) :: more) cut => do
    let value ← chosen choices (← key.word)
    decodeNull content
    if more.isEmpty then closing cut else .error .malformed
    return value
  | .broken fault => .error fault.whenWord
  | _ => .error .malformed

/-- A choice among all the values of an enumeration, each by its word. -/
def decodeWord {α : Type} (all : List α) (word : α → String) : Decoder α :=
  decodeChoice (all.map fun value => (word value, value))

/-! ## Records -/

/-- A field of a record: its name, how its value is decoded, and where the value goes in a record of which
only some fields are known yet. -/
structure Field (σ : Type) where
  name : String
  Value : Type
  decode : Decoder Value
  get : σ → Option Value
  set : σ → Value → σ

/-- A kind of record: its fields in order, and how it is finished. -/
structure Record (σ α : Type) where
  fields : List (Field σ)
  /-- The record of which no field is known. -/
  blank : σ
  /-- What an object with these fields stands for. -/
  finish : σ → Except Problem α
  /-- What a list that ends after so few fields stands for. -/
  finishShort : Nat → σ → Except Problem α

/-- The fields that the members of an object give, on top of those already known. -/
def decodeMembers {σ : Type} (fields : List (Field σ)) (known : σ) : Members → Except Problem σ
  | [] => .ok known
  | (key, value) :: rest => do
    let name ← key.word
    match fields.find? (·.name = name) with
    | none =>
      value.skip
      decodeMembers fields known rest
    | some field =>
      if (field.get known).isSome then .error (.duplicateField name)
      else
        let content ← field.decode value
        decodeMembers fields (field.set known content) rest

/-- The fields that the items of a list give in order, on top of those already known. -/
def decodeItems {σ : Type} (known : σ) : List (Field σ) → List Reading → Except Problem σ
  | _, [] => .ok known
  | [], _ :: _ => .error .malformed
  | field :: fields, item :: items => do
    let content ← field.decode item
    decodeItems (field.set known content) fields items

/-- A record, as an object or as the list of its fields. -/
def decodeRecord {σ α : Type} (record : Record σ α) : Decoder α
  | .object members cut => do
    let known ← decodeMembers record.fields record.blank members
    closing cut
    record.finish known
  | .list items cut => do
    let known ← decodeItems record.blank record.fields items
    closing cut
    if items.length < record.fields.length then record.finishShort items.length known
    else record.finish known
  | other => .error other.mismatch

/-- The value of a field that must be there. -/
def required {α : Type} (name : String) : Option α → Except Problem α
  | some value => .ok value
  | none => .error (.missingField name)

/-- A field that a record must have, by its name and by how its value is decoded. -/
structure Slot (β : Type) where
  name : String
  decode : Decoder β

/-- What is known of three fields. -/
structure Triple (β γ δ : Type) where
  first : Option β := none
  second : Option γ := none
  third : Option δ := none

/-- A record of three fields, all of which it must have. A list that is too short for it is reported under its
title. -/
def Record.triple {α β γ δ : Type} (title : String) (first : Slot β) (second : Slot γ) (third : Slot δ)
    (make : β → γ → δ → α) : Record (Triple β γ δ) α where
  fields :=
    [⟨first.name, β, first.decode, Triple.first, fun known content => { known with first := some content }⟩,
     ⟨second.name, γ, second.decode, Triple.second, fun known content => { known with second := some content }⟩,
     ⟨third.name, δ, third.decode, Triple.third, fun known content => { known with third := some content }⟩]
  blank := {}
  finish known := do
    let one ← required first.name known.first
    let two ← required second.name known.second
    let three ← required third.name known.third
    return make one two three
  finishShort found _ := .error (.tooShort found title 3)

/-! ## Whole texts -/

/-- Decodes a text, in which nothing may follow the value. -/
def decode {α : Type} (decoder : Decoder α) (text : List Char) : Except Problem α := do
  let document := read text
  let value ← decoder document.value
  if document.trailing then .error .malformed else return value

end TagNesting.Json
