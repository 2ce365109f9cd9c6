import TagNesting.Json.Lexeme

/-!
# `TagNesting.Json.Reading` — as much of a value as a text holds

Reading puts the lexemes of a text together to one value. It never fails: where the text stops being JSON,
the reading stops, and every list and object that is still open at that place is kept as far as it has come,
together with the fault that cut it off. Whoever wants something of the value then meets what is in it in the
order of the text, and the fault last, which is what makes the first thing wrong with a text decide.

Nothing that has been looked at is lost. After a comma something always follows, if only the fault. A key must
be a quoted text; if something else stands in its place, there is a member with a broken key, and a key that is
not followed by a colon has a broken value.

The lexemes are taken one at a time. What is open around the place reached is kept as a list of frames,
innermost first, so that any depth of nesting is read without growing anything but that list.

## Contents
- `Key`, `Reading`: the tree.
- `Frame`, `Place`, `step`, `atEnd`, `readFrom`: reading lexeme by lexeme.
- `Document`, `read`: a whole text.
-/

namespace TagNesting.Json

/-- What stands in the place of a key. -/
inductive Key where
  | text (q : QuotedText)
  /-- No key: the text stops being JSON where one was to stand. -/
  | broken (fault : Fault)
deriving DecidableEq, Repr

/-- A value of a text, as far as the text is JSON. Lists and objects that are not closed hold the fault that
cut them off; the last thing in them may then be unfinished as well. -/
inductive Reading where
  | null
  | bool (b : Bool)
  | number (n : Numeral)
  | text (q : QuotedText)
  | list (items : List Reading) (cut : Option Fault)
  /-- The members of an object in the order of the text. -/
  | object (members : List (Key × Reading)) (cut : Option Fault)
  /-- No value: the text stops being JSON where one was to stand. -/
  | broken (fault : Fault)

/-- The members of an object, in the order of the text. -/
abbrev Members := List (Key × Reading)

/-- A list or an object around the place that has been reached. -/
inductive Frame where
  /-- A list, with its items so far, the last one first. -/
  | list (items : List Reading)
  /-- An object, with its members so far, the last one first, and the key whose value is being read. -/
  | member (members : Members) (key : Key)

/-- What becomes of a frame when reading stops inside it, at an item or at the value of a member. -/
def Frame.cutOff (fault : Fault) (last : Reading) : Frame → Reading
  | .list items => .list (last :: items).reverse (some fault)
  | .member members key => .object ((key, last) :: members).reverse (some fault)

/-- What becomes of a value and all the frames around it when reading stops. -/
def cutOff (fault : Fault) (last : Reading) (frames : List Frame) : Reading :=
  frames.foldl (fun inner frame => frame.cutOff fault inner) last

/-- What is to come next. -/
inductive Place where
  /-- A value. -/
  | value
  /-- The first item of a list, or its end. -/
  | firstItem
  /-- A key of an object with the given members so far, the last one first; the end of the object may come
  instead if it has just been opened. -/
  | key (members : Members) (opened : Bool)
  /-- The colon between this key and its value. -/
  | colon (members : Members) (key : QuotedText)
  /-- Whatever may follow this finished value. -/
  | after (value : Reading)

/-- A value read from a text. -/
structure Document where
  value : Reading
  /-- Whether something follows the value. -/
  trailing : Bool

/-- The document that is left when reading stops. -/
def stop (fault : Fault) (last : Reading) (frames : List Frame) : Document :=
  ⟨cutOff fault last frames, false⟩

/-- The document that is left when reading stops at a key or right behind one. -/
def stopAtKey (fault : Fault) (members : Members) (key : Key) (frames : List Frame) : Document :=
  stop fault (.broken fault) (.member members key :: frames)

/-- What one lexeme leads to. -/
inductive Step where
  /-- Reading goes on at this place. -/
  | goOn (place : Place) (frames : List Frame)
  /-- Reading is over. -/
  | stopped (document : Document)

/-- Takes the lexeme that stands where a value is to stand. -/
def stepValue (frames : List Frame) : Lexeme → Step
  | .null => .goOn (.after .null) frames
  | .bool b => .goOn (.after (.bool b)) frames
  | .number n => .goOn (.after (.number n)) frames
  | .text q =>
    match q.cut with
    | none => .goOn (.after (.text q)) frames
    | some fault => .stopped (stop fault (.text q) frames)
  | .openBracket => .goOn .firstItem frames
  | .openBrace => .goOn (.key [] true) frames
  | .broken fault => .stopped (stop fault (.broken fault) frames)
  | .closeBrace | .closeBracket | .colon | .comma =>
    .stopped (stop .malformed (.broken .malformed) frames)

/-- Takes the lexeme that stands where a key is to stand, or the end of an object just opened. -/
def stepKey (members : Members) (opened : Bool) (frames : List Frame) (lexeme : Lexeme) : Step :=
  match lexeme with
  | .text q =>
    match q.cut with
    | none => .goOn (.colon members q) frames
    | some fault => .stopped (stopAtKey fault members (.text q) frames)
  | .closeBrace =>
    if opened then .goOn (.after (.object [] none)) frames
    else .stopped (stopAtKey .malformed members (.broken .malformed) frames)
  | _ => .stopped (stopAtKey .malformed members (.broken .malformed) frames)

/-- Takes the lexeme that follows a finished value. -/
def stepAfter (value : Reading) (frames : List Frame) (lexeme : Lexeme) : Step :=
  match frames, lexeme with
  | [], _ => .stopped ⟨value, true⟩
  | .list items :: outer, .comma => .goOn .value (.list (value :: items) :: outer)
  | .list items :: outer, .closeBracket => .goOn (.after (.list (value :: items).reverse none)) outer
  | .member members key :: outer, .comma => .goOn (.key ((key, value) :: members) false) outer
  | .member members key :: outer, .closeBrace =>
    .goOn (.after (.object ((key, value) :: members).reverse none)) outer
  | frames, _ => .stopped (stop .malformed value frames)

/-- Takes one lexeme. -/
def step (place : Place) (frames : List Frame) (lexeme : Lexeme) : Step :=
  match place with
  | .value => stepValue frames lexeme
  | .firstItem =>
    match lexeme with
    | .closeBracket => .goOn (.after (.list [] none)) frames
    | other => stepValue (.list [] :: frames) other
  | .key members opened => stepKey members opened frames lexeme
  | .colon members key =>
    match lexeme with
    | .colon => .goOn .value (.member members (.text key) :: frames)
    | _ => .stopped (stopAtKey .malformed members (.text key) frames)
  | .after value => stepAfter value frames lexeme

/-- What is left when the lexemes are over. -/
def atEnd (place : Place) (frames : List Frame) : Document :=
  match place with
  | .value => stop .ended (.broken .ended) frames
  | .firstItem => stop .ended (.broken .ended) (.list [] :: frames)
  | .key members _ => stopAtKey .ended members (.broken .ended) frames
  | .colon members key => stopAtKey .ended members (.text key) frames
  | .after value => stop .ended value frames

/-- Reads on from a place within frames. -/
def readFrom (place : Place) (frames : List Frame) : List Lexeme → Document
  | [] => atEnd place frames
  | lexeme :: rest =>
    match step place frames lexeme with
    | .goOn place frames => readFrom place frames rest
    | .stopped document => document

/-- Reads a text. -/
def read (text : List Char) : Document :=
  readFrom .value [] (lexemes text)

end TagNesting.Json
