import TagNesting.Json.Decode
import TagNesting.Json.Value
import TagNesting.Settings
import TagNesting.Text.Utf8

/-!
# `TagNesting.Settings.Json` — settings as JSON

Settings are an object with the fields `mismatch_policy` and `scan_mode`. Either may be left out and then
keeps its default; as a list, the fields may be left out from the end.

## Contents
- `SkipPolicy.word`, `ScanMode.word`, and `ofReading` for each: the two choices as words.
- `Settings.toValue`, `Settings.ofReading`: settings as objects.
- `Settings.load`: settings from the bytes of a file.
-/

namespace TagNesting

open Json

/-- The word of a skip policy. -/
def SkipPolicy.word : SkipPolicy → String
  | .report => "report"
  | .extras => "extras"

/-- All skip policies, in the order in which their words are listed. -/
def SkipPolicy.all : List SkipPolicy :=
  [.report, .extras]

/-- A skip policy from its word. -/
def SkipPolicy.ofReading : Decoder SkipPolicy :=
  decodeWord all word

/-- The word of a scan mode. -/
def ScanMode.word : ScanMode → String
  | .tags => "tags"
  | .lines => "lines"

/-- All scan modes, in the order in which their words are listed. -/
def ScanMode.all : List ScanMode :=
  [.tags, .lines]

/-- A scan mode from its word. -/
def ScanMode.ofReading : Decoder ScanMode :=
  decodeWord all word

namespace Settings

/-- The fields of settings that are known. -/
structure Draft where
  policy : Option SkipPolicy := none
  mode : Option ScanMode := none
deriving DecidableEq, Repr

/-- The settings with defaults for the fields that are not known. -/
def ofDraft (draft : Draft) : Settings :=
  let standard : Settings := {}
  { policy := draft.policy.getD standard.policy, mode := draft.mode.getD standard.mode }

/-- Settings as records. -/
def record : Record Draft Settings where
  fields :=
    [⟨"mismatch_policy", SkipPolicy, SkipPolicy.ofReading, Draft.policy,
        fun draft policy => { draft with policy := some policy }⟩,
     ⟨"scan_mode", ScanMode, ScanMode.ofReading, Draft.mode,
        fun draft mode => { draft with mode := some mode }⟩]
  blank := {}
  finish draft := .ok (ofDraft draft)
  finishShort _ draft := .ok (ofDraft draft)

/-- Settings from their fields. -/
def ofReading : Decoder Settings :=
  decodeRecord record

/-- Settings as an object. -/
def toValue (settings : Settings) : Value :=
  .object [("mismatch_policy", .text settings.policy.word), ("scan_mode", .text settings.mode.word)]

/-- Why settings cannot be loaded from a file. -/
inductive LoadProblem where
  /-- There is no file. -/
  | missing
  /-- The bytes of the file are not well-formed UTF-8. -/
  | notText
  /-- The text of the file does not hold settings. -/
  | notSettings (problem : Problem)
deriving DecidableEq, Repr

/-- Settings from the bytes of a file, if there is one. The bytes must be well formed throughout before
anything of the text is looked at. -/
def load : Option (List UInt8) → Except LoadProblem Settings
  | none => .error .missing
  | some bytes =>
    match Text.Utf8.decodeStrict? bytes with
    | none => .error .notText
    | some text => (decode ofReading text).mapError .notSettings

/-- Settings as the text of a file. -/
def save (settings : Settings) : String :=
  settings.toValue.indented

end Settings

end TagNesting
