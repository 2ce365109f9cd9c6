import TagNesting.Checker
import TagNesting.CommandLine.Arguments
import TagNesting.CommandLine.Directory
import TagNesting.Finding.Json

/-!
# `TagNesting.CommandLine.Run` — what a command line does

A run is a function of the arguments and of what stands at the paths they name. It ends in an exit code, what
is printed, and at most one complaint.

* A command line that makes no request: code 2.
* No document at its path: code 2, before anything else is looked at.
* Settings that cannot be loaded, or a document that cannot be read: code 1, and nothing is printed.
* `check`: code 1 if there are findings, 0 if there are none. As text, the banner and the summary are
  printed, one line each; as JSON, the list of findings.
* `tokens`: code 0, and the list of tokens is printed as JSON.

A document is read piece by piece, each up to and including a line feed. The bytes of a piece are decoded by
themselves, with U+FFFD for whatever is not UTF-8.

## Contents
- `Complaint`, `Outcome`.
- `pieces`, `documentTokens`: the tokens of a document's bytes.
- `run`: the outcome of a command line.
-/

namespace TagNesting.CommandLine

/-- Why a run does not do what it was asked for. -/
inductive Complaint where
  /-- The command line makes no request. -/
  | usage
  /-- There is no document at this path. -/
  | noDocument (path : String)
  /-- The settings at this path cannot be loaded. -/
  | noSettings (path : String)
  /-- The document at this path cannot be read. -/
  | unreadable (path : String)
deriving DecidableEq, Repr

/-- A complaint in words. -/
def Complaint.message : Complaint → String
  | .usage => "Usage: [-v] check [OPTIONS] FILE, or: [-v] tokens [OPTIONS] FILE"
  | .noDocument path => "File does not exist: " ++ path
  | .noSettings path => "Error: Failed to load config " ++ path
  | .unreadable path => "Error: Error reading file: " ++ path

/-- The exit code that goes with a complaint. -/
def Complaint.code : Complaint → Nat
  | .usage | .noDocument _ => 2
  | .noSettings _ | .unreadable _ => 1

/-- How a run ends. -/
structure Outcome where
  code : Nat
  /-- What is printed. -/
  output : String := ""
  complaint : Option Complaint := none
deriving DecidableEq, Repr

/-- The outcome of a run that ends in a complaint. -/
def Complaint.outcome (complaint : Complaint) : Outcome :=
  { code := complaint.code, complaint := some complaint }

/-! ## Reading a document -/

/-- One byte put in front of pieces. -/
def consByte (byte : UInt8) (pieces : List (List UInt8)) : List (List UInt8) :=
  if byte = 0x0A then [byte] :: pieces
  else
    match pieces with
    | [] => [[byte]]
    | piece :: pieces => (byte :: piece) :: pieces

/-- The bytes of a document in pieces that end with a line feed each, the last one perhaps excepted. -/
def pieces (bytes : List UInt8) : List (List UInt8) :=
  bytes.foldr consByte []

/-- The tokens of the bytes of a document. -/
def documentTokens (mode : ScanMode) (bytes : List UInt8) : List Token :=
  Scanner.scanPieces mode ((pieces bytes).map Text.Utf8.decodeLossy)

/-- The bytes of the document at a path. -/
def document (lookup : Lookup) (path : String) : Except Complaint (List UInt8) :=
  match lookup path with
  | .nothing => .error (.noDocument path)
  | .unreadable => .error (.unreadable path)
  | .file bytes => .ok bytes

/-! ## Settings -/

/-- The settings at a path. -/
def settingsAt (lookup : Lookup) (path : String) : Except Complaint Settings :=
  match lookup path with
  | .nothing | .unreadable => .error (.noSettings path)
  | .file bytes => (Settings.load (some bytes)).mapError fun _ => .noSettings path

/-- The settings of a check: those of the file, if one is given, with what is given besides. -/
def resolveSettings (lookup : Lookup) (config : Option String) (policy : Option SkipPolicy)
    (mode : Option ScanMode) : Except Complaint Settings := do
  let base ← match config with
    | some path => settingsAt lookup path
    | none => pure {}
  return { policy := policy.getD base.policy, mode := mode.getD base.mode }

/-! ## Running -/

/-- Findings as they are printed. -/
def printFindings (format : Format) (findings : List Finding) : String :=
  match format with
  | .text => String.join ((banner :: summary findings).map (· ++ "\n"))
  | .json => (Json.Value.list (findings.map Finding.toValue)).indented ++ "\n"

/-- Tokens as they are printed. -/
def printTokens (tokens : List Token) : String :=
  (Json.Value.list (tokens.map Token.toValue)).indented ++ "\n"

/-- Whether there is nothing at a path. -/
def isMissing (lookup : Lookup) (path : String) : Bool :=
  lookup path = .nothing

/-- Carries out a request. -/
def Request.run (lookup : Lookup) : Request → Except Complaint Outcome
  | .check path format config policy mode => do
    if isMissing lookup path then .error (.noDocument path)
    let settings ← resolveSettings lookup config policy mode
    let bytes ← document lookup path
    let found := findings settings.policy (documentTokens settings.mode bytes)
    return { code := if found.isEmpty then 0 else 1, output := printFindings format found }
  | .tokens path mode => do
    let bytes ← document lookup path
    return { code := 0, output := printTokens (documentTokens (mode.getD .tags) bytes) }

/-- The paths that a request looks at. -/
def Request.paths : Request → List String
  | .check path _ config _ _ => path :: config.toList
  | .tokens path _ => [path]

/-- The outcome of a command line. -/
def run (lookup : Lookup) (arguments : List String) : Outcome :=
  match parse? arguments with
  | none => Complaint.usage.outcome
  | some request =>
    match request.run lookup with
    | .ok outcome => outcome
    | .error complaint => complaint.outcome

end TagNesting.CommandLine
