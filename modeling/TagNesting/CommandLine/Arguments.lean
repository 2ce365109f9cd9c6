import TagNesting.Settings.Json

/-!
# `TagNesting.CommandLine.Arguments` — what a command line asks for

A command line names a command and a file. Options stand anywhere after the command, before or after the
file:

| command | options |
|---|---|
| `check FILE` | `--format text` or `json`, `--config FILE`, `--policy report` or `extras`, `--mode tags` or `lines` |
| `tokens FILE` | `--mode tags` or `lines` |

An option's value is the next argument, or follows an `=` in the same one. No option may be given twice.
`-v` or `--verbose` may stand once before the command and once after it. `--` ends the options: everything
after it is a file. An argument that begins with `-` is otherwise an option, unless it is `-` alone. Files
and values must not be empty.

## Contents
- `Request`: what a command line can ask for.
- `Gathered`, `gather`: the arguments after the command, sorted into options and files.
- `parse?`: the request of a command line, if it is one.
-/

namespace TagNesting.CommandLine

/-- How findings are printed. -/
inductive Format where
  | text
  | json
deriving DecidableEq, Repr

/-- The word of a format. -/
def Format.word : Format → String
  | .text => "text"
  | .json => "json"

/-- All formats. -/
def Format.all : List Format :=
  [.text, .json]

/-- What a command line asks for. -/
inductive Request where
  /-- Check a document. The settings come from the file `config`, if one is given; the policy and the mode
  given override them. -/
  | check (path : String) (format : Format) (config : Option String)
      (policy : Option SkipPolicy) (mode : Option ScanMode)
  /-- List the tokens of a document. -/
  | tokens (path : String) (mode : Option ScanMode)
deriving DecidableEq, Repr

/-! ## Options and files -/

/-- The arguments after a command, sorted. -/
structure Gathered where
  verbose : Bool := false
  /-- The options with their values. -/
  options : List (String × String) := []
  /-- The other arguments, the last one first. -/
  files : List String := []
deriving DecidableEq, Repr

/-- Whether an argument asks for more output. -/
def isVerbose (argument : String) : Bool :=
  argument = "-v" || argument = "--verbose"

/-- Whether an argument can only be an option. -/
def looksLikeOption (argument : String) : Bool :=
  argument.toList.head? = some '-' && argument ≠ "-"

/-- The name of a long option, and its value if that stands in the same argument. -/
def longOption? (argument : String) : Option (String × Option String) :=
  match argument.toList with
  | '-' :: '-' :: option =>
    let name := String.ofList (option.takeWhile (· != '='))
    match option.dropWhile (· != '=') with
    | [] => some (name, none)
    | _ :: value => some (name, some (String.ofList value))
  | _ => none

/-- Adds an option with its value, if it is a known one that has not been given yet. -/
def Gathered.addOption? (known : List String) (g : Gathered) (name value : String) : Option Gathered :=
  if name ∈ known ∧ (g.options.lookup name).isNone ∧ value ≠ "" then
    some { g with options := (name, value) :: g.options }
  else none

/-- Sorts the arguments after a command of which these options are known. -/
def gather (known : List String) (g : Gathered) : List String → Option Gathered
  | [] => some g
  | argument :: rest =>
    if argument = "--" then some { g with files := rest.reverse ++ g.files }
    else if isVerbose argument then
      if g.verbose then none else gather known { g with verbose := true } rest
    else if looksLikeOption argument then
      match longOption? argument, rest with
      | some (name, some value), rest => (g.addOption? known name value).bind (gather known · rest)
      | some (name, none), value :: rest =>
        if looksLikeOption value then none
        else (g.addOption? known name value).bind (gather known · rest)
      | _, _ => none
    else gather known { g with files := argument :: g.files } rest

/-- The only file among the arguments. -/
def Gathered.path? (g : Gathered) : Option String :=
  match g.files with
  | [path] => if path = "" then none else some path
  | _ => none

/-- The value of an option that is a word for one of `all`, if the option is given; nothing if its word is
for none of them. -/
def Gathered.word? {α : Type} (g : Gathered) (name : String) (all : List α) (word : α → String) :
    Option (Option α) :=
  match g.options.lookup name with
  | none => some none
  | some value => (all.find? (word · = value)).map some

/-! ## Commands -/

/-- The request that the arguments after `check` make. -/
def checkRequest? (arguments : List String) : Option Request := do
  let g ← gather ["format", "config", "policy", "mode"] {} arguments
  let path ← g.path?
  let format ← g.word? "format" Format.all Format.word
  let policy ← g.word? "policy" SkipPolicy.all SkipPolicy.word
  let mode ← g.word? "mode" ScanMode.all ScanMode.word
  return .check path (format.getD .text) (g.options.lookup "config") policy mode

/-- The request that the arguments after `tokens` make. -/
def tokensRequest? (arguments : List String) : Option Request := do
  let g ← gather ["mode"] {} arguments
  let path ← g.path?
  let mode ← g.word? "mode" ScanMode.all ScanMode.word
  return .tokens path mode

/-- The request that a command and the arguments after it make. -/
def command? : List String → Option Request
  | "check" :: arguments => checkRequest? arguments
  | "tokens" :: arguments => tokensRequest? arguments
  | _ => none

/-- The request that a command line makes. -/
def parse? : List String → Option Request
  | [] => none
  | argument :: arguments =>
    if isVerbose argument then command? arguments else command? (argument :: arguments)

end TagNesting.CommandLine
