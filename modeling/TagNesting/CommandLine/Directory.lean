/-!
# `TagNesting.CommandLine.Directory` — what stands at a path

A command line names files by paths, and a run needs to know what stands at each: nothing, something that
cannot be read as a file, or a file with its bytes. Where these answers come from is left open. Here they
come from a directory that is written out, a list of files with their names; the command line proper takes
them from the machine it runs on.

A path is followed part by part. `.` and an empty part stay where they are, `..` goes one directory up, and
any other part must be the name of a file of the directory, after which the path must be over. A path that
begins with `/` starts above the directory. Nothing is known of what lies above, except that it is there.

## Contents
- `Entry`, `Lookup`: what stands at a path.
- `Directory`, `Directory.lookup`: the directory that is written out.
-/

namespace TagNesting.CommandLine

/-- What stands at a path. -/
inductive Entry where
  | nothing
  /-- Something that cannot be read as a file, such as a directory. -/
  | unreadable
  | file (bytes : List UInt8)
deriving DecidableEq, Repr

/-- What stands at each path. -/
abbrev Lookup := String → Entry

/-- A directory that holds files only, each with its name and its bytes. -/
abbrev Directory := List (String × List UInt8)

namespace Directory

/-- What stands at the end of a path that is followed from so many levels above the directory. -/
def follow (directory : Directory) (up : Nat) : List String → Entry
  | [] => .unreadable
  | part :: parts =>
    if part = "" ∨ part = "." then follow directory up parts
    else if part = ".." then follow directory (up + 1) parts
    else
      match directory.lookup part with
      | some bytes => if up = 0 ∧ parts.isEmpty then .file bytes else .nothing
      | none => .nothing

/-- What stands at a path. -/
def lookup (directory : Directory) : Lookup := fun path =>
  directory.follow (if path.toList.head? = some '/' then 1 else 0) (path.splitOn "/")

end Directory

end TagNesting.CommandLine
