import TagNesting.CommandLine.Run

/-!
# `TagNesting.Main` — the command line on a machine

Looks up the paths that the command line names, runs it, and prints what comes of it. All decisions are made
by `CommandLine.run`.
-/

namespace TagNesting.CommandLine

/-- What stands at a path of the machine. A path that goes on behind something that is not a directory cannot
be opened, and names nothing; a directory can be opened, but not read. -/
def entryAt (path : String) : IO Entry := do
  try
    let bytes ← IO.FS.readBinFile path
    return .file bytes.toList
  catch error =>
    match error with
    | .noFileOrDirectory .. | .inappropriateType (some _) .. => return .nothing
    | _ => return .unreadable

end TagNesting.CommandLine

open TagNesting.CommandLine in
/-- Runs the command line. -/
def main (arguments : List String) : IO UInt32 := do
  let paths := ((parse? arguments).map Request.paths).getD []
  let entries ← paths.mapM fun path => return (path, ← entryAt path)
  let outcome := run (fun path => (entries.lookup path).getD .nothing) arguments
  IO.print outcome.output
  if let some complaint := outcome.complaint then
    IO.eprintln complaint.message
  return outcome.code.toUInt32
