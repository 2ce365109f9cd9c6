import TagNesting.Finding
import TagNesting.Log
import TagNesting.Text.Quoted

/-!
# `TagNesting.Checker.Event` — what a check notes about its steps

Most tokens are taken without a word. Those that are not tell which rule has been applied to which tag; the
end of a check tells how much is left to be set off.
-/

namespace TagNesting.Checker

/-- A step of a check that is worth a note. -/
inductive Event where
  /-- A malformed occurrence has become a finding. -/
  | malformed (tag : Tag)
  /-- A closing tag has taken back the oldest pending finding. -/
  | cancelled (tag : Tag) (finding : Finding)
  /-- A closing tag has met no open tag at all. -/
  | nothingOpen (tag : Tag)
  /-- A closing tag has been looked for among the open tags; its place is counted from the innermost. -/
  | searched (tag : Tag) (depth : Option Nat)
  /-- The document is over, with so many findings pending and so many orphans. -/
  | reconciling (findings orphans : Nat)
deriving DecidableEq, Repr

/-- A place among the open tags in words. -/
def Event.depthText : Option Nat → String
  | some depth => s!"Some({depth})"
  | none => "None"

/-- The log record of an event. -/
def Event.record : Event → Log.Record
  | .malformed tag => ⟨.debug, s!"line {tag.line}: invalid tag {Text.quoted tag.name}"⟩
  | .cancelled tag finding =>
    ⟨.debug, s!"line {tag.line}: </{tag.name}> cancels {finding.kind.name} from line {finding.line}"⟩
  | .nothingOpen tag => ⟨.debug, s!"line {tag.line}: </{tag.name}> has no open candidate"⟩
  | .searched tag depth =>
    ⟨.trace, s!"line {tag.line}: searching stack for <{tag.name}>, depth {depthText depth}"⟩
  | .reconciling findings orphans =>
    ⟨.debug, s!"reconciling {findings} error(s) against {orphans} orphan(s)"⟩

end TagNesting.Checker
