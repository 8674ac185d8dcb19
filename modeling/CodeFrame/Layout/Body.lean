import CodeFrame.Layout.Fold
import CodeFrame.Layout.Header
import CodeFrame.Layout.Placement

/-!
# Laying out a snippet

The body of a frame is the source with its marks and captions, folded, between two empty lines; the
header stands above it. An annotation with a start and no end is left out of the body, and a warning
says so.
-/

namespace CodeFrame

/-- A warning that an annotation was left out: where it starts, and whose it is. -/
structure LayoutWarning where
  message : String
  offset : Option Int := none
  origin : Option String := none
  deriving DecidableEq, Repr

/-- The warning for an annotation that was left out. -/
def LayoutWarning.ofPending (origin : Option String) (a : Annotation) : LayoutWarning :=
  { message := "annotation " ++ quoted (a.label.getD "") ++ " has no end and was left out of the body"
    offset := a.anchor.start?
    origin }

namespace Snippet

variable (s : Snippet)

/-- The plan of the snippet's source. -/
def plan : Plan :=
  s.table.plan s.annotations

/-- The warnings of a layout, in the order of the annotations. -/
def warnings : List LayoutWarning :=
  s.plan.pending.map (LayoutWarning.ofPending s.origin)

/-- The rows under the header. -/
def body (o : LayoutOptions) : List DisplayLine :=
  .blank :: foldBody o (s.table.body s.plan.placements) ++ [.blank]

/-- All rows of the frame. -/
def display (o : LayoutOptions) : Except HeaderError (List DisplayLine) := do
  return (← s.header o) ++ s.body o

end Snippet

end CodeFrame
