import CodeFrame.Annotation

/-!
# How an annotation lies to a line

An annotation with a start and an end is ahead of a line, inside it, begins on it, passes it, ends on
it, or lies behind it. One without an end is at most ahead.
-/

namespace CodeFrame

/-- A relation between an annotation and a line. -/
inductive Relation
  /-- It starts after this line. -/
  | ahead
  /-- It starts and ends on this line. -/
  | contained
  /-- It starts on this line and ends later. -/
  | starts
  /-- It started earlier and ends later. -/
  | through
  /-- It started earlier and ends on this line. -/
  | ends
  deriving DecidableEq, Repr

namespace Relation

/-- The word for a relation. -/
def word : Relation → String
  | ahead => "ahead"
  | contained => "contained"
  | starts => "starts"
  | through => "through"
  | ends => "ends"

/-- The relation that a word names. -/
def ofWord? (w : String) : Option Relation :=
  [ahead, contained, starts, through, ends].find? fun r => r.word = w

/-- Has the annotation been placed to its end once it lies so to a line? -/
def isResolving : Relation → Bool
  | contained => true
  | ends => true
  | _ => false

end Relation

/-- How an anchor lies to a line; none if it lies nowhere, behind the line, or has no end. -/
def Anchor.relation? (r : LineRange) : Anchor → Option Relation
  | unplaced => none
  | dangling s _ => if r.last < s then some .ahead else none
  | span s e _ _ =>
    if r.last < s then some .ahead
    else if s ∈ r then some (if e ∈ r then .contained else .starts)
    else if s < r.first then
      if r.last < e then some .through else if e ∈ r then some .ends else none
    else none

end CodeFrame
