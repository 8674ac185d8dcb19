import CodeFrame.Display.Line
import CodeFrame.Layout.Relation

/-!
# Placements

Where the annotations of a source go. `LineTable.plan` walks the lines in order with the annotations
whose end has not been placed yet and says what each line receives; `LineTable.body` builds the rows
from such a plan, or from any other list of placements.
-/

namespace CodeFrame

/-- Something that a line receives. Lines are counted from zero; others do not exist. -/
inductive Placement
  /-- A mark beside the line. -/
  | attach (line : Int) (mark : Mark)
  /-- A row under the line. -/
  | insert (line : Int) (row : DisplayLine)
  deriving DecidableEq, Repr

/-! ## Planning -/

namespace Annotation

/-- The row of a caption of this annotation. -/
def caption (a : Annotation) (kind : CaptionKind) (marks : List Mark) (first stop : Int) : DisplayLine :=
  .caption ⟨marks, first, stop, a.label.getD "", kind⟩

/-- What line `i` receives from an annotation that lies so to it. -/
def place (a : Annotation) (i : Int) (r : LineRange) (rel : Relation) : List Placement :=
  match a.anchor, rel with
  | .span s e _ _, .contained =>
    [.insert i (a.caption (.ofSeverity a.severity) [] (s - r.first) (e - r.first))]
  | .span s _ _ _, .starts =>
    if s - r.first = 0 then [.attach i .start]
    else [.insert i (a.caption .multilineStart [.through] (s - r.first) (s - r.first + 1))]
  | .span .., .through => [.attach i .through]
  | .span _ e _ _, .ends =>
    [.attach i .through,
      .insert i (a.caption .multilineEnd [.through] (e - r.first) (e - r.first + 1))]
  | _, _ => []

/-- What line `i` receives from an annotation. -/
def placeOn (a : Annotation) (i : Int) (r : LineRange) : List Placement :=
  match a.anchor.relation? r with
  | none => []
  | some .ahead => []
  | some rel => a.place i r rel

/-- The annotation's end is on a line or before it. -/
def isResolvedBy (r : LineRange) (a : Annotation) : Bool :=
  (a.anchor.relation? r).any Relation.isResolving

end Annotation

/-- Placements, and the annotations whose end no line has. -/
structure Plan where
  placements : List Placement
  pending : List Annotation
  deriving DecidableEq

/-- The plan of the lines from index `i` on for the annotations that are pending there. -/
def planFrom (i : Nat) : List LineRange → List Annotation → Plan
  | [], pending => ⟨[], pending⟩
  | r :: rs, pending =>
    let rest := planFrom (i + 1) rs (pending.filter fun a => !a.isResolvedBy r)
    ⟨(pending.flatMap fun a => a.placeOn i r) ++ rest.placements, rest.pending⟩

/-- The plan of a source for its annotations. Those that lie nowhere take no part. -/
def LineTable.plan (t : LineTable) (as : List Annotation) : Plan :=
  planFrom 0 t.ranges (as.filter fun a => a.anchor.start?.isSome)

/-! ## Building rows -/

/-- A source line with the marks beside it and the rows under it. -/
structure SourceRow where
  number : Int
  content : String
  marks : List Mark := []
  under : List DisplayLine := []
  deriving DecidableEq, Repr

/-- The display lines of a row: the source line, then what is under it. -/
def SourceRow.display (r : SourceRow) : List DisplayLine :=
  .source r.number r.marks r.content :: r.under

/-- Changes the row at index `i`, if there is one. -/
def modifyRow (i : Int) (f : SourceRow → SourceRow) (rows : Array SourceRow) : Array SourceRow :=
  if 0 ≤ i then rows.modify i.toNat f else rows

/-- Rows after one more placement. -/
def Placement.apply (rows : Array SourceRow) : Placement → Array SourceRow
  | .attach i m => modifyRow i (fun r => { r with marks := r.marks ++ [m] }) rows
  | .insert i row => modifyRow i (fun r => { r with under := r.under ++ [row] }) rows

/-- The rows of a source that has received nothing. -/
def LineTable.rows (t : LineTable) : List SourceRow :=
  t.lines.zipIdx.map fun (l, i) => { number := t.number i, content := l }

/-- The rows of a source after placements. -/
def LineTable.body (t : LineTable) (ps : List Placement) : List DisplayLine :=
  (ps.foldl Placement.apply t.rows.toArray).toList.flatMap SourceRow.display

end CodeFrame
