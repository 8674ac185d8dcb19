import CodeFrame.Snippet
import CodeFrame.Text.Numeral
import CodeFrame.Display.Line
import CodeFrame.Layout.Options

/-!
# Headers

A title line for the title annotation and a location line for the main one.
-/

namespace CodeFrame

/-- Why a header has no location line. -/
inductive HeaderError
  /-- The main annotation starts outside of the source. -/
  | offset (e : OffsetError)
  /-- The row has too many digits. -/
  | row (e : NumeralError)
  deriving DecidableEq, Repr

/-- The wording of a header error. -/
def HeaderError.message : HeaderError → String
  | offset e => e.message
  | row e => e.message

namespace Snippet

variable (s : Snippet) (o : LayoutOptions)

/-- Row and column of the main annotation. One that lies nowhere is put at the first line, and a
layout that does not resolve locations always says the same. -/
def location (main : Annotation) : Except OffsetError (Int × Int) :=
  if o.resolveLocation then
    match main.anchor.start? with
    | none => .ok (s.firstNumber, 1)
    | some p => s.table.locate p
  else .ok (52, 1)

/-- The text of the title line. -/
def titleText (a : Annotation) : String :=
  a.severity.word ++ "[" ++ a.code.getD o.defaultCode ++ "]: " ++ a.label.getD ""

/-- The text of the location line. Of row and column only the row can have too many digits. -/
def locationText (row col : Int) : Except NumeralError String := do
  return "  --> " ++ s.origin.getD "" ++ ":" ++ (← numeral? row) ++ ":" ++ toString col

/-- The header lines. -/
def header : Except HeaderError (List DisplayLine) := do
  let title := s.titleAnnotation?.toList.map fun a => .raw (titleText o a)
  match s.mainAnnotation? with
  | none => return title
  | some a =>
    let (row, col) ← (s.location o a).mapError .offset
    return title ++ [.raw (← (s.locationText row col).mapError .row)]

end Snippet

end CodeFrame
