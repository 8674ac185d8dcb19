import CodeFrame.Render.Theme
import CodeFrame.Styled.Text
import CodeFrame.Text.Numeral

/-!
# Drawing frames

One row of text for each display line. Line numbers are aligned to the right of a column as wide as
the widest of them, and the marks of all lines share a column as wide as the longest list of them.
-/

namespace CodeFrame

/-- The digits of a line number. -/
def numberChars (n : Int) : List Char :=
  (toString n).toList

/-- The width of the column of line numbers. -/
def numberWidth (rows : List DisplayLine) : Nat :=
  (rows.filterMap DisplayLine.number?).foldl (fun w n => max w (numberChars n).length) 1

/-- The width of the column of marks. -/
def marksWidth (rows : List DisplayLine) : Nat :=
  (rows.filterMap DisplayLine.marks?).foldl (fun w ms => max w ms.length) 0

/-- The two widths that the rows of a frame share. -/
structure Columns where
  number : Nat
  marks : Nat
  deriving DecidableEq, Repr

/-- The columns of a frame. -/
def Columns.of (rows : List DisplayLine) : Columns :=
  ⟨numberWidth rows, marksWidth rows⟩

namespace DisplayLine

variable (th : Theme) (g : Glyphs) (w : Columns)

/-- The left edge of a row: its number, or blanks, and the gutter. -/
def edge (number? : Option Int) : StyledText :=
  let field : StyledText := match number? with
    | some n =>
      let ds := numberChars n
      ({} : StyledText).append (List.replicate (w.number - ds.length) ' ' ++ ds) th.lineNumber
    | none => ({} : StyledText).append (List.replicate w.number ' ') ""
  field.append " |".toList th.gutter

/-- A row with its marks, filled up to where its content starts. -/
def withMarks (t : StyledText) (marks : List Mark) : StyledText :=
  (marks.foldl (fun t m => t.append [m.glyph] th.connector) t).append
    (List.replicate (w.marks - marks.length) ' ' ++ [' ']) ""

/-- A row with a caption's label behind its underline. Where a long annotation starts, none is shown. -/
def withLabel (t : StyledText) (c : Caption) : StyledText :=
  if c.label = "" ∨ c.kind = .multilineStart then t
  else (t.append [' '] "").append c.label.toList th.label

/-- The row of a display line. -/
def draw : DisplayLine → StyledText
  | raw text => .ofString text (th.header text)
  | fold => .ofString g.foldMarker th.fold
  | blank => edge th w none
  | source n marks content =>
    ((withMarks th w (edge th w (some n)) marks).append content.toList th.code).trimEnd
  | caption c =>
    (withLabel th ((withMarks th w (edge th w none) c.marks).append (g.underline c)
      (th.underline c.kind)) c).trimEnd

end DisplayLine

/-- The rows of a frame, one below the other. -/
def stack (rows : List StyledText) : StyledText :=
  .concat (rows.intersperse (.ofString "\n" ""))

/-- The frame of a display list. -/
def drawFrame (th : Theme) (g : Glyphs) (rows : List DisplayLine) : StyledText :=
  stack (rows.map (DisplayLine.draw th g (.of rows)))

/-! ## Rows that cannot be drawn

The captions of a laid out snippet keep within their lines. Those of any other display list may reach
anywhere, even so far that no machine can write them. Line numbers may have too many digits in both.
-/

/-- What keeps a row from being drawn. -/
inductive DrawError
  /-- No word holds how often a text is repeated, or the number of its characters. -/
  | uncountable
  /-- The characters do not fit in memory. -/
  | exhausting
  /-- The line number has too many digits. -/
  | number (e : NumeralError)
  deriving DecidableEq, Repr

/-- The wording of a draw error. -/
def DrawError.message : DrawError → String
  | uncountable => "row too wide to count"
  | exhausting => "row too wide to hold"
  | number e => e.message

/-- What keeps `s` from being written `n` times, where `memory` characters at a time can be held. -/
def repeatError? (memory : Nat) (s : String) (n : Int) : Option DrawError :=
  if n < -Nat.pow 2 63 ∨ Nat.pow 2 63 ≤ n ∨ Nat.pow 2 63 ≤ s.length * n then some .uncountable
  else if memory < s.length * n then some .exhausting
  else none

/-- What keeps the underline of a caption, and the blanks before it, from being drawn. -/
def Glyphs.underlineError? (g : Glyphs) (memory : Nat) (c : Caption) : Option DrawError :=
  let underlined (s : String) :=
    (repeatError? memory " " c.first).or (repeatError? memory s (max 1 (c.stop - c.first)))
  match c.kind with
  | .error => underlined g.errorUnderline
  | .warning => underlined g.warningUnderline
  | .multilineStart => repeatError? memory "_" c.first
  | .multilineEnd => repeatError? memory "_" c.first

/-- What keeps the line number of a row from being written. -/
def DisplayLine.numberError? (l : DisplayLine) : Option DrawError :=
  match l.number?.map numeral? with
  | some (.error e) => some (.number e)
  | _ => none

/-- What keeps the caption of a row from being drawn. -/
def DisplayLine.captionError? (g : Glyphs) (memory : Nat) : DisplayLine → Option DrawError
  | .caption c => g.underlineError? memory c
  | _ => none

/-- What keeps a frame from being drawn. The line numbers are looked at first, for they share a
column; then the captions. -/
def drawError? (g : Glyphs) (memory : Nat) (rows : List DisplayLine) : Option DrawError :=
  (rows.findSome? DisplayLine.numberError?).or (rows.findSome? (DisplayLine.captionError? g memory))

/-- The frame of a display list, or the first thing that keeps it from being drawn. -/
def drawRows (th : Theme) (g : Glyphs) (memory : Nat) (rows : List DisplayLine) :
    Except DrawError StyledText :=
  match drawError? g memory rows with
  | some e => .error e
  | none => .ok (drawFrame th g rows)

end CodeFrame
