import CodeFrame.Annotation

/-!
# Display lines

What a frame is made of, one entry a row: texts of the header, empty source lines, source lines with
the marks drawn beside them, captions under source lines, and folds that stand for lines left out.
-/

namespace CodeFrame

/-- A mark beside a line that a long annotation touches. -/
inductive Mark
  /-- The annotation begins at the first offset of this line. -/
  | start
  /-- The annotation passes along this line. -/
  | through
  deriving DecidableEq, Repr

namespace Mark

/-- The word for a mark. -/
def word : Mark → String
  | start => "annotation_start"
  | through => "annotation_through"

/-- The mark that a word names. -/
def ofWord? (w : String) : Option Mark :=
  if w = "annotation_start" then some start
  else if w = "annotation_through" then some through
  else none

/-- How a mark is drawn. -/
def glyph : Mark → Char
  | start => '/'
  | through => '|'

@[simp] theorem ofWord?_word (m : Mark) : ofWord? m.word = some m := by
  cases m <;> decide

end Mark

/-- What a caption points out. -/
inductive CaptionKind
  | error
  | warning
  | multilineStart
  | multilineEnd
  deriving DecidableEq, Repr

namespace CaptionKind

/-- The word for a kind. -/
def word : CaptionKind → String
  | error => "error"
  | warning => "warning"
  | multilineStart => "multiline_start"
  | multilineEnd => "multiline_end"

/-- The kind that a word names. -/
def ofWord? (w : String) : Option CaptionKind :=
  if w = "error" then some error
  else if w = "warning" then some warning
  else if w = "multiline_start" then some multilineStart
  else if w = "multiline_end" then some multilineEnd
  else none

/-- The kind of a caption that lies on one line. -/
def ofSeverity : Severity → CaptionKind
  | .error => error
  | .warning => warning

@[simp] theorem ofWord?_word (k : CaptionKind) : ofWord? k.word = some k := by
  cases k <;> decide

end CaptionKind

/-- A row under a source line. Its columns count from the start of that line; `stop` is not one. -/
structure Caption where
  marks : List Mark
  first : Int
  stop : Int
  label : String
  kind : CaptionKind
  deriving DecidableEq, Repr

/-- A row of a frame. -/
inductive DisplayLine
  | raw (text : String)
  | blank
  | source (number : Int) (marks : List Mark) (content : String)
  | caption (c : Caption)
  | fold
  deriving DecidableEq, Repr

namespace DisplayLine

/-- Is this row a caption? -/
def isCaption : DisplayLine → Bool
  | caption _ => true
  | _ => false

/-- The marks of a row that can carry them. -/
def marks? : DisplayLine → Option (List Mark)
  | source _ ms _ => some ms
  | caption c => some c.marks
  | _ => none

/-- The number shown in a source row. -/
def number? : DisplayLine → Option Int
  | source n _ _ => some n
  | _ => none

end DisplayLine

end CodeFrame
