import CodeFrame.Styled.Highlight
import CodeFrame.Styled.Terminal

/-!
# Consoles

Where text is written to, how wide its lines are, and whether it is written with its styles. The colour
mode is `always`, `never` or anything else, in either case of letters: a request comes first, then the
environment.
-/

namespace CodeFrame

/-- A console writes to the stream called `stream`, in lines of `width` columns. A terminal without
colours still shows the other attributes of styles. -/
structure Console where
  stream : String := "stderr"
  width : Nat := 80
  isTerminal : Bool := false
  noColor : Bool := false
  deriving DecidableEq, Repr

/-- What surrounds a session: two settings that may be absent, whether the standard streams are
terminals, and the width of new consoles. -/
structure Environment where
  color : Option String := none
  pretty : Option String := none
  errorIsTerminal : Bool := false
  outputIsTerminal : Bool := false
  width : Nat := 80
  deriving DecidableEq, Repr

namespace Console

/-- A word that is given and not empty. -/
def given (w : Option String) : Option String :=
  w.filter (· ≠ "")

/-- The console for a requested colour mode. Only the letters of ASCII have to be lowered: no other
character has a lower case among the letters of the two modes. -/
def ofColor (color : Option String) (env : Environment) : Console :=
  let mode := (((given color).or (given env.color)).getD "auto").toLower
  { width := env.width, isTerminal := mode = "always", noColor := mode = "never" }

/-- A plain line as it is handed to a console: terminals highlight the values in it. -/
def prepare (c : Console) (t : StyledText) : StyledText :=
  if c.isTerminal then t.highlighted else t

/-- The characters of a text as a terminal shows them. -/
def cells (c : Console) (t : StyledText) : List Cell :=
  if c.noColor then t.cells.map fun x => { x with look := x.look.withoutColor } else t.cells

/-- The lines that a styled text takes on a console. -/
def lines (c : Console) (t : StyledText) : List (List Char) :=
  if c.isTerminal then (printedLines c.width (c.cells t)).map paintLine
  else printedLines c.width t.chars

/-- A styled text as a console writes it, with a line feed behind each line. A console of no width writes
nothing. -/
def write (c : Console) (t : StyledText) : String :=
  if c.width = 0 then "" else String.ofList ((c.lines t).flatMap (· ++ ['\n']))

end Console

end CodeFrame
