/-!
# Looks

What the words of a style mean on a terminal. A look says of each attribute whether it is on, off or
left as it is, so looks can be laid over each other.
-/

namespace CodeFrame

/-- Attributes of text, and the number that turns its colour on. -/
structure Look where
  bold : Option Bool := none
  dim : Option Bool := none
  italic : Option Bool := none
  underline : Option Bool := none
  color : Option Nat := none
  deriving DecidableEq, Repr

namespace Look

/-- `top` laid over `l`: what `top` leaves open is as in `l`. -/
def under (l top : Look) : Look :=
  { bold := top.bold.or l.bold
    dim := top.dim.or l.dim
    italic := top.italic.or l.italic
    underline := top.underline.or l.underline
    color := top.color.or l.color }

/-- A look without its colour. -/
def withoutColor (l : Look) : Look :=
  { l with color := none }

/-- The names of the colours that have a bright variant, in the order of their numbers. -/
def hues : List String := ["black", "red", "green", "yellow", "blue", "magenta", "cyan", "white"]

/-- The number of a colour. -/
def colorNumber? (word : String) : Option Nat :=
  if word = "default" then some 39
  else ((hues.idxOf? word).map (30 + ·)).or
    (((hues.map ("bright_" ++ ·)).idxOf? word).map (90 + ·))

/-- The look of one word of a style, or of its opposite. -/
def ofWord (isOn : Bool) : String → Look
  | "bold" => { bold := isOn }
  | "dim" => { dim := isOn }
  | "italic" => { italic := isOn }
  | "underline" => { underline := isOn }
  | word => { color := colorNumber? word }

/-- The look of a style's words, the later ones over the earlier ones. -/
def ofWords : List String → Look
  | [] => {}
  | "not" :: word :: words => (ofWord false word).under (ofWords words)
  | word :: words => (ofWord true word).under (ofWords words)

/-- The look of a style. -/
def ofStyle (style : String) : Look :=
  ofWords (style.splitOn " ")

/-- The numbers that turn a look on: attributes first, then the colour. -/
def codes (l : Look) : List String :=
  (if l.bold = some true then ["1"] else []) ++ (if l.dim = some true then ["2"] else []) ++
    (if l.italic = some true then ["3"] else []) ++ (if l.underline = some true then ["4"] else []) ++
    (l.color.map toString).toList

end Look

end CodeFrame
