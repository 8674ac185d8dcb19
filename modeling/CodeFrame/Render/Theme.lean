import CodeFrame.Display.Line

/-!
# Themes and glyphs

What a frame looks like: the style of each of its parts, and the texts it draws with.
-/

namespace CodeFrame

/-- The styles of the parts of a frame. -/
structure Theme where
  errorHeader : String := "bold red"
  warningHeader : String := "bold yellow"
  location : String := "italic"
  lineNumber : String := "bold blue"
  gutter : String := "bold blue"
  code : String := ""
  errorMark : String := "bold red"
  warningMark : String := "bold yellow"
  connector : String := "bold red"
  label : String := ""
  fold : String := "dim"
  deriving DecidableEq, Repr

/-- The texts that a frame is drawn with. -/
structure Glyphs where
  foldMarker : String := "..."
  errorUnderline : String := "^"
  warningUnderline : String := "-"
  deriving DecidableEq, Repr

namespace Theme

/-- The style of a header line, by the word it starts with. -/
def header (th : Theme) (text : String) : String :=
  if Severity.error.word.toList.isPrefixOf text.toList then th.errorHeader
  else if Severity.warning.word.toList.isPrefixOf text.toList then th.warningHeader
  else th.location

/-- The style of a caption's underline. -/
def underline (th : Theme) : CaptionKind → String
  | .error => th.errorMark
  | .warning => th.warningMark
  | .multilineStart => th.connector
  | .multilineEnd => th.connector

end Theme

/-- `s` written `n` times; not at all if `n` is negative. However often, nothing is written of an
empty text. -/
def repeated (s : String) (n : Int) : List Char :=
  if s = "" then [] else (List.replicate n.toNat s.toList).flatten

/-- The underline of a caption, with the blanks before it. It is never empty: a caption without a
column of its own points at one. -/
def Glyphs.underline (g : Glyphs) (c : Caption) : List Char :=
  match c.kind with
  | .error => repeated " " c.first ++ repeated g.errorUnderline (max 1 (c.stop - c.first))
  | .warning => repeated " " c.first ++ repeated g.warningUnderline (max 1 (c.stop - c.first))
  | .multilineStart => repeated "_" c.first ++ ['^']
  | .multilineEnd => repeated "_" c.first ++ ['^']

end CodeFrame
