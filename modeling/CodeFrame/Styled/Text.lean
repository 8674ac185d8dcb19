import CodeFrame.Text.Blank

/-!
# Styled text

Text with styles on parts of it. A style is named by words and is carried as it is given; the empty
style leaves text plain. Appending drops control characters that would move a cursor, so a span may
be shorter than the text it was given for.

* `StyledText.append`, characters in one style;
* `StyledText.concat`, styled texts one behind the other;
* `StyledText.trimEnd`, without the blanks at the end, spans clipped.
-/

namespace CodeFrame

/-- The characters from `first` up to `stop`, which is not one, have a style. -/
structure Span where
  first : Nat
  stop : Nat
  style : String
  deriving DecidableEq, Repr

namespace Span

/-- The span behind `n` more characters. -/
def shift (n : Nat) (s : Span) : Span :=
  { s with first := s.first + n, stop := s.stop + n }

/-- What is left of a span in the first `n` characters. -/
def clip? (n : Nat) (s : Span) : Option Span :=
  if s.first < n then some { s with stop := min n s.stop } else none

end Span

/-- Characters, spans on them in the order in which they were added, and the style of the whole. -/
structure StyledText where
  chars : List Char := []
  spans : List Span := []
  base : String := ""
  deriving DecidableEq, Repr

/-- Is `c` kept in styled text? Bell, backspace, vertical tab, form feed and carriage return are not. -/
def isStored (c : Char) : Bool :=
  !(c = '\x07' || c = '\x08' || c = '\x0b' || c = '\x0c' || c = '\x0d')

/-- The span of a style, unless the style is empty. -/
def spanOf (first stop : Nat) (style : String) : List Span :=
  if style = "" then [] else [⟨first, stop, style⟩]

namespace StyledText

/-- A text whose characters all have the style `base`. -/
def ofString (s base : String) : StyledText :=
  { chars := s.toList.filter isStored, base }

/-- The text without its styles. -/
def plain (t : StyledText) : String :=
  String.ofList t.chars

/-- More characters in one style. -/
def append (t : StyledText) (cs : List Char) (style : String) : StyledText :=
  if cs = [] then t
  else
    let new := cs.filter isStored
    { t with
      chars := t.chars ++ new
      spans := t.spans ++ spanOf t.chars.length (t.chars.length + new.length) style }

/-- The spans of a text that stands at offset `n` of another one: first that of its base style. An
empty text has none there. -/
def spansAt (n : Nat) (t : StyledText) : List Span :=
  if t.chars = [] then []
  else spanOf n (n + t.chars.length) t.base ++ t.spans.map (Span.shift n)

/-- The spans of texts that stand one behind the other, the first of them at offset `n`. -/
def spansFrom (n : Nat) : List StyledText → List Span
  | [] => []
  | t :: ts => t.spansAt n ++ spansFrom (n + t.chars.length) ts

/-- Texts one behind the other. -/
def concat (ts : List StyledText) : StyledText :=
  { chars := ts.flatMap StyledText.chars, spans := spansFrom 0 ts }

/-- The text without the blanks at its end. -/
def trimEnd (t : StyledText) : StyledText :=
  let cs := dropTrailingBlanks t.chars
  if cs.length < t.chars.length then
    { t with chars := cs, spans := t.spans.filterMap (Span.clip? cs.length) }
  else t

end StyledText

end CodeFrame
