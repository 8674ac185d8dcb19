import CodeFrame.Styled.Look
import CodeFrame.Styled.Text
import CodeFrame.Text.Wrap

/-!
# Terminal output

On a terminal a stretch of text in one look stands between an escape sequence that turns the look on
and one that turns it off. A stretch ends where a span begins or ends, at the end of a line, and behind
a tab.
-/

namespace CodeFrame

/-- A character on a terminal, its look, and whether a stretch begins with it. -/
structure Cell where
  char : Char
  look : Look
  isFirst : Bool
  deriving DecidableEq, Repr

instance : Printable Cell where
  char := Cell.char
  blanks n x :=
    let blank : Cell := { x with char := ' ' }
    (List.replicate n { blank with isFirst := false }).set 0 blank

/-- Characters in one look. -/
def cellsIn (look : Look) (isFirst : Bool) : List Char → List Cell
  | [] => []
  | c :: cs => ⟨c, look, isFirst⟩ :: cellsIn look (c = '\t') cs

/-- A stretch of text as a terminal is sent it. -/
def paint (look : Look) (cs : List Char) : List Char :=
  if look.codes = [] then cs
  else '\x1b' :: '[' :: (String.intercalate ";" look.codes).toList ++ 'm' :: cs ++ "\x1b[0m".toList

/-- A stretch in the look of its first character. -/
def paintStretch : List Cell → List Char
  | [] => []
  | x :: xs => paint x.look (x.char :: xs.map Cell.char)

/-- A line, stretch by stretch. -/
def paintLine (line : List Cell) : List Char :=
  (line.splitBy fun _ next => !next.isFirst).flatMap paintStretch

/-- The pieces of `cs`, whose first character is number `n`, between cuts in increasing order; each
with the number of its first character. -/
def piecesBetween (n : Nat) (cs : List Char) : List Nat → List (Nat × List Char)
  | [] => [(n, cs)]
  | k :: ks => (n, cs.take (k - n)) :: piecesBetween (max n k) (cs.drop (k - n)) ks

/-- Does the span cover the character at `n`? -/
def Span.covers (n : Nat) (s : Span) : Bool :=
  s.first ≤ n && n < s.stop

namespace StyledText

variable (t : StyledText)

/-- The look of the character at `n`: the base style, and over it the spans in order. -/
def lookAt (n : Nat) : Look :=
  (t.spans.filter (Span.covers n)).foldl (fun look s => look.under (Look.ofStyle s.style))
    (Look.ofStyle t.base)

/-- Where the look can change, in increasing order. -/
def cuts : List Nat :=
  ((t.spans.filter fun s => s.first < s.stop).flatMap fun s => [s.first, s.stop]).mergeSort (· ≤ ·)

/-- The characters of the text in their looks. -/
def cells : List Cell :=
  (piecesBetween 0 t.chars t.cuts).flatMap fun (n, cs) => cellsIn (t.lookAt n) true cs

end StyledText

end CodeFrame
