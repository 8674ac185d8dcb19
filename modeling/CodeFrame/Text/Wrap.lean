import CodeFrame.Text.TabStops

/-!
# Wrapping

A row that is too long for its console goes on in the next line. It is broken in front of a word that
does not fit any more, or inside a word that is longer than a line. Blanks that would reach beyond the
end of a line are dropped.
-/

namespace CodeFrame

variable {α : Type} [Printable α]

open Printable (char blanks)

/-! ## Words -/

/-- The words of a row, when `word` has been read of the first of them, last first. It is over once
blanks follow its letters. -/
def wordsFrom (word : List α) (isOver : Bool) : List α → List (List α)
  | [] => [word.reverse]
  | x :: xs =>
    if isBlank (char x) then wordsFrom (x :: word) true xs
    else if isOver then word.reverse :: wordsFrom [x] false xs
    else wordsFrom (x :: word) false xs

/-- The words of a row, each with the blanks behind it. The first one has those before it, too. -/
def words (row : List α) : List (List α) :=
  wordsFrom (row.takeWhile fun x => isBlank (char x)).reverse false
    (row.dropWhile fun x => isBlank (char x))

/-! ## Lines -/

/-- The parts of a word that are each as long as a line of `width` columns, when `part` has been read of
the first of them and takes `col` columns. -/
def chopFrom (width : Nat) (part : List α) (col : Nat) : List α → List (List α)
  | [] => [part]
  | x :: xs =>
    if col + charWidth (char x) ≤ width then chopFrom width (part ++ [x]) (col + charWidth (char x)) xs
    else part :: chopFrom width [x] (charWidth (char x)) xs

/-- The lines before a word that is longer than any of them, and those that the word itself takes. Where
nothing stands before the word, its first part is not broken off. -/
def foldWord (width : Nat) (line word : List α) : List (List α) :=
  match line, chopFrom width [] 0 word with
  | [], [] :: parts => parts
  | [], parts => parts
  | line, parts => line :: parts

/-- The lines of words, when `line` has been written of the first of them. It takes `col` columns. -/
def breakWords (width : Nat) (line : List α) (col : Nat) : List (List α) → List (List α)
  | [] => [line]
  | word :: words =>
    if col + columns (dropTrailingBlanks word) ≤ width then
      breakWords width (line ++ word) (col + columns word) words
    else if columns (dropTrailingBlanks word) ≤ width then
      line :: breakWords width word (columns word) words
    else
      let lines := foldWord width line word
      let last := lines.getLastD []
      lines.dropLast ++ breakWords width last (columns last) words

/-- A line without the blanks at its end that are beyond `width` characters. -/
def dropBlanksBeyond (width : Nat) (line : List α) : List α :=
  line.take (max width (dropTrailingBlanks line).length)

/-- What a line that is too long shows in `width` columns. The place where it is cut off is looked for
between `first` and `stop` by halving, so characters without a width may stand on either side of it. A
blank stands for half of a character. -/
def cropBetween (width : Nat) (line : List α) (first stop : Nat) : List α :=
  let middle := (first + stop) / 2
  let front := line.take (middle + 1)
  match front.getLast? with
  | none => []
  | some x =>
    if columns front = width + 1 ∧ charWidth (char x) = 2 then front.dropLast ++ blanks 1 x
    else if columns front = width ∨ stop ≤ first + 1 then front
    else if width < columns front then cropBetween width line first middle
    else cropBetween width line middle stop
termination_by stop - first

/-- What a line shows in `width` columns. -/
def crop (width : Nat) (line : List α) : List α :=
  if columns line ≤ width then line else cropBetween width line 0 line.length

/-- The lines that a row takes on a console. -/
def wrapRow (width : Nat) (row : List α) : List (List α) :=
  (breakWords width [] 0 (words row)).map fun line => crop width (dropBlanksBeyond width line)

/-! ## Rows -/

/-- What stands between line feeds. -/
def splitRows : List α → List (List α)
  | [] => [[]]
  | x :: xs =>
    if char x = '\n' then [] :: splitRows xs
    else match splitRows xs with
      | [] => [[x]]
      | row :: rows => (x :: row) :: rows

/-- The lines of a text on a console that has `width` columns. -/
def printedLines (width : Nat) (text : List α) : List (List α) :=
  (splitRows (expandTabs 0 text)).flatMap (wrapRow width)

end CodeFrame
