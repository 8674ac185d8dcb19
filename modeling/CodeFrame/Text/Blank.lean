/-!
# Blank characters

The characters that count as white space at the end of a row.
-/

namespace CodeFrame

/-- Tab to carriage return, the four information separators, the blank, and the separators of
Unicode. The zero width space is not among them. -/
def isBlank (c : Char) : Bool :=
  let n := c.toNat
  (0x09 ≤ n && n ≤ 0x0D) || (0x1C ≤ n && n ≤ 0x20) || n = 0x85 || n = 0xA0 || n = 0x1680 ||
    (0x2000 ≤ n && n ≤ 0x200A) || n = 0x2028 || n = 0x2029 || n = 0x202F || n = 0x205F || n = 0x3000

/-- What rows are made of: something that shows a character, and may make room for blanks. -/
class Printable (α : Type) where
  char : α → Char
  /-- `n` blanks in the place of something. -/
  blanks : Nat → α → List α

instance : Printable Char where
  char c := c
  blanks n _ := List.replicate n ' '

/-- A row without the blanks at its end. -/
def dropTrailingBlanks {α : Type} [Printable α] (row : List α) : List α :=
  (row.reverse.dropWhile fun x => isBlank (Printable.char x)).reverse

end CodeFrame
