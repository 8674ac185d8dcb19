import CodeFrame.Styled.Text
import CodeFrame.Text.Digit
import CodeFrame.Text.Pattern

/-!
# Highlighting

A terminal colours what looks like a value in a line of plain text: numbers, brackets, names before
an equals sign, addresses, calls, constants, paths, quoted strings and links. A mark is a style, and
later marks lie over earlier ones.
-/

namespace CodeFrame

namespace Highlight

open Pattern

/-- Is `c` a hexadecimal digit, of either case? -/
def isHex (c : Char) : Bool :=
  c.isDigit || ('a' ≤ c && c ≤ 'f') || ('A' ≤ c && c ≤ 'F')

/-- The characters of words, and some others. -/
def isWordCharOr (others : String) : Char → Bool :=
  let cs := others.toList
  fun c => isWordChar c || cs.any (· == c)

/-- A pattern a fixed number of times. -/
def exactly (n : Nat) (a : Pattern) : Pattern :=
  times n (some n) a

/-- A pattern `count` times and once more, with a separator between. -/
def groups (count : Nat) (a : Pattern) (separator : String) : Pattern :=
  all [exactly count (all [a, text separator]), a]

/-- A tag in angle brackets. -/
def tag : Pattern :=
  all [marked "bold" (text "<"), marked "bright_magenta bold" (many (isWordCharOr "-.:|")),
    marked "default" (many fun _ => true), marked "bold" (text ">")]

/-- A name and its value. -/
def assignment : Pattern :=
  all [marked "yellow not italic" (between 1 50 isWordChar), text "=",
    optional (marked "magenta not italic"
      (all [optional (text "\""), oneOrMore isWordChar, optional (text "\"")]))]

/-- A bracket. -/
def bracket : Pattern :=
  marked "bold" (oneOf "][\x7b\x7d()")

/-- An address of the internet's fourth version. -/
def address4 : Pattern :=
  marked "bold bright_green" (groups 3 (between 1 3 Char.isDigit) ".")

/-- An address of the internet's sixth version. -/
def address6 : Pattern :=
  marked "bold bright_green"
    (all [times 1 (some 7) (all [between 1 4 isHex, text ":", optional (text ":")]), between 1 4 isHex])

/-- A hardware address of `2 * n` bytes, in one of its three forms. -/
def hardwareAddress (n : Nat) : Pattern :=
  marked "bold bright_green"
    (any [groups (2 * n - 1) (between 1 2 isHex) "-", groups (2 * n - 1) (between 1 2 isHex) ":",
      groups (n - 1) (between 4 4 isHex) "."])

/-- A unique identifier. -/
def identifier : Pattern :=
  marked "bright_yellow not bold"
    (all [between 8 8 isHex, text "-", groups 2 (between 4 4 isHex) "-", text "-", between 12 12 isHex])

/-- A name before a round bracket. -/
def call : Pattern :=
  all [marked "magenta bold" (few (isWordCharOr ".")), text "("]

/-- A word that stands alone. -/
def constant (style word : String) : Pattern :=
  all [edge true, marked style (text word), edge true]

/-- Three dots. -/
def ellipsis : Pattern :=
  marked "yellow" (text "...")

/-- Digits, perhaps with a point and more digits. They are those of ASCII. -/
def decimal : Pattern :=
  all [oneOrMore Char.isDigit, optional (all [text ".", many Char.isDigit])]

/-- An exponent, with as few digits as possible if it is lazy. Its digits may be of any script. -/
def exponent (isLazy : Bool) : Pattern :=
  optional (all [text "e", optional (oneOf "-+"), run 1 none isLazy isDecimalDigit])

/-- A complex number. -/
def complexNumber : Pattern :=
  marked "cyan bold not italic"
    (all [notBehind isWordChar, optional (text "-"), decimal, exponent true,
      optional (all [oneOf "-+", decimal, exponent false]), text "j"])

/-- A number. -/
def number : Pattern :=
  marked "cyan bold not italic"
    (any [all [notBehind isWordChar, optional (text "-"), decimal, exponent true, edge true],
      all [text "0x", many isHex]])

/-- A path, and the name of a file behind it. -/
def path : Pattern :=
  let isPart := isWordCharOr "-._+"
  all [marked "magenta" (all [edge false, times 0 none (all [text "/", oneOrMore isPart]), text "/"]),
    marked "bright_magenta" (many isPart)]

/-- A string between two quotation marks of one kind, the last of which is not escaped. -/
def quotedBy (mark : String) : Pattern :=
  all [optional (text "b"), text mark, few (· ≠ '\n'), notBehind (· = '\\'), text mark]

/-- A quoted string. -/
def quotedString : Pattern :=
  all [notBehind fun c => isWordChar c || c = '\\',
    marked "green not italic not bold" (any (["'''", "'", "\"\"\"", "\""].map quotedBy))]

/-- A link. -/
def link : Pattern :=
  let others := "-$_+!`(),.?/;:&=%#~@".toList
  marked "underline bright_blue not italic not bold"
    (all [any (["file", "https", "http", "ws", "wss"].map text), text "://",
      many fun c => c.isAlphanum || others.any (· == c)])

/-- The patterns that are looked for one after the other. -/
def patterns : List Pattern :=
  [tag, assignment, bracket,
    any [address4, address6, hardwareAddress 4, hardwareAddress 3, identifier, call,
      constant "bright_green italic" "True", constant "bright_red italic" "False",
      constant "magenta italic" "None", ellipsis, complexNumber, number, path, quotedString, link]]

end Highlight

/-- A text with the values in it highlighted, under the styles that it has. -/
def StyledText.highlighted (t : StyledText) : StyledText :=
  let text := t.chars.toArray
  { t with
    spans := Highlight.patterns.flatMap (fun a => (a.find text).map fun m => ⟨m.first, m.stop, m.mark⟩) ++
      t.spans }

end CodeFrame
