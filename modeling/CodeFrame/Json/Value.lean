import CodeFrame.Json.Reading

/-!
# JSON values

* `Json.reading`, a value as a faultless reading;
* `Json.write`, the compact text of a value, and `Json.write?`, which refuses numbers that are too long;
* `Json.parse?`, the value of a text that has no fault.

Members keep their order, and a name may occur more than once. Whole numbers and numbers with a
fraction or an exponent are different values.
-/

namespace CodeFrame

/-- A JSON value. -/
inductive Json
  | null
  | bool (b : Bool)
  | int (i : Int)
  | float (mantissa exponent : Int)
  | str (s : String)
  | array (items : List Json)
  | object (members : List (String × Json))
  deriving Repr

namespace Json

/-! ## Values and readings -/

mutual

/-- The reading of a text that tells the whole value. -/
def reading : Json → Reading
  | .null => .null
  | .bool b => .bool b
  | .int i => .int i
  | .float m e => .float m e
  | .str s => .str (some s)
  | .array items => .array (readingAll items) true
  | .object members => .object (readingMembers members) true

/-- The readings of `items`. -/
def readingAll : List Json → List Reading
  | [] => []
  | v :: vs => v.reading :: readingAll vs

/-- The readings of `members`. -/
def readingMembers : List (String × Json) → List (Option String × Reading)
  | [] => []
  | (k, v) :: ms => (some k, v.reading) :: readingMembers ms

end

mutual

/-- The value that a reading tells whole. -/
def ofReading? : Reading → Option Json
  | .null => some .null
  | .bool b => some (.bool b)
  | .int i => some (.int i)
  | .wide i => some (.int i)
  | .float m e => some (.float m e)
  | .overflow m e => some (.float m e)
  | .str (some s) => some (.str s)
  | .array items true => (ofReadings? items).map .array
  | .object members true => (ofMembers? members).map .object
  | _ => none

/-- The values of `items`, if each is told whole. -/
def ofReadings? : List Reading → Option (List Json)
  | [] => some []
  | v :: vs => do return (← ofReading? v) :: (← ofReadings? vs)

/-- The values of `members`, if each is told whole and has a name. -/
def ofMembers? : List (Option String × Reading) → Option (List (String × Json))
  | [] => some []
  | (some k, v) :: ms => do return (k, ← ofReading? v) :: (← ofMembers? ms)
  | (none, _) :: _ => none

end

/-- The value of a JSON text without faults. -/
def parse? (text : String) : Option Json :=
  let d := Document.read (Symbol.ofString text)
  if d.trailing then none else ofReading? d.value

/-! ## Writing -/

/-- A hexadecimal digit in lower case. -/
def hexDigit (n : Nat) : Char :=
  Nat.digitChar n

/-- A character inside quotation marks: the quotation mark, the backslash and the characters below
the blank are escaped. -/
def escape (c : Char) : List Char :=
  if c = '"' then ['\\', '"']
  else if c = '\\' then ['\\', '\\']
  else if c = '\x08' then ['\\', 'b']
  else if c = '\x0c' then ['\\', 'f']
  else if c = '\n' then ['\\', 'n']
  else if c = '\r' then ['\\', 'r']
  else if c = '\t' then ['\\', 't']
  else if c < ' ' then ['\\', 'u', '0', '0', hexDigit (c.toNat / 16), hexDigit (c.toNat % 16)]
  else [c]

/-- A string as JSON writes it. -/
def writeString (s : String) : List Char :=
  '"' :: s.toList.flatMap escape ++ ['"']

/-- A whole number as JSON writes it. -/
def writeInt (i : Int) : List Char :=
  (toString i).toList

mutual

/-- The characters of a value's compact text. -/
def chars : Json → List Char
  | .null => ['n', 'u', 'l', 'l']
  | .bool true => ['t', 'r', 'u', 'e']
  | .bool false => ['f', 'a', 'l', 's', 'e']
  | .int i => writeInt i
  | .float m e => writeInt m ++ 'e' :: writeInt e
  | .str s => writeString s
  | .array items => '[' :: charsAll items ++ [']']
  | .object members => '{' :: charsMembers members ++ ['}']

/-- `items` with commas between them. -/
def charsAll : List Json → List Char
  | [] => []
  | [v] => v.chars
  | v :: w :: vs => v.chars ++ ',' :: charsAll (w :: vs)

/-- `members` with commas between them. -/
def charsMembers : List (String × Json) → List Char
  | [] => []
  | [(k, v)] => writeString k ++ ':' :: v.chars
  | (k, v) :: m :: ms => writeString k ++ ':' :: v.chars ++ ',' :: charsMembers (m :: ms)

end

/-- The compact text of a value. -/
def write (v : Json) : String :=
  String.ofList v.chars

mutual

/-- The first whole number in a value that has too many digits to be written. -/
def longInt? : Json → Option Int
  | .int i => if fitsDigits i then none else some i
  | .array items => longIntOf? items
  | .object members => longIntIn? members
  | _ => none

/-- The first such number in `items`. -/
def longIntOf? : List Json → Option Int
  | [] => none
  | v :: vs => v.longInt?.or (longIntOf? vs)

/-- The first such number in `members`. -/
def longIntIn? : List (String × Json) → Option Int
  | [] => none
  | (_, v) :: ms => v.longInt?.or (longIntIn? ms)

end

/-- The compact text of a value whose whole numbers can be written. -/
def write? (v : Json) : Except NumeralError String :=
  match v.longInt? with
  | none => .ok v.write
  | some i => .error ⟨i⟩

/-! ## Members -/

/-- The value of the member called `name`; of several, the last. -/
def get? (name : String) : Json → Option Json
  | .object members => (members.reverse.find? fun m => m.1 = name).map (·.2)
  | _ => none

end Json

end CodeFrame
