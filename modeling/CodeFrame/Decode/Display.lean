import CodeFrame.Decode.Field
import CodeFrame.Display.Line

/-!
# Display lists in JSON

A display list is an object whose member `body` lists its rows. The member `kind` of a row, wherever
it stands, says which other members the row has; all of them are required. Members before it are
first passed over and read once the kind is known.
-/

namespace CodeFrame

/-- The variants of a row. -/
inductive RowKind
  | raw
  | blank
  | source
  | caption
  | fold
  deriving DecidableEq, Repr

namespace RowKind

/-- The word for a variant. -/
def word : RowKind → String
  | raw => "raw"
  | blank => "empty"
  | source => "source"
  | caption => "annotation"
  | fold => "fold"

/-- The variant that a word names. -/
def ofWord? (w : String) : Option RowKind :=
  [raw, blank, source, caption, fold].find? fun k => k.word = w

@[simp] theorem ofWord?_word (k : RowKind) : ofWord? k.word = some k := by
  cases k <;> decide

end RowKind

/-! ## Writing -/

/-- A row as JSON: its kind, then its other members. -/
def DisplayLine.toJson : DisplayLine → Json
  | raw text => .object [("kind", .str RowKind.raw.word), ("text", .str text)]
  | blank => .object [("kind", .str RowKind.blank.word)]
  | source number marks content =>
    .object [("kind", .str RowKind.source.word), ("lineno", .int number),
      ("inline_marks", .array (marks.map fun m => .str m.word)), ("content", .str content)]
  | caption c =>
    .object [("kind", .str RowKind.caption.word),
      ("inline_marks", .array (c.marks.map fun m => .str m.word)),
      ("range", .array [.int c.first, .int c.stop]), ("label", .str c.label),
      ("annotation_type", .str c.kind.word)]
  | fold => .object [("kind", .str RowKind.fold.word)]

/-- A display list as JSON. -/
def displayJson (rows : List DisplayLine) : Json :=
  .object [("body", .array (rows.map DisplayLine.toJson))]

/-- The JSON text of a display list. -/
def encodeDisplay (rows : List DisplayLine) : Except NumeralError String :=
  (displayJson rows).write?

/-! ## Reading -/

namespace Decode

/-- The word in a `kind` member. Any other value is read to its end before it is refused. -/
def tagWord (room : Nat) : Decoder String
  | .str s => strText s
  | v => do
    skim v room
    throw (.mismatch .tagExpected [])

/-- The variant that a `kind` member names. -/
def tag (room : Nat) : Decoder RowKind := fun v => do
  let w ← tagWord room v
  match RowKind.ofWord? w with
  | some k => return k
  | none => throw (.mismatch (.unknownTag w) [])

/-- The variant that the first `kind` member names; the members before it are passed over. -/
def findTag (room : Nat) (closed : Bool) :
    List (Option String × Reading) → Except DecodeError RowKind
  | [] => do
    closing closed
    throw (.mismatch (.missing "kind") [])
  | (name, v) :: ms =>
    if name = some "kind" then within (.member "kind") (tag room v)
    else do
      skim v room
      findTag room closed ms

/-- A `kind` member, when the variant is known to be `k`. -/
def knownTag (k : RowKind) (room : Nat) : Decoder Unit := fun v => do
  let w ← tagWord room v
  unless w = k.word do throw (.mismatch (.unknownTag w) [])

/-- The members of a row found so far. -/
structure RowFields where
  text : Option String := none
  number : Option Int := none
  marks : Option (List Mark) := none
  content : Option String := none
  range : Option (Int × Int) := none
  label : Option String := none
  captionKind : Option CaptionKind := none

/-- The marks of a row. -/
def marks : (room : Nat) → Decoder (List Mark) :=
  entering .array fun _ => array (word Mark.ofWord?)

/-- The range of a caption. -/
def range : (room : Nat) → Decoder (Int × Int) :=
  entering .array fun _ => pair whole

namespace RowFields

/-- How each member of a row of variant `k` is read. -/
def member (k : RowKind) (room : Nat) (name : String) : Option (RowFields → Decoder RowFields) :=
  if name = "kind" then some fun f v => do
    knownTag k room v
    return f
  else match k, name with
    | .raw, "text" => some fun f v => do return { f with text := some (← Decode.text v) }
    | .source, "lineno" => some fun f v => do return { f with number := some (← whole v) }
    | .source, "inline_marks" => some fun f v => do
      return { f with marks := some (← Decode.marks room v) }
    | .source, "content" => some fun f v => do return { f with content := some (← Decode.text v) }
    | .caption, "inline_marks" => some fun f v => do
      return { f with marks := some (← Decode.marks room v) }
    | .caption, "range" => some fun f v => do
      return { f with range := some (← Decode.range room v) }
    | .caption, "label" => some fun f v => do return { f with label := some (← Decode.text v) }
    | .caption, "annotation_type" => some fun f v => do
      return { f with captionKind := some (← word CaptionKind.ofWord? v) }
    | _, _ => none

/-- The row of variant `k` with these members. -/
def finish (k : RowKind) (f : RowFields) : Except DecodeError DisplayLine :=
  match k with
  | .raw => do return .raw (← required "text" f.text)
  | .blank => return .blank
  | .source => do
    let number ← required "lineno" f.number
    let marks ← required "inline_marks" f.marks
    let content ← required "content" f.content
    return .source number marks content
  | .caption => do
    let marks ← required "inline_marks" f.marks
    let (first, stop) ← required "range" f.range
    let label ← required "label" f.label
    let kind ← required "annotation_type" f.captionKind
    return .caption { marks, first, stop, label, kind }
  | .fold => return .fold

end RowFields

/-- The variant of a row. -/
def variant (room : Nat) : Decoder RowKind
  | .object ms closed => findTag room closed ms
  | v => .error (v.unlike .object)

/-- A row. -/
def row : (room : Nat) → Decoder DisplayLine :=
  entering .object fun room v => do
    let k ← variant room v
    object (fun v => skim v room) {} (RowFields.member k room) (RowFields.finish k) v

/-- Rows. -/
def rows : (room : Nat) → Decoder (List DisplayLine) :=
  entering .array fun room => array (row room)

/-- A display list. -/
def display : (room : Nat) → Decoder (List DisplayLine) :=
  entering .object fun room =>
    object (fun v => skim v room) []
      (fun name => if name = "body" then some fun _ => rows room else none) .ok

end Decode

/-- The display list that a JSON text describes, for a caller with `room` levels of recursion left. -/
def decodeDisplay (room : Nat) (text : List Symbol) : Except DecodeError (List DisplayLine) :=
  decodeText text (Decode.display room)

end CodeFrame
