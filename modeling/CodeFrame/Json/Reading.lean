import CodeFrame.Json.Limits
import CodeFrame.Json.Token

/-!
# JSON as far as it can be read

A JSON text is read into a tree that keeps its first fault in its place: a container that the text
cuts off is not closed, and a place that wants a value and finds none is `broken`. Nothing after the
first such place is read. Whoever walks the tree in textual order meets problems in the order in
which the text shows them.
-/

namespace CodeFrame

/-- A JSON value as far as a text tells it. A string, and the name of a member, has no text if it is
not UTF-8. -/
inductive Reading
  | null
  | bool (b : Bool)
  | int (i : Int)
  /-- A whole number that no word holds. -/
  | wide (i : Int)
  | float (mantissa exponent : Int)
  /-- A number with a fraction or an exponent that no float holds. -/
  | overflow (mantissa exponent : Int)
  | str (s : Option String)
  | array (items : List Reading) (closed : Bool)
  | object (members : List (Option String × Reading)) (closed : Bool)
  | broken

/-- A value, and whether more than blanks follows it. -/
structure Document where
  value : Reading
  trailing : Bool

namespace Reading

/-- A whole number as a text has it. -/
def ofInt (i : Int) : Reading :=
  if fitsWord i then .int i else .wide i

/-- A number with a fraction or an exponent as a text has it. -/
def ofFloat (mantissa exponent : Int) : Reading :=
  if exceedsFloat mantissa exponent then .overflow mantissa exponent else .float mantissa exponent

/-- A container around the place being read, with what it holds so far, last first. -/
inductive Frame
  | array (items : List Reading)
  | object (members : List (Option String × Reading)) (name : Option String)

/-- What may come next. The frames are the containers around that place, innermost first. -/
inductive State
  /-- A value. -/
  | value (outer : List Frame)
  /-- The first item of an array, or its end. -/
  | arrayStart (outer : List Frame)
  /-- A comma after an item, or the end of the array. -/
  | afterItem (items : List Reading) (outer : List Frame)
  /-- The first member of an object, or its end. -/
  | objectStart (outer : List Frame)
  /-- A member. -/
  | memberStart (members : List (Option String × Reading)) (outer : List Frame)
  /-- The colon after a member's name. -/
  | afterName (members : List (Option String × Reading)) (name : Option String) (outer : List Frame)
  /-- A comma after a member, or the end of the object. -/
  | afterMember (members : List (Option String × Reading)) (outer : List Frame)
  /-- Nothing: the text's value is complete. -/
  | done (v : Reading)

/-- `v` in its place inside the innermost frame. -/
def put (v : Reading) : List Frame → State
  | [] => .done v
  | .array items :: outer => .afterItem (v :: items) outer
  | .object members name :: outer => .afterMember ((name, v) :: members) outer

/-- The text's value when `v` is the last that was read of it. -/
def wrap (v : Reading) : List Frame → Reading
  | [] => v
  | .array items :: outer => wrap (.array (v :: items).reverse false) outer
  | .object members name :: outer => wrap (.object ((name, v) :: members).reverse false) outer

/-- Starts a value. -/
def start? (outer : List Frame) : Token → Option State
  | .null => some (put .null outer)
  | .bool b => some (put (.bool b) outer)
  | .int i => some (put (ofInt i) outer)
  | .float m e => some (put (ofFloat m e) outer)
  | .str s => some (put (.str s) outer)
  | .openArray => some (.arrayStart outer)
  | .openObject => some (.objectStart outer)
  | _ => none

/-- Starts a member. -/
def named? (members : List (Option String × Reading)) (outer : List Frame) : Token → Option State
  | .str s => some (.afterName members s outer)
  | _ => none

/-- The state after a token; none if the token does not fit. -/
def State.next? : State → Token → Option State
  | .value outer, t => start? outer t
  | .arrayStart outer, .closeArray => some (put (.array [] true) outer)
  | .arrayStart outer, t => start? (.array [] :: outer) t
  | .afterItem items outer, .closeArray => some (put (.array items.reverse true) outer)
  | .afterItem items outer, .comma => some (.value (.array items :: outer))
  | .objectStart outer, .closeObject => some (put (.object [] true) outer)
  | .objectStart outer, t => named? [] outer t
  | .memberStart members outer, t => named? members outer t
  | .afterName members name outer, .colon => some (.value (.object members name :: outer))
  | .afterMember members outer, .closeObject => some (put (.object members.reverse true) outer)
  | .afterMember members outer, .comma => some (.memberStart members outer)
  | _, _ => none

/-- The text's value when the text ends in a state. -/
def State.cut : State → Reading
  | .value [] => .broken
  | .value (.array items :: outer) => wrap (.array items.reverse false) outer
  | .value (.object members _ :: outer) => wrap (.object members.reverse false) outer
  | .arrayStart outer => wrap (.array [] false) outer
  | .afterItem items outer => wrap (.array items.reverse false) outer
  | .objectStart outer => wrap (.object [] false) outer
  | .memberStart members outer => wrap (.object members.reverse false) outer
  | .afterName members _ outer => wrap (.object members.reverse false) outer
  | .afterMember members outer => wrap (.object members.reverse false) outer
  | .done v => v

/-- The text's value when a token does not fit. Where a value was wanted, a broken one stands, but not
where the array ends behind a comma. -/
def State.refuse : State → Token → Reading
  | .value (.array items :: outer), .closeArray => (State.value (.array items :: outer)).cut
  | .value outer, _ => wrap .broken outer
  | s, _ => s.cut

/-- Reads on from a state. -/
def run : State → List Token → Document
  | .done v, ts => ⟨v, !ts.isEmpty⟩
  | s, [] => ⟨s.cut, false⟩
  | s, t :: ts =>
    match s.next? t with
    | some s' => run s' ts
    | none => ⟨s.refuse t, false⟩

end Reading

/-- A JSON text as far as it can be read. -/
def Document.read (text : List Symbol) : Document :=
  Reading.run (.value []) (tokens text)

end CodeFrame
