import CodeFrame.Decode.Problem
import CodeFrame.Json.Value

/-!
# Reading values of a given shape

A decoder walks a reading in the order of the text and stops at the first thing wrong, be it a
mismatch or the place where the text breaks off. A value of the wrong kind is refused before it is
looked into. The same decoders serve JSON values, which have no faults (`Json.reading`), but in a value
nothing is read that is of no interest (`Decode.Medium`).

Every container that a decoder enters takes a level of the recursion that its caller has left, and
there may be no level left to take. This is the `room` of a decoder (`Decode.entering`).
-/

namespace CodeFrame

/-- Finds a value in a reading, or the first thing wrong. -/
abbrev Decoder (α : Type) := Reading → Except DecodeError α

/-- The error of a value, seen from the container that holds it. -/
def within {α : Type} (step : PathStep) (r : Except DecodeError α) : Except DecodeError α :=
  r.mapError (DecodeError.inside step)

namespace Reading

/-- The kind of a value, if it is one: a broken value is none, nor is a number that exceeds the floats.
A whole number that no word holds counts as a float. -/
def kind : Reading → Except DecodeError Kind
  | null => .ok .null
  | bool _ => .ok .bool
  | int _ => .ok .int
  | wide i => if exceedsFloat i 0 then .error (.mismatch .numberOutOfRange []) else .ok .float
  | float _ _ => .ok .float
  | overflow _ _ => .error (.mismatch .numberOutOfRange [])
  | str _ => .ok .str
  | array _ _ => .ok .array
  | object _ _ => .ok .object
  | broken => .error .malformed

/-- Does a container of kind `k` start here? -/
def opens (k : Kind) : Reading → Bool
  | array _ _ => k = .array
  | object _ _ => k = .object
  | _ => false

/-- The error of a value that has not the wanted shape. -/
def unlike (shape : Shape) (v : Reading) : DecodeError :=
  match v.kind with
  | .ok k => .mismatch (.expected shape k) []
  | .error e => e

end Reading

namespace Decode

/-! ## Scalars -/

/-- A string's text. -/
def strText : Option String → Except DecodeError String
  | some s => .ok s
  | none => .error .notUtf8

/-- A string. -/
def text : Decoder String
  | .str s => strText s
  | v => .error (v.unlike .str)

/-- A whole number that no word holds. -/
def wideInt (i : Int) : Except DecodeError Int :=
  if fitsText i then .ok i else .error (.mismatch .intOutOfRange [])

/-- A whole number. -/
def whole : Decoder Int
  | .int i => .ok i
  | .wide i => wideInt i
  | v => .error (v.unlike .int)

/-- A string or `null`. -/
def textOrNull : Decoder (Option String)
  | .null => .ok none
  | .str s => (strText s).map some
  | v => .error (v.unlike .strOrNull)

/-- A whole number or `null`. -/
def wholeOrNull : Decoder (Option Int)
  | .null => .ok none
  | .int i => .ok (some i)
  | .wide i => (wideInt i).map some
  | v => .error (v.unlike .intOrNull)

/-- One of the words that `ofWord?` knows. -/
def word {α : Type} (ofWord? : String → Option α) : Decoder α := fun v => do
  let w ← text v
  match ofWord? w with
  | some a => return a
  | none => throw (.mismatch (.unknownWord w) [])

/-! ## Any value -/

/-- The end of a container. -/
def closing (closed : Bool) : Except DecodeError Unit :=
  if closed then .ok () else .error .malformed

mutual

/-- Reads a value of any shape to its end, with `room` containers allowed inside each other. Its
strings need not be UTF-8. -/
def skim : Reading → (room : Nat) → Except DecodeError Unit
  | .array _ _, 0 => .error .tooDeep
  | .object _ _, 0 => .error .tooDeep
  | .array items closed, room + 1 => do
    skimAll items room
    closing closed
  | .object members closed, room + 1 => do
    skimMembers members room
    closing closed
  | .broken, _ => .error .malformed
  | _, _ => .ok ()

/-- Reads `items` one after the other. -/
def skimAll : List Reading → (room : Nat) → Except DecodeError Unit
  | [], _ => .ok ()
  | v :: vs, room => do
    skim v room
    skimAll vs room

/-- Reads the values of `members` one after the other. -/
def skimMembers : List (Option String × Reading) → (room : Nat) → Except DecodeError Unit
  | [], _ => .ok ()
  | (_, v) :: ms, room => do
    skim v room
    skimMembers ms room

end

/-- Where a reading comes from. -/
inductive Medium
  /-- A text, which is read to the end of every value. -/
  | text
  /-- A value that is at hand, of which only what is of interest is looked at. -/
  | value
  deriving DecidableEq, Repr

/-- Passes over a value that is of no interest. -/
def Medium.pass : Medium → (room : Nat) → Decoder Unit
  | text, room => fun v => skim v room
  | value, _ => fun _ => .ok ()

/-! ## Containers -/

/-- Reads a container of kind `k`, which takes one level of `room`: `d` is given what is left inside. -/
def entering {α : Type} (k : Kind) (d : (room : Nat) → Decoder α) : (room : Nat) → Decoder α
  | 0 => fun v => if v.opens k then .error .tooDeep else d 0 v
  | room + 1 => d room

/-- Items that follow each other from index `i` on. -/
def itemsFrom {α : Type} (item : Decoder α) (i : Nat) : List Reading → Except DecodeError (List α)
  | [] => .ok []
  | v :: vs => do
    let a ← within (.item i) (item v)
    return a :: (← itemsFrom item (i + 1) vs)

/-- An array of any length. -/
def array {α : Type} (item : Decoder α) : Decoder (List α)
  | .array items closed => do
    let as ← itemsFrom item 0 items
    closing closed
    return as
  | v => .error (v.unlike .array)

/-- An array of two items. A third one is not looked at. -/
def pair {α : Type} (item : Decoder α) : Decoder (α × α)
  | .array (v :: w :: more) closed => do
    let a ← within (.item 0) (item v)
    let b ← within (.item 1) (item w)
    unless more.isEmpty do throw (.mismatch (.wrongLength 2) [])
    closing closed
    return (a, b)
  | .array few closed => do
    let _ ← itemsFrom item 0 few
    closing closed
    throw (.mismatch (.wrongLength 2) [])
  | v => .error (v.unlike .array)

/-- Members in order, each added to the fields found so far by the decoder that `member` gives for
its name; `pass` passes over the values of other members. -/
def members {σ : Type} (pass : Decoder Unit) (member : String → Option (σ → Decoder σ)) :
    σ → List (Option String × Reading) → Except DecodeError σ
  | fields, [] => .ok fields
  | fields, (name, v) :: ms => do
    match name.bind fun k => (member k).map fun d => (k, d) with
    | some (k, d) => members pass member (← within (.member k) (d fields v)) ms
    | none =>
      pass v
      members pass member fields ms

/-- An object: its members, its end, then what `finish` makes of the fields. -/
def object {σ α : Type} (pass : Decoder Unit) (start : σ)
    (member : String → Option (σ → Decoder σ)) (finish : σ → Except DecodeError α) : Decoder α
  | .object ms closed => do
    let fields ← members pass member start ms
    closing closed
    finish fields
  | v => .error (v.unlike .object)

/-- A field that must have been found. -/
def required {α : Type} (name : String) : Option α → Except DecodeError α
  | some a => .ok a
  | none => .error (.mismatch (.missing name) [])

end Decode

/-- What a document describes. What follows the value is noticed last. -/
def Document.decode {α : Type} (d : Document) (decoder : Decoder α) : Except DecodeError α := do
  let a ← decoder d.value
  if d.trailing then throw .malformed else return a

/-- What a text describes. It is read as UTF-8, so one with a surrogate is not read at all. -/
def decodeText {α : Type} (text : List Symbol) (decoder : Decoder α) : Except DecodeError α :=
  if text.any Symbol.isSurrogate then .error .loneSurrogate
  else (Document.read text).decode decoder

end CodeFrame
