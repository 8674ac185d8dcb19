import CodeFrame.Snippet

/-!
# What can be wrong with a description in JSON

A text has a surrogate, is malformed or nested too deeply, or holds a string that is not UTF-8 where
one is wanted, or describes a value of the wrong shape. Only the last has a place, the path from the
root of the value.
-/

namespace CodeFrame

/-- A step into a JSON value. -/
inductive PathStep
  | member (name : String)
  | item (index : Nat)
  deriving DecidableEq, Repr

/-- A step as messages write it. -/
def PathStep.text : PathStep → String
  | member name => "." ++ name
  | item i => "[" ++ toString i ++ "]"

/-- The kinds of JSON values. -/
inductive Kind
  | null
  | bool
  | int
  | float
  | str
  | array
  | object
  deriving DecidableEq, Repr

/-- A kind as messages write it. -/
def Kind.word : Kind → String
  | null => "null"
  | bool => "bool"
  | int => "int"
  | float => "float"
  | str => "str"
  | array => "array"
  | object => "object"

/-- The shapes that a description asks for. -/
inductive Shape
  | str
  | int
  | array
  | object
  | strOrNull
  | intOrNull
  deriving DecidableEq, Repr

/-- A shape as messages write it. -/
def Shape.text : Shape → String
  | str => "str"
  | int => "int"
  | array => "array"
  | object => "object"
  | strOrNull => "str | null"
  | intOrNull => "int | null"

/-- How a value fails to describe what it should. -/
inductive Mismatch
  | expected (shape : Shape) (got : Kind)
  /-- The member that tells variants apart is no string. -/
  | tagExpected
  /-- The member that tells variants apart names none. -/
  | unknownTag (word : String)
  | unknownWord (word : String)
  | missing (field : String)
  | wrongLength (length : Nat)
  /-- A whole number has too many digits. -/
  | intOutOfRange
  /-- A number exceeds the floats. -/
  | numberOutOfRange
  | badAnchor (e : AnchorError)
  | badSnippet (e : SnippetError)
  deriving DecidableEq, Repr

/-- The wording of a mismatch, without its place. -/
def Mismatch.text : Mismatch → String
  | expected shape got => "Expected `" ++ shape.text ++ "`, got `" ++ got.word ++ "`"
  | tagExpected => "Expected `str`"
  | unknownTag w => "Invalid value '" ++ w ++ "'"
  | unknownWord w => "Invalid enum value " ++ quoted w
  | missing field => "Object missing required field `" ++ field ++ "`"
  | wrongLength n => "Expected `array` of length " ++ toString n
  | intOutOfRange => "Integer value out of range"
  | numberOutOfRange => "Number out of range"
  | badAnchor e => e.message
  | badSnippet e => e.message

/-- Why a text or a value describes nothing. -/
inductive DecodeError
  | mismatch (cause : Mismatch) (path : List PathStep)
  | malformed
  | notUtf8
  /-- A surrogate in the text, which has no bytes to be read. -/
  | loneSurrogate
  /-- Containers stand in each other deeper than a reader has room for. -/
  | tooDeep
  deriving DecidableEq, Repr

namespace DecodeError

/-- A path as messages write it; the root is not mentioned. -/
def pathText : List PathStep → String
  | [] => ""
  | path => " - at `$" ++ String.join (path.map PathStep.text) ++ "`"

/-- The wording of a decode error. -/
def message : DecodeError → String
  | mismatch cause path => cause.text ++ pathText path
  | malformed => "malformed JSON"
  | notUtf8 => "text is not UTF-8"
  | loneSurrogate => "text has a surrogate"
  | tooDeep => "maximum recursion depth exceeded while deserializing an object"

/-- The error of a value, seen from the container that holds it. -/
def inside (step : PathStep) : DecodeError → DecodeError
  | mismatch cause path => mismatch cause (step :: path)
  | e => e

end DecodeError

end CodeFrame
