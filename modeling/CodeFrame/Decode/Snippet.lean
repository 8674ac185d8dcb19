import CodeFrame.Decode.Field

/-!
# Snippets in JSON

A snippet is an object with the members `source` (required), `line_start`, `origin`, `annotations`,
`title_annotation_pos` and `main_annotation_pos`, an annotation one with `severity` (required),
`code`, `label`, `start` and `end`. Members may come in any order, and of several with one name the
last counts. An annotation is checked when its object ends, and so is the snippet.
-/

namespace CodeFrame

namespace Decode

/-- The members of an annotation found so far. -/
structure AnnotationFields where
  severity : Option Severity := none
  code : Option String := none
  label : Option String := none
  start : Option Int := none
  stop : Option Int := none

namespace AnnotationFields

/-- How each member of an annotation is read. -/
def member : String → Option (AnnotationFields → Decoder AnnotationFields)
  | "severity" => some fun f v => do return { f with severity := some (← word Severity.ofWord? v) }
  | "code" => some fun f v => do return { f with code := ← textOrNull v }
  | "label" => some fun f v => do return { f with label := ← textOrNull v }
  | "start" => some fun f v => do return { f with start := ← wholeOrNull v }
  | "end" => some fun f v => do return { f with stop := ← wholeOrNull v }
  | _ => none

/-- The annotation with these members. -/
def finish (f : AnnotationFields) : Except DecodeError Annotation := do
  let severity ← required "severity" f.severity
  match Anchor.ofOffsets f.start f.stop with
  | .ok anchor => return { severity, code := f.code, label := f.label, anchor }
  | .error e => throw (.mismatch (.badAnchor e) [])

end AnnotationFields

/-- An annotation. -/
def annotation (m : Medium) : (room : Nat) → Decoder Annotation :=
  entering .object fun room => object (m.pass room) {} AnnotationFields.member AnnotationFields.finish

/-- Annotations. -/
def annotations (m : Medium) : (room : Nat) → Decoder (List Annotation) :=
  entering .array fun room => array <| annotation m room

/-- The members of a snippet found so far. -/
structure SnippetFields where
  source : Option String := none
  firstNumber : Int := 1
  origin : Option String := none
  annotations : List Annotation := []
  title : Option Int := none
  main : Option Int := none

namespace SnippetFields

/-- How each member of a snippet is read. -/
def member (m : Medium) (room : Nat) : String → Option (SnippetFields → Decoder SnippetFields)
  | "source" => some fun f v => do return { f with source := some (← text v) }
  | "line_start" => some fun f v => do return { f with firstNumber := ← whole v }
  | "origin" => some fun f v => do return { f with origin := ← textOrNull v }
  | "annotations" => some fun f v => do
    return { f with annotations := ← Decode.annotations m room v }
  | "title_annotation_pos" => some fun f v => do return { f with title := ← wholeOrNull v }
  | "main_annotation_pos" => some fun f v => do return { f with main := ← wholeOrNull v }
  | _ => none

/-- The snippet with these members. -/
def finish (f : SnippetFields) : Except DecodeError Snippet := do
  let source ← required "source" f.source
  let description : Description :=
    { source, firstNumber := f.firstNumber, origin := f.origin, annotations := f.annotations,
      title := f.title, main := f.main }
  match description.check with
  | .ok s => return s
  | .error e => throw (.mismatch (.badSnippet e) [])

end SnippetFields

/-- A snippet. -/
def snippet (m : Medium) : (room : Nat) → Decoder Snippet :=
  entering .object fun room =>
    object (m.pass room) {} (SnippetFields.member m room) SnippetFields.finish

end Decode

/-- The snippet that a JSON text describes, for a caller with `room` levels of recursion left. -/
def Snippet.load (room : Nat) (text : List Symbol) : Except DecodeError Snippet :=
  decodeText text (Decode.snippet .text room)

/-- The snippet that a JSON value describes, for a caller with `room` levels of recursion left. -/
def Snippet.ofJson (room : Nat) (v : Json) : Except DecodeError Snippet :=
  Decode.snippet .value room v.reading

end CodeFrame
