import CodeFrame.Session.Basic

/-!
# Presenting

One entry for a snippet, a display list, or the JSON text of a snippet.
-/

namespace CodeFrame

/-- What can be presented. -/
inductive Presentable
  | snippet (s : Snippet)
  | rows (rows : List DisplayLine)
  | text (symbols : List Symbol)

namespace Session

/-- The report on a text that describes no snippet. -/
def decodeReport (th : Theme) (e : DecodeError) : StyledText :=
  (({} : StyledText).append "error".toList th.errorHeader).append
    (": invalid snippet: " ++ e.message).toList ""

/-- Is an error reported? Nothing is said about a text that is not UTF-8, has a surrogate or is nested too
deeply. -/
def isReported : DecodeError → Bool
  | .mismatch _ _ => true
  | .malformed => true
  | .notUtf8 => false
  | .loneSurrogate => false
  | .tooDeep => false

/-- The snippet that a text describes, where `room` levels of recursion are left. If there is none, the step
fails, after a report on most errors. -/
def load (room : Nat) (e : Emitter) (symbols : List Symbol) : Step Snippet := do
  match Snippet.load room symbols with
  | .ok s => return s
  | .error err =>
    if isReported err then print e.console (decodeReport e.theme err)
    throw (.decode err)

/-- Lays a snippet out, draws it, and gives its rows. -/
def presentSnippet (e : Emitter) (s : Snippet) : Step (List DisplayLine) := do
  let rows ← layOut s e.options
  emitRows e rows
  return rows

/-- Lays out what has to be laid out and draws it. A text is read with `room` levels of recursion left. -/
def present (room : Nat) (e : Emitter) : Presentable → Step (List DisplayLine)
  | .rows rows => do
    emitRows e rows
    return rows
  | .snippet s => presentSnippet e s
  | .text symbols => do presentSnippet e (← load room e symbols)

end Session

end CodeFrame
