import CodeFrame.Decode.Snippet
import CodeFrame.Warning.Filter
import CodeFrame.Warning.Handler

/-!
# Sessions

The state that warnings live in: the current handler, the filters and what they remember, what has been
written and what has reached the base handler. Laying a snippet out raises a warning for each annotation
that is left out; the warning goes through the filters to the current handler like any other.

* `Session.layOut`, `Session.emit`: a snippet laid out, and drawn;
* `Session.warn`: a warning raised; `Session.deliver`: one handed to the current handler;
* `Session.install`, `Session.uninstall`: bridges put in place and taken away.
-/

namespace CodeFrame

/-- How a step fails. -/
inductive Failure
  | severity (e : UnknownSeverity)
  | anchor (e : AnchorError)
  | snippet (e : SnippetError)
  | options (e : LayoutOptions.Error)
  | header (e : HeaderError)
  | decode (e : DecodeError)
  | draw (e : DrawError)
  /-- A number in a display list that cannot be written. -/
  | numeral (e : NumeralError)
  /-- There is no bridge, or no emitter, of that name. -/
  | unknownName (name : String)
  /-- A warning on a line that no word of 32 bits holds. -/
  | line (line : Int)
  /-- A warning that a filter turns into an error. -/
  | warning (w : Warning)
  /-- An error that carries a snippet. -/
  | diagnostic (s : Snippet)
  | runtime (message : String)
  deriving DecidableEq

/-- A notice that reached the base handler. The warnings that laying out raises have no site. -/
structure Record where
  notice : Notice
  category : Category
  message : String
  site : Option Site
  deriving DecidableEq

/-- The state of a session. -/
structure Session where
  handler : Handler := .base
  filters : Filters := {}
  /-- For each bridge, the handler it was installed over; the latest first. -/
  handles : List (String × Handler) := []
  /-- What was written, and to which stream. -/
  written : List (String × String) := []
  received : List Record := []
  /-- The most characters that can be held at a time. -/
  memory : Nat

/-- Where warnings about a snippet come from that is laid out as a whole. -/
def Place.assembly : Place :=
  ⟨"snipframe.assembly", 41, some "snipframe.assembly"⟩

/-- A layout warning as filters see it. -/
def LayoutWarning.occurrence (p : Place) (w : LayoutWarning) : Occurrence :=
  ⟨.layout, w.message, p⟩

/-- A step of a session. What it did before it failed stays done. -/
abbrev Step (α : Type) := ExceptT Failure (StateM Session) α

namespace Session

/-! ## Writing and recording -/

/-- Writes a text to a console. -/
def print (c : Console) (t : StyledText) : Step Unit :=
  modify fun σ => { σ with written := σ.written ++ [(c.stream, c.write t)] }

/-- Writes a text to a console, if all its numbers can be written. -/
def printWritten (c : Console) (t? : Except NumeralError StyledText) : Step Unit :=
  match t? with
  | .ok t => print c t
  | .error e => throw (.numeral e)

/-- Hands a notice to the base handler. -/
def record (r : Record) : Step Unit :=
  modify fun σ => { σ with received := σ.received ++ [r] }

/-! ## Laying out -/

/-- Hands a layout warning to the current handler. -/
def deliverLayout (w : LayoutWarning) (c : Category) (site : Option Site) : Step Unit := do
  match (← get).handler.receiver? (.warning (.layout w)) c with
  | none => record ⟨.warning (.layout w), c, w.message, site⟩
  | some e => print e.console (w.draw e.theme)

/-- What becomes of a warning. The filters may remember it. -/
def ask (o : Occurrence) : Step Verdict :=
  modifyGet fun σ => ((σ.filters.ask o).1, { σ with filters := (σ.filters.ask o).2 })

/-- Raises a warning about an annotation that was left out. -/
def warnLayout (p : Place) (w : LayoutWarning) : Step Unit := do
  match ← ask (w.occurrence p) with
  | .shown => deliverLayout w .layout none
  | .dropped => return
  | .raised => throw (.warning (.layout w))

/-- Raises warnings in order, up to the first that fails. -/
def warnAll (p : Place) : List LayoutWarning → Step Unit
  | [] => return
  | w :: ws => do
    warnLayout p w
    warnAll p ws

/-- The display list of a snippet. -/
def layOut (s : Snippet) (o : LayoutOptions) : Step (List DisplayLine) := do
  match s.display o with
  | .error e => throw (.header e)
  | .ok rows =>
    warnAll .assembly s.warnings
    return rows

/-- The body of a snippet, for a caller at `p`. -/
def layOutBody (p : Place) (s : Snippet) (o : LayoutOptions) : Step (List DisplayLine) := do
  warnAll p s.warnings
  return s.body o

/-- The frame of a display list. -/
def draw (th : Theme) (g : Glyphs) (rows : List DisplayLine) : Step StyledText := do
  match drawRows th g (← get).memory rows with
  | .ok t => return t
  | .error e => throw (.draw e)

/-- The frame of a snippet in its plainest form. -/
def frame (s : Snippet) : Step StyledText := do
  draw {} {} (← layOut s default)

/-- Draws a display list on the emitter's console. -/
def emitRows (e : Emitter) (rows : List DisplayLine) : Step Unit := do
  print e.console (← draw e.theme e.glyphs rows)

/-- Lays a snippet out and draws it. -/
def emit (e : Emitter) (s : Snippet) : Step Unit := do
  emitRows e (← layOut s e.options)

/-! ## Warnings -/

/-- The text of a warning. A diagnostic warning lays its snippet out for it. -/
def warningText : Warning → Step String
  | .layout w => return w.message
  | .diagnostic s => do return (← frame s).plain
  | .plain _ m => return m

/-- The text of a notice. -/
def noticeText : Notice → Step String
  | .text m => return m
  | .warning w => warningText w

/-- Draws a notice. -/
def drawNotice (c : Category) (site : Site) (e : Emitter) : Notice → Step Unit
  | .warning (.layout w) => printWritten e.console (w.draw? e.theme)
  | .warning (.diagnostic s) => emit e s
  | .warning (.plain _ m) => printWritten e.console ((noticeLine? c m site).map e.console.prepare)
  | .text m => printWritten e.console ((noticeLine? c m site).map e.console.prepare)

/-- Hands a notice to the base handler, which asks for its text. -/
def receive (c : Category) (site : Site) (n : Notice) : Step Unit := do
  record ⟨n, c, ← noticeText n, some site⟩

/-- Hands a notice to the current handler. -/
def deliver (n : Notice) (c : Category) (site : Site) : Step Unit := do
  match (← get).handler.receiver? n c with
  | some e => drawNotice c site e n
  | none => receive c site n

/-- Can a warning be raised on a line with this number? -/
def isLineNumber (line : Int) : Bool :=
  -Nat.pow 2 31 ≤ line && line < Nat.pow 2 31

/-- Raises a warning in a module that may have a registry. The warning's text is made before the filters
are asked. -/
def warn (w : Warning) (site : Site) (module : String) (registry : Option String) : Step Unit := do
  unless isLineNumber site.line do throw (.line site.line)
  let text ← warningText w
  match ← ask ⟨w.category, text, module, site.line, registry⟩ with
  | .shown => deliver (.warning w) w.category site
  | .dropped => return
  | .raised => throw (.warning w)

/-- Adds a filter that comes before all others. -/
def addFilter (f : Filter) : Step Unit :=
  modify fun σ => { σ with filters := σ.filters.add f }

/-! ## Bridges -/

/-- The session with a bridge over its current handler. -/
def bridged (e : Emitter) (ownOnly : Bool) (σ : Session) : Session :=
  { σ with handler := .bridge e ownOnly σ.handler }

/-- Installs a bridge and remembers under `handle` what it was installed over. -/
def install (handle : String) (e : Emitter) (ownOnly : Bool) : Step Unit :=
  modify fun σ => { bridged e ownOnly σ with handles := (handle, σ.handler) :: σ.handles }

/-- Puts the handler back that `handle` remembers, whatever the current one is. -/
def uninstall (handle : String) : Step Unit := do
  match (← get).handles.lookup handle with
  | some h => modify fun σ => { σ with handler := h }
  | none => throw (.unknownName handle)

/-! ## Errors -/

/-- The text of a failure. -/
def failureText : Failure → Step String
  | .severity e => return e.message
  | .anchor e => return e.message
  | .snippet e => return e.message
  | .options e => return e.message
  | .header e => return e.message
  | .decode e => return e.message
  | .draw e => return e.message
  | .numeral e => return e.message
  | .unknownName name => return "nothing is called " ++ quoted name
  | .line n => return "line number " ++ toString n ++ " out of range"
  | .warning w => warningText w
  | .diagnostic s => do return (← frame s).plain
  | .runtime m => return m

/-- Draws an error that carries a snippet. -/
def printError (c : Console) (s : Snippet) : Step Unit := do
  print c (← frame s)

end Session

end CodeFrame
