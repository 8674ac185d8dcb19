import CodeFrame.Console
import CodeFrame.Render.Frame
import CodeFrame.Warning.Category

/-!
# Handlers

Who shows a warning. The base handler records it. A bridge draws it through its emitter, unless it is
foreign and the bridge draws only the warnings of this library: then it goes to the handler that the
bridge was installed over.
-/

namespace CodeFrame

/-- Lays snippets out and draws them on a console. -/
structure Emitter where
  console : Console := {}
  theme : Theme := {}
  glyphs : Glyphs := {}
  options : LayoutOptions := {}
  deriving DecidableEq

/-- A base handler, or a bridge over an earlier handler. -/
inductive Handler
  | base
  | bridge (emitter : Emitter) (ownOnly : Bool) (earlier : Handler)
  deriving DecidableEq

/-- Is this notice a warning that has a form of its own? -/
def Notice.isFramed : Notice → Bool
  | .warning (.layout _) => true
  | .warning (.diagnostic _) => true
  | _ => false

namespace Handler

/-- Does a bridge draw a notice of category `c`, or does it pass it on? -/
def draws (ownOnly : Bool) (n : Notice) (c : Category) : Bool :=
  n.isFramed || !ownOnly || c.isA (.plain .own)

/-- The emitter that draws a notice; none if the notice reaches the base handler. -/
def receiver? (n : Notice) (c : Category) : Handler → Option Emitter
  | base => none
  | bridge emitter ownOnly earlier =>
    if draws ownOnly n c then some emitter else earlier.receiver? n c

end Handler

/-- A layout warning as a bridge draws it: its text, then where the annotation starts and whose it
is, as far as that is known. -/
def LayoutWarning.draw (th : Theme) (w : LayoutWarning) : StyledText :=
  let head := (({} : StyledText).append "warning".toList th.warningHeader).append
    (": " ++ w.message).toList ""
  let source := (w.origin.filter (· ≠ "")).getD "<snippet>"
  let place := match w.offset with
    | some p => " @ offset " ++ toString p
    | none => ""
  if w.offset = none ∧ w.origin = none then head
  else (head.append "\n  --> ".toList th.gutter).append (source ++ place).toList th.location

/-- A layout warning that anyone may have made, as a bridge draws it. The offsets of a source have few
digits, but this one need not be of any source. -/
def LayoutWarning.draw? (th : Theme) (w : LayoutWarning) : Except NumeralError StyledText := do
  if let some p := w.offset then
    let _ ← numeral? p
  return w.draw th

/-- Any other notice as a bridge draws it: one line with its category and its site. A console may know
names of emoji and show an emoji for such a name between colons. Here the name is drawn as it is. -/
def noticeLine? (c : Category) (message : String) (site : Site) : Except NumeralError StyledText := do
  let place := site.file ++ ":" ++ (← numeral? site.line)
  return .ofString (c.name ++ ": " ++ message ++ " (" ++ place ++ ")") ""

end CodeFrame
