import CodeFrame.Session.Basic

/-!
# Scripts

Commands for a session, and the reports of what each of them did. A `block` draws the warnings of
this library on a console while its commands run, and puts the handler back when it is left, however
it is left. An error that leaves a block with a snippet is drawn on the block's console.
-/

namespace CodeFrame

/-- A wish to draw warnings or not. -/
inductive Setting
  | flag (b : Bool)
  | number (i : Int)
  | word (w : String)
  deriving DecidableEq, Repr

/-- The word of a setting, in lower case. Only the letters of ASCII have to be lowered, as for
`Console.ofColor`. -/
def Setting.text : Setting → String
  | flag b => if b then "true" else "false"
  | number i => toString i
  | word w => w.toLower

/-- Does a block draw warnings? A wish comes first, then the environment; `auto` asks for a terminal. -/
def wantsBridge (pretty : Option Setting) (env : Environment) : Bool :=
  let setting := ((pretty.or (env.pretty.map .word)).getD (.word "auto")).text
  setting = "true" || setting = "1" ||
    (setting = "auto" && (env.errorIsTerminal || env.outputIsTerminal))

/-- A command. -/
inductive Command
  | install (handle : String) (emitter : Emitter) (ownOnly : Bool)
  | uninstall (handle : String)
  | warn (w : Warning) (site : Site) (module : String) (registry : Option String)
  | deliver (n : Notice) (c : Category) (site : Site)
  | addFilter (f : Filter)
  | layOut (s : Snippet) (o : LayoutOptions)
  | layOutBody (place : Place) (s : Snippet)
  | emit (emitter : Emitter) (s : Snippet)
  /-- A command that is refused before it does anything. -/
  | refuse (label : String) (failure : Failure)
  /-- Leaves the blocks around it. -/
  | raise (failure : Failure)
  /-- Commands with their warnings drawn. A block inside another one that propagates has no report
  of its own in the end, and a failure that leaves it leaves the block around it too. -/
  | block (color : Option String) (pretty : Option Setting) (propagate : Bool) (body : List Command)

/-- The name of a command in reports. -/
def Command.label : Command → String
  | install .. => "install"
  | uninstall .. => "uninstall"
  | warn .. => "warn"
  | deliver .. => "showwarning"
  | addFilter .. => "filter"
  | layOut .. => "format"
  | layOutBody .. => "body"
  | emit .. => "emit"
  | refuse label _ => label
  | raise .. => "raise"
  | block .. => "with"

/-- What a command answers. -/
inductive Outcome
  | done
  | rowCount (n : Nat)
  | rows (rows : List DisplayLine)
  | entered (console : Console)
  | failed (failure : Failure) (message : String)

/-- What a command did: its outcome, and what was written and received since the last report. -/
structure Report where
  label : String
  outcome : Outcome
  written : List (String × String)
  received : List Record
  isBridged : Bool

/-- The reports of commands, the failure that left them, and the session afterwards. -/
structure Run where
  reports : List Report
  escaped : Option Failure
  session : Session

namespace Session

/-- A report, and the session with nothing written or received since. -/
def report (label : String) (outcome : Outcome) (σ : Session) : Report × Session :=
  ({ label, outcome, written := σ.written, received := σ.received
     isBridged := decide (σ.handler ≠ .base) },
    { σ with written := [], received := [] })

/-- The outcome of a failure: its text is made in the session that it is reported in. -/
def failed (failure : Failure) (σ : Session) : Outcome × Session :=
  match (failureText failure).run σ with
  | (.ok m, σ) => (.failed failure m, σ)
  | (.error _, σ) => (.failed failure "", σ)

/-- Runs a step and reports on it. -/
def reported (label : String) (step : Step Outcome) (σ : Session) : Run :=
  match step.run σ with
  | (.ok outcome, σ) =>
    let (r, σ) := report label outcome σ
    ⟨[r], none, σ⟩
  | (.error failure, σ) =>
    let (outcome, σ) := failed failure σ
    let (r, σ) := report label outcome σ
    ⟨[r], none, σ⟩

/-- What leaves a block that was left by a failure. An error that carries a snippet is drawn first;
if that fails, the failure is the new one. -/
def leaving (c : Console) : Option Failure → Session → Option Failure × Session
  | some (.diagnostic s), σ =>
    match (printError c s).run σ with
    | (.ok (), σ) => (some (.diagnostic s), σ)
    | (.error failure, σ) => (some failure, σ)
  | failure, σ => (failure, σ)

/-- The report on a block that has been left. -/
def closed (reports : List Report) (escaped : Option Failure) (σ : Session) : Run :=
  let (outcome, σ) := match escaped with
    | none => (.done, σ)
    | some failure => failed failure σ
  let (r, σ) := report "with" outcome σ
  ⟨reports ++ [r], none, σ⟩

end Session

/-- What a command other than `raise` and `block` does. -/
def Command.step : Command → Step Outcome
  | install handle e ownOnly => do
    Session.install handle e ownOnly
    return .done
  | uninstall handle => do
    Session.uninstall handle
    return .done
  | warn w site module registry => do
    Session.warn w site module registry
    return .done
  | deliver n c site => do
    Session.deliver n c site
    return .done
  | addFilter f => do
    Session.addFilter f
    return .done
  | layOut s o => do return .rowCount (← Session.layOut s o).length
  | layOutBody p s => do return .rows (← Session.layOutBody p s default)
  | emit e s => do
    Session.emit e s
    return .done
  | refuse _ failure => throw failure
  | raise failure => throw failure
  | block .. => return .done

mutual

/-- Runs a command, inside a block or not. -/
def Command.run (env : Environment) (inside : Bool) : Command → Session → Run
  | .raise failure, σ => ⟨[], some failure, σ⟩
  | .block color pretty propagate body, σ =>
    let console := Console.ofColor color env
    let wants := wantsBridge pretty env
    let entry := σ.handler
    let (r, σ) := Session.report "enter" (.entered console)
      (if wants then Session.bridged { console } true σ else σ)
    let inner := Command.runAll env true body σ
    let (escaped, σ) := Session.leaving console inner.escaped inner.session
    let σ := if wants then { σ with handler := entry } else σ
    if inside && propagate then ⟨r :: inner.reports, escaped, σ⟩
    else Session.closed (r :: inner.reports) escaped σ
  | c, σ => Session.reported c.label c.step σ

/-- Runs commands in order, up to one whose failure escapes. -/
def Command.runAll (env : Environment) (inside : Bool) : List Command → Session → Run
  | [], σ => ⟨[], none, σ⟩
  | c :: cs, σ =>
    let first := Command.run env inside c σ
    match first.escaped with
    | some failure => ⟨first.reports, some failure, first.session⟩
    | none =>
      let rest := Command.runAll env inside cs first.session
      ⟨first.reports ++ rest.reports, rest.escaped, rest.session⟩

end

end CodeFrame
