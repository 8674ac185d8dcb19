import CodeFrame.Proofs.Session.Bridges

/-!
# Who changes the handlers

Of all that can happen in a session, only installs, uninstalls and blocks change a handler. What is
shown, dropped, laid out, drawn or raised leaves the handlers alone, also where it fails
(`Session.KeepsHandlers`). So the handlers after a script can be told from these three commands
(`Command.rewire`), up to the failure that leaves it (`Command.escapes`), and a run leads to just these
handlers (`Session.runAll_wiring`).
-/

namespace CodeFrame

/-- The handlers of a session: the current one, and what each bridge was installed over, the latest
first. -/
structure Wiring where
  handler : Handler
  handles : List (String × Handler)
  deriving DecidableEq

/-! ## Scripts -/

mutual

/-- Does a failure leave this command, inside a block or not? -/
def Command.escapes (inside : Bool) : Command → Bool
  | raise _ => true
  | block _ _ propagate body => inside && propagate && escapesAny true body
  | _ => false

/-- Does a failure leave one of these commands? -/
def Command.escapesAny (inside : Bool) : List Command → Bool
  | [] => false
  | c :: cs => Command.escapes inside c || escapesAny inside cs

end

mutual

/-- The handlers after a command. A block with a bridge of its own puts the handler back that it found,
and keeps what its commands have remembered. -/
def Command.rewire (env : Environment) : Command → Wiring → Wiring
  | install handle e ownOnly, w =>
    ⟨.bridge e ownOnly w.handler, (handle, w.handler) :: w.handles⟩
  | uninstall handle, w => { w with handler := (w.handles.lookup handle).getD w.handler }
  | block color pretty _ body, w =>
    if wantsBridge pretty env then
      let emitter : Emitter := { console := .ofColor color env, options := default }
      let bridge := Handler.bridge emitter true w.handler
      { rewireAll env true body { w with handler := bridge } with handler := w.handler }
    else rewireAll env true body w
  | _, w => w

/-- The handlers after commands, of which those behind one that a failure leaves are not run. -/
def Command.rewireAll (env : Environment) (inside : Bool) : List Command → Wiring → Wiring
  | [], w => w
  | c :: cs, w =>
    if Command.escapes inside c then Command.rewire env c w
    else rewireAll env inside cs (Command.rewire env c w)

end

namespace Session

/-- The handlers of a session. -/
def wiring (σ : Session) : Wiring :=
  ⟨σ.handler, σ.handles⟩

/-- A step that leaves the handlers as they are, also if it fails. -/
def KeepsHandlers {α : Type} (step : Step α) : Prop :=
  ∀ σ : Session, (step.run σ).2.wiring = σ.wiring

/-! ## Steps that keep the handlers -/

section

variable {α β : Type}

theorem KeepsHandlers.bind {x : Step α} {f : α → Step β} (hx : KeepsHandlers x)
    (hf : ∀ a, KeepsHandlers (f a)) : KeepsHandlers (x >>= f) := by
  intro σ
  have hfirst := hx σ
  rw [run_bind]
  generalize x.run σ = r at hfirst ⊢
  rcases r with ⟨e | a, σ'⟩
  · -- the second step is not taken
    exact hfirst
  · exact (hf a σ').trans hfirst

theorem keepsHandlers_pure (a : α) : KeepsHandlers (pure a) :=
  fun _ => rfl

theorem keepsHandlers_throw (f : Failure) : KeepsHandlers (throw f : Step α) :=
  fun _ => rfl

theorem keepsHandlers_get : KeepsHandlers (get : Step Session) :=
  fun _ => rfl

end

theorem keepsHandlers_print (c : Console) (t : StyledText) : KeepsHandlers (print c t) :=
  fun _ => rfl

theorem keepsHandlers_record (r : Record) : KeepsHandlers (record r) :=
  fun _ => rfl

theorem keepsHandlers_printWritten (c : Console) (t? : Except NumeralError StyledText) :
    KeepsHandlers (printWritten c t?) := by
  cases t? with
  | ok t => exact keepsHandlers_print c t
  | error e => exact keepsHandlers_throw (.numeral e)

/-! ## Layouts -/

theorem keepsHandlers_deliverLayout (w : LayoutWarning) (c : Category) (site : Option Site) :
    KeepsHandlers (deliverLayout w c site) := by
  apply keepsHandlers_get.bind
  intro σ
  split
  · exact keepsHandlers_record _
  · exact keepsHandlers_print _ _

theorem keepsHandlers_ask (o : Occurrence) : KeepsHandlers (ask o) :=
  fun _ => rfl

theorem keepsHandlers_warnLayout (p : Place) (w : LayoutWarning) : KeepsHandlers (warnLayout p w) := by
  apply (keepsHandlers_ask _).bind
  intro verdict
  cases verdict
  · exact keepsHandlers_deliverLayout w .layout none
  · exact keepsHandlers_pure ()
  · exact keepsHandlers_throw _

theorem keepsHandlers_warnAll (p : Place) (ws : List LayoutWarning) : KeepsHandlers (warnAll p ws) := by
  induction ws with
  | nil => exact keepsHandlers_pure ()
  | cons w ws ih => exact (keepsHandlers_warnLayout p w).bind fun _ => ih

theorem keepsHandlers_layOut (s : Snippet) (o : LayoutOptions) : KeepsHandlers (layOut s o) := by
  unfold layOut
  split
  · exact keepsHandlers_throw _
  · rename_i rows _
    exact (keepsHandlers_warnAll .assembly s.warnings).bind fun _ => keepsHandlers_pure rows

theorem keepsHandlers_layOutBody (p : Place) (s : Snippet) (o : LayoutOptions) :
    KeepsHandlers (layOutBody p s o) :=
  (keepsHandlers_warnAll p s.warnings).bind fun _ => keepsHandlers_pure (s.body o)

theorem keepsHandlers_draw (th : Theme) (g : Glyphs) (rows : List DisplayLine) :
    KeepsHandlers (draw th g rows) := by
  apply keepsHandlers_get.bind
  intro σ
  split
  · exact keepsHandlers_pure _
  · exact keepsHandlers_throw _

theorem keepsHandlers_frame (s : Snippet) : KeepsHandlers (frame s) :=
  (keepsHandlers_layOut s default).bind fun rows => keepsHandlers_draw {} {} rows

theorem keepsHandlers_emit (e : Emitter) (s : Snippet) : KeepsHandlers (emit e s) := by
  apply (keepsHandlers_layOut s e.options).bind
  intro rows
  exact (keepsHandlers_draw e.theme e.glyphs rows).bind (keepsHandlers_print e.console)

/-! ## Warnings and failures -/

theorem keepsHandlers_warningText (w : Warning) : KeepsHandlers (warningText w) := by
  cases w with
  | layout w => exact keepsHandlers_pure w.message
  | diagnostic s => exact (keepsHandlers_frame s).bind fun t => keepsHandlers_pure t.plain
  | plain topic m => exact keepsHandlers_pure m

theorem keepsHandlers_drawNotice (c : Category) (site : Site) (e : Emitter) (n : Notice) :
    KeepsHandlers (drawNotice c site e n) := by
  rcases n with m | (w | s | ⟨topic, m⟩) <;> rw [drawNotice]
  · exact keepsHandlers_printWritten e.console _
  · exact keepsHandlers_printWritten e.console _
  · exact keepsHandlers_emit e s
  · exact keepsHandlers_printWritten e.console _

theorem keepsHandlers_receive (c : Category) (site : Site) (n : Notice) :
    KeepsHandlers (receive c site n) := by
  have htext : KeepsHandlers (noticeText n) := by
    cases n with
    | text m => exact keepsHandlers_pure m
    | warning w => exact keepsHandlers_warningText w
  exact htext.bind fun m => keepsHandlers_record ⟨n, c, m, some site⟩

theorem keepsHandlers_deliver (n : Notice) (c : Category) (site : Site) :
    KeepsHandlers (deliver n c site) := by
  apply keepsHandlers_get.bind
  intro σ
  split
  · exact keepsHandlers_drawNotice c site _ n
  · exact keepsHandlers_receive c site n

theorem keepsHandlers_warn (w : Warning) (site : Site) (module : String) (registry : Option String) :
    KeepsHandlers (warn w site module registry) := by
  unfold warn
  by_cases hline : isLineNumber site.line
  · rw [if_pos hline]
    apply (keepsHandlers_warningText w).bind
    intro text
    apply (keepsHandlers_ask _).bind
    intro verdict
    cases verdict
    · exact keepsHandlers_deliver (.warning w) w.category site
    · exact keepsHandlers_pure ()
    · exact keepsHandlers_throw _
  · -- nothing runs behind the failure
    rw [if_neg hline]
    exact fun σ => rfl

theorem keepsHandlers_failureText (f : Failure) : KeepsHandlers (failureText f) := by
  cases f with
  | warning w => exact keepsHandlers_warningText w
  | diagnostic s => exact (keepsHandlers_frame s).bind fun t => keepsHandlers_pure t.plain
  | _ => exact keepsHandlers_pure _

/-! ## Commands -/

theorem failed_wiring (f : Failure) (σ : Session) : (failed f σ).2.wiring = σ.wiring := by
  have hkeeps := keepsHandlers_failureText f σ
  unfold failed
  generalize (failureText f).run σ = r at hkeeps ⊢
  rcases r with ⟨e | m, σ'⟩ <;> exact hkeeps

/-- A report tells what a step did and has no part in it. -/
theorem reported_wiring (label : String) (step : Step Outcome) (σ : Session) :
    (reported label step σ).escaped = none ∧
      (reported label step σ).session.wiring = (step.run σ).2.wiring := by
  unfold reported
  rcases step.run σ with ⟨f | outcome, σ'⟩
  · exact ⟨rfl, failed_wiring f σ'⟩
  · exact ⟨rfl, rfl⟩

/-- An error that carries a snippet leaves a block as itself, if it can be printed there. -/
theorem leaving_diagnostic (c : Console) (s : Snippet) (σ : Session) :
    leaving c (some (.diagnostic s)) σ = match (printError c s).run σ with
      | (.ok (), σ') => (some (.diagnostic s), σ')
      | (.error f, σ') => (some f, σ') :=
  rfl

/-- What leaves a block is a failure exactly if one left its commands. -/
theorem leaving_wiring (c : Console) (escaped : Option Failure) (σ : Session) :
    (leaving c escaped σ).1.isSome = escaped.isSome ∧ (leaving c escaped σ).2.wiring = σ.wiring := by
  cases escaped with
  | none => exact ⟨rfl, rfl⟩
  | some f =>
    cases f with
    | diagnostic s =>
      have hkeeps : KeepsHandlers (printError c s) :=
        (keepsHandlers_frame s).bind (keepsHandlers_print c)
      have hrun := hkeeps σ
      rw [leaving_diagnostic]
      generalize (printError c s).run σ = r at hrun ⊢
      rcases r with ⟨f | _, σ'⟩ <;> exact ⟨rfl, hrun⟩
    | _ => exact ⟨rfl, rfl⟩

theorem closed_wiring (reports : List Report) (escaped : Option Failure) (σ : Session) :
    (closed reports escaped σ).escaped = none ∧
      (closed reports escaped σ).session.wiring = σ.wiring := by
  cases escaped with
  | none => exact ⟨rfl, rfl⟩
  | some f => exact ⟨rfl, failed_wiring f σ⟩

/-! ## Blocks -/

/-- The session in which the commands of a block start, reported on. -/
def entered (env : Environment) (color : Option String) (pretty : Option Setting) (σ : Session) :
    Report × Session :=
  let console := Console.ofColor color env
  report "enter" (.entered console)
    (if wantsBridge pretty env then bridged { console, options := default } true σ else σ)

/-- The run of the commands of a block. -/
def inner (env : Environment) (color : Option String) (pretty : Option Setting)
    (body : List Command) (σ : Session) : Run :=
  Command.runAll env true body (entered env color pretty σ).2

/-- What leaves a block that was entered under the handler `entry` and whose commands have run, and the
session then. -/
def left (env : Environment) (color : Option String) (pretty : Option Setting) (entry : Handler)
    (run : Run) : Option Failure × Session :=
  let out := leaving (.ofColor color env) run.escaped run.session
  (out.1, if wantsBridge pretty env then { out.2 with handler := entry } else out.2)

/-- A block is entered, its commands run, and it is left; then it propagates or is reported on. -/
theorem run_block (env : Environment) (inside : Bool) (color : Option String)
    (pretty : Option Setting) (propagate : Bool) (body : List Command) (σ : Session) :
    Command.run env inside (.block color pretty propagate body) σ =
      let run := inner env color pretty body σ
      let reports := (entered env color pretty σ).1 :: run.reports
      let out := left env color pretty σ.handler run
      if inside && propagate then ⟨reports, out.1, out.2⟩ else closed reports out.1 out.2 :=
  rfl

/-- Behind a block with a bridge of its own the handler is the one from before; else it is the one that
the commands of the block have left. -/
theorem left_wiring (env : Environment) (color : Option String) (pretty : Option Setting)
    (entry : Handler) (run : Run) :
    (left env color pretty entry run).1.isSome = run.escaped.isSome ∧
      (left env color pretty entry run).2.wiring =
        if wantsBridge pretty env then { run.session.wiring with handler := entry }
        else run.session.wiring := by
  obtain ⟨hescaped, hwiring⟩ := leaving_wiring (.ofColor color env) run.escaped run.session
  refine ⟨hescaped, ?_⟩
  rw [← hwiring]
  show (if wantsBridge pretty env then _ else _ : Session).wiring = _
  by_cases hwants : wantsBridge pretty env
  · rw [if_pos hwants, if_pos hwants]
    rfl
  · rw [if_neg hwants, if_neg hwants]

/-! ## Runs -/

/-- A command whose step keeps the handlers is reported on, and that is all. -/
theorem run_wiring_of_keeps {label : String} {step : Step Outcome} (h : KeepsHandlers step)
    (σ : Session) :
    (reported label step σ).escaped.isSome = false ∧
      (reported label step σ).session.wiring = σ.wiring := by
  obtain ⟨hescaped, hwiring⟩ := reported_wiring label step σ
  rw [hescaped, hwiring]
  exact ⟨rfl, h σ⟩

mutual

/-- A command leads to the handlers that its installs, uninstalls and blocks lead to, and a failure
leaves it exactly if one is raised in it that no block inside of it stops. -/
theorem run_wiring (env : Environment) (inside : Bool) (c : Command) (σ : Session) :
    (Command.run env inside c σ).escaped.isSome = Command.escapes inside c ∧
      (Command.run env inside c σ).session.wiring = Command.rewire env c σ.wiring := by
  cases c with
  | raise f => exact ⟨rfl, rfl⟩
  | install handle e ownOnly => exact ⟨rfl, rfl⟩
  | uninstall handle =>
    obtain ⟨hescaped, hwiring⟩ := reported_wiring "uninstall" (Command.step (.uninstall handle)) σ
    refine ⟨congrArg Option.isSome hescaped, hwiring.trans ?_⟩
    have hrun : (Command.step (.uninstall handle)).run σ = _ :=
      run_bind (uninstall handle) (fun _ => return Outcome.done) σ
    have hafter : Command.rewire env (.uninstall handle) σ.wiring =
        ⟨(σ.handles.lookup handle).getD σ.handler, σ.handles⟩ := rfl
    rw [hrun, uninstall_run, hafter]
    -- an unknown handle fails, and no handler changes
    cases σ.handles.lookup handle <;> rfl
  | warn w site module registry =>
    exact run_wiring_of_keeps ((keepsHandlers_warn w site module registry).bind fun _ => keepsHandlers_pure _) σ
  | deliver n c site =>
    exact run_wiring_of_keeps ((keepsHandlers_deliver n c site).bind fun _ => keepsHandlers_pure _) σ
  | addFilter f => exact ⟨rfl, rfl⟩
  | layOut s o =>
    exact run_wiring_of_keeps ((keepsHandlers_layOut s o).bind fun _ => keepsHandlers_pure _) σ
  | layOutBody p s =>
    exact run_wiring_of_keeps ((keepsHandlers_layOutBody p s default).bind fun _ => keepsHandlers_pure _) σ
  | emit e s =>
    exact run_wiring_of_keeps ((keepsHandlers_emit e s).bind fun _ => keepsHandlers_pure _) σ
  | refuse label f => exact run_wiring_of_keeps (keepsHandlers_throw f) σ
  | block color pretty propagate body =>
    obtain ⟨hescapes, hbody⟩ := runAll_wiring env true body (entered env color pretty σ).2
    obtain ⟨hleft, hwiring⟩ := left_wiring env color pretty σ.handler (inner env color pretty body σ)
    -- what follows the leaving is at most a report
    have hrewire : (left env color pretty σ.handler (inner env color pretty body σ)).2.wiring =
        Command.rewire env (.block color pretty propagate body) σ.wiring := by
      rw [hwiring, inner, hbody, Command.rewire]
      by_cases hwants : wantsBridge pretty env
      · rw [if_pos hwants, if_pos hwants, entered, if_pos hwants]
        rfl
      · rw [if_neg hwants, if_neg hwants, entered, if_neg hwants]
        rfl
    rw [run_block, Command.escapes, ← hescapes, ← hrewire]
    change _ = (_ && (inner env color pretty body σ).escaped.isSome) ∧ _
    rw [← hleft]
    cases inside && propagate with
    | true => exact ⟨rfl, rfl⟩
    | false =>
      obtain ⟨hclosed, hkept⟩ := closed_wiring _ _ _
      exact ⟨congrArg Option.isSome hclosed, hkept⟩

/-- Commands lead to the handlers that their installs, uninstalls and blocks lead to. -/
theorem runAll_wiring (env : Environment) (inside : Bool) (cs : List Command) (σ : Session) :
    (Command.runAll env inside cs σ).escaped.isSome = Command.escapesAny inside cs ∧
      (Command.runAll env inside cs σ).session.wiring =
        Command.rewireAll env inside cs σ.wiring := by
  cases cs with
  | nil => exact ⟨rfl, rfl⟩
  | cons c cs =>
    obtain ⟨hescapes, hwiring⟩ := run_wiring env inside c σ
    obtain ⟨hrest, hafter⟩ := runAll_wiring env inside cs (Command.run env inside c σ).session
    rw [Command.runAll, Command.escapesAny, Command.rewireAll, ← hescapes, ← hwiring]
    cases hfirst : (Command.run env inside c σ).escaped with
    | some f =>
      -- nothing else runs
      exact ⟨rfl, rfl⟩
    | none => exact ⟨hrest, hafter⟩

end

end Session

end CodeFrame
