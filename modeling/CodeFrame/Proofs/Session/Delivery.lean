import CodeFrame.Proofs.Session.Warnings

/-!
# Who shows a notice

A notice is shown in one place: the emitter of a bridge draws it, or the base handler receives it. Which
of them it is can be told from the bridges alone (`Handler.destination`), and the way of a notice along
the handlers ends there (`Handler.receiver?_eq_destination`).

`Session.shown` is the session after a notice has been shown where it belongs. Handing a notice over
leads to that session (`Session.deliver_run`), with the warnings about a snippet that the notice carries
shown before it. Nothing is shown if a number in it is too long to be written.
-/

namespace CodeFrame

namespace Handler

/-- The bridges above the base handler, the current one first, and whether each of them draws only the
warnings of this library. -/
def bridges : Handler → List (Emitter × Bool)
  | base => []
  | bridge e ownOnly earlier => (e, ownOnly) :: earlier.bridges

/-- The emitter that has to draw a notice; none if the base handler has to receive it. The current bridge
draws what belongs to this library, the first bridge that draws all notices draws the others. -/
def destination (n : Notice) (c : Category) (h : Handler) : Option Emitter :=
  if n.isFramed ∨ c.isA (.plain .own) then h.bridges.head?.map (·.1)
  else (h.bridges.find? fun b => !b.2).map (·.1)

/-- The way of a notice along the handlers ends at its destination. -/
theorem receiver?_eq_destination (n : Notice) (c : Category) (h : Handler) :
    h.receiver? n c = h.destination n c := by
  unfold destination
  by_cases hown : n.isFramed ∨ c.isA (.plain .own)
  · -- nothing of this library is passed on
    rw [if_pos hown]
    cases h with
    | base => rfl
    | bridge e ownOnly earlier =>
      have hdraws : draws ownOnly n c := by
        unfold draws
        rcases hown with h | h <;> simp [h]
      rw [receiver?, if_pos hdraws]
      rfl
  · rw [if_neg hown]
    rw [not_or, Bool.not_eq_true, Bool.not_eq_true] at hown
    induction h with
    | base => rfl
    | bridge e ownOnly earlier ih =>
      have hdraws : draws ownOnly n c = !ownOnly := by
        unfold draws
        simp [hown]
      rw [receiver?, hdraws, ih, bridges, List.find?_cons]
      cases ownOnly <;> rfl

end Handler

/-- The frame of a snippet, or what keeps it from being laid out or drawn. -/
def Snippet.frame? (s : Snippet) (th : Theme) (g : Glyphs) (o : LayoutOptions) (memory : Nat) :
    Except Failure StyledText :=
  match s.display o with
  | .error e => .error (.header e)
  | .ok rows => (drawRows th g memory rows).mapError .draw

namespace Notice

/-- The warnings that are raised before a notice can be shown: those about a snippet in it. -/
def carried : Notice → List LayoutWarning
  | .warning (.layout _) => []
  | .warning (.diagnostic s) => s.warnings
  | .warning (.plain _ _) => []
  | .text _ => []

/-- A notice as an emitter draws it, or what keeps it from being drawn. -/
def drawing (c : Category) (site : Site) (e : Emitter) (memory : Nat) :
    Notice → Except Failure StyledText
  | .warning (.layout w) => (w.draw? e.theme).mapError .numeral
  | .warning (.diagnostic s) => s.frame? e.theme e.glyphs e.options memory
  | .warning (.plain _ m) => ((noticeLine? c m site).map e.console.prepare).mapError .numeral
  | .text m => ((noticeLine? c m site).map e.console.prepare).mapError .numeral

/-- The text of a notice, or what keeps it from having one. -/
def message (memory : Nat) : Notice → Except Failure String
  | .warning (.layout w) => .ok w.message
  | .warning (.diagnostic s) => (s.frame? {} {} default memory).map StyledText.plain
  | .warning (.plain _ m) => .ok m
  | .text m => .ok m

end Notice

namespace Session

variable {σ : Session}

/-- The session after a notice has been shown where it belongs: it is drawn once, or received once with
all that came with it. -/
def shown (σ : Session) (n : Notice) (c : Category) (site : Site) : Except Failure Session :=
  match σ.handler.destination n c with
  | some e => (n.drawing c site e σ.memory).map fun t =>
    { σ with written := σ.written ++ [(e.console.stream, e.console.write t)] }
  | none => (n.message σ.memory).map fun m => { σ with received := σ.received ++ [⟨n, c, m, some site⟩] }

/-- The session after a warning about a snippet has been shown where it belongs. -/
def told (σ : Session) (w : LayoutWarning) : Session :=
  match σ.handler.destination (.warning (.layout w)) .layout with
  | some e => { σ with written := σ.written ++ [(e.console.stream, e.console.write (w.draw e.theme))] }
  | none => { σ with received := σ.received ++ [w.record] }

/-- The session after warnings about a snippet: those that come through the filters are told, up to one
that is raised as an error. -/
def toldAll (σ : Session) (ws : List LayoutWarning) : Session :=
  let sifted := σ.filters.sift .assembly ws
  sifted.shown.foldl told { σ with filters := sifted.filters }

/-! ## Warnings on the way -/

theorem delivered_eq_told (σ : Session) (w : LayoutWarning) : σ.delivered w = σ.told w := by
  unfold delivered told
  rw [Handler.receiver?_eq_destination]
  split <;> rename_i h <;> rw [h]

theorem told_handler (σ : Session) (w : LayoutWarning) : (σ.told w).handler = σ.handler := by
  unfold told
  split <;> rfl

theorem told_memory (σ : Session) (w : LayoutWarning) : (σ.told w).memory = σ.memory := by
  unfold told
  split <;> rfl

/-- What no warning changes is the same after all of them. -/
theorem foldl_told_eq {α : Type} {field : Session → α}
    (h : ∀ σ w, field (told σ w) = field σ) (ws : List LayoutWarning) (σ : Session) :
    field (ws.foldl told σ) = field σ := by
  induction ws generalizing σ with
  | nil => rfl
  | cons w ws ih => rw [List.foldl_cons, ih, h]

theorem toldAll_handler (σ : Session) (ws : List LayoutWarning) :
    (σ.toldAll ws).handler = σ.handler :=
  foldl_told_eq told_handler _ _

theorem toldAll_memory (σ : Session) (ws : List LayoutWarning) :
    (σ.toldAll ws).memory = σ.memory :=
  foldl_told_eq told_memory _ _

theorem toldAll_nil (σ : Session) : σ.toldAll [] = σ := by
  rw [toldAll, Filters.sift_nil]
  rfl

/-- Warnings about a snippet are told, and the one that is raised is what the step fails with. -/
theorem warnAll_run_eq_toldAll (ws : List LayoutWarning) (σ : Session) :
    (warnAll .assembly ws).run σ =
      (match (σ.filters.sift .assembly ws).raised with
        | none => .ok ()
        | some w => .error (.warning (.layout w)),
      σ.toldAll ws) := by
  have htold : delivered = told := by
    funext σ w
    exact delivered_eq_told σ w
  rw [warnAll_run, htold]
  rfl

/-! ## What a step shows -/

/-- The step leads from `σ` to the session that is shown, after the warnings `ws` about a snippet. Where
there is nothing to be shown, it fails, and at most these warnings are told. -/
inductive Leads (σ : Session) (ws : List LayoutWarning) (step : Step Unit) : Except Failure Session → Prop
  | shows {σ' : Session} (h : step.run σ = (.ok (), σ')) : Leads σ ws step (.ok σ')
  | fails {f : Failure} {σ' : Session} (htold : σ' = σ ∨ σ' = σ.toldAll ws)
    (h : step.run σ = (.error f, σ')) : Leads σ ws step (.error f)

/-- Only the run of a step matters. -/
theorem Leads.congr {ws : List LayoutWarning} {step step' : Step Unit}
    {shown? : Except Failure Session} (h : Leads σ ws step shown?) (hrun : step'.run σ = step.run σ) :
    Leads σ ws step' shown? := by
  cases h with
  | shows h => exact .shows (hrun.trans h)
  | fails htold h => exact .fails htold (hrun.trans h)

theorem leads_printWritten (c : Console) (t? : Except NumeralError StyledText) :
    Leads σ [] (printWritten c t?) ((t?.mapError .numeral).map fun t =>
      { σ.toldAll [] with written := (σ.toldAll []).written ++ [(c.stream, c.write t)] }) := by
  rw [toldAll_nil]
  cases t? with
  | error e => exact .fails (.inl rfl) rfl
  | ok t => exact .shows rfl

/-- Rows are drawn within the memory of the session. -/
theorem draw_bind_run {α : Type} (th : Theme) (g : Glyphs) (rows : List DisplayLine)
    (k : StyledText → Step α) (σ : Session) :
    (draw th g rows >>= k).run σ = match drawRows th g σ.memory rows with
      | .ok t => (k t).run σ
      | .error e => (.error (.draw e), σ) := by
  have hdraw : (draw th g rows).run σ = (match drawRows th g σ.memory rows with
      | .ok t => (pure t : Step StyledText)
      | .error e => throw (Failure.draw e)).run σ := rfl
  rw [run_bind, hdraw]
  cases drawRows th g σ.memory rows <;> rfl

/-- A snippet is laid out and drawn, with its warnings, before anything is done with its frame. -/
theorem leads_frame {s : Snippet} (hf : (σ.filters.sift .assembly s.warnings).raised = none) (th : Theme)
    (g : Glyphs) (o : LayoutOptions) {k : StyledText → Step Unit} {after : StyledText → Session}
    (hk : ∀ t, (k t).run (σ.toldAll s.warnings) = (.ok (), after t)) :
    Leads σ s.warnings (layOut s o >>= fun rows => draw th g rows >>= k)
      ((s.frame? th g o (σ.toldAll s.warnings).memory).map after) := by
  cases hdisplay : s.display o with
  | error e =>
    rw [Snippet.frame?, hdisplay]
    refine .fails (.inl rfl) ?_
    rw [run_bind, run_layOut, hdisplay]
  | ok rows =>
    have hrun : (layOut s o >>= fun rows => draw th g rows >>= k).run σ =
        (draw th g rows >>= k).run (σ.toldAll s.warnings) := by
      rw [run_bind, run_layOut, hdisplay, warnAll_run_eq_toldAll, hf]
    rw [Snippet.frame?, hdisplay]
    rw [draw_bind_run] at hrun
    dsimp only
    cases hrows : drawRows th g (σ.toldAll s.warnings).memory rows with
    | error e =>
      rw [hrows] at hrun
      exact .fails (.inr rfl) hrun
    | ok t =>
      rw [hrows] at hrun
      exact .shows (hrun.trans (hk t))

/-! ## Notices -/

/-- A bridge that draws a notice writes it once. -/
theorem leads_drawNotice {n : Notice} (hf : (σ.filters.sift .assembly n.carried).raised = none)
    (c : Category) (site : Site) (e : Emitter) :
    Leads σ n.carried (drawNotice c site e n)
      ((n.drawing c site e (σ.toldAll n.carried).memory).map fun t => { σ.toldAll n.carried with
        written := (σ.toldAll n.carried).written ++ [(e.console.stream, e.console.write t)] }) := by
  rcases n with m | (w | s | ⟨topic, m⟩) <;> rw [Notice.drawing, Notice.carried, drawNotice]
  · exact leads_printWritten e.console _
  · exact leads_printWritten e.console _
  · exact leads_frame hf e.theme e.glyphs e.options fun t => rfl
  · exact leads_printWritten e.console _

/-- The base handler receives a notice once. -/
theorem leads_receive {n : Notice} (hf : (σ.filters.sift .assembly n.carried).raised = none)
    (c : Category) (site : Site) :
    Leads σ n.carried (receive c site n)
      ((n.message (σ.toldAll n.carried).memory).map fun m => { σ.toldAll n.carried with
        received := (σ.toldAll n.carried).received ++ [⟨n, c, m, some site⟩] }) := by
  rcases n with m | (w | s | ⟨topic, m⟩) <;> rw [Notice.message, Notice.carried, receive, noticeText]
  · rw [toldAll_nil, pure_bind]
    exact .shows rfl
  · rw [warningText, toldAll_nil, pure_bind]
    exact .shows rfl
  · -- the text is the frame without its styles
    have hmap : ∀ (t? : Except Failure StyledText) (f : String → Session),
        (t?.map StyledText.plain).map f = t?.map fun t => f t.plain := by
      intro t? f
      cases t? <;> rfl
    rw [hmap]
    simp only [warningText, frame, bind_assoc, pure_bind]
    exact leads_frame hf {} {} default fun t => rfl
  · rw [warningText, toldAll_nil, pure_bind]
    exact .shows rfl

/-- A notice that is handed over is shown where it belongs, and nowhere else, unless something in it
cannot be written: then it is not shown. The warnings about a snippet in it come first. -/
theorem deliver_run {n : Notice}
    (hf : ∀ w ∈ n.carried, σ.filters.action (w.occurrence .assembly) ≠ .error) (c : Category)
    (site : Site) :
    (∀ σ', (σ.toldAll n.carried).shown n c site = .ok σ' → (deliver n c site).run σ = (.ok (), σ')) ∧
      ∀ f, (σ.toldAll n.carried).shown n c site = .error f →
        ∃ σ', (σ' = σ ∨ σ' = σ.toldAll n.carried) ∧ (deliver n c site).run σ = (.error f, σ') := by
  have hraised := Filters.sift_raised_eq_none hf
  have hleads : Leads σ n.carried (deliver n c site) ((σ.toldAll n.carried).shown n c site) := by
    have hrun : (deliver n c site).run σ = (match σ.handler.receiver? n c with
        | some e => drawNotice c site e n
        | none => receive c site n).run σ := rfl
    have htold : (σ.toldAll n.carried).handler.destination n c = σ.handler.destination n c := by
      rw [toldAll_handler]
    unfold shown
    rw [htold]
    rw [Handler.receiver?_eq_destination] at hrun
    cases hdestination : σ.handler.destination n c with
    | some e =>
      rw [hdestination] at hrun
      exact (leads_drawNotice hraised c site e).congr hrun
    | none =>
      rw [hdestination] at hrun
      exact (leads_receive hraised c site).congr hrun
  constructor
  · intro σ' hshown
    rw [hshown] at hleads
    cases hleads with
    | shows h => exact h
  · intro f hshown
    rw [hshown] at hleads
    cases hleads with
    | fails htold h => exact ⟨_, htold, h⟩

/-- A warning that carries a snippet is drawn by the current bridge, behind the warning about an annotation
without an end. -/
theorem deliver_run_of_dangling_snippet :
    let a : Annotation := ⟨.error, none, none, .dangling 0 (by decide)⟩
    let d : Description := { source := "abc", annotations := [a] }
    let late : Emitter := { console := { stream := "late" } }
    let σ : Session :=
      { filters := { list := [{ action := .always }] }, handler := .bridge late true (.bridge {} false .base),
        memory := 0 }
    ∃ s : Snippet, s.toDescription = d ∧
      let n : Notice := .warning (.diagnostic s)
      n.carried = [.ofPending none a] ∧
        (∀ w ∈ n.carried, σ.filters.action (w.occurrence .assembly) ≠ .error) ∧
        ∃ warning frame, (deliver n .diagnostic ⟨"f.py", 3, none⟩).run σ =
          (.ok (), { σ with written := [("late", warning), ("late", frame)] }) := by
  intro a d late σ
  have hvalid : d.Valid := d.problem?_eq_none_iff.1 (by decide)
  let s : Snippet := ⟨d, hvalid⟩
  refine ⟨s, rfl, ?_⟩
  intro n
  let w : LayoutWarning := .ofPending none a
  have hcarried : n.carried = [w] := by
    have hpending : (d.table.plan [a]).pending = [a] := by decide
    show (d.table.plan [a]).pending.map _ = [w]
    rw [hpending]
    rfl
  have hfilters : ∀ w ∈ n.carried, σ.filters.action (w.occurrence .assembly) ≠ .error := by
    intro w _
    show Action.always ≠ .error
    decide
  let told : Session := { σ with written := [("late", late.console.write (w.draw late.theme))] }
  have htold : σ.toldAll n.carried = told := by
    have hshows : σ.filters.ShowsAll .assembly := Filters.showsAll_of_always (fun _ => rfl) rfl
    rw [toldAll, Filters.sift_of_showsAll hshows, hcarried]
    rfl
  let rows : List DisplayLine := [.blank, .source 1 [] "abc", .blank]
  have hframe : n.drawing .diagnostic ⟨"f.py", 3, none⟩ late 0 = .ok (drawFrame late.theme {} rows) := by
    have hbody : s.body default = rows := by
      show .blank :: foldBody default (d.table.body (d.table.plan [a]).placements) ++ [.blank] = _
      decide
    have hdisplay : s.display default = .ok (s.body default) := rfl
    have hdrawn : drawError? {} 0 rows = none := by decide +kernel
    show s.frame? late.theme {} default 0 = _
    rw [Snippet.frame?, hdisplay, hbody]
    show (drawRows late.theme {} 0 rows).mapError _ = _
    rw [drawRows, hdrawn]
    rfl
  have hshown : (σ.toldAll n.carried).shown n .diagnostic ⟨"f.py", 3, none⟩ =
      .ok { σ with written := [("late", late.console.write (w.draw late.theme)),
        ("late", late.console.write (drawFrame late.theme {} rows))] } := by
    have hdestination : told.handler.destination n .diagnostic = some late := rfl
    rw [htold, shown, hdestination]
    show Except.map _ (n.drawing .diagnostic ⟨"f.py", 3, none⟩ late 0) = _
    rw [hframe]
    rfl
  exact ⟨hcarried, hfilters, _, _, (deliver_run hfilters .diagnostic ⟨"f.py", 3, none⟩).1 _ hshown⟩

end Session

end CodeFrame
