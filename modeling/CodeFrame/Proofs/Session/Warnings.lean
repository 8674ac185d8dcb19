import CodeFrame.Session.Basic

/-!
# Raising the warnings of a layout

What becomes of a layout warning depends on the filters alone: it is delivered, dropped, or raised as an
error. The filters may remember it, so what becomes of a list of warnings is found by sifting one after
the other (`Filters.sift`). `Session.delivered` is the session after a delivery, and raising the warnings
is to deliver those that come through (`Session.warnAll_run`).
-/

namespace CodeFrame

/-- The record of a layout warning that laying out has raised. -/
def LayoutWarning.record (w : LayoutWarning) : Record :=
  ⟨.warning (.layout w), .layout, w.message, none⟩

/-- What becomes of warnings that are raised one after the other: those that are shown, the one that is
raised as an error, if there is one, and the filters then. -/
structure Sifted where
  shown : List LayoutWarning
  raised : Option LayoutWarning
  filters : Filters

namespace Filters

/-- What becomes of layout warnings from `p`. None is looked at behind one that is raised. -/
def sift (p : Place) : Filters → List LayoutWarning → Sifted
  | fs, [] => ⟨[], none, fs⟩
  | fs, w :: ws =>
    match fs.ask (w.occurrence p) with
    | (.shown, fs) =>
      let rest := sift p fs ws
      { rest with shown := w :: rest.shown }
    | (.dropped, fs) => sift p fs ws
    | (.raised, fs) => ⟨[], some w, fs⟩

/-- The filters show all layout warnings from `p`, and remember none. -/
def ShowsAll (fs : Filters) (p : Place) : Prop :=
  ∀ w : LayoutWarning, fs.ask (w.occurrence p) = (.shown, fs)

/-- The filters raise all layout warnings from `p` as errors. -/
def RaisesAll (fs : Filters) (p : Place) : Prop :=
  ∀ w : LayoutWarning, (fs.ask (w.occurrence p)).1 = .raised

variable {fs fs' : Filters} {p : Place} {o : Occurrence} {w : LayoutWarning} {ws : List LayoutWarning}

/-! ## One warning -/

/-- Nothing that the filters remember changes what they do with a warning. -/
theorem action_of_ask {v : Verdict} (h : fs.ask o = (v, fs')) (o' : Occurrence) :
    fs'.action o' = fs.action o' := by
  unfold ask judge showFirst noteLine at h
  (repeat' split at h) <;> cases h <;> rfl

/-- A warning is raised only if an action says so, and the filters do not remember it. -/
theorem action_of_ask_raised (h : fs.ask o = (.raised, fs')) : fs.action o = .error ∧ fs' = fs := by
  unfold ask at h
  split at h
  case isTrue => cases h
  case isFalse =>
    unfold judge at h
    cases haction : fs.action o
    case error =>
      rw [haction] at h
      cases h
      exact ⟨rfl, rfl⟩
    all_goals
      rw [haction] at h
      simp only [showFirst] at h
      (repeat' split at h) <;> cases h

/-- Filters that always show warnings show all layout warnings, if they remember none from before. -/
theorem showsAll_of_always (haction : ∀ w : LayoutWarning, fs.action (w.occurrence p) = .always)
    (hseen : fs.seen = []) : fs.ShowsAll p := by
  intro w
  have hnot : ¬ (p.registry.isSome ∧ (w.occurrence p).onLine ∈ fs.seen) := by simp [hseen]
  have hask : fs.ask (w.occurrence p) = fs.judge (w.occurrence p) := if_neg hnot
  rw [hask, judge, haction]

/-! ## All warnings -/

@[simp] theorem sift_nil : fs.sift p [] = ⟨[], none, fs⟩ := by
  rw [sift]

theorem sift_of_showsAll (h : fs.ShowsAll p) (ws : List LayoutWarning) :
    fs.sift p ws = ⟨ws, none, fs⟩ := by
  induction ws with
  | nil => exact sift_nil
  | cons w ws ih =>
    rw [sift, h]
    show Sifted.mk (w :: (fs.sift p ws).shown) (fs.sift p ws).raised (fs.sift p ws).filters = _
    rw [ih]

/-- Where all warnings are raised, the first one is. -/
theorem sift_of_raisesAll (h : fs.RaisesAll p) (ws : List LayoutWarning) :
    fs.sift p ws = ⟨[], ws.head?, fs⟩ := by
  cases ws with
  | nil => exact sift_nil
  | cons w ws =>
    have hraised := h w
    rw [sift]
    rcases hask : fs.ask (w.occurrence p) with ⟨v, fs'⟩
    rw [hask] at hraised
    cases hraised
    obtain ⟨-, rfl⟩ := action_of_ask_raised hask
    rfl

/-- The warning that is raised is one of them, and an action says that it is. -/
theorem action_of_sift_raised (h : (fs.sift p ws).raised = some w) :
    w ∈ ws ∧ fs.action (w.occurrence p) = .error := by
  fun_induction sift p fs ws with
  | case1 => cases h
  | case2 fs w' ws fs' hask rest ih =>
    obtain ⟨hmem, haction⟩ := ih h
    exact ⟨List.mem_cons_of_mem _ hmem, (action_of_ask hask _).symm.trans haction⟩
  | case3 fs w' ws fs' hask ih =>
    obtain ⟨hmem, haction⟩ := ih h
    exact ⟨List.mem_cons_of_mem _ hmem, (action_of_ask hask _).symm.trans haction⟩
  | case4 fs w' ws fs' hask =>
    cases h
    exact ⟨List.mem_cons_self, (action_of_ask_raised hask).1⟩

/-- No warning is raised as an error if no action says so. -/
theorem sift_raised_eq_none (h : ∀ w ∈ ws, fs.action (w.occurrence p) ≠ .error) :
    (fs.sift p ws).raised = none := by
  rw [Option.eq_none_iff_forall_ne_some]
  intro w hw
  obtain ⟨hmem, haction⟩ := action_of_sift_raised hw
  exact h w hmem haction

end Filters

namespace Session

variable {σ : Session} {p : Place} {w : LayoutWarning}

/-- The session after a layout warning has been handed to its handler. -/
def delivered (σ : Session) (w : LayoutWarning) : Session :=
  match σ.handler.receiver? (.warning (.layout w)) .layout with
  | none => { σ with received := σ.received ++ [w.record] }
  | some e => { σ with written := σ.written ++ [(e.console.stream, e.console.write (w.draw e.theme))] }

@[simp] theorem delivered_filters : (σ.delivered w).filters = σ.filters := by
  unfold delivered
  split <;> rfl

/-- A delivery has no part in the filters. -/
theorem delivered_withFilters (fs : Filters) :
    { σ with filters := fs }.delivered w = { σ.delivered w with filters := fs } := by
  unfold delivered
  dsimp only
  split <;> rfl

theorem delivered_of_base (h : σ.handler = .base) :
    σ.delivered w = { σ with received := σ.received ++ [w.record] } := by
  simp only [delivered, h, Handler.receiver?]

/-! ## Steps -/

/-- A step after another one starts where that one has left the session. -/
theorem run_bind {α β : Type} (x : Step α) (f : α → Step β) (σ : Session) :
    (x >>= f).run σ = match x.run σ with
      | (.ok a, σ') => (f a).run σ'
      | (.error e, σ') => (.error e, σ') := by
  show ExceptT.bindCont f (x.run σ).1 (x.run σ).2 = _
  rcases x.run σ with ⟨_ | _, σ'⟩ <;> rfl

/-! ## One warning -/

theorem deliverLayout_run (w : LayoutWarning) (σ : Session) :
    (deliverLayout w .layout none).run σ = (.ok (), σ.delivered w) := by
  show (match σ.handler.receiver? (.warning (.layout w)) .layout with
    | none => record w.record
    | some e => print e.console (w.draw e.theme)).run σ = _
  unfold delivered
  split <;> rfl

/-- The filters decide what becomes of a warning. -/
theorem warnLayout_run (p : Place) (w : LayoutWarning) (σ : Session) :
    (warnLayout p w).run σ = match σ.filters.ask (w.occurrence p) with
      | (.shown, fs) => (.ok (), { σ with filters := fs }.delivered w)
      | (.dropped, fs) => (.ok (), { σ with filters := fs })
      | (.raised, fs) => (.error (.warning (.layout w)), { σ with filters := fs }) := by
  have hask : (ask (w.occurrence p)).run σ = (.ok (σ.filters.ask (w.occurrence p)).1,
      { σ with filters := (σ.filters.ask (w.occurrence p)).2 }) := rfl
  unfold warnLayout
  rw [run_bind, hask]
  rcases σ.filters.ask (w.occurrence p) with ⟨_ | _ | _, fs⟩
  · exact deliverLayout_run w _
  · rfl
  · rfl

/-! ## All warnings -/

/-- A warning that fails hides those behind it. -/
theorem warnAll_run_cons (p : Place) (w : LayoutWarning) (ws : List LayoutWarning) (σ : Session) :
    (warnAll p (w :: ws)).run σ = match (warnLayout p w).run σ with
      | (.ok _, σ') => (warnAll p ws).run σ'
      | (.error e, σ') => (.error e, σ') := by
  show (warnLayout p w >>= fun _ => warnAll p ws).run σ = _
  rw [run_bind]
  rcases (warnLayout p w).run σ with ⟨_ | _, σ'⟩ <;> rfl

/-- Warnings that come through the filters are delivered, up to the one that is raised. -/
theorem warnAll_run (p : Place) (ws : List LayoutWarning) (σ : Session) :
    let sifted := σ.filters.sift p ws
    (warnAll p ws).run σ =
      (match sifted.raised with
        | none => .ok ()
        | some w => .error (.warning (.layout w)),
      sifted.shown.foldl delivered { σ with filters := sifted.filters }) := by
  induction ws generalizing σ with
  | nil =>
    rw [Filters.sift_nil]
    rfl
  | cons w ws ih =>
    rw [warnAll_run_cons, warnLayout_run, Filters.sift]
    rcases σ.filters.ask (w.occurrence p) with ⟨_ | _ | _, fs⟩
    · show (warnAll p ws).run ({ σ with filters := fs }.delivered w) = _
      rw [ih, delivered_filters, ← delivered_withFilters]
      rfl
    · exact ih { σ with filters := fs }
    · rfl

/-- The base handler records the warnings in their order, where all are shown. -/
theorem warnAll_run_of_base (ws : List LayoutWarning) (hbase : σ.handler = .base)
    (h : σ.filters.ShowsAll p) :
    (warnAll p ws).run σ =
      (.ok (), { σ with received := σ.received ++ ws.map LayoutWarning.record }) := by
  rw [warnAll_run, Filters.sift_of_showsAll h]
  show (_, ws.foldl delivered σ) = _
  congr 1
  clear h
  induction ws generalizing σ with
  | nil => simp
  | cons w ws ih =>
    have hw := ih (σ := σ.delivered w) (by rw [delivered_of_base hbase]; exact hbase)
    rw [List.foldl_cons, hw, delivered_of_base hbase]
    simp

/-- A layout without rows fails with what its header lacks; else only its warnings can make it fail. -/
theorem run_layOut (s : Snippet) (o : LayoutOptions) (σ : Session) :
    (layOut s o).run σ = match s.display o with
      | .error e => (.error (.header e), σ)
      | .ok rows => match (warnAll .assembly s.warnings).run σ with
        | (.ok _, σ') => (.ok rows, σ')
        | (.error e, σ') => (.error e, σ') := by
  unfold layOut
  cases s.display o with
  | error e => rfl
  | ok rows =>
    show (warnAll .assembly s.warnings >>= fun _ => pure rows).run σ = _
    rw [run_bind]
    rcases (warnAll .assembly s.warnings).run σ with ⟨_ | _, σ'⟩ <;> rfl

/-- Warnings leave every session as it was exactly if there are none. -/
theorem warnAll_run_eq_self_iff {ws : List LayoutWarning} :
    (∀ p σ, (warnAll p ws).run σ = (.ok (), σ)) ↔ ws = [] := by
  constructor
  · -- a session that records every warning tells whether there is one
    intro hrun
    let σ : Session := { filters := { list := [{ action := .always }] }, memory := 0 }
    let p : Place := ⟨"", 0, none⟩
    have hshows : σ.filters.ShowsAll p := Filters.showsAll_of_always (fun _ => rfl) rfl
    have hrecorded := warnAll_run_of_base ws (σ := σ) rfl hshows
    rw [hrun, Prod.mk.injEq, Session.mk.injEq] at hrecorded
    obtain ⟨-, -, -, -, -, hreceived, -⟩ := hrecorded
    exact List.map_eq_nil_iff.1 hreceived.symm
  · rintro rfl p σ
    rfl

end Session

end CodeFrame
