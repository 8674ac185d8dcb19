import CodeFrame.Proofs.Layout.Location
import CodeFrame.Proofs.Layout.Segments

/-!
# Numbering the lines of a source anew

The number of the first line is only shown. Where it changes, the rows of a snippet stay as they are but
for the numbers in them (`Snippet.display_renumber`). A display list is told by its location, the place that
its header names if there is one, and by its rows (`Snippet.displayAt`); both move with the first number, a
location that stands for no place aside.
-/

namespace CodeFrame

/-! ## Moved numbers -/

/-- The row with its line number increased. -/
def DisplayLine.renumber (d : Int) : DisplayLine → DisplayLine
  | source n marks content => source (n + d) marks content
  | l => l

theorem DisplayLine.isCaption_renumber (d : Int) (l : DisplayLine) :
    (l.renumber d).isCaption = l.isCaption := by
  cases l <;> rfl

theorem DisplayLine.renumber_of_isCaption {l : DisplayLine} (h : l.isCaption) (d : Int) :
    l.renumber d = l := by
  cases l with
  | caption c => rfl
  | _ => cases h

/-- The table with all its line numbers increased. -/
def LineTable.renumber (d : Int) (t : LineTable) : LineTable :=
  { t with firstNumber := t.firstNumber + d }

/-- The description with all its line numbers increased. -/
def Description.renumber (d : Int) (x : Description) : Description :=
  { x with firstNumber := x.firstNumber + d }

/-! ## Tables -/

namespace LineTable

variable (t : LineTable) (d : Int)

theorem number_renumber (i : Int) : (t.renumber d).number i = t.number i + d := by
  show t.firstNumber + d + i = t.firstNumber + i + d
  omega

/-- An offset keeps its line and its column, and its row is shown with another number. -/
theorem locate_renumber (p : Int) :
    (t.renumber d).locate p = (t.locate p).map fun place => (place.1 + d, place.2) := by
  have hindex : (t.renumber d).lineIndex p = t.lineIndex p := rfl
  unfold locate
  rw [hindex]
  cases t.lineIndex p with
  | error e => rfl
  | ok i =>
    show Except.ok ((t.renumber d).number i, _) = .ok (t.number i + d, _)
    rw [number_renumber]
    rfl

/-- A body that has only captions under its lines is the same with other line numbers. -/
theorem body_renumber {ps : List Placement} (hps : ∀ i row, .insert i row ∈ ps → row.isCaption) :
    (t.renumber d).body ps = (t.body ps).map (DisplayLine.renumber d) := by
  have hrows : ∀ lk : String × Nat,
      (t.renumber d).lineRows ps lk = (t.lineRows ps lk).map (DisplayLine.renumber d) := by
    intro lk
    have hunder : (Placement.rowsUnder lk.2 ps).map (DisplayLine.renumber d) =
        Placement.rowsUnder lk.2 ps := by
      conv => rhs; rw [← List.map_id (Placement.rowsUnder lk.2 ps)]
      apply List.map_congr_left
      intro row hrow
      obtain ⟨i, hi⟩ := exists_insert_of_mem_rowsUnder hrow
      exact DisplayLine.renumber_of_isCaption (hps i row hi) d
    unfold lineRows
    rw [number_renumber, List.map_cons, hunder]
    rfl
  rw [body_eq, body_eq, List.map_flatMap]
  exact List.flatMap_congr fun lk _ => hrows lk

end LineTable

/-! ## Folding -/

section

variable {o : LayoutOptions} {f : DisplayLine → DisplayLine}

theorem cutRun_map (hfold : f .fold = .fold) (run : List DisplayLine) :
    cutRun o (run.map f) = (cutRun o run).map f := by
  by_cases hlong : o.fold ∧ o.threshold < run.length
  · have hlong' : o.fold ∧ o.threshold < (run.map f).length := by rwa [List.length_map]
    rw [cutRun_of_long hlong, cutRun_of_long hlong', List.length_map, List.map_append, List.map_cons,
      hfold, List.map_take, List.map_drop]
  · have hlong' : ¬ (o.fold ∧ o.threshold < (run.map f).length) := by rwa [List.length_map]
    rw [cutRun_of_not_long hlong, cutRun_of_not_long hlong']

/-- What is folded is told by the captions alone, so folding meets a change of the other rows alike. -/
theorem foldBody_map (hfold : f .fold = .fold) (hcaption : ∀ l, (f l).isCaption = l.isCaption)
    (body : List DisplayLine) : foldBody o (body.map f) = (foldBody o body).map f := by
  have hmap : ∀ run : List DisplayLine, (∀ l ∈ run, ¬ l.isCaption) → ∀ l ∈ run.map f, ¬ l.isCaption := by
    intro run hrun l hl
    obtain ⟨l', hl', rfl⟩ := List.mem_map.1 hl
    rw [hcaption]
    exact hrun l' hl'
  induction body using induction_on_runs with
  | unended run hrun => rw [foldBody_eq_self hrun, foldBody_eq_self (hmap run hrun)]
  | ended run c rest hrun hc ih =>
    have hc' : (f c).isCaption := by rwa [hcaption]
    rw [List.map_append, List.map_append, List.map_singleton, foldBody_append hc', foldBody_append hc,
      foldBody_run (hmap run hrun) hc', foldBody_run hrun hc, ih, cutRun_map hfold, List.map_append,
      List.map_append, List.map_singleton]

end

/-! ## Display lists -/

namespace Snippet

variable (s : Snippet) (d : Int) (o : LayoutOptions)

/-- The snippet with all its line numbers increased. -/
def renumber : Snippet where
  toDescription := s.toDescription.renumber d
  valid := ⟨s.valid.title, s.valid.main, s.valid.fits⟩

/-- The place that the header names, if there is a main annotation. -/
def place? : Option (Int × Int) :=
  s.mainAnnotation?.bind fun a => (s.location o a).toOption

/-- The header lines above the location. -/
def titleLines : List DisplayLine :=
  s.titleAnnotation?.toList.map fun a => .raw (titleText o a)

/-- The display list of the snippet, if its header named this place and these were its rows. -/
def displayAt (place? : Option (Int × Int)) (rows : List DisplayLine) :
    Except HeaderError (List DisplayLine) :=
  match place? with
  | none => .ok (s.titleLines o ++ rows)
  | some (row, col) =>
    if fitsDigits row then .ok (s.titleLines o ++ .raw (s.locationLine row col) :: rows)
    else .error (.row ⟨row⟩)

variable {s o} in
theorem displayAt_of_fits {row : Int} (h : fitsDigits row) (col : Int) (rows : List DisplayLine) :
    s.displayAt o (some (row, col)) rows =
      .ok (s.titleLines o ++ .raw (s.locationLine row col) :: rows) := by
  simp only [displayAt, h, if_true]

variable {s o} in
theorem displayAt_of_not_fits {row : Int} (h : ¬ fitsDigits row) (col : Int) (rows : List DisplayLine) :
    s.displayAt o (some (row, col)) rows = .error (.row ⟨row⟩) := by
  simp only [displayAt, h, Bool.false_eq_true, if_false]

theorem display_eq_displayAt : s.display o = s.displayAt o (s.place? o) (s.body o) := by
  rw [display_eq]
  unfold place?
  cases hmain : s.mainAnnotation? with
  | none =>
    unfold header
    rw [hmain]
    rfl
  | some a =>
    obtain ⟨col, hlocation⟩ := s.exists_location o (s.mem_of_mainAnnotation? hmain)
    have hplace : (Except.ok (s.row o a, col) : Except OffsetError _).toOption =
        some (s.row o a, col) := rfl
    rw [s.header_of_main o hmain hlocation, Option.bind_some, hlocation, hplace]
    rcases s.locationText_eq (s.row o a) col with ⟨hfits, -⟩ | ⟨hlong, herror⟩
    · rw [displayAt_of_fits hfits, s.locationText_of_fits hfits, List.append_cons]
      rfl
    · rw [displayAt_of_not_fits hlong, herror]
      rfl

/-- A header names a place exactly if a main annotation is designated. -/
theorem isSome_place?_iff : (s.place? o).isSome ↔ s.main.isSome := by
  unfold place?
  cases hmain : s.main with
  | none => simp [mainAnnotation?, designated?, hmain]
  | some i =>
    obtain ⟨-, -, a, ha, -, hdesignated⟩ := s.exists_designated s.valid.main hmain
    have hdesignated : s.mainAnnotation? = some a := hdesignated
    obtain ⟨col, hlocation⟩ := s.exists_location o ha
    rw [hdesignated, Option.bind_some, hlocation]
    rfl

theorem location_renumber (a : Annotation) :
    (s.renumber d).location o a =
      (s.location o a).map fun place => if o.resolveLocation then (place.1 + d, place.2) else place := by
  unfold location
  by_cases hresolve : o.resolveLocation
  · simp only [if_pos hresolve]
    cases a.anchor.start? with
    | none => rfl
    | some p => exact s.table.locate_renumber d p
  · simp only [if_neg hresolve]
    rfl

theorem place?_renumber :
    (s.renumber d).place? o = if o.resolveLocation then
      (s.place? o).map fun place => (place.1 + d, place.2) else s.place? o := by
  have hmain : (s.renumber d).mainAnnotation? = s.mainAnnotation? := rfl
  unfold place?
  rw [hmain]
  cases s.mainAnnotation? with
  | none => simp
  | some a =>
    simp only [Option.bind_some, location_renumber]
    by_cases hresolve : o.resolveLocation
    · simp only [if_pos hresolve]
      cases s.location o a <;> rfl
    · simp only [if_neg hresolve]
      cases s.location o a <;> rfl

theorem body_renumber : (s.renumber d).body o = (s.body o).map (DisplayLine.renumber d) := by
  have hunfolded : (s.renumber d).table.body (s.renumber d).plan.placements =
      (s.table.body s.plan.placements).map (DisplayLine.renumber d) :=
    s.table.body_renumber d fun i row => s.table.isCaption_of_insert_mem_plan
  unfold body
  rw [hunfolded, foldBody_map rfl (DisplayLine.isCaption_renumber d), List.map_append, List.map_cons,
    List.map_singleton]
  rfl

/-- A snippet whose line numbers are all increased by `d` is a snippet with the same warnings. Its display
list is that of the snippet as it was, with `d` added to the numbers of its rows and, where locations are
resolved, to the row that its header names, if it names one; columns, captions, marks, contents and folds
stay. The one thing that a number can do is to have too many digits for the header, and so it can before
as well as after. -/
theorem display_renumber :
    ∃ u : Snippet, (s.toDescription.renumber d).check = .ok u ∧
      u.toDescription = { s.toDescription with firstNumber := s.firstNumber + d } ∧
      u.warnings = s.warnings ∧
      ((s.place? o).isSome ↔ s.main.isSome) ∧
      s.display o = s.displayAt o (s.place? o) (s.body o) ∧
      u.display o = s.displayAt o
        (if o.resolveLocation then (s.place? o).map fun place => (place.1 + d, place.2) else s.place? o)
        ((s.body o).map (DisplayLine.renumber d)) := by
  refine ⟨s.renumber d, (s.renumber d).check_toDescription, rfl, rfl, s.isSome_place?_iff o,
    s.display_eq_displayAt o, ?_⟩
  rw [display_eq_displayAt, place?_renumber, body_renumber]
  rfl

/-- An annotation on the second of two lines, which is shown where the first line is number one. With a
first number one below the least that cannot be written, nothing is. -/
theorem display_renumber_of_long_row :
    let a : Annotation := ⟨.error, none, some "x", .span 3 4 (by decide) (by decide)⟩
    let x : Description := { source := "a\nb", annotations := [a], main := some 0 }
    ∃ s u : Snippet, s.toDescription = x ∧ (x.renumber (10 ^ maxDigits - 2)).check = .ok u ∧
      s.display {} = .ok [.raw "  --> :2:1", .blank, .source 1 [] "a", .source 2 [] "b",
        .caption ⟨[], 0, 1, "x", .error⟩, .blank] ∧
      u.display {} = .error (.row ⟨10 ^ maxDigits⟩) := by
  have hlong : ¬ fitsDigits (10 ^ maxDigits) := by decide +kernel
  -- from here on the number is not to be evaluated
  generalize (10 : Int) ^ maxDigits = n at hlong ⊢
  intro a x
  have hvalid : x.Valid := x.problem?_eq_none_iff.1 (by decide)
  have hplace : (⟨x, hvalid⟩ : Snippet).place? {} = some (2, 1) := by
    show (x.table.locate 3).toOption = _
    decide
  have hbody : (⟨x, hvalid⟩ : Snippet).body {} = [.blank, .source 1 [] "a", .source 2 [] "b",
      .caption ⟨[], 0, 1, "x", .error⟩, .blank] := by
    show .blank :: foldBody {} (x.table.body (x.table.plan [a]).placements) ++ [.blank] = _
    decide
  obtain ⟨u, hcheck, -, -, -, hdisplay, hdisplay'⟩ := display_renumber ⟨x, hvalid⟩ (n - 2) {}
  rw [hplace] at hdisplay hdisplay'
  refine ⟨⟨x, hvalid⟩, u, rfl, hcheck, ?_, ?_⟩
  · have hfits : fitsDigits 2 := by decide +kernel
    rw [hdisplay, displayAt_of_fits hfits, hbody]
    rfl
  · have hrow : (2 : Int) + (n - 2) = n := by omega
    rw [hdisplay', if_pos rfl, Option.map_some, hrow, displayAt_of_not_fits hlong]

end Snippet

end CodeFrame
