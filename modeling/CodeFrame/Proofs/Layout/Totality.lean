import CodeFrame.Proofs.Layout.Shares
import Mathlib.Algebra.Group.Int.Defs

/-!
# When a snippet can be laid out

What a snippet was checked for is enough to lay it out: its designations hit annotations, every offset
that is looked up lies on a line, and folding cuts inside of the rows it has. One thing remains, which no
check excludes: the row in the header may have too many digits to be written (`Snippet.mainRow?`). Else
the layout fails exactly if the filters raise one of its warnings, each of which is about an annotation
without an end (`Snippet.layOut_run`).
-/

namespace CodeFrame

/-- An annotation with a start and no end. -/
def Annotation.isDangling (a : Annotation) : Bool :=
  a.anchor.start?.isSome && a.anchor.stop?.isNone

namespace Snippet

variable (s : Snippet) (o : LayoutOptions)

/-! ## Designations -/

/-- A designation that fits hits an annotation. -/
theorem exists_designated {i? : Option Int} (h : s.Designates i?) {i : Int} (hi : i? = some i) :
    0 ≤ i ∧ i < s.annotations.length ∧
      ∃ a ∈ s.annotations, s.annotations[i.toNat]? = some a ∧ s.designated? i? = some a := by
  obtain ⟨h0, hlt⟩ := h i hi
  have hget := List.getElem?_eq_getElem (by omega : i.toNat < s.annotations.length)
  subst hi
  exact ⟨h0, hlt, _, List.getElem_mem _, hget, hget⟩

theorem mem_of_mainAnnotation? {a : Annotation} (h : s.mainAnnotation? = some a) :
    a ∈ s.annotations := by
  unfold mainAnnotation? designated? at h
  obtain ⟨i, -, hget⟩ := Option.bind_eq_some_iff.1 h
  exact List.mem_of_getElem? hget

/-! ## Offsets -/

variable {s}

/-- Where an annotation of a snippet starts or ends, there is a line. -/
theorem exists_lineOf? {a : Annotation} (ha : a ∈ s.annotations) {p : Int}
    (hp : a.anchor.start? = some p ∨ a.anchor.stop? = some p) :
    ∃ k, s.table.lineOf? p = some k :=
  s.table.exists_lineOf?_of_fits (s.valid.fits a ha) hp

/-- An annotation of a snippet that has an end has a start, and there is a line for each of them. -/
theorem exists_span {a : Annotation} (ha : a ∈ s.annotations) (hstop : a.anchor.stop?.isSome) :
    ∃ start stop h0 hle i j, a.anchor = .span start stop h0 hle ∧
      s.table.lineOf? start = some i ∧ s.table.lineOf? stop = some j := by
  cases hanchor : a.anchor with
  | unplaced =>
    rw [hanchor] at hstop
    cases hstop
  | dangling start h0 =>
    rw [hanchor] at hstop
    cases hstop
  | span start stop h0 hle =>
    have hstart? : a.anchor.start? = some start := by rw [hanchor]; rfl
    have hstop? : a.anchor.stop? = some stop := by rw [hanchor]; rfl
    obtain ⟨i, hi⟩ := exists_lineOf? ha (.inl hstart?)
    obtain ⟨j, hj⟩ := exists_lineOf? ha (.inr hstop?)
    exact ⟨start, stop, h0, hle, i, j, rfl, hi, hj⟩

/-- Only what has no end is left out of a body. -/
theorem isLeftOut_eq_isDangling {a : Annotation} (ha : a ∈ s.annotations) :
    a.isLeftOut s.table = a.isDangling := by
  unfold Annotation.isLeftOut Annotation.isDangling
  cases hstop : a.anchor.stop? with
  | none => rfl
  | some p =>
    obtain ⟨k, hk⟩ := exists_lineOf? ha (.inr hstop)
    rw [Option.bind_some, hk]
    rfl

variable (s)

/-- There is a warning for each annotation without an end. -/
theorem warnings_eq :
    s.warnings = (s.annotations.filter (·.isDangling)).map (LayoutWarning.ofPending s.origin) := by
  have hpending : s.plan.pending = s.annotations.filter (·.isDangling) := by
    rw [plan, LineTable.plan_pending_eq]
    exact List.filter_congr fun a ha => isLeftOut_eq_isDangling ha
  rw [warnings, hpending]

/-- The first warning is that of the first annotation without an end. -/
theorem head?_warnings :
    s.warnings.head? =
      (s.annotations.find? (·.isDangling)).map (LayoutWarning.ofPending s.origin) := by
  rw [warnings_eq, List.head?_map, List.head?_filter]

/-! ## The header -/

/-- The row of an annotation in the header. -/
def row (a : Annotation) : Int :=
  if o.resolveLocation then
    match a.anchor.start?.bind s.table.lineOf? with
    | none => s.firstNumber
    | some k => s.table.number k
  else 52

/-- The row in the header, if there is a main annotation. -/
def mainRow? : Option Int :=
  s.mainAnnotation?.map (s.row o)

/-- An annotation of a snippet has a location. -/
theorem exists_location {a : Annotation} (ha : a ∈ s.annotations) :
    ∃ col, s.location o a = .ok (s.row o a, col) := by
  unfold location row
  by_cases hresolve : o.resolveLocation
  · rw [if_pos hresolve, if_pos hresolve]
    cases hstart : a.anchor.start? with
    | none => exact ⟨1, rfl⟩
    | some p =>
      obtain ⟨k, hk⟩ := exists_lineOf? ha (.inl hstart)
      rw [Option.bind_some, hk]
      exact ⟨_, s.table.locate_eq_ok hk⟩
  · rw [if_neg hresolve, if_neg hresolve]
    exact ⟨1, rfl⟩

/-- The location line exists if its row can be written. -/
theorem locationText_eq (n col : Int) :
    (fitsDigits n ∧ ∃ text, s.locationText n col = .ok text) ∨
      (¬ fitsDigits n ∧ s.locationText n col = .error ⟨n⟩) := by
  unfold locationText numeral?
  by_cases h : fitsDigits n
  · rw [if_pos h]
    exact .inl ⟨h, _, rfl⟩
  · rw [if_neg h]
    exact .inr ⟨h, rfl⟩

/-- With a main annotation, all that a header still needs is the text of the location. -/
theorem header_of_main {a : Annotation} (hmain : s.mainAnnotation? = some a) {n col : Int}
    (hlocation : s.location o a = .ok (n, col)) :
    s.header o = match s.locationText n col with
      | .ok text => .ok (s.titleAnnotation?.toList.map (fun a => .raw (titleText o a)) ++ [.raw text])
      | .error e => .error (.row e) := by
  unfold header
  simp only [hmain, hlocation, Except.mapError, bind, Except.bind]
  cases s.locationText n col <;> rfl

/-- A header exists, unless its row cannot be written. -/
theorem header_eq :
    ((∀ n, s.mainRow? o = some n → fitsDigits n) ∧ ∃ rows, s.header o = .ok rows) ∨
      ∃ n, s.mainRow? o = some n ∧ ¬ fitsDigits n ∧ s.header o = .error (.row ⟨n⟩) := by
  unfold mainRow?
  cases hmain : s.mainAnnotation? with
  | none =>
    refine .inl ⟨?_, s.titleAnnotation?.toList.map fun a => .raw (titleText o a), ?_⟩
    · intro n hn
      cases hn
    · unfold header
      rw [hmain]
      rfl
  | some a =>
    obtain ⟨col, hlocation⟩ := s.exists_location o (s.mem_of_mainAnnotation? hmain)
    rw [s.header_of_main o hmain hlocation]
    rcases s.locationText_eq (s.row o a) col with ⟨hfits, text, htext⟩ | ⟨hfits, herror⟩
    · rw [htext]
      refine .inl ⟨?_, _, rfl⟩
      intro n hn
      cases hn
      exact hfits
    · rw [herror]
      exact .inr ⟨_, rfl, hfits, rfl⟩

/-! ## Layout -/

/-- A display list is a header with the body under it. -/
theorem display_eq : s.display o = (s.header o).map (· ++ s.body o) := by
  unfold display
  cases s.header o <;> rfl

end Snippet

/-- A splice lies inside of its run: it starts behind the head of the run and stops before its tail,
which end where the caption stands. -/
theorem Folding.splice_bounds {o : LayoutOptions} {f : Folding} (h : o.threshold < f.run) :
    (f.spliceStart o : Int) = f.kept.length - f.run + o.keepHead ∧
      (f.spliceStop o : Int) = f.kept.length - o.keepTail ∧
      (0 : Int) ≤ f.kept.length - f.run ∧
      (f.kept.length : Int) - f.run ≤ f.spliceStart o ∧
      f.spliceStart o < f.spliceStop o ∧ f.spliceStop o ≤ f.kept.length := by
  have hrun := f.run_le
  have hkeep := o.keep_le
  unfold spliceStart spliceStop
  omega

/-- Laying a snippet out fails in two cases only. If the row of the main annotation has too many digits,
there is no header. Else a warning about an annotation without an end is raised, if there is one that the
filters raise; if they raise all, it is the warning of the first such annotation. Whatever the case is, the
designations hit annotations, no offset is looked up outside of the source, and every splice lies inside of
the rows kept so far. -/
theorem Snippet.layOut_run (s : Snippet) (o : LayoutOptions) (σ : Session) :
    (∀ i, s.title = some i → 0 ≤ i ∧ i < s.annotations.length ∧
      ∃ a ∈ s.annotations, s.annotations[i.toNat]? = some a ∧ s.titleAnnotation? = some a) ∧
    (∀ i, s.main = some i → 0 ≤ i ∧ i < s.annotations.length ∧
      ∃ a ∈ s.annotations, s.annotations[i.toNat]? = some a ∧ s.mainAnnotation? = some a) ∧
    (∀ e, s.header o ≠ .error (.offset e)) ∧
    (∀ rows : List DisplayLine, let f := rows.foldl (Folding.step o) .start
      o.threshold < f.run →
        (0 : Int) ≤ f.kept.length - f.run ∧
        (f.kept.length : Int) - f.run ≤ f.kept.length - f.run + o.keepHead ∧
        (f.kept.length : Int) - f.run + o.keepHead < f.kept.length - o.keepTail ∧
        (f.kept.length : Int) - o.keepTail ≤ f.kept.length ∧
        (f.close o).reverse =
          f.kept.reverse.take ((f.kept.length : Int) - f.run + o.keepHead).toNat ++
            .fold :: f.kept.reverse.drop ((f.kept.length : Int) - o.keepTail).toNat) ∧
    (∀ n, s.mainRow? o = some n → ¬ fitsDigits n →
      (Session.layOut s o).run σ = (.error (.header (.row ⟨n⟩)), σ)) ∧
    ((∀ n, s.mainRow? o = some n → fitsDigits n) →
      ∃ rows, s.display o = .ok rows ∧
        ((∀ w ∈ s.warnings, σ.filters.action (w.occurrence .assembly) ≠ .error) →
          ∃ σ', (Session.layOut s o).run σ = (.ok rows, σ')) ∧
        (match (σ.filters.sift .assembly s.warnings).raised with
          | none => ∃ σ', (Session.layOut s o).run σ = (.ok rows, σ')
          | some w => (∃ a ∈ s.annotations, a.isDangling ∧ w = .ofPending s.origin a) ∧
            ∃ σ', (Session.layOut s o).run σ = (.error (.warning (.layout w)), σ')) ∧
        (σ.filters.RaisesAll .assembly →
          (Session.layOut s o).run σ = match s.annotations.find? (·.isDangling) with
            | none => (.ok rows, σ)
            | some a => (.error (.warning (.layout (.ofPending s.origin a))), σ))) := by
  refine ⟨fun i => s.exists_designated s.valid.title, fun i => s.exists_designated s.valid.main, ?_, ?_,
    ?_, ?_⟩
  · -- the main annotation starts on a line, so no lookup fails
    intro e he
    rcases s.header_eq o with ⟨-, rows, hrows⟩ | ⟨n, -, -, hn⟩
    · rw [hrows] at he
      cases he
    · rw [hn] at he
      cases he
  · -- a run that is too long is longer than its head and its tail together
    intro rows f hlong
    obtain ⟨hstart, hstop, h0, h1, h2, h3⟩ := Folding.splice_bounds hlong
    have hclose := Folding.reverse_close hlong
    rw [← hstart, ← hstop, Int.toNat_natCast, Int.toNat_natCast]
    exact ⟨h0, h1, by omega, by omega, hclose⟩
  · -- a row that cannot be written fails before any warning is raised
    intro n hn hlong
    rcases s.header_eq o with ⟨hfits, -⟩ | ⟨n', hn', -, hheader⟩
    · exact absurd (hfits n hn) hlong
    · rw [hn, Option.some.injEq] at hn'
      rw [Session.run_layOut, display_eq, hheader, hn']
      rfl
  · intro hfits
    rcases s.header_eq o with ⟨-, header, hheader⟩ | ⟨n, hn, hlong, -⟩
    · have hdisplay : s.display o = .ok (header ++ s.body o) := by
        rw [display_eq, hheader]
        rfl
      have hrun := Session.run_layOut s o σ
      rw [hdisplay, Session.warnAll_run] at hrun
      refine ⟨_, hdisplay, ?_, ?_, ?_⟩
      · intro haction
        rw [Filters.sift_raised_eq_none haction] at hrun
        exact ⟨_, hrun⟩
      · cases hraised : (σ.filters.sift .assembly s.warnings).raised with
        | none =>
          rw [hraised] at hrun
          exact ⟨_, hrun⟩
        | some w =>
          rw [hraised] at hrun
          refine ⟨?_, _, hrun⟩
          have hw := (Filters.action_of_sift_raised hraised).1
          rw [s.warnings_eq, List.mem_map] at hw
          obtain ⟨a, ha, rfl⟩ := hw
          obtain ⟨hmem, hdangling⟩ := List.mem_filter.1 ha
          exact ⟨a, hmem, hdangling, rfl⟩
      · intro hall
        rw [Filters.sift_of_raisesAll hall, s.head?_warnings] at hrun
        rw [hrun]
        cases s.annotations.find? (·.isDangling) <;> rfl
    · exact absurd (hfits n hn) hlong

/-- The second of two lines, where the first has the greatest number that can be written. -/
theorem Snippet.layOut_run_of_long_row :
    let a : Annotation := ⟨.error, none, none, .span 3 3 (by decide) (by decide)⟩
    let d : Description :=
      { source := "a\nb", firstNumber := 10 ^ maxDigits - 1, annotations := [a], main := some 0 }
    ∃ s : Snippet, s.toDescription = d ∧ s.mainRow? {} = some (10 ^ maxDigits) ∧
      ¬ fitsDigits (10 ^ maxDigits) ∧
      (Session.layOut s {}).run { memory := 0 } =
        (.error (.header (.row ⟨10 ^ maxDigits⟩)), { memory := 0 }) := by
  have hlong : ¬ fitsDigits (10 ^ maxDigits) := by decide +kernel
  -- from here on the numbers are not to be evaluated
  generalize hnumber : (10 : Int) ^ maxDigits = n at hlong ⊢
  clear hnumber
  intro a d
  have hlines : splitLines "a\nb" = ["a", "b"] := by decide
  have htable : d.table = ⟨["a", "b"], n - 1⟩ := by
    show LineTable.mk (splitLines "a\nb") (n - 1) = _
    rw [hlines]
  have hextent : d.table.extent? = some 5 := by
    rw [htable]
    rfl
  have hline : d.table.lineOf? 3 = some 1 := by
    rw [htable]
    rfl
  have hvalid : d.Valid := by
    constructor
    · simp [Description.Designates, d]
    · simp [Description.Designates, d]
    · simp [d, a, Anchor.Fits, Anchor.last?, hextent]
  have hrow : (⟨d, hvalid⟩ : Snippet).mainRow? {} = some n := by
    show some (match d.table.lineOf? 3 with
      | none => n - 1
      | some k => d.table.number k) = _
    rw [hline]
    exact congrArg some (Int.sub_add_cancel n 1)
  obtain ⟨-, -, -, -, hfail, -⟩ := Snippet.layOut_run ⟨d, hvalid⟩ {} { memory := 0 }
  exact ⟨⟨d, hvalid⟩, rfl, hrow, hlong, hfail _ hrow hlong⟩

end CodeFrame
