import CodeFrame.Layout.Body
import CodeFrame.Proofs.Layout.Regrouping
import CodeFrame.Proofs.Layout.Segments

/-!
# What stands above captions and folds

In a body that is not folded each caption stands under the line that it was planned for, with at most other
captions between them (`Snippet.captioned_unfolded`). Folding keeps it so as long as it keeps the last row
of each run. It keeps a source row on top as long as it keeps the first row of the first run, and a source
row below all folds as long as it keeps the last row of the run at the bottom. Options that keep no row at
one end of a run are accepted, and then a run that is too long shows the difference
(`Snippet.rows_in_order_iff`).
-/

namespace CodeFrame

variable {o : LayoutOptions} {above : Option DisplayLine} {run body : List DisplayLine}

/-! ## Captions with the rows above them -/

/-- The captions of rows that stand behind `above`, each with the nearest row above it that is no
caption. -/
def captionedFrom (above : Option DisplayLine) :
    List DisplayLine → List (Option DisplayLine × DisplayLine)
  | [] => []
  | l :: ls => if l.isCaption then (above, l) :: captionedFrom above ls else captionedFrom (some l) ls

/-- The captions of a body in their order, each with the nearest row above it that is no caption. -/
def captioned (body : List DisplayLine) : List (Option DisplayLine × DisplayLine) :=
  captionedFrom none body

/-- Behind a run its last row is the nearest one. -/
theorem captionedFrom_run (hrun : ∀ l ∈ run, ¬ l.isCaption) (rows : List DisplayLine) :
    captionedFrom above (run ++ rows) = captionedFrom (run.getLast?.or above) rows := by
  induction run generalizing above with
  | nil => rfl
  | cons l run ih =>
    have hl : ¬ l.isCaption := hrun l List.mem_cons_self
    rw [List.cons_append, captionedFrom, if_neg hl, ih fun l' hl' => hrun l' (List.mem_cons_of_mem l hl'),
      List.getLast?_cons, Option.or_some, Option.some_or]

/-- Captions that follow each other have the same row above them. -/
theorem captionedFrom_captions {under : List DisplayLine} (hunder : ∀ c ∈ under, c.isCaption)
    (rows : List DisplayLine) :
    captionedFrom above (under ++ rows) = under.map (above, ·) ++ captionedFrom above rows := by
  induction under with
  | nil => rfl
  | cons c under ih =>
    have hc : c.isCaption := hunder c List.mem_cons_self
    rw [List.cons_append, captionedFrom, if_pos hc, ih fun c' hc' => hunder c' (List.mem_cons_of_mem c hc')]
    rfl

theorem captionedFrom_ended {c : DisplayLine} (hrun : ∀ l ∈ run, ¬ l.isCaption) (hc : c.isCaption)
    (rest : List DisplayLine) :
    captionedFrom above (run ++ [c] ++ rest) =
      (run.getLast?.or above, c) :: captionedFrom (run.getLast?.or above) rest := by
  rw [List.append_assoc, captionedFrom_run hrun, List.singleton_append, captionedFrom, if_pos hc]

/-- A last row that is no caption has nothing under it. -/
theorem captionedFrom_concat {l : DisplayLine} (hl : ¬ l.isCaption) (rows : List DisplayLine) :
    captionedFrom above (rows ++ [l]) = captionedFrom above rows := by
  induction rows generalizing above with
  | nil => exact if_neg hl
  | cons r rows ih =>
    rw [List.cons_append, captionedFrom, captionedFrom, ih, ih]

/-! ## Bodies that are not folded -/

namespace LineTable

variable {t : LineTable} {ps : List Placement}

/-- The rows under a line are captioned by the row of the line. -/
theorem captionedFrom_flatMap_lineRows (hps : ∀ i row, .insert i row ∈ ps → row.isCaption)
    (lks : List (String × Nat)) :
    captionedFrom above (lks.flatMap (t.lineRows ps)) = lks.flatMap fun lk =>
      (Placement.rowsUnder lk.2 ps).map
        (some (.source (t.number lk.2) (Placement.marksOn lk.2 ps) lk.1), ·) := by
  induction lks generalizing above with
  | nil => rfl
  | cons lk lks ih =>
    have hunder : ∀ c ∈ Placement.rowsUnder lk.2 ps, c.isCaption := by
      intro c hc
      obtain ⟨i, hi⟩ := exists_insert_of_mem_rowsUnder hc
      exact hps i c hi
    rw [List.flatMap_cons, List.flatMap_cons, lineRows, List.cons_append, captionedFrom,
      if_neg Bool.noConfusion, captionedFrom_captions hunder, ih]

end LineTable

namespace Snippet

variable (s : Snippet) (o : LayoutOptions)

/-- The rows of the snippet before they are folded. -/
def unfolded : List DisplayLine :=
  s.table.body s.plan.placements

/-- The source row of the line at index `i`, with the marks that the plan puts beside it. -/
def sourceRow? (i : Int) : Option DisplayLine :=
  s.table.lines[i.toNat]?.map fun content =>
    .source (s.table.number i) (Placement.marksOn i.toNat s.plan.placements) content

/-- The captions of the plan in its order, each with the source row of the line it is planned for. -/
def planned : List (Option DisplayLine × DisplayLine) :=
  s.plan.placements.filterMap fun
    | .attach _ _ => none
    | .insert i row => some (s.sourceRow? i, row)

variable {s}

theorem isCaption_of_insert_mem {i : Int} {row : DisplayLine} (h : .insert i row ∈ s.plan.placements) :
    row.isCaption :=
  s.table.isCaption_of_insert_mem_plan h

variable (s)

/-- Before folding each caption stands under the line that it was planned for. -/
theorem captioned_unfolded : captionedFrom above s.unfolded = s.planned := by
  have hline : ∀ k ∈ List.range s.table.lines.length,
      ((s.annotations.flatMap fun a => a.share s.table k).filterMap fun
        | .attach _ _ => none
        | .insert i row => some (s.sourceRow? i, row)) =
        (Placement.rowsUnder k s.plan.placements).map (s.sourceRow? k, ·) := by
    intro k hk
    rw [plan, (s.table.on_plan _ (List.mem_range.1 hk)).2, Placement.rowsUnder, List.map_filterMap]
    apply List.filterMap_congr
    intro p hp
    obtain ⟨a, -, hp⟩ := List.mem_flatMap.1 hp
    have hpk := Annotation.line_of_mem_share hp
    cases p with
    | attach i m => rfl
    | insert i row =>
      obtain rfl : i = k := hpk
      simp [Placement.rowUnder?]
  have hrow : ∀ lk ∈ s.table.lines.zipIdx,
      (Placement.rowsUnder lk.2 s.plan.placements).map
          (some (.source (s.table.number lk.2) (Placement.marksOn lk.2 s.plan.placements) lk.1), ·) =
        (Placement.rowsUnder lk.2 s.plan.placements).map (s.sourceRow? lk.2, ·) := by
    rintro ⟨l, k⟩ hlk
    rw [List.mk_mem_zipIdx_iff_getElem?] at hlk
    simp only [sourceRow?, Int.toNat_natCast, hlk, Option.map_some]
  unfold unfolded planned
  rw [LineTable.body_eq, LineTable.captionedFrom_flatMap_lineRows fun i row => isCaption_of_insert_mem,
    List.flatMap_congr hrow]
  conv => rhs; rw [plan, LineTable.plan_placements_eq, List.filterMap_flatMap, List.flatMap_congr hline]
  rw [List.range_eq_range', ← List.zipIdx_map_snd 0 s.table.lines, List.flatMap_map]

/-- Before folding there is no row or the first one is a source row. -/
theorem head?_unfolded : s.unfolded = [] ∨ ∃ l, s.unfolded.head? = some l ∧ l.number?.isSome := by
  unfold unfolded
  rw [LineTable.body_eq]
  cases s.table.lines.zipIdx with
  | nil => exact .inl rfl
  | cons lk lks => exact .inr ⟨_, rfl, rfl⟩

end Snippet

/-! ## Folded bodies -/

/-- A run is folded from its first row on. -/
def LosesFirst (o : LayoutOptions) (run : List DisplayLine) : Prop :=
  o.fold ∧ o.keepHead = 0 ∧ o.threshold < run.length

/-- A run is folded up to its last row. -/
def LosesLast (o : LayoutOptions) (run : List DisplayLine) : Prop :=
  o.fold ∧ o.keepTail = 0 ∧ o.threshold < run.length

/-- The first of the runs that captions end loses its first row. -/
def FoldsFirst (o : LayoutOptions) (body : List DisplayLine) : Prop :=
  ∃ run ∈ (endedRuns body).head?, LosesFirst o run

/-- One of the runs that captions end loses its last row. -/
def FoldsLast (o : LayoutOptions) (body : List DisplayLine) : Prop :=
  ∃ run ∈ endedRuns body, LosesLast o run

instance (o : LayoutOptions) (run : List DisplayLine) : Decidable (LosesFirst o run) :=
  inferInstanceAs (Decidable (_ ∧ _ ∧ _))

instance (o : LayoutOptions) (run : List DisplayLine) : Decidable (LosesLast o run) :=
  inferInstanceAs (Decidable (_ ∧ _ ∧ _))

instance (o : LayoutOptions) (body : List DisplayLine) : Decidable (FoldsFirst o body) :=
  inferInstanceAs (Decidable (∃ run ∈ (endedRuns body).head?, _))

instance (o : LayoutOptions) (body : List DisplayLine) : Decidable (FoldsLast o body) :=
  inferInstanceAs (Decidable (∃ run ∈ endedRuns body, _))

theorem foldsFirst_of_ended {c : DisplayLine} {rest : List DisplayLine}
    (hrun : ∀ l ∈ run, ¬ l.isCaption) (hc : c.isCaption) :
    FoldsFirst o (run ++ [c] ++ rest) ↔ LosesFirst o run := by
  unfold FoldsFirst
  rw [endedRuns_of_ended hrun hc, List.head?_cons]
  simp

theorem foldsLast_of_ended {c : DisplayLine} {rest : List DisplayLine}
    (hrun : ∀ l ∈ run, ¬ l.isCaption) (hc : c.isCaption) :
    FoldsLast o (run ++ [c] ++ rest) ↔ LosesLast o run ∨ FoldsLast o rest := by
  unfold FoldsLast
  rw [endedRuns_of_ended hrun hc, List.exists_mem_cons_iff]

theorem head?_cutRun (h : ¬ LosesFirst o run) : (cutRun o run).head? = run.head? := by
  by_cases hlong : o.fold ∧ o.threshold < run.length
  · have hhead : o.keepHead ≠ 0 := fun hhead => h ⟨hlong.1, hhead, hlong.2⟩
    have hne : run ≠ [] := List.ne_nil_of_length_pos (Nat.zero_lt_of_lt hlong.2)
    rw [cutRun_of_long hlong, List.head?_append, List.head?_take, if_neg hhead,
      List.head?_eq_some_head hne, Option.some_or]
  · rw [cutRun_of_not_long hlong]

theorem head?_cutRun_of_losesFirst (h : LosesFirst o run) : (cutRun o run).head? = some .fold := by
  obtain ⟨ho, hhead, hlong⟩ := h
  rw [cutRun_of_long ⟨ho, hlong⟩, hhead]
  rfl

theorem getLast?_cutRun (h : ¬ LosesLast o run) : (cutRun o run).getLast? = run.getLast? := by
  by_cases hlong : o.fold ∧ o.threshold < run.length
  · have htail : o.keepTail ≠ 0 := fun htail => h ⟨hlong.1, htail, hlong.2⟩
    have hne : run ≠ [] := List.ne_nil_of_length_pos (Nat.zero_lt_of_lt hlong.2)
    have hdrop : ¬ run.length ≤ run.length - o.keepTail := by omega
    rw [cutRun_of_long hlong, List.getLast?_append, List.getLast?_cons, List.getLast?_drop, if_neg hdrop,
      List.getLast?_eq_some_getLast hne]
    rfl
  · rw [cutRun_of_not_long hlong]

theorem getLast?_cutRun_of_losesLast (h : LosesLast o run) : (cutRun o run).getLast? = some .fold := by
  obtain ⟨ho, htail, hlong⟩ := h
  rw [cutRun_of_long ⟨ho, hlong⟩, htail, Nat.sub_zero, List.drop_length, List.getLast?_concat]

/-- Where no run loses its last row, each caption keeps the row above it. -/
theorem captionedFrom_foldBody (h : ¬ FoldsLast o body) :
    captionedFrom above (foldBody o body) = captionedFrom above body := by
  induction body using induction_on_runs generalizing above with
  | unended run hrun => rw [foldBody_eq_self hrun]
  | ended run c rest hrun hc ih =>
    rw [foldsLast_of_ended hrun hc, not_or] at h
    rw [foldBody_append hc, foldBody_run hrun hc,
      captionedFrom_ended (not_isCaption_of_mem_cutRun hrun) hc, captionedFrom_ended hrun hc,
      getLast?_cutRun h.1, ih h.2]

/-- Where a run loses its last row, its caption stands under a fold. -/
theorem exists_fold_mem_captionedFrom (h : FoldsLast o body) :
    ∃ c, (some .fold, c) ∈ captionedFrom above (foldBody o body) := by
  induction body using induction_on_runs generalizing above with
  | unended run hrun =>
    obtain ⟨run', hrun', -⟩ := h
    rw [endedRuns_of_unended hrun] at hrun'
    cases hrun'
  | ended run c rest hrun hc ih =>
    rw [foldBody_append hc, foldBody_run hrun hc,
      captionedFrom_ended (not_isCaption_of_mem_cutRun hrun) hc]
    rcases (foldsLast_of_ended hrun hc).1 h with hlong | hrest
    · rw [getLast?_cutRun_of_losesLast hlong, Option.some_or]
      exact ⟨c, List.mem_cons_self⟩
    · obtain ⟨c', hc'⟩ := ih hrest
      exact ⟨c', List.mem_cons_of_mem _ hc'⟩

/-- A body keeps its first row unless the first run loses it. -/
theorem head?_foldBody (h : ¬ FoldsFirst o body) : (foldBody o body).head? = body.head? := by
  induction body using induction_on_runs with
  | unended run hrun => rw [foldBody_eq_self hrun]
  | ended run c rest hrun hc _ =>
    rw [foldsFirst_of_ended hrun hc] at h
    -- the run may be empty, and then the caption comes first
    rw [foldBody_append hc, foldBody_run hrun hc, List.append_assoc, List.append_assoc,
      List.head?_append, head?_cutRun h, List.head?_append (l := run)]
    rfl

/-- A body whose first run loses its first row begins with a fold. -/
theorem head?_foldBody_of_foldsFirst (h : FoldsFirst o body) :
    (foldBody o body).head? = some .fold := by
  induction body using induction_on_runs with
  | unended run hrun =>
    obtain ⟨run', hrun', -⟩ := h
    rw [endedRuns_of_unended hrun] at hrun'
    cases hrun'
  | ended run c rest hrun hc _ =>
    rw [foldsFirst_of_ended hrun hc] at h
    rw [foldBody_append hc, foldBody_run hrun hc, List.append_assoc, List.head?_append,
      head?_cutRun_of_losesFirst h, Option.some_or]

/-! ## Source rows above captions and folds -/

/-- Above each caption and each fold there is a source row. -/
def SourceAbove (rows : List DisplayLine) : Prop :=
  ∀ front l, front ++ [l] <+: rows → l.isCaption ∨ l = .fold → ∃ r ∈ front, r.number?.isSome

theorem sourceAbove_nil : SourceAbove [] := by
  intro front l hfront
  simp at hfront

theorem SourceAbove.blank_cons {rows : List DisplayLine} (h : SourceAbove rows) :
    SourceAbove (.blank :: rows) := by
  intro front l hfront hl
  cases front with
  | nil =>
    rw [List.nil_append, List.cons_prefix_cons] at hfront
    rw [hfront.1] at hl
    rcases hl with hl | hl <;> cases hl
  | cons b front =>
    rw [List.cons_append, List.cons_prefix_cons] at hfront
    obtain ⟨r, hr, hsource⟩ := h front l hfront.2 hl
    exact ⟨r, List.mem_cons_of_mem b hr, hsource⟩

/-- Below a source row all is well. -/
theorem sourceAbove_cons {source : DisplayLine} (hsource : source.number?.isSome)
    (rows : List DisplayLine) : SourceAbove (source :: rows) := by
  intro front l hfront hl
  cases front with
  | nil =>
    rw [List.nil_append, List.cons_prefix_cons] at hfront
    rw [← hfront.1] at hsource
    rcases hl with hl | rfl
    · rw [DisplayLine.number?_of_isCaption hl] at hsource
      cases hsource
    · cases hsource
  | cons r front =>
    rw [List.cons_append, List.cons_prefix_cons] at hfront
    exact ⟨source, hfront.1 ▸ List.mem_cons_self, hsource⟩

/-! ## Source rows below folds -/

/-- Below each fold there is a source row. -/
def SourceBelow (rows : List DisplayLine) : Prop :=
  ∀ back, .fold :: back <:+ rows → ∃ r ∈ back, r.number?.isSome

theorem sourceBelow_of_notMem {rows : List DisplayLine} (hrows : .fold ∉ rows) : SourceBelow rows := by
  intro back hback
  exact absurd (hback.subset List.mem_cons_self) hrows

/-- A source row serves for all folds if there are none below it. -/
theorem sourceBelow_of_source {source : DisplayLine} {under : List DisplayLine}
    (hsource : source.number?.isSome) (hunder : .fold ∉ under) (rows : List DisplayLine) :
    SourceBelow (rows ++ source :: under) := by
  intro back hback
  rcases List.suffix_or_suffix_of_suffix hback (List.suffix_append rows (source :: under)) with h | h
  · rcases List.mem_cons.1 (h.subset List.mem_cons_self) with rfl | hfold
    · cases hsource
    · exact absurd hfold hunder
  · rcases List.mem_cons.1 (h.subset List.mem_cons_self) with rfl | hmem
    · cases hsource
    · exact ⟨source, hmem, hsource⟩

theorem not_sourceBelow_of_fold {under : List DisplayLine} (hunder : ∀ l ∈ under, ¬ l.number?.isSome)
    (rows : List DisplayLine) : ¬ SourceBelow (rows ++ .fold :: under) := by
  intro h
  obtain ⟨r, hr, hsource⟩ := h under (List.suffix_append rows _)
  exact hunder r hr hsource

/-! ## The bottom of a folded body -/

/-- The captions below all other rows of a body. -/
def bottomCaptions (body : List DisplayLine) : List DisplayLine :=
  body.rtakeWhile DisplayLine.isCaption

/-- The run above the captions at the bottom of a body. -/
def bottomRun (body : List DisplayLine) : List DisplayLine :=
  rowsBefore (body.rdropWhile DisplayLine.isCaption)

/-- A body ends in captions, and the run above them loses its last row. -/
def FoldsBottom (o : LayoutOptions) (body : List DisplayLine) : Prop :=
  bottomCaptions body ≠ [] ∧ LosesLast o (bottomRun body)

instance (o : LayoutOptions) (body : List DisplayLine) : Decidable (FoldsBottom o body) :=
  inferInstanceAs (Decidable (_ ∧ _))

theorem isCaption_of_mem_bottomCaptions {c : DisplayLine} (hc : c ∈ bottomCaptions body) : c.isCaption :=
  List.mem_rtakeWhile_imp hc

theorem not_isCaption_of_mem_bottomRun {l : DisplayLine} (hl : l ∈ bottomRun body) : ¬ l.isCaption := by
  simpa using List.mem_rtakeWhile_imp hl

theorem mem_of_mem_bottomRun {l : DisplayLine} (hl : l ∈ bottomRun body) : l ∈ body := by
  have htop : l ∈ body.rdropWhile DisplayLine.isCaption := (List.rtakeWhile_suffix _ _).subset hl
  exact (List.rdropWhile_prefix _ _).subset htop

/-- With the padding there are neither folds nor source rows among the captions at the bottom. -/
theorem ne_fold_of_mem_bottom {l : DisplayLine} (hl : l ∈ bottomCaptions body ++ [.blank]) :
    l ≠ .fold ∧ ¬ l.number?.isSome := by
  rcases List.mem_append.1 hl with hl | hl
  · have hc := isCaption_of_mem_bottomCaptions hl
    rw [DisplayLine.number?_of_isCaption hc]
    refine ⟨?_, Bool.noConfusion⟩
    rintro rfl
    cases hc
  · rw [List.mem_singleton.1 hl]
    exact ⟨DisplayLine.noConfusion, Bool.noConfusion⟩

/-- Captions alone are no run. -/
theorem foldBody_captions {under : List DisplayLine} (hunder : ∀ c ∈ under, c.isCaption) :
    foldBody o under = under := by
  induction under with
  | nil => exact foldBody_eq_self (List.forall_mem_nil _)
  | cons c under ih =>
    have hc : c.isCaption := hunder c List.mem_cons_self
    have hempty : cutRun o [] = [] := cutRun_of_not_long fun h => Nat.not_lt_zero _ h.2
    have hfirst : foldBody o ([] ++ [c]) = [] ++ [c] := by
      rw [foldBody_run (List.forall_mem_nil _) hc, hempty]
    have hcons : c :: under = ([] ++ [c]) ++ under := rfl
    rw [hcons, foldBody_append hc, hfirst, ih fun c' hc' => hunder c' (List.mem_cons_of_mem c hc')]

/-- A body ends in a run and captions, and what stands above the run is folded on its own. Without a run
nothing stands there. -/
theorem exists_above_bottomRun (o : LayoutOptions) (body : List DisplayLine) :
    ∃ settled, body = settled ++ (bottomRun body ++ bottomCaptions body) ∧
      (∀ below, foldBody o (settled ++ below) = foldBody o settled ++ foldBody o below) ∧
      (bottomRun body = [] → settled = []) := by
  have hsplit : body.rdropWhile DisplayLine.isCaption ++ bottomCaptions body = body :=
    List.rdropWhile_append_rtakeWhile
  obtain ⟨settled, htop, hsettled⟩ := exists_settled o (body.rdropWhile DisplayLine.isCaption)
  refine ⟨settled, ?_, hsettled, ?_⟩
  · rw [← List.append_assoc, bottomRun, ← htop, hsplit]
  · intro hrun
    by_contra hne
    rw [bottomRun] at hrun
    rw [hrun, List.append_nil] at htop
    have hnil : body.rdropWhile DisplayLine.isCaption ≠ [] := htop ▸ hne
    have hlast := List.rtakeWhile_eq_nil_iff.1 hrun hnil
    simpa using hlast (by simpa using List.rdropWhile_last_not _ _ hnil)

/-- The rows above the captions at the bottom end as the run there does, unless the run loses its last
row. -/
theorem foldBody_bottom (o : LayoutOptions) (body : List DisplayLine) :
    ∃ front, foldBody o body = front ++ bottomCaptions body ∧
      front.getLast? = if FoldsBottom o body then some .fold else (bottomRun body).getLast? := by
  obtain ⟨settled, hbody, hsettled, hempty⟩ := exists_above_bottomRun o body
  have hlast : ∀ kept : List DisplayLine, kept.getLast? = (bottomRun body).getLast? →
      (foldBody o settled ++ kept).getLast? = (bottomRun body).getLast? := by
    intro kept hkept
    rw [List.getLast?_append, hkept]
    by_cases hrun : bottomRun body = []
    · rw [hempty hrun, foldBody_captions (List.forall_mem_nil _), List.getLast?_nil, Option.or_none]
    · rw [List.getLast?_eq_some_getLast hrun, Option.some_or]
  have hfold : foldBody o body =
      foldBody o settled ++ foldBody o (bottomRun body ++ bottomCaptions body) := by
    conv => lhs; rw [hbody, hsettled]
  have hrun : ∀ l ∈ bottomRun body, ¬ l.isCaption := fun l => not_isCaption_of_mem_bottomRun
  cases hunder : bottomCaptions body with
  | nil =>
    have hnot : ¬ FoldsBottom o body := fun h => h.1 hunder
    refine ⟨foldBody o settled ++ bottomRun body, ?_, ?_⟩
    · rw [hfold, hunder, List.append_nil, List.append_nil, foldBody_eq_self hrun]
    · rw [if_neg hnot]
      exact hlast _ rfl
  | cons c under =>
    have hcaptions : ∀ c' ∈ c :: under, c'.isCaption :=
      fun c' hc' => isCaption_of_mem_bottomCaptions (hunder ▸ hc')
    have hc : c.isCaption := hcaptions c List.mem_cons_self
    have hiff : FoldsBottom o body ↔ LosesLast o (bottomRun body) :=
      and_iff_right (hunder ▸ List.cons_ne_nil c under)
    refine ⟨foldBody o settled ++ cutRun o (bottomRun body), ?_, ?_⟩
    · rw [hfold, hunder, List.append_cons, foldBody_append hc, foldBody_run hrun hc,
        foldBody_captions fun c' hc' => hcaptions c' (List.mem_cons_of_mem c hc')]
      simp
    · by_cases hlong : FoldsBottom o body
      · rw [if_pos hlong, List.getLast?_append, getLast?_cutRun_of_losesLast (hiff.1 hlong), Option.some_or]
      · rw [if_neg hlong]
        exact hlast _ (getLast?_cutRun (mt hiff.2 hlong))

/-! ## The body of a snippet -/

namespace Snippet

variable (s : Snippet) (o : LayoutOptions)

theorem source_or_caption_of_mem_unfolded {l : DisplayLine} (hl : l ∈ s.unfolded) :
    l.number?.isSome ∨ l.isCaption :=
  LineTable.source_or_caption_of_mem_body (fun _ _ => isCaption_of_insert_mem) hl

/-- The row above a caption of the plan is a source row. -/
theorem ne_fold_of_mem_planned {p : Option DisplayLine × DisplayLine} (hp : p ∈ s.planned) :
    p.1 ≠ some .fold := by
  obtain ⟨q, -, hq⟩ := List.mem_filterMap.1 hp
  cases q with
  | attach i m => cases hq
  | insert i row =>
    cases hq
    unfold sourceRow?
    simp

theorem captioned_body : captioned (s.body o) = captionedFrom (some .blank) (foldBody o s.unfolded) :=
  captionedFrom_concat Bool.noConfusion _

/-- Each caption stands under the line that it was planned for unless some run loses its last row. -/
theorem captioned_body_iff : captioned (s.body o) = s.planned ↔ ¬ FoldsLast o s.unfolded := by
  rw [captioned_body]
  constructor
  · intro heq hlast
    obtain ⟨c, hc⟩ := exists_fold_mem_captionedFrom hlast
    rw [heq] at hc
    exact s.ne_fold_of_mem_planned hc rfl
  · intro hlast
    rw [captionedFrom_foldBody hlast, captioned_unfolded]

/-- A source row stands above each caption and each fold unless the first run loses its first row. -/
theorem sourceAbove_body_iff : SourceAbove (s.body o) ↔ ¬ FoldsFirst o s.unfolded := by
  have hbody : s.body o = .blank :: (foldBody o s.unfolded ++ [.blank]) := rfl
  rw [hbody]
  constructor
  · intro h hfirst
    -- then a fold is the first row below the padding
    obtain ⟨rows, hrows⟩ := List.head?_eq_some_iff.1 (head?_foldBody_of_foldsFirst hfirst)
    rw [hrows] at h
    obtain ⟨r, hr, hsource⟩ := h [.blank] .fold ⟨rows ++ [.blank], rfl⟩ (.inr rfl)
    rw [List.mem_singleton.1 hr] at hsource
    cases hsource
  · intro hfirst
    have hhead := head?_foldBody hfirst
    rcases s.head?_unfolded with hnil | ⟨l, hl, hsource⟩
    · -- without lines there is the padding only
      rw [hnil, List.head?_nil, List.head?_eq_none_iff] at hhead
      rw [hnil, hhead]
      exact sourceAbove_nil.blank_cons.blank_cons
    · rw [hl, List.head?_eq_some_iff] at hhead
      obtain ⟨rows, hrows⟩ := hhead
      rw [hrows, List.cons_append]
      exact (sourceAbove_cons hsource _).blank_cons

/-- The captions at the bottom with the padding below them, and what the rows above them end in. -/
theorem body_bottom :
    ∃ front, s.body o = (.blank :: front) ++ (bottomCaptions s.unfolded ++ [.blank]) ∧
      front.getLast? =
        if FoldsBottom o s.unfolded then some .fold else (bottomRun s.unfolded).getLast? := by
  obtain ⟨front, hfold, hlast⟩ := foldBody_bottom o s.unfolded
  refine ⟨front, ?_, hlast⟩
  show .blank :: foldBody o s.unfolded ++ [.blank] = _
  rw [hfold, List.cons_append, List.append_assoc]
  rfl

theorem sourceBelow_body_of_not_foldsBottom (h : ¬ FoldsBottom o s.unfolded) :
    SourceBelow (s.body o) := by
  obtain ⟨front, hbody, hlast⟩ := s.body_bottom o
  rw [if_neg h] at hlast
  rw [hbody]
  have hpadding : .fold ∉ bottomCaptions s.unfolded ++ [.blank] :=
    fun hmem => (ne_fold_of_mem_bottom hmem).1 rfl
  cases hrun : (bottomRun s.unfolded).getLast? with
  | none =>
    rw [hrun, List.getLast?_eq_none_iff] at hlast
    rw [hlast]
    apply sourceBelow_of_notMem
    intro hmem
    rcases List.mem_append.1 hmem with hmem | hmem
    · cases List.mem_singleton.1 hmem
    · exact hpadding hmem
  | some l =>
    have hl : l ∈ bottomRun s.unfolded := List.mem_of_getLast? hrun
    have hsource : l.number?.isSome :=
      (s.source_or_caption_of_mem_unfolded (mem_of_mem_bottomRun hl)).resolve_right
        (not_isCaption_of_mem_bottomRun hl)
    rw [hrun, List.getLast?_eq_some_iff] at hlast
    obtain ⟨rows, rfl⟩ := hlast
    rw [← List.cons_append, ← List.append_cons]
    exact sourceBelow_of_source hsource hpadding _

theorem not_sourceBelow_body_of_foldsBottom (h : FoldsBottom o s.unfolded) :
    ¬ SourceBelow (s.body o) := by
  obtain ⟨front, hbody, hlast⟩ := s.body_bottom o
  rw [if_pos h, List.getLast?_eq_some_iff] at hlast
  obtain ⟨rows, rfl⟩ := hlast
  rw [hbody, ← List.cons_append, ← List.append_cons]
  exact not_sourceBelow_of_fold (fun l hl => (ne_fold_of_mem_bottom hl).2) _

/-- A source row stands below each fold unless the run at the bottom loses its last row. -/
theorem sourceBelow_body_iff : SourceBelow (s.body o) ↔ ¬ FoldsBottom o s.unfolded :=
  ⟨fun h hbottom => s.not_sourceBelow_body_of_foldsBottom o hbottom h,
    s.sourceBelow_body_of_not_foldsBottom o⟩

/-- The rows of a body are in order but for what options do that keep no row at one end of a run. Above each
caption and each fold there is a source row, unless the first run loses its first row. Below each fold there
is a source row, unless the body ends in captions and the run above them loses its last row. The nearest row
above a caption that is no caption itself is the row of the line that the caption was planned for, unless
some run loses its last row. -/
theorem rows_in_order_iff :
    (SourceAbove (s.body o) ↔ ¬ FoldsFirst o s.unfolded) ∧
    (SourceBelow (s.body o) ↔ ¬ FoldsBottom o s.unfolded) ∧
    (captioned (s.body o) = s.planned ↔ ¬ FoldsLast o s.unfolded) :=
  ⟨s.sourceAbove_body_iff o, s.sourceBelow_body_iff o, s.captioned_body_iff o⟩

/-- The last of three lines has an annotation, and options that keep nothing in front of a caption hide it:
its caption stands under a fold. -/
theorem rows_in_order_iff_of_hidden_line :
    let a : Annotation := ⟨.error, none, none, .span 6 7 (by decide) (by decide)⟩
    let d : Description := { source := "a\nb\nc", annotations := [a] }
    let o : LayoutOptions := { threshold := 1, keepHead := 1, keepTail := 0 }
    let c : DisplayLine := .caption ⟨[], 0, 1, "", .error⟩
    ∃ s : Snippet, s.toDescription = d ∧
      s.body o = [.blank, .source 1 [] "a", .fold, c, .blank] ∧
      s.planned = [(some (.source 3 [] "c"), c)] ∧
      SourceAbove (s.body o) ∧ ¬ SourceBelow (s.body o) ∧ captioned (s.body o) ≠ s.planned := by
  intro a d o c
  have hvalid : d.Valid := d.problem?_eq_none_iff.1 (by decide)
  have hunfolded : (⟨d, hvalid⟩ : Snippet).unfolded =
      [.source 1 [] "a", .source 2 [] "b", .source 3 [] "c", c] := by
    show d.table.body (d.table.plan [a]).placements = _
    decide
  have hlines : d.table.lines = ["a", "b", "c"] := by decide
  have hplan : (⟨d, hvalid⟩ : Snippet).plan.placements = [.insert 2 c] := by
    show (d.table.plan [a]).placements = _
    decide
  have hplanned : (⟨d, hvalid⟩ : Snippet).planned = [(some (.source 3 [] "c"), c)] := by
    have hrow : (⟨d, hvalid⟩ : Snippet).sourceRow? 2 = some (.source 3 [] "c") := by
      unfold sourceRow?
      rw [hplan]
      show d.table.lines[2]?.map _ = _
      rw [hlines]
      rfl
    unfold planned
    rw [hplan, ← hrow]
    rfl
  obtain ⟨habove, hbelow, hcaptions⟩ := rows_in_order_iff ⟨d, hvalid⟩ o
  rw [hunfolded] at habove hbelow hcaptions
  refine ⟨⟨d, hvalid⟩, rfl, ?_, hplanned, habove.2 (by decide), fun h => hbelow.1 h (by decide),
    fun heq => hcaptions.1 heq (by decide)⟩
  show .blank :: foldBody o (⟨d, hvalid⟩ : Snippet).unfolded ++ [.blank] = _
  rw [hunfolded]
  decide

end Snippet

end CodeFrame
