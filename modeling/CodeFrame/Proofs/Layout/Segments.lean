import CodeFrame.Proofs.Layout.Runs
import Mathlib.Data.List.SplitBy

/-!
# Folding segment by segment

The walk that folds a body splices rows out of what it has kept so far. What it arrives at can be said
without a walk: the body is cut behind each caption, and each segment is folded on its own
(`foldBody_eq_flatMap_segments`). A fold that has taken the place of some rows is one row of its run from
then on, and a second time it is at most replaced by itself (`foldBody_foldBody`).
-/

namespace CodeFrame

variable {o : LayoutOptions} {run : List DisplayLine}

/-- A body is a run that no caption ends, or a run that a caption ends and a body behind it. -/
@[elab_as_elim]
theorem induction_on_runs {motive : List DisplayLine → Prop}
    (unended : ∀ run, (∀ l ∈ run, ¬ l.isCaption) → motive run)
    (ended : ∀ run c rest, (∀ l ∈ run, ¬ l.isCaption) → c.isCaption → motive rest →
      motive (run ++ [c] ++ rest))
    (body : List DisplayLine) : motive body := by
  induction hn : body.length using Nat.strong_induction_on generalizing body with
  | h n ih =>
    rcases rowsBehind_eq body with ⟨hnone, -⟩ | ⟨c, rest, hc, hsplit⟩
    · exact unended body hnone
    · have hrun : ∀ l ∈ rowsBehind body, ¬ l.isCaption := by
        intro l hl
        simpa using List.mem_takeWhile_imp hl
      have hlength : rest.length < n := by
        rw [← hn, hsplit, List.length_append, List.length_cons]
        omega
      rw [hsplit, List.append_cons]
      exact ended _ c rest hrun hc (ih _ hlength rest rfl)

/-! ## Segments -/

/-- The segments of a body, which is cut behind each caption. -/
def segments (body : List DisplayLine) : List (List DisplayLine) :=
  body.splitBy fun l _ => !l.isCaption

/-- A segment on its own: where a caption ends it, the rows before the caption are cut down. -/
def foldSegment (o : LayoutOptions) (segment : List DisplayLine) : List DisplayLine :=
  if segment.getLast?.any DisplayLine.isCaption then
    cutRun o segment.dropLast ++ segment.getLast?.toList
  else segment

/-- The runs that captions end, in their order. Between a caption and the next one the run is empty. -/
def endedRuns (body : List DisplayLine) : List (List DisplayLine) :=
  (segments body).filterMap fun segment =>
    if segment.getLast?.any DisplayLine.isCaption then some segment.dropLast else none

theorem isChain_of_run (hrun : ∀ l ∈ run, ¬ l.isCaption) :
    run.IsChain fun l _ => !l.isCaption := by
  apply List.Pairwise.isChain
  apply List.pairwise_of_forall_mem_list
  intro l hl _ _
  simpa using hrun l hl

theorem segments_of_unended (hrun : ∀ l ∈ run, ¬ l.isCaption) (hne : run ≠ []) :
    segments run = [run] :=
  List.splitBy_of_isChain hne (isChain_of_run hrun)

theorem segments_of_ended {c : DisplayLine} (hrun : ∀ l ∈ run, ¬ l.isCaption) (hc : c.isCaption)
    (rest : List DisplayLine) : segments (run ++ [c] ++ rest) = (run ++ [c]) :: segments rest := by
  have hfirst : segments (run ++ [c]) = [run ++ [c]] := by
    apply List.splitBy_of_isChain (by simp)
    rw [List.isChain_append]
    refine ⟨isChain_of_run hrun, .singleton c, ?_⟩
    intro l hl _ _
    simpa using hrun l (List.mem_of_mem_getLast? hl)
  have hcut : segments (run ++ [c] ++ rest) = segments (run ++ [c]) ++ segments rest := by
    apply List.splitBy_append
    intro l hl _ _
    rw [List.getLast?_concat, Option.mem_some_iff] at hl
    simpa [← hl] using hc
  rw [hcut, hfirst, List.singleton_append]

theorem not_any_isCaption_getLast? (hrun : ∀ l ∈ run, ¬ l.isCaption) :
    ¬ run.getLast?.any DisplayLine.isCaption := by
  cases hlast : run.getLast? with
  | none => simp
  | some l => simpa using hrun l (List.mem_of_getLast? hlast)

theorem any_isCaption_getLast?_concat {c : DisplayLine} (hc : c.isCaption) (run : List DisplayLine) :
    (run ++ [c]).getLast?.any DisplayLine.isCaption := by
  rw [List.getLast?_concat]
  simpa using hc

theorem foldSegment_of_unended (hrun : ∀ l ∈ run, ¬ l.isCaption) : foldSegment o run = run :=
  if_neg (not_any_isCaption_getLast? hrun)

theorem foldSegment_of_ended {c : DisplayLine} (hc : c.isCaption) :
    foldSegment o (run ++ [c]) = cutRun o run ++ [c] := by
  unfold foldSegment
  rw [if_pos (any_isCaption_getLast?_concat hc run), List.dropLast_concat, List.getLast?_concat]
  rfl

theorem endedRuns_of_unended (hrun : ∀ l ∈ run, ¬ l.isCaption) : endedRuns run = [] := by
  by_cases hnil : run = []
  · rw [hnil]
    rfl
  · unfold endedRuns
    rw [segments_of_unended hrun hnil]
    exact List.filterMap_cons_none (if_neg (not_any_isCaption_getLast? hrun))

theorem endedRuns_of_ended {c : DisplayLine} (hrun : ∀ l ∈ run, ¬ l.isCaption) (hc : c.isCaption)
    (rest : List DisplayLine) : endedRuns (run ++ [c] ++ rest) = run :: endedRuns rest := by
  unfold endedRuns
  rw [segments_of_ended hrun hc]
  apply List.filterMap_cons_some
  rw [if_pos (any_isCaption_getLast?_concat hc run), List.dropLast_concat]

/-- A body is folded by folding each of its segments: where a caption ends a segment and the run before it
is too long, a fold stands for the middle of the run, and all other rows are kept. -/
theorem foldBody_eq_flatMap_segments (o : LayoutOptions) (body : List DisplayLine) :
    foldBody o body = (segments body).flatMap (foldSegment o) := by
  induction body using induction_on_runs with
  | unended run hrun =>
    rw [foldBody_eq_self hrun]
    by_cases hnil : run = []
    · rw [hnil]
      rfl
    · rw [segments_of_unended hrun hnil, List.flatMap_singleton, foldSegment_of_unended hrun]
  | ended run c rest hrun hc ih =>
    rw [foldBody_append hc, foldBody_run hrun hc, ih, segments_of_ended hrun hc, List.flatMap_cons,
      foldSegment_of_ended hc]

example :
    let c : DisplayLine := .caption ⟨[], 0, 1, "", .error⟩
    let row (n : Int) : DisplayLine := .source n [] ""
    let o : LayoutOptions := { threshold := 2, keepHead := 1, keepTail := 1 }
    segments [row 1, row 2, row 3, row 4, c, c, row 5] = [[row 1, row 2, row 3, row 4, c], [c], [row 5]] ∧
      foldSegment o [row 1, row 2, row 3, row 4, c] = [row 1, .fold, row 4, c] := by
  decide

/-! ## Folding twice -/

theorem not_isCaption_of_mem_cutRun (hrun : ∀ l ∈ run, ¬ l.isCaption) :
    ∀ l ∈ cutRun o run, ¬ l.isCaption := by
  intro l hl
  by_cases h : o.fold ∧ o.threshold < run.length
  · rw [cutRun_of_long h, List.mem_append, List.mem_cons] at hl
    rcases hl with hl | rfl | hl
    · exact hrun l (List.mem_of_mem_take hl)
    · exact Bool.noConfusion
    · exact hrun l (List.mem_of_mem_drop hl)
  · rw [cutRun_of_not_long h] at hl
    exact hrun l hl

/-- A run that has been cut down is too long only if the threshold leaves no room for the fold, and then the
fold is all that is taken out of it again. -/
theorem cutRun_cutRun (o : LayoutOptions) (run : List DisplayLine) :
    cutRun o (cutRun o run) = cutRun o run := by
  by_cases h : o.fold ∧ o.threshold < run.length
  · have hkeep := o.keep_le
    have hhead : (run.take o.keepHead).length = o.keepHead := by
      rw [List.length_take]
      omega
    have htail : (run.drop (run.length - o.keepTail)).length = o.keepTail := by
      rw [List.length_drop]
      omega
    rw [cutRun_of_long h]
    by_cases hagain : o.fold ∧
        o.threshold < (run.take o.keepHead ++ .fold :: run.drop (run.length - o.keepTail)).length
    · rw [cutRun_of_long hagain]
      congr 1
      · rw [List.take_append_of_le_length (by omega), List.take_of_length_le (by omega)]
      · -- the tail begins behind the head and the fold
        rw [List.length_append, List.length_cons, hhead, htail,
          show o.keepHead + (o.keepTail + 1) - o.keepTail = (run.take o.keepHead).length + 1 by omega,
          List.drop_length_add_append, List.drop_one, List.tail_cons]
    · exact cutRun_of_not_long hagain
  · rw [cutRun_of_not_long h, cutRun_of_not_long h]

/-- Folding a second time changes nothing. -/
theorem foldBody_foldBody (o : LayoutOptions) (body : List DisplayLine) :
    foldBody o (foldBody o body) = foldBody o body := by
  induction body using induction_on_runs with
  | unended run hrun => rw [foldBody_eq_self hrun, foldBody_eq_self hrun]
  | ended run c rest hrun hc ih =>
    rw [foldBody_append hc, foldBody_run hrun hc, foldBody_append hc,
      foldBody_run (not_isCaption_of_mem_cutRun hrun) hc, cutRun_cutRun, ih]

end CodeFrame
