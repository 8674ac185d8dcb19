import CodeFrame.Layout.Fold
import Mathlib.Data.List.Basic
import Mathlib.Data.List.DropRight

/-!
# Runs

A body is folded piece by piece: what stands behind a caption is folded as if nothing stood before it
(`foldBody_append`), and the rows that a caption ends are cut down on their own (`foldBody_run`). So
whether a row stays depends on the rows between it and the next captions on both sides only
(`mem_foldBody_iff`).
-/

namespace CodeFrame

variable {o : LayoutOptions}

/-- What is kept of a run that a caption ends: too long a run is its first and its last rows, with a fold
between them. -/
def cutRun (o : LayoutOptions) (run : List DisplayLine) : List DisplayLine :=
  if o.fold ∧ o.threshold < run.length then
    run.take o.keepHead ++ .fold :: run.drop (run.length - o.keepTail)
  else run

theorem cutRun_of_long {run : List DisplayLine} (h : o.fold ∧ o.threshold < run.length) :
    cutRun o run = run.take o.keepHead ++ .fold :: run.drop (run.length - o.keepTail) := by
  rw [cutRun, if_pos h]

theorem cutRun_of_not_long {run : List DisplayLine} (h : ¬ (o.fold ∧ o.threshold < run.length)) :
    cutRun o run = run := by
  rw [cutRun, if_neg h]

namespace Folding

variable {f g : Folding} {kept run : List DisplayLine}

/-- The rows of a run are kept as they come. -/
theorem foldl_run (hrun : ∀ l ∈ run, ¬ l.isCaption) (f : Folding) :
    (run.foldl (step o) f).kept = run.reverse ++ f.kept ∧
      (run.foldl (step o) f).run = f.run + run.length := by
  induction run generalizing f with
  | nil => exact ⟨rfl, rfl⟩
  | cons l run ih =>
    have hl : f.step o l = ⟨l :: f.kept, f.run + 1, Nat.succ_le_succ f.run_le⟩ := by
      rw [step, if_neg (hrun l List.mem_cons_self)]
    obtain ⟨hkept, hlength⟩ := ih (fun l' hl' => hrun l' (List.mem_cons_of_mem l hl')) (f.step o l)
    rw [List.foldl_cons, hkept, hlength, hl, List.reverse_cons, List.append_assoc, List.length_cons]
    exact ⟨rfl, by show f.run + 1 + run.length = _; omega⟩

/-- When a caption ends a run that is too long, its middle becomes a fold, and nothing in front of it
changes. -/
theorem close_of_long (hlong : o.threshold < run.length) (hkept : f.kept = run.reverse ++ kept)
    (hrun : f.run = run.length) :
    f.close o =
      (run.take o.keepHead ++ .fold :: run.drop (run.length - o.keepTail)).reverse ++ kept := by
  have hkeep := o.keep_le
  have hhead : (run.reverse ++ kept).drop (run.length - o.keepHead) =
      (run.take o.keepHead).reverse ++ kept := by
    rw [List.drop_append_of_le_length (by simp), List.reverse_take]
  have htail : (run.reverse ++ kept).take o.keepTail =
      (run.drop (run.length - o.keepTail)).reverse := by
    have hle : o.keepTail ≤ run.reverse.length := by
      rw [List.length_reverse]
      omega
    rw [List.take_append_of_le_length hle, List.reverse_drop]
    congr 1
    omega
  rw [close, hkept, hrun, if_pos hlong, hhead, htail]
  simp

theorem close_of_not_long (hlong : ¬ o.threshold < f.run) : f.close o = f.kept := by
  rw [close, if_neg hlong]

/-- When a caption ends a run, the run is cut down. -/
theorem close_eq_cutRun (ho : o.fold) (hkept : f.kept = run.reverse ++ kept)
    (hrun : f.run = run.length) : f.close o = (cutRun o run).reverse ++ kept := by
  by_cases hlong : o.threshold < run.length
  · rw [close_of_long hlong hkept hrun, cutRun_of_long ⟨ho, hlong⟩]
  · rw [close_of_not_long (hrun ▸ hlong), cutRun_of_not_long fun h => hlong h.2, hkept]

/-- `f` has kept what `g` has kept, over other rows. -/
def Over (kept : List DisplayLine) (f g : Folding) : Prop :=
  f.kept = g.kept ++ kept ∧ f.run = g.run

/-- One more row: a run never reaches into the rows below. -/
theorem Over.step (h : Over kept f g) (l : DisplayLine) : Over kept (f.step o l) (g.step o l) := by
  obtain ⟨hkept, hrun⟩ := h
  have hle := g.run_le
  have hkeep := o.keep_le
  -- what a close takes lies within the run, so above `kept`
  have hclose : f.close o = g.close o ++ kept := by
    unfold close
    rw [hkept, hrun]
    by_cases hlong : o.threshold < g.run
    · rw [if_pos hlong, if_pos hlong, List.take_append_of_le_length (by omega),
        List.drop_append_of_le_length (by omega), List.append_assoc, List.cons_append]
    · rw [if_neg hlong, if_neg hlong]
  unfold Folding.step
  by_cases hl : l.isCaption
  · rw [if_pos hl, if_pos hl]
    exact ⟨congrArg (l :: ·) hclose, rfl⟩
  · rw [if_neg hl, if_neg hl]
    exact ⟨congrArg (l :: ·) hkept, congrArg (· + 1) hrun⟩

theorem Over.foldl (h : Over kept f g) (rows : List DisplayLine) :
    Over kept (rows.foldl (Folding.step o) f) (rows.foldl (Folding.step o) g) := by
  induction rows generalizing f g with
  | nil => exact h
  | cons l rows ih => exact ih (h.step l)

/-- All that is kept has been read, but for folds. -/
theorem mem_kept_foldl {rows : List DisplayLine} {l : DisplayLine}
    (hl : l ∈ (rows.foldl (step o) f).kept) : l ∈ rows ∨ l ∈ f.kept ∨ l = .fold := by
  induction rows generalizing f with
  | nil => exact .inr (.inl hl)
  | cons r rows ih =>
    have hstep : ∀ l ∈ (f.step o r).kept, l = r ∨ l ∈ f.kept ∨ l = .fold := by
      intro l hl
      have hclose : ∀ l ∈ f.close o, l ∈ f.kept ∨ l = .fold := by
        intro l hl
        unfold close at hl
        split at hl
        · rcases List.mem_append.1 hl with hl | hl
          · exact .inl (List.mem_of_mem_take hl)
          · rcases List.mem_cons.1 hl with hl | hl
            · exact .inr hl
            · exact .inl (List.mem_of_mem_drop hl)
        · exact .inl hl
      unfold step at hl
      split at hl
      · exact (List.mem_cons.1 hl).imp_right (hclose l)
      · exact (List.mem_cons.1 hl).imp_right .inl
    rcases ih hl with h | h | h
    · exact .inl (List.mem_cons_of_mem r h)
    · rcases hstep l h with rfl | h
      · exact .inl List.mem_cons_self
      · exact .inr h
    · exact .inr (.inr h)

end Folding

/-! ## Piece by piece -/

theorem foldBody_of_fold (ho : o.fold) (rows : List DisplayLine) :
    foldBody o rows = (rows.foldl (Folding.step o) .start).kept.reverse := by
  rw [foldBody, if_pos ho]

theorem foldBody_of_not_fold (ho : ¬ o.fold) (rows : List DisplayLine) : foldBody o rows = rows := by
  rw [foldBody, if_neg ho]

/-- No row of a folded body is new, but for folds. -/
theorem mem_of_mem_foldBody {rows : List DisplayLine} {l : DisplayLine} (hl : l ∈ foldBody o rows) :
    l ∈ rows ∨ l = .fold := by
  by_cases ho : o.fold
  · rw [foldBody_of_fold ho, List.mem_reverse] at hl
    rcases Folding.mem_kept_foldl hl with h | h | h
    · exact .inl h
    · cases h
    · exact .inr h
  · rw [foldBody_of_not_fold ho] at hl
    exact .inl hl

/-- Rows that no caption ends are kept. -/
theorem foldBody_eq_self {run : List DisplayLine} (hrun : ∀ l ∈ run, ¬ l.isCaption) :
    foldBody o run = run := by
  by_cases ho : o.fold
  · rw [foldBody_of_fold ho, (Folding.foldl_run hrun _).1, List.reverse_append, List.reverse_reverse]
    rfl
  · exact foldBody_of_not_fold ho run

/-- A run that a caption ends is cut down. -/
theorem foldBody_run {run : List DisplayLine} {c : DisplayLine} (hrun : ∀ l ∈ run, ¬ l.isCaption)
    (hc : c.isCaption) : foldBody o (run ++ [c]) = cutRun o run ++ [c] := by
  by_cases ho : o.fold
  · obtain ⟨hkept, hlength⟩ := Folding.foldl_run (o := o) hrun .start
    have hclose := Folding.close_eq_cutRun ho hkept (hlength.trans (Nat.zero_add _))
    rw [foldBody_of_fold ho, List.foldl_append]
    show (Folding.step o _ c).kept.reverse = _
    rw [Folding.step, if_pos hc]
    show (c :: Folding.close o _).reverse = _
    rw [hclose, List.reverse_cons, List.reverse_append, List.reverse_reverse]
    rfl
  · rw [foldBody_of_not_fold ho, cutRun_of_not_long fun h => ho h.1]

/-- What stands behind a caption is folded as if nothing stood before it. -/
theorem foldBody_append {above : List DisplayLine} {c : DisplayLine} (hc : c.isCaption)
    (below : List DisplayLine) :
    foldBody o ((above ++ [c]) ++ below) = foldBody o (above ++ [c]) ++ foldBody o below := by
  by_cases ho : o.fold
  · have hrun : ((above ++ [c]).foldl (Folding.step o) .start).run = 0 := by
      rw [List.foldl_append]
      show (Folding.step o _ c).run = 0
      rw [Folding.step, if_pos hc]
    have hover : Folding.Over ((above ++ [c]).foldl (Folding.step o) .start).kept
        ((above ++ [c]).foldl (Folding.step o) .start) .start := ⟨rfl, hrun⟩
    obtain ⟨hkept, -⟩ := hover.foldl (o := o) below
    rw [foldBody_of_fold ho, foldBody_of_fold ho, foldBody_of_fold ho, List.foldl_append, hkept,
      List.reverse_append]
  · rw [foldBody_of_not_fold ho, foldBody_of_not_fold ho, foldBody_of_not_fold ho]

/-! ## Rows that stay -/

section

variable {front back : List DisplayLine} {l : DisplayLine}

theorem mem_take_iff (hfront : l ∉ front) (n : Nat) :
    l ∈ (front ++ l :: back).take n ↔ front.length < n := by
  by_cases hn : front.length < n
  · obtain ⟨m, rfl⟩ := Nat.exists_eq_add_of_lt hn
    have htake : (front ++ l :: back).take (front.length + m + 1) = front ++ l :: back.take m := by
      rw [Nat.add_assoc, List.take_length_add_append, List.take_succ_cons]
    rw [htake]
    exact ⟨fun _ => hn, fun _ => List.mem_append_right _ List.mem_cons_self⟩
  · rw [List.take_append_of_le_length (Nat.le_of_not_lt hn)]
    exact ⟨fun h => absurd (List.mem_of_mem_take h) hfront, fun h => absurd h hn⟩

theorem mem_drop_iff (hback : l ∉ back) (n : Nat) :
    l ∈ (front ++ l :: back).drop n ↔ n ≤ front.length := by
  by_cases hn : n ≤ front.length
  · rw [List.drop_append_of_le_length hn]
    simp [hn]
  · obtain ⟨m, rfl⟩ := Nat.exists_eq_add_of_lt (Nat.lt_of_not_le hn)
    have hdrop : (front ++ l :: back).drop (front.length + m + 1) = back.drop m := by
      rw [Nat.add_assoc, List.drop_length_add_append, List.drop_succ_cons]
    rw [hdrop]
    exact ⟨fun h => absurd (List.mem_of_mem_drop h) hback, fun h => absurd h hn⟩

/-- A row of a run stays unless the run is too long and the row is neither among its first ones nor among
its last ones. -/
theorem mem_cutRun_iff (hne : l ≠ .fold) (hfront : l ∉ front) (hback : l ∉ back) :
    l ∈ cutRun o (front ++ l :: back) ↔
      ¬ (o.fold ∧ o.threshold < front.length + 1 + back.length ∧
        o.keepHead ≤ front.length ∧ o.keepTail ≤ back.length) := by
  have hlength : (front ++ l :: back).length = front.length + 1 + back.length := by
    rw [List.length_append, List.length_cons]
    omega
  unfold cutRun
  rw [hlength]
  by_cases hlong : o.fold ∧ o.threshold < front.length + 1 + back.length
  · have hkeep := o.keep_le
    rw [if_pos hlong, List.mem_append, List.mem_cons, mem_take_iff hfront, mem_drop_iff hback]
    constructor
    · rintro (hhead | heq | htail) ⟨-, -, hhead', htail'⟩
      · omega
      · exact hne heq
      · omega
    · intro hkept
      by_cases hhead : front.length < o.keepHead
      · exact .inl hhead
      · refine .inr (.inr ?_)
        have htail : ¬ o.keepTail ≤ back.length :=
          fun htail => hkept ⟨hlong.1, hlong.2, Nat.le_of_not_lt hhead, htail⟩
        omega
  · rw [if_neg hlong]
    exact ⟨fun _ h => hlong ⟨h.1, h.2.1⟩, fun _ => List.mem_append_right _ List.mem_cons_self⟩

end

/-- The rows above a row that are no captions, up to the nearest caption. -/
def rowsBefore (above : List DisplayLine) : List DisplayLine :=
  above.rtakeWhile fun l => !l.isCaption

/-- The rows below a row that are no captions, up to the nearest caption. -/
def rowsBehind (below : List DisplayLine) : List DisplayLine :=
  below.takeWhile fun l => !l.isCaption

/-- The rows up to the last caption above are folded on their own. -/
theorem exists_settled (o : LayoutOptions) (above : List DisplayLine) :
    ∃ settled, above = settled ++ rowsBefore above ∧
      ∀ below, foldBody o (settled ++ below) = foldBody o settled ++ foldBody o below := by
  refine ⟨above.rdropWhile fun l => !l.isCaption, List.rdropWhile_append_rtakeWhile.symm, ?_⟩
  intro below
  by_cases hnil : (above.rdropWhile fun l => !l.isCaption) = []
  · have hself : foldBody o [] = [] := foldBody_eq_self (List.forall_mem_nil _)
    rw [hnil, hself]
    rfl
  · -- the last of them is a caption
    have hc := List.rdropWhile_last_not _ _ hnil
    rw [← List.dropLast_append_getLast hnil]
    exact foldBody_append (by simpa using hc) below

/-- A caption ends the rows behind a row, if there is one below it. -/
theorem rowsBehind_eq (below : List DisplayLine) :
    ((∀ r ∈ below, ¬ r.isCaption) ∧ rowsBehind below = below) ∨
      ∃ c rest, c.isCaption ∧ below = rowsBehind below ++ c :: rest := by
  induction below with
  | nil => exact .inl ⟨by simp, rfl⟩
  | cons l below ih =>
    by_cases hl : l.isCaption
    · refine .inr ⟨l, below, hl, ?_⟩
      rw [rowsBehind, List.takeWhile_cons_of_neg (by simpa using hl)]
      rfl
    · have hcons : rowsBehind (l :: below) = l :: rowsBehind below :=
        List.takeWhile_cons_of_pos (by simpa using hl)
      rw [hcons]
      rcases ih with ⟨hnone, hself⟩ | ⟨c, rest, hc, hsplit⟩
      · refine .inl ⟨?_, congrArg (l :: ·) hself⟩
        intro r hr
        rcases List.mem_cons.1 hr with rfl | hr
        · exact hl
        · exact hnone r hr
      · exact .inr ⟨c, rest, hc, congrArg (l :: ·) hsplit⟩

/-- The rows around a row, up to the next captions, are no captions. -/
theorem not_isCaption_of_mem_run {above below : List DisplayLine} {l r : DisplayLine}
    (hl : ¬ l.isCaption) (hr : r ∈ rowsBefore above ++ l :: rowsBehind below) : ¬ r.isCaption := by
  rcases List.mem_append.1 hr with hr | hr
  · simpa using List.mem_rtakeWhile_imp hr
  · rcases List.mem_cons.1 hr with rfl | hr
    · exact hl
    · simpa using List.mem_takeWhile_imp hr

/-- A row stays in a body unless a caption ends its run, the run is too long, and the row is neither among
the first of the run nor among the last. -/
theorem mem_foldBody_iff {above below : List DisplayLine} {l : DisplayLine} (hl : ¬ l.isCaption)
    (hne : l ≠ .fold) (habove : l ∉ above) (hbelow : l ∉ below) :
    l ∈ foldBody o (above ++ l :: below) ↔
      ¬ (o.fold ∧ (∃ c ∈ below, c.isCaption) ∧
        o.threshold < (rowsBefore above).length + 1 + (rowsBehind below).length ∧
        o.keepHead ≤ (rowsBefore above).length ∧ o.keepTail ≤ (rowsBehind below).length) := by
  obtain ⟨settled, habove', hsettled⟩ := exists_settled o above
  have hrun : ∀ r ∈ rowsBefore above ++ l :: rowsBehind below, ¬ r.isCaption :=
    fun r => not_isCaption_of_mem_run hl
  have hfolded : ∀ rows, l ∉ rows → l ∉ foldBody o rows := by
    intro rows hrows h
    exact (mem_of_mem_foldBody h).elim hrows hne
  rw [habove', List.mem_append, not_or] at habove
  -- what stands above the last caption is of no account
  have hbody : foldBody o (above ++ l :: below) =
      foldBody o settled ++ foldBody o (rowsBefore above ++ l :: below) := by
    conv => lhs; rw [habove', List.append_assoc, hsettled]
  rw [hbody, List.mem_append, or_iff_right (hfolded settled habove.1)]
  rcases rowsBehind_eq below with ⟨hnone, hself⟩ | ⟨c, rest, hc, hsplit⟩
  · -- no caption ends the run
    rw [hself] at hrun
    rw [foldBody_eq_self hrun]
    refine ⟨?_, fun _ => List.mem_append_right _ List.mem_cons_self⟩
    rintro - ⟨-, ⟨c, hc, hcaption⟩, -⟩
    exact hnone c hc hcaption
  · have hpieces : rowsBefore above ++ l :: below =
        (rowsBefore above ++ l :: rowsBehind below) ++ [c] ++ rest := by
      conv => lhs; rw [hsplit]
      simp
    have hexists : ∃ c ∈ below, c.isCaption :=
      ⟨c, hsplit ▸ List.mem_append_right _ List.mem_cons_self, hc⟩
    rw [hsplit, List.mem_append, List.mem_cons, not_or, not_or] at hbelow
    obtain ⟨hbehind, hlc, hrest⟩ := hbelow
    rw [hpieces, foldBody_append hc, foldBody_run hrun hc, List.mem_append,
      or_iff_left (hfolded rest hrest), List.mem_append, or_iff_left (by simpa using hlc),
      mem_cutRun_iff hne habove.2 hbehind]
    simp only [hexists, true_and]

end CodeFrame
