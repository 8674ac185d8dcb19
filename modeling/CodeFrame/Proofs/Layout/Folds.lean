import CodeFrame.Layout.Body
import CodeFrame.Proofs.Layout.Rows
import CodeFrame.Proofs.Layout.Runs
import CodeFrame.Proofs.Layout.Shares

/-!
# What folding leaves out

`Folded u f` says that `f` is `u` with some stretches of source rows replaced by one fold each. Folding
makes such an `f` of every list of source rows and captions (`folded_foldBody`), and what can be said of
a folded body is said of the relation: nothing but source rows is missing, no row is new or has moved,
and each stretch between two source rows has a fold exactly if lines are missing in it.
-/

namespace CodeFrame

/-- `f` is `u` with stretches of source rows replaced by folds. -/
inductive Folded : List DisplayLine → List DisplayLine → Prop
  | nil : Folded [] []
  | keep (l : DisplayLine) {u f : List DisplayLine} : Folded u f → Folded (l :: u) (l :: f)
  | fold {rows u f : List DisplayLine} : rows ≠ [] → (∀ l ∈ rows, l.number?.isSome) → Folded u f →
      Folded (rows ++ u) (.fold :: f)

namespace Folded

variable {u v f g : List DisplayLine}

theorem refl (u : List DisplayLine) : Folded u u := by
  induction u with
  | nil => exact .nil
  | cons l u ih => exact .keep l ih

theorem append (hu : Folded u f) (hv : Folded v g) : Folded (u ++ v) (f ++ g) := by
  induction hu with
  | nil => exact hv
  | keep l _ ih => exact .keep l ih
  | fold hne hrows _ ih =>
    rw [List.append_assoc, List.cons_append]
    exact .fold hne hrows ih

theorem eq_nil (h : Folded u []) : u = [] := by
  cases h
  rfl

/-- A row that is no fold has been kept. -/
theorem exists_cons {l : DisplayLine} (h : Folded u (l :: f)) (hl : l ≠ .fold) :
    ∃ v, u = l :: v ∧ Folded v f := by
  cases h with
  | keep _ h => exact ⟨_, rfl, h⟩
  | fold _ _ _ => exact absurd rfl hl

/-- What stands before a place and what stands behind it come from two parts of the rows. -/
theorem exists_append (h : Folded u (f ++ g)) :
    ∃ v w, u = v ++ w ∧ Folded v f ∧ Folded w g := by
  induction f generalizing u with
  | nil => exact ⟨[], u, rfl, .nil, h⟩
  | cons l f ih =>
    cases h with
    | keep _ h =>
      obtain ⟨v, w, rfl, hv, hw⟩ := ih h
      exact ⟨l :: v, w, rfl, .keep l hv, hw⟩
    | fold hne hrows h =>
      obtain ⟨v, w, rfl, hv, hw⟩ := ih h
      exact ⟨_ ++ v, w, (List.append_assoc ..).symm, .fold hne hrows hv, hw⟩

/-! ## What is kept -/

/-- Every row but the folds stood among the rows. -/
theorem mem_or_eq_fold {l : DisplayLine} (h : Folded u f) (hl : l ∈ f) : l ∈ u ∨ l = .fold := by
  induction h with
  | nil => cases hl
  | keep l' _ ih =>
    rcases List.mem_cons.1 hl with rfl | hl
    · exact .inl List.mem_cons_self
    · exact (ih hl).imp_left (List.mem_cons_of_mem l')
  | fold _ _ _ ih =>
    rcases List.mem_cons.1 hl with rfl | hl
    · exact .inr rfl
    · exact (ih hl).imp_left (List.mem_append_right _)

/-- The source rows that are left stand in their order. -/
theorem sublist_numbers (h : Folded u f) :
    (f.filterMap DisplayLine.number?).Sublist (u.filterMap DisplayLine.number?) := by
  induction h with
  | nil => exact .slnil
  | keep l _ ih =>
    rw [List.filterMap_cons, List.filterMap_cons]
    cases l.number? with
    | none => exact ih
    | some n => exact .cons_cons n ih
  | fold _ _ _ ih =>
    rw [List.filterMap_append]
    exact ih.trans (List.sublist_append_right _ _)

/-- All captions are left. -/
theorem filter_isCaption (h : Folded u f) :
    f.filter DisplayLine.isCaption = u.filter DisplayLine.isCaption := by
  induction h with
  | nil => rfl
  | keep l _ ih =>
    rw [List.filter_cons, List.filter_cons, ih]
  | @fold rows _ _ _ hrows _ ih =>
    have hnone : ∀ l ∈ rows, ¬ l.isCaption := by
      intro l hl hcaption
      have hnumber := hrows l hl
      rw [DisplayLine.number?_of_isCaption hcaption] at hnumber
      cases hnumber
    rw [List.filter_append, List.filter_eq_nil_iff.2 hnone, List.nil_append, ← ih]
    rfl

/-- Where no source row is left, there is a fold exactly if source rows are missing, and there are not
more folds than these. -/
theorem folds_le_missing (h : Folded u f) (hu : .fold ∉ u) (hf : f.filterMap DisplayLine.number? = []) :
    f.count .fold ≤ (u.filterMap DisplayLine.number?).length ∧
      (f.count .fold = 0 ↔ (u.filterMap DisplayLine.number?).length = 0) := by
  induction h with
  | nil => exact ⟨Nat.le_refl _, Iff.rfl⟩
  | keep l _ ih =>
    obtain ⟨hl, hf⟩ : l.number? = none ∧ _ := by
      simpa only [List.filterMap_eq_nil_iff, List.forall_mem_cons] using hf
    rw [List.count_cons_of_ne (List.ne_of_not_mem_cons hu).symm, List.filterMap_cons_none hl]
    exact ih (List.not_mem_of_not_mem_cons hu) (List.filterMap_eq_nil_iff.2 hf)
  | @fold rows u f hne hrows _ ih =>
    obtain ⟨hle, -⟩ := ih (fun hmem => hu (List.mem_append_right rows hmem)) hf
    have hlen : (rows.filterMap DisplayLine.number?).length = rows.length :=
      List.filterMap_length_eq_length.2 hrows
    have hpos := List.length_pos_iff.2 hne
    rw [List.count_cons_self, List.filterMap_append, List.length_append, hlen]
    omega

end Folded

/-! ## Folding -/

namespace Folding

variable {o : LayoutOptions} {rows : List DisplayLine} {f : Folding} {l : DisplayLine}

/-- What has been kept of `rows`: their last ones are the source rows of the run, untouched, and of
those in front stretches of source rows have been folded. -/
def Tracks (rows : List DisplayLine) (f : Folding) : Prop :=
  ∃ settled run kept, rows = settled ++ run ∧ f.kept = run.reverse ++ kept ∧ f.run = run.length ∧
    (∀ l ∈ run, l.number?.isSome) ∧ Folded settled kept.reverse

theorem tracks_start : Tracks [] start :=
  ⟨[], [], [], rfl, rfl, rfl, by simp, .nil⟩

/-- A run that ends loses nothing but source rows, and not without a fold. -/
theorem folded_close (h : Tracks rows f) : Folded rows (f.close o).reverse := by
  obtain ⟨settled, run, kept, rfl, hkept, hrun, hsource, hfolded⟩ := h
  by_cases hlong : o.threshold < f.run
  · have hkeep := o.keep_le
    rw [hrun] at hlong
    rw [close_of_long hlong hkept hrun, List.reverse_append, List.reverse_reverse]
    -- the run is its head, a middle that is not empty, and its tail
    have hsplit : run = run.take o.keepHead ++
        ((run.drop o.keepHead).take (run.length - o.keepTail - o.keepHead) ++
          run.drop (run.length - o.keepTail)) := by
      have hdrop : run.drop (run.length - o.keepTail) =
          (run.drop o.keepHead).drop (run.length - o.keepTail - o.keepHead) := by
        rw [List.drop_drop]
        congr 1
        omega
      rw [hdrop, List.take_append_drop, List.take_append_drop]
    have hmiddle : (run.drop o.keepHead).take (run.length - o.keepTail - o.keepHead) ≠ [] := by
      apply List.ne_nil_of_length_pos
      rw [List.length_take, List.length_drop]
      omega
    have hfold := hfolded.append <| (Folded.refl (run.take o.keepHead)).append <|
      Folded.fold hmiddle (fun l hl => hsource l (List.mem_of_mem_drop (List.mem_of_mem_take hl)))
        (Folded.refl (run.drop (run.length - o.keepTail)))
    rwa [← hsplit] at hfold
  · rw [close_of_not_long hlong, hkept, List.reverse_append, List.reverse_reverse]
    exact hfolded.append (Folded.refl run)

/-- One more row. -/
theorem tracks_step (h : Tracks rows f) (hl : l.number?.isSome ∨ l.isCaption) :
    Tracks (rows ++ [l]) (f.step o l) := by
  by_cases hcaption : l.isCaption
  · refine ⟨rows ++ [l], [], l :: f.close o, (List.append_nil _).symm, ?_, ?_, by simp, ?_⟩
    · rw [step, if_pos hcaption]
      rfl
    · rw [step, if_pos hcaption]
      rfl
    · rw [List.reverse_cons]
      exact (folded_close h).append (Folded.refl [l])
  · obtain ⟨settled, run, kept, rfl, hkept, hrun, hsource, hfolded⟩ := h
    have hl := hl.resolve_right hcaption
    refine ⟨settled, run ++ [l], kept, List.append_assoc .., ?_, ?_, ?_, hfolded⟩
    · rw [step, if_neg hcaption, List.reverse_concat, List.cons_append, ← hkept]
    · rw [step, if_neg hcaption, List.length_append, ← hrun]
      rfl
    · intro l' hl'
      rcases List.mem_append.1 hl' with hl' | hl'
      · exact hsource l' hl'
      · rwa [List.mem_singleton.1 hl']

/-- All rows. -/
theorem tracks_foldl (body : List DisplayLine) (h : Tracks rows f)
    (hbody : ∀ l ∈ body, l.number?.isSome ∨ l.isCaption) :
    Tracks (rows ++ body) (body.foldl (step o) f) := by
  induction body generalizing rows f with
  | nil => simpa using h
  | cons l body ih =>
    -- the rows seen so far grow at their end, where the run is
    have hstep := tracks_step (o := o) h (hbody l List.mem_cons_self)
    have hrest := ih hstep fun l' hl' => hbody l' (List.mem_cons_of_mem l hl')
    rwa [List.append_assoc, List.singleton_append] at hrest

/-- The run that is left at the end is kept as it is. -/
theorem folded_of_tracks (h : Tracks rows f) : Folded rows f.kept.reverse := by
  obtain ⟨settled, run, kept, rfl, hkept, -, -, hfolded⟩ := h
  rw [hkept, List.reverse_append, List.reverse_reverse]
  exact hfolded.append (Folded.refl run)

end Folding

theorem folded_foldBody (o : LayoutOptions) {body : List DisplayLine}
    (hbody : ∀ l ∈ body, l.number?.isSome ∨ l.isCaption) : Folded body (foldBody o body) := by
  unfold foldBody
  split
  · have h := Folding.tracks_foldl (o := o) body Folding.tracks_start hbody
    rw [List.nil_append] at h
    exact Folding.folded_of_tracks h
  · exact Folded.refl body

/-! ## Gaps -/

/-- A stretch between source rows: the number of the source row in front of it, its rows, and the number
of the source row behind it. -/
structure Gap where
  before : Option Int
  rows : List DisplayLine
  after : Option Int
  deriving DecidableEq, Repr

/-- The stretches from a place behind a source row of number `before` and the rows `rows` on. -/
def gapsFrom (before : Option Int) (rows : List DisplayLine) : List DisplayLine → List Gap
  | [] => [⟨before, rows, none⟩]
  | .source n _ _ :: ls => ⟨before, rows, some n⟩ :: gapsFrom (some n) [] ls
  | l :: ls => gapsFrom before (rows ++ [l]) ls

/-- The stretches of a body in front of its first source row, between two that follow each other, and
behind its last one. -/
def gaps (body : List DisplayLine) : List Gap :=
  gapsFrom none [] body

namespace Gap

variable (g : Gap)

/-- The number of folds in a stretch. -/
def folds : Nat :=
  g.rows.count .fold

/-- Does a line of number `n` belong into a stretch? -/
def holds (n : Int) : Bool :=
  g.before.all (· < n) && g.after.all (n < ·)

/-- The number of source lines that belong into a stretch, where none of them is shown. -/
def missing (t : LineTable) : Nat :=
  (List.range t.lines.length).countP fun k : Nat => g.holds (t.number k)

end Gap

/-- There is one stretch more than there are source rows. -/
theorem length_gapsFrom (before : Option Int) (rows body : List DisplayLine) :
    (gapsFrom before rows body).length = (body.filterMap DisplayLine.number?).length + 1 := by
  induction body generalizing before rows with
  | nil => rfl
  | cons l body ih =>
    cases l with
    | source n marks content => exact congrArg Nat.succ (ih (some n) [])
    | _ => exact ih before _

/-- A stretch stands between its two source rows and holds none. -/
theorem exists_of_mem_gapsFrom {before : Option Int} {rows body : List DisplayLine} {g : Gap}
    (hrows : rows.filterMap DisplayLine.number? = []) (hg : g ∈ gapsFrom before rows body) :
    ∃ pre post, rows ++ body = pre ++ g.rows ++ post ∧
      g.rows.filterMap DisplayLine.number? = [] ∧
      (pre = [] ∧ g.before = before ∨
        ∃ pre' l n, pre = pre' ++ [l] ∧ l.number? = some n ∧ g.before = some n) ∧
      (post = [] ∧ g.after = none ∨
        ∃ l post' n, post = l :: post' ∧ l.number? = some n ∧ g.after = some n) := by
  induction body generalizing before rows with
  | nil =>
    rw [gapsFrom, List.mem_singleton] at hg
    subst hg
    exact ⟨[], [], by simp, hrows, .inl ⟨rfl, rfl⟩, .inl ⟨rfl, rfl⟩⟩
  | cons l body ih =>
    cases hn : l.number? with
    | none =>
      have hg' : g ∈ gapsFrom before (rows ++ [l]) body := by
        cases l <;> first | exact hg | cases hn
      have hrows' : (rows ++ [l]).filterMap DisplayLine.number? = [] := by
        rw [List.filterMap_append, hrows, List.filterMap_cons_none hn]
        rfl
      obtain ⟨pre, post, hsplit, h⟩ := ih hrows' hg'
      exact ⟨pre, post, by rw [← hsplit, List.append_assoc, List.singleton_append], h⟩
    | some n =>
      have hg' : g = ⟨before, rows, some n⟩ ∨ g ∈ gapsFrom (some n) [] body := by
        cases l with
        | source m marks content =>
          cases hn
          exact List.mem_cons.1 hg
        | _ => cases hn
      rcases hg' with rfl | hg'
      · exact ⟨[], l :: body, rfl, hrows, .inl ⟨rfl, rfl⟩, .inr ⟨l, body, n, rfl, hn, rfl⟩⟩
      · obtain ⟨pre, post, hsplit, hnone, hpre, hpost⟩ := ih rfl hg'
        refine ⟨rows ++ l :: pre, post, ?_, hnone, .inr ?_, hpost⟩
        · rw [List.append_assoc, List.append_assoc, List.cons_append, ← List.append_assoc pre,
            ← hsplit, List.nil_append]
        · rcases hpre with ⟨rfl, hbefore⟩ | ⟨pre', l', n', rfl, hn', hbefore⟩
          · exact ⟨rows, l, n, rfl, hn, hbefore⟩
          · exact ⟨rows ++ l :: pre', l', n', by simp, hn', hbefore⟩

/-- Of increasing numbers, those that a stretch holds are the ones between its two parts. -/
theorem countP_holds {g : Gap} {front middle back : List Int}
    (hsorted : (front ++ middle ++ back).Pairwise (· < ·))
    (hfront : front = [] ∧ g.before = none ∨ ∃ ns n, front = ns ++ [n] ∧ g.before = some n)
    (hback : back = [] ∧ g.after = none ∨ ∃ n ns, back = n :: ns ∧ g.after = some n) :
    (front ++ middle ++ back).countP (g.holds ·) = middle.length := by
  rw [List.pairwise_append, List.pairwise_append] at hsorted
  obtain ⟨⟨hf, hm, hfm⟩, hb, hfmb⟩ := hsorted
  have hfront0 : front.countP (g.holds ·) = 0 := by
    rw [List.countP_eq_zero]
    intro n hn
    rcases hfront with ⟨rfl, -⟩ | ⟨ns, n', rfl, hbefore⟩
    · cases hn
    · have hle : n ≤ n' := by
        rcases List.mem_append.1 hn with hn | hn
        · exact Int.le_of_lt ((List.pairwise_append.1 hf).2.2 n hn n' (by simp))
        · exact Int.le_of_eq (List.mem_singleton.1 hn)
      simpa [Gap.holds, hbefore] using fun hlt : n' < n => absurd hlt (Int.not_lt.2 hle)
  have hback0 : back.countP (g.holds ·) = 0 := by
    rw [List.countP_eq_zero]
    intro n hn
    rcases hback with ⟨rfl, -⟩ | ⟨n', ns, rfl, hafter⟩
    · cases hn
    · have hle : n' ≤ n := by
        rcases List.mem_cons.1 hn with rfl | hn
        · exact Int.le_refl _
        · exact Int.le_of_lt ((List.pairwise_cons.1 hb).1 n hn)
      simpa [Gap.holds, hafter] using fun _ => hle
  have hmiddle : middle.countP (g.holds ·) = middle.length := by
    rw [List.countP_eq_length]
    intro n hn
    have hlo : g.before.all (· < n) := by
      rcases hfront with ⟨-, hbefore⟩ | ⟨ns, n', rfl, hbefore⟩
      · simp [hbefore]
      · simpa [hbefore] using hfm n' (by simp) n hn
    have hhi : g.after.all (n < ·) := by
      rcases hback with ⟨-, hafter⟩ | ⟨n', ns, rfl, hafter⟩
      · simp [hafter]
      · simpa [hafter] using hfmb n (List.mem_append_right front hn) n' List.mem_cons_self
    rw [Gap.holds, hlo, hhi]
    rfl
  rw [List.countP_append, List.countP_append, hfront0, hmiddle, hback0]
  omega

/-- Each stretch of a folded body has not more folds than lines are missing in it, and one at least if
any is missing. -/
theorem Folded.folds_of_mem_gaps {u f : List DisplayLine} (h : Folded u f) (hu : .fold ∉ u)
    (hsorted : (u.filterMap DisplayLine.number?).Pairwise (· < ·)) {g : Gap} (hg : g ∈ gaps f) :
    g.folds ≤ (u.filterMap DisplayLine.number?).countP (g.holds ·) ∧
      (g.folds = 0 ↔ (u.filterMap DisplayLine.number?).countP (g.holds ·) = 0) := by
  -- the gap cuts the folded rows in three, and the rows that they come from likewise
  obtain ⟨pre, post, hsplit, hnone, hpre, hpost⟩ := exists_of_mem_gapsFrom rfl hg
  rw [List.nil_append] at hsplit
  subst hsplit
  obtain ⟨uv, w, rfl, huv, hw⟩ := h.exists_append
  obtain ⟨v, m, rfl, hv, hm⟩ := huv.exists_append
  have hfront : v.filterMap DisplayLine.number? = [] ∧ g.before = none ∨
      ∃ ns n, v.filterMap DisplayLine.number? = ns ++ [n] ∧ g.before = some n := by
    rcases hpre with ⟨rfl, hbefore⟩ | ⟨pre', l, n, rfl, hn, hbefore⟩
    · rw [hv.eq_nil]
      exact .inl ⟨rfl, hbefore⟩
    · obtain ⟨v', vl, rfl, -, hvl⟩ := hv.exists_append
      obtain ⟨_, rfl, hnil⟩ := hvl.exists_cons (by rintro rfl; cases hn)
      rw [hnil.eq_nil, List.filterMap_append]
      exact .inr ⟨_, n, by rw [List.filterMap_cons_some hn]; rfl, hbefore⟩
  have hback : w.filterMap DisplayLine.number? = [] ∧ g.after = none ∨
      ∃ n ns, w.filterMap DisplayLine.number? = n :: ns ∧ g.after = some n := by
    rcases hpost with ⟨rfl, hafter⟩ | ⟨l, post', n, rfl, hn, hafter⟩
    · rw [hw.eq_nil]
      exact .inl ⟨rfl, hafter⟩
    · obtain ⟨w', rfl, -⟩ := hw.exists_cons (by rintro rfl; cases hn)
      exact .inr ⟨n, _, List.filterMap_cons_some hn, hafter⟩
  rw [List.filterMap_append, List.filterMap_append] at hsorted ⊢
  rw [countP_holds hsorted hfront hback]
  refine hm.folds_le_missing (fun hmem => hu ?_) hnone
  exact List.mem_append_left _ (List.mem_append_right _ hmem)

example :
    let c : DisplayLine := .caption ⟨[], 0, 1, "", .error⟩
    let body := foldBody { threshold := 2, keepHead := 1, keepTail := 1 }
      [.source 1 [] "a", .source 2 [] "b", .source 3 [] "c", .source 4 [] "d", c]
    body = [.source 1 [] "a", .fold, .source 4 [] "d", c] ∧
      (gaps body).map (fun g => (g.folds, g.missing ⟨["a", "b", "c", "d"], 1⟩)) =
        [(0, 0), (1, 2), (0, 0)] := by
  decide

/-! ## The body of a snippet -/

/-- Of rows with increasing numbers, one alone has the number it has. -/
theorem filter_number?_eq_singleton {u : List DisplayLine} {l : DisplayLine} {n : Int}
    (hsorted : (u.filterMap DisplayLine.number?).Pairwise (· < ·)) (hl : l ∈ u)
    (hn : l.number? = some n) : u.filter (fun r => r.number? = some n) = [l] := by
  induction u with
  | nil => cases hl
  | cons r u ih =>
    rcases List.mem_cons.1 hl with rfl | hl
    · rw [List.filterMap_cons_some hn, List.pairwise_cons] at hsorted
      -- a second row of this number would have to be beyond itself
      have hnone : ∀ r ∈ u, ¬ r.number? = some n := by
        intro r hr hrn
        have hlt := hsorted.1 n (List.mem_filterMap.2 ⟨r, hr, hrn⟩)
        omega
      rw [List.filter_cons_of_pos (by simpa using hn),
        List.filter_eq_nil_iff.2 (by simpa using hnone)]
    · cases hr : r.number? with
      | none =>
        rw [List.filterMap_cons_none hr] at hsorted
        rw [List.filter_cons_of_neg (by simp [hr]), ih hsorted hl]
      | some m =>
        rw [List.filterMap_cons_some hr, List.pairwise_cons] at hsorted
        have hlt := hsorted.1 n (List.mem_filterMap.2 ⟨l, hl, hn⟩)
        rw [List.filter_cons_of_neg (by simp [hr]; omega), ih hsorted.2 hl]

/-- The numbers of the lines increase. -/
theorem LineTable.numbers_pairwise (t : LineTable) (n : Nat) :
    ((List.range n).map fun k : Nat => t.number k).Pairwise (· < ·) := by
  rw [List.pairwise_map]
  refine List.pairwise_lt_range.imp ?_
  intro i k hik
  show t.firstNumber + (i : Int) < t.firstNumber + (k : Int)
  omega

/-- A body is bracketed by empty lines and shows every line of the source or stands a fold for it. Its
source rows are those of the unfolded body, which has one for each line; its captions are all those of
the unfolded body; and between source rows it has folds exactly where lines are missing, and not more of
them than lines. -/
theorem Snippet.body_shows_or_folds (s : Snippet) (o : LayoutOptions) :
    ∃ inner unfolded,
      s.body o = .blank :: inner ++ [.blank] ∧
      s.body { o with fold := false } = .blank :: unfolded ++ [.blank] ∧
      (∀ l ∈ inner, l ≠ .blank ∧ ∀ text, l ≠ .raw text) ∧
      (inner.filterMap DisplayLine.number?).Pairwise (· < ·) ∧
      (unfolded.filterMap DisplayLine.number? =
        (List.range s.table.lines.length).map fun k : Nat => s.table.number k) ∧
      (∀ l ∈ inner, ∀ n, l.number? = some n →
        unfolded.filter (fun r => r.number? = some n) = [l]) ∧
      inner.filter DisplayLine.isCaption = unfolded.filter DisplayLine.isCaption ∧
      (gaps inner).length = (inner.filterMap DisplayLine.number?).length + 1 ∧
      ∀ g ∈ gaps inner, g.folds ≤ g.missing s.table ∧ (g.folds = 0 ↔ g.missing s.table = 0) := by
  have hinserted : ∀ i row, .insert i row ∈ s.plan.placements → row.isCaption := by
    intro i row
    exact s.table.isCaption_of_insert_mem_plan
  have hrows : ∀ l ∈ s.table.body s.plan.placements, l.number?.isSome ∨ l.isCaption := by
    intro l
    exact LineTable.source_or_caption_of_mem_body hinserted
  have hnumbers := LineTable.filterMap_number?_body (t := s.table) hinserted
  have hfolded := folded_foldBody o hrows
  have hsorted := s.table.numbers_pairwise s.table.lines.length
  rw [← hnumbers] at hsorted
  have hnofold : .fold ∉ s.table.body s.plan.placements := by
    intro hmem
    rcases hrows _ hmem with h | h <;> cases h
  refine ⟨foldBody o (s.table.body s.plan.placements), s.table.body s.plan.placements, rfl, rfl, ?_,
    hsorted.sublist hfolded.sublist_numbers, hnumbers, ?_, hfolded.filter_isCaption,
    length_gapsFrom none [] _, ?_⟩
  · intro l hl
    rcases hfolded.mem_or_eq_fold hl with hl | rfl
    · constructor
      · rintro rfl
        rcases hrows _ hl with h | h <;> cases h
      · rintro text rfl
        rcases hrows _ hl with h | h <;> cases h
    · exact ⟨DisplayLine.noConfusion, fun _ => DisplayLine.noConfusion⟩
  · intro l hl n hn
    rcases hfolded.mem_or_eq_fold hl with hl | rfl
    · exact filter_number?_eq_singleton hsorted hl hn
    · cases hn
  · intro g hg
    have h := hfolded.folds_of_mem_gaps hnofold hsorted hg
    rw [hnumbers, List.countP_map] at h
    exact h

end CodeFrame
