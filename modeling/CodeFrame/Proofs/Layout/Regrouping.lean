import CodeFrame.Proofs.Layout.Concat
import Mathlib.Data.List.Nodup

/-!
# Placements regrouped by lines

A body keeps of a list of placements what counts for each line, and nothing else: their marks beside the
source row, in their order, and their rows under it, in theirs (`LineTable.body_regroups`). How marks and
rows and the placements of different lines are mixed makes no difference, and placements on lines that do
not exist are lost. Where only captions are put under lines, all that counts can be read off the body
again (`LineTable.on_eq_of_body_eq`).
-/

namespace CodeFrame

namespace Placement

variable {k : Nat} {ps : List Placement}

/-- What is for other lines can be left out. -/
theorem on_filter {keep : Placement → Bool} (h : ∀ p ∈ ps, p.line = k → keep p) :
    marksOn k (ps.filter keep) = marksOn k ps ∧ rowsUnder k (ps.filter keep) = rowsUnder k ps := by
  unfold marksOn rowsUnder
  rw [List.filterMap_filter, List.filterMap_filter]
  constructor
  · apply List.filterMap_congr
    intro p hp
    cases p with
    | attach i m =>
      by_cases hi : i = k
      · rw [if_pos (h _ hp hi)]
      · simp [markOn?, hi]
    | insert i row => simp [markOn?]
  · apply List.filterMap_congr
    intro p hp
    cases p with
    | attach i m => simp [rowUnder?]
    | insert i row =>
      by_cases hi : i = k
      · rw [if_pos (h _ hp hi)]
      · simp [rowUnder?, hi]

end Placement

/-! ## Rows with captions under them -/

/-- The captions that a list of rows begins with end where a row comes that is none. -/
theorem captions_append_inj {cs cs' rest rest' : List DisplayLine} (hcs : ∀ c ∈ cs, c.isCaption)
    (hcs' : ∀ c ∈ cs', c.isCaption) (hrest : ∀ l ∈ rest.head?, ¬ l.isCaption)
    (hrest' : ∀ l ∈ rest'.head?, ¬ l.isCaption) (h : cs ++ rest = cs' ++ rest') :
    cs = cs' ∧ rest = rest' := by
  have htake : ∀ {ls : List DisplayLine}, (∀ l ∈ ls.head?, ¬ l.isCaption) →
      ls.takeWhile DisplayLine.isCaption = [] := by
    intro ls hls
    cases ls with
    | nil => rfl
    | cons l ls => exact List.takeWhile_cons_of_neg (hls l rfl)
  have heq := congrArg (List.takeWhile DisplayLine.isCaption) h
  rw [List.takeWhile_append_of_pos hcs, List.takeWhile_append_of_pos hcs', htake hrest, htake hrest',
    List.append_nil, List.append_nil] at heq
  rw [heq] at h
  exact ⟨heq, List.append_cancel_left h⟩

/-- Rows with captions under them can be told apart when they stand one below the other. -/
theorem groups_inj {xs ys : List (DisplayLine × List DisplayLine)}
    (hxs : ∀ x ∈ xs, ¬ x.1.isCaption ∧ ∀ c ∈ x.2, c.isCaption)
    (hys : ∀ y ∈ ys, ¬ y.1.isCaption ∧ ∀ c ∈ y.2, c.isCaption)
    (h : (xs.flatMap fun x => x.1 :: x.2) = ys.flatMap fun y => y.1 :: y.2) : xs = ys := by
  have hhead : ∀ {zs : List (DisplayLine × List DisplayLine)}, (∀ z ∈ zs, ¬ z.1.isCaption) →
      ∀ l ∈ (zs.flatMap fun z => z.1 :: z.2).head?, ¬ l.isCaption := by
    intro zs hzs l hl
    cases zs with
    | nil => cases hl
    | cons z zs =>
      obtain rfl : z.1 = l := Option.some.inj hl
      exact hzs z List.mem_cons_self
  induction xs generalizing ys with
  | nil =>
    cases ys with
    | nil => rfl
    | cons y ys => cases h
  | cons x xs ih =>
    cases ys with
    | nil => cases h
    | cons y ys =>
      rw [List.flatMap_cons, List.flatMap_cons, List.cons_append, List.cons_append,
        List.cons.injEq] at h
      obtain ⟨hfirst, hrest⟩ := h
      obtain ⟨-, hx⟩ := hxs x List.mem_cons_self
      obtain ⟨-, hy⟩ := hys y List.mem_cons_self
      have hxs' := fun x' hx' => hxs x' (List.mem_cons_of_mem x hx')
      have hys' := fun y' hy' => hys y' (List.mem_cons_of_mem y hy')
      obtain ⟨hunder, hbelow⟩ := captions_append_inj hx hy (hhead fun x' hx' => (hxs' x' hx').1)
        (hhead fun y' hy' => (hys' y' hy').1) hrest
      rw [ih hxs' hys' hbelow, Prod.ext hfirst hunder]

namespace LineTable

variable (t : LineTable) {u : LineTable} {ps qs : List Placement} {k : Nat}

/-- The placements of a plan for a line are the shares of that line. -/
theorem filter_plan (as : List Annotation) (hk : k < t.lines.length) :
    ((t.plan as).placements.filter fun p => p.line = (k : Int)) = as.flatMap fun a => a.share t k := by
  have hline : ∀ j : Nat, ∀ p ∈ as.flatMap fun a => a.share t j, p.line = (j : Int) := by
    intro j p hp
    obtain ⟨a, -, hp⟩ := List.mem_flatMap.1 hp
    exact Annotation.line_of_mem_share hp
  have hother : ∀ j ∈ List.range t.lines.length, decide (j = k) = false →
      ((as.flatMap fun a => a.share t j).filter fun p => p.line = (k : Int)) = [] := by
    intro j _ hj
    rw [List.filter_eq_nil_iff]
    intro p hp hpk
    have hpk' : p.line = (k : Int) := of_decide_eq_true hpk
    rw [hline j p hp] at hpk'
    exact of_decide_eq_false hj (Int.ofNat_inj.1 hpk')
  have hself : (List.range t.lines.length).filter (fun j => decide (j = k)) = [k] := by
    rw [List.filter_eq, List.count_eq_one_of_mem List.nodup_range (List.mem_range.2 hk)]
    rfl
  rw [plan_placements_eq, List.filter_flatMap, ← flatMap_filter_of_eq_nil _ hother, hself,
    List.flatMap_singleton, List.filter_eq_self]
  intro p hp
  exact decide_eq_true (hline k p hp)

/-- A plan puts beside a line and under it what the shares of the line say. -/
theorem on_plan (as : List Annotation) (hk : k < t.lines.length) :
    Placement.marksOn k (t.plan as).placements =
        Placement.marksOn k (as.flatMap fun a => a.share t k) ∧
      Placement.rowsUnder k (t.plan as).placements =
        Placement.rowsUnder k (as.flatMap fun a => a.share t k) := by
  have hon : ∀ ps : List Placement,
      Placement.marksOn k (ps.filter fun p => p.line = (k : Int)) = Placement.marksOn k ps ∧
        Placement.rowsUnder k (ps.filter fun p => p.line = (k : Int)) = Placement.rowsUnder k ps :=
    fun ps => Placement.on_filter fun p _ hp => decide_eq_true hp
  obtain ⟨hmarks, hrows⟩ := hon (t.plan as).placements
  rw [← hmarks, ← hrows, t.filter_plan as hk]
  exact ⟨rfl, rfl⟩

/-! ## Bodies -/

/-- The source row of a line and the rows under it. -/
def group (ps : List Placement) (lk : String × Nat) : DisplayLine × List DisplayLine :=
  (.source (t.number lk.2) (Placement.marksOn lk.2 ps) lk.1, Placement.rowsUnder lk.2 ps)

theorem group_captions (hps : ∀ i row, .insert i row ∈ ps → row.isCaption)
    {g : DisplayLine × List DisplayLine} (hg : g ∈ t.lines.zipIdx.map (t.group ps)) :
    ¬ g.1.isCaption ∧ ∀ c ∈ g.2, c.isCaption := by
  obtain ⟨lk, -, rfl⟩ := List.mem_map.1 hg
  refine ⟨Bool.noConfusion, ?_⟩
  intro c hc
  obtain ⟨i, hi⟩ := exists_insert_of_mem_rowsUnder hc
  exact hps i c hi

variable {t} in
/-- Where only captions are put under lines, a body tells the lines, the marks beside each of them and the
captions under it. -/
theorem on_eq_of_body_eq (hps : ∀ i row, .insert i row ∈ ps → row.isCaption)
    (hqs : ∀ i row, .insert i row ∈ qs → row.isCaption) (h : t.body ps = u.body qs) :
    t.lines = u.lines ∧ ∀ k < t.lines.length, t.number k = u.number k ∧
      Placement.marksOn k ps = Placement.marksOn k qs ∧
      Placement.rowsUnder k ps = Placement.rowsUnder k qs := by
  have hbody : ∀ (v : LineTable) (ps : List Placement),
      v.body ps = (v.lines.zipIdx.map (v.group ps)).flatMap fun g => g.1 :: g.2 := by
    intro v ps
    rw [body_eq, List.flatMap_map]
    rfl
  rw [hbody, hbody] at h
  have hgroups := groups_inj (fun g => t.group_captions hps) (fun g => u.group_captions hqs) h
  have hline : ∀ k : Nat, (t.lines[k]?.map fun l => t.group ps (l, k)) =
      u.lines[k]?.map fun l => u.group qs (l, k) := by
    intro k
    have hk := congrArg (fun gs => gs[k]?) hgroups
    simpa [List.getElem?_map, List.getElem?_zipIdx, Function.comp_def] using hk
  have hlines : t.lines = u.lines := by
    apply List.ext_getElem?
    intro k
    have hk := hline k
    cases hl : t.lines[k]? <;> cases hm : u.lines[k]? <;> simp_all [group]
  refine ⟨hlines, ?_⟩
  intro k hlt
  have hk := hline k
  rw [← hlines, List.getElem?_eq_getElem hlt, Option.map_some, Option.map_some, Option.some.injEq,
    group, group, Prod.mk.injEq, DisplayLine.source.injEq] at hk
  exact ⟨hk.1.1, hk.1.2.1, hk.2⟩

/-- Two lists of placements do the same to each line of the table. -/
def SameOn (ps qs : List Placement) : Prop :=
  ∀ k < t.lines.length, Placement.marksOn k ps = Placement.marksOn k qs ∧
    Placement.rowsUnder k ps = Placement.rowsUnder k qs

instance : Decidable (t.SameOn ps qs) :=
  inferInstanceAs (Decidable (∀ k < t.lines.length, _ ∧ _))

/-- A body depends only on what is beside and under each line. -/
theorem body_congr (h : t.SameOn ps qs) : t.body ps = t.body qs := by
  rw [body_eq, body_eq]
  apply List.flatMap_congr
  intro lk hlk
  obtain ⟨hmarks, hrows⟩ := h lk.2 (by simpa using List.snd_lt_of_mem_zipIdx hlk)
  rw [lineRows, lineRows, hmarks, hrows]

/-- Placements, in whatever order and for whatever lines, make one source row of each line, with the line's
marks in their order, and under it the line's rows in theirs; those for lines that do not exist are lost.
So lists that do the same to each line make the same body. Where only captions are put under lines, no other
lists do. -/
theorem body_regroups (ps : List Placement) :
    t.body ps = (t.lines.zipIdx.flatMap fun lk =>
        .source (t.number lk.2) (Placement.marksOn lk.2 ps) lk.1 :: Placement.rowsUnder lk.2 ps) ∧
      t.body (ps.filter fun p => 0 ≤ p.line ∧ p.line < t.lines.length) = t.body ps ∧
      (∀ qs, t.SameOn ps qs → t.body ps = t.body qs) ∧
      ∀ qs, (∀ i row, .insert i row ∈ ps ++ qs → row.isCaption) → t.body ps = t.body qs →
        t.SameOn ps qs := by
  refine ⟨t.body_eq ps, ?_, fun qs => t.body_congr, ?_⟩
  · apply t.body_congr
    intro k hk
    apply Placement.on_filter
    intro p _ hp
    exact decide_eq_true (by omega)
  · intro qs hcaptions hbody k hk
    obtain ⟨-, hon⟩ := on_eq_of_body_eq
      (fun i row hrow => hcaptions i row (List.mem_append_left qs hrow))
      (fun i row hrow => hcaptions i row (List.mem_append_right ps hrow)) hbody
    exact (hon k hk).2

/-- Two lines whose marks and captions come mixed, with some for lines that do not exist. -/
theorem body_regroups_of_two_lines :
    let t : LineTable := ⟨["a", "b"], 7⟩
    let caption (label : String) : DisplayLine := .caption ⟨[], 0, 1, label, .error⟩
    let mixed : List Placement := [.insert 1 (caption "x"), .attach 0 .through, .insert (-1) (caption "y"),
      .insert 0 (caption "z"), .attach 1 .through, .attach 2 .start, .insert 1 (caption "w"), .attach 0 .start]
    let sorted : List Placement := [.attach 0 .through, .attach 0 .start, .insert 0 (caption "z"),
      .attach 1 .through, .insert 1 (caption "x"), .insert 1 (caption "w")]
    t.SameOn mixed sorted ∧ t.body mixed = t.body sorted := by
  intro t caption mixed sorted
  have hsame : t.SameOn mixed sorted := by decide
  exact ⟨hsame, (t.body_regroups mixed).2.2.1 sorted hsame⟩

end LineTable

end CodeFrame
