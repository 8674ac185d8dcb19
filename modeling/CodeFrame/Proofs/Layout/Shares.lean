import CodeFrame.Layout.Placement
import CodeFrame.Proofs.Session.Warnings
import CodeFrame.Proofs.Source.Tiling
import Mathlib.Data.List.Basic

/-!
# What each line receives

`Annotation.share` says what a line receives from an annotation in terms of the two lines that hold the
annotation's offsets, without a walk over the lines and without a list of pending annotations. A plan is
the concatenation of all shares, line after line, and what it leaves pending is what has a start and
ends on no line.

The walk drops an annotation behind the line that resolves it. That changes nothing, since a later
line would give it no share (`Annotation.placeOn_of_isResolvedBy`).
-/

namespace CodeFrame

namespace Annotation

variable (t : LineTable) (k : Nat) (a : Annotation)

/-- A share of the line that a span begins on without ending there. -/
def firstShare (s : Int) : List Placement :=
  if s = t.start k then [.attach k .start]
  else [.insert k (a.caption .multilineStart [.through] (s - t.start k) (s - t.start k + 1))]

/-- A share of the line that a span ends on without beginning there. -/
def lastShare (e : Int) : List Placement :=
  [.attach k .through,
    .insert k (a.caption .multilineEnd [.through] (e - t.start k) (e - t.start k + 1))]

/-- A share of the line that holds a whole span. -/
def wholeShare (s e : Int) : List Placement :=
  [.insert k (a.caption (.ofSeverity a.severity) [] (s - t.start k) (e - t.start k))]

/-- What line `k` receives from an annotation: `i` is the line that holds its start, `j` the one that
holds its end, if it ends before the source does. -/
def share : List Placement :=
  match a.anchor with
  | .span s e _ _ =>
    match t.lineOf? s, t.lineOf? e with
    | some i, some j =>
      if i = k ∧ k = j then a.wholeShare t k s e
      else if i = k ∧ k < j then a.firstShare t k s
      else if i < k ∧ k < j then [.attach k .through]
      else if i < k ∧ k = j then a.lastShare t k e
      else []
    | some i, none =>
      if i = k then a.firstShare t k s
      else if i < k then [.attach k .through]
      else []
    | none, _ => []
  | _ => []

/-- An annotation that starts somewhere and ends on no line. -/
def isLeftOut : Bool :=
  a.anchor.start?.isSome && (a.anchor.stop?.bind t.lineOf?).isNone

end Annotation

/-! ## Offsets and lines -/

namespace LineTable

variable {t : LineTable} {p : Int} {i : Nat}

/-- An offset lies before the start of line `k` when its own line is an earlier one. -/
theorem lt_start_iff (h : t.lineOf? p = some i) (k : Nat) : p < t.start k ↔ i < k := by
  obtain ⟨-, h1, h2⟩ := t.lineOf?_eq_some_iff.1 h
  constructor
  · intro hp
    by_contra hik
    have := t.start_le_start (by omega : k ≤ i)
    omega
  · intro hik
    have := t.start_le_start (by omega : i + 1 ≤ k)
    omega

/-- An offset on no line lies behind the start of every line. -/
theorem start_le_of_lineOf?_eq_none (h0 : 0 ≤ p) (h : t.lineOf? p = none) (k : Nat) :
    t.start k ≤ p := by
  have hp := (t.lineOf?_eq_none_iff h0).1 h
  by_cases hk : k ≤ t.lines.length
  · exact Int.le_trans (t.start_le_start hk) hp
  · rwa [t.start_of_length_le (by omega : t.lines.length ≤ k)]

end LineTable

/-! ## One line -/

namespace Annotation

variable {t : LineTable} {k : Nat}

/-- How a span lies to line `k`, told by the line of its start. -/
theorem relation?_of_lineOf? {s e : Int} {h0 : 0 ≤ s} {h : s ≤ e} {i : Nat} (hk : k < t.lines.length)
    (hs : t.lineOf? s = some i) :
    (Anchor.span s e h0 h).relation? ⟨t.start k, t.start (k + 1) - 1⟩ =
      if k < i then some .ahead
      else if i = k then some (if t.lineOf? e = some k then .contained else .starts)
      else if t.lineOf? e = some k then some .ends
      else if e < t.start k then none
      else some .through := by
  have hs1 := LineTable.lt_start_iff hs k
  have hs2 := LineTable.lt_start_iff hs (k + 1)
  have he : t.lineOf? e = some k ↔ t.start k ≤ e ∧ e < t.start (k + 1) := by
    rw [t.lineOf?_eq_some_iff]
    simp [hk]
  have hstep := t.start_le_start_succ k
  unfold Anchor.relation?
  simp only [LineRange.mem_def, he]
  by_cases hik : k < i
  · rw [if_pos hik, if_pos (by omega)]
  rw [if_neg hik, if_neg (by omega)]
  by_cases hik : i = k
  · rw [if_pos hik, if_pos (by omega)]
    congr 1
    by_cases hek : t.start k ≤ e ∧ e < t.start (k + 1)
    · rw [if_pos hek, if_pos (by omega)]
    · rw [if_neg hek, if_neg (by omega)]
  rw [if_neg hik, if_neg (by omega), if_pos (by omega)]
  -- the start lies on an earlier line, so only the end decides
  by_cases hek : t.start k ≤ e ∧ e < t.start (k + 1)
  · rw [if_pos hek, if_neg (by omega), if_pos (by omega)]
  rw [if_neg hek]
  by_cases hbehind : e < t.start k
  · rw [if_pos hbehind, if_neg (by omega), if_neg (by omega)]
  · rw [if_neg hbehind, if_pos (by omega)]

/-- A span that starts on no line is ahead of every line. -/
theorem relation?_of_lineOf?_eq_none {s e : Int} {h0 : 0 ≤ s} {h : s ≤ e}
    (hs : t.lineOf? s = none) :
    (Anchor.span s e h0 h).relation? ⟨t.start k, t.start (k + 1) - 1⟩ = some .ahead := by
  have hlt := LineTable.start_le_of_lineOf?_eq_none h0 hs (k + 1)
  have hahead : t.start (k + 1) - 1 < s := by omega
  rw [Anchor.relation?, if_pos hahead]

/-- The end of a span is not on an earlier line than its start. -/
theorem le_of_lineOf? {s e : Int} {i j : Nat} (hle : s ≤ e) (hs : t.lineOf? s = some i)
    (he : t.lineOf? e = some j) : i ≤ j := by
  obtain ⟨-, h1, -⟩ := t.lineOf?_eq_some_iff.1 hs
  have hlt := LineTable.lt_start_iff he i
  omega

/-- A span that ends on a line starts on a line. -/
theorem exists_lineOf?_start {s e : Int} {j : Nat} (h0 : 0 ≤ s) (hle : s ≤ e)
    (he : t.lineOf? e = some j) : ∃ i, t.lineOf? s = some i := by
  cases hs : t.lineOf? s with
  | some i => exact ⟨i, rfl⟩
  | none =>
    have h1 := LineTable.start_le_of_lineOf?_eq_none h0 hs (j + 1)
    obtain ⟨-, -, h2⟩ := t.lineOf?_eq_some_iff.1 he
    omega

/-- In front of the line where it starts, an annotation has no share. -/
theorem share_eq_nil_of_lt_start {a : Annotation}
    (h : ∀ s i, a.anchor.start? = some s → t.lineOf? s = some i → k < i) : a.share t k = [] := by
  unfold share
  cases hanchor : a.anchor with
  | unplaced => rfl
  | dangling s h0 => rfl
  | span s e h0 hle =>
    cases hs : t.lineOf? s with
    | none => simp only [hs]
    | some i =>
      have hk : k < i := h s i (by rw [hanchor]; rfl) hs
      cases he : t.lineOf? e with
      | none =>
        simp only [hs, he]
        rw [if_neg (by omega), if_neg (by omega)]
      | some j =>
        simp only [hs, he]
        rw [if_neg (by omega), if_neg (by omega), if_neg (by omega), if_neg (by omega)]

/-- Behind the line where it ends, an annotation has no share. -/
theorem share_eq_nil_of_stop_lt {a : Annotation} {e : Int} {j : Nat}
    (hstop : a.anchor.stop? = some e) (he : t.lineOf? e = some j) (hk : j < k) :
    a.share t k = [] := by
  unfold share
  cases hanchor : a.anchor with
  | unplaced => rfl
  | dangling s h0 => rfl
  | span s e' h0 hle =>
    rw [hanchor] at hstop
    obtain rfl : e' = e := Option.some.inj hstop
    obtain ⟨i, hi⟩ := exists_lineOf?_start h0 hle he
    have hij : i ≤ j := le_of_lineOf? hle hi he
    simp only [hi, he]
    rw [if_neg (by omega), if_neg (by omega), if_neg (by omega), if_neg (by omega)]

/-- On a line the walk places the annotation's share. -/
theorem placeOn_eq_share (hk : k < t.lines.length) (a : Annotation) :
    a.placeOn k ⟨t.start k, t.start (k + 1) - 1⟩ = a.share t k := by
  obtain ⟨severity, code, label, anchor⟩ := a
  cases anchor with
  | unplaced => rfl
  | dangling s h0 =>
    -- ahead or not, an annotation without an end is not placed
    unfold placeOn Anchor.relation?
    by_cases hlt : t.start (k + 1) - 1 < s <;> simp [hlt, share]
  | span s e h0 hle =>
    cases hs : t.lineOf? s with
    | none =>
      simp only [placeOn, share, relation?_of_lineOf?_eq_none hs, hs]
    | some i =>
      simp only [placeOn, share, relation?_of_lineOf? hk hs, hs]
      cases he : t.lineOf? e with
      | none =>
        have hbehind := LineTable.start_le_of_lineOf?_eq_none (by omega : 0 ≤ e) he k
        rcases Nat.lt_trichotomy i k with hik | rfl | hik
        · -- the span has begun and does not end
          simp [hik, Nat.lt_asymm hik, Nat.ne_of_lt hik, Int.not_lt.2 hbehind, place]
        · simp [place, firstShare, Int.sub_eq_zero]
        · simp [hik, Nat.lt_asymm hik, Nat.ne_of_gt hik]
      | some j =>
        have hij := le_of_lineOf? hle hs he
        have hbehind := LineTable.lt_start_iff he k
        rcases Nat.lt_trichotomy i k with hik | rfl | hik
        · rcases Nat.lt_trichotomy j k with hjk | rfl | hjk
          · simp [hik, Nat.lt_asymm hik, Nat.ne_of_lt hik, hjk, hbehind, Nat.ne_of_lt hjk,
              Nat.ne_of_gt hjk, Nat.lt_asymm hjk]
          · simp [hik, Nat.lt_asymm hik, Nat.ne_of_lt hik, place, lastShare]
          · simp [hik, Nat.lt_asymm hik, Nat.ne_of_lt hik, hjk, hbehind, Nat.ne_of_gt hjk,
              Nat.lt_asymm hjk, place]
        · rcases Nat.eq_or_lt_of_le hij with rfl | hjk
          · simp [place, wholeShare]
          · simp [hjk, Nat.ne_of_lt hjk, Nat.ne_of_gt hjk, place,
              firstShare, Int.sub_eq_zero]
        · simp [hik, Nat.lt_asymm hik, Nat.ne_of_gt hik]

/-- A line resolves an annotation when it holds the annotation's end. -/
theorem isResolvedBy_iff (hk : k < t.lines.length) (a : Annotation) :
    a.isResolvedBy ⟨t.start k, t.start (k + 1) - 1⟩ ↔ a.anchor.stop?.bind t.lineOf? = some k := by
  obtain ⟨severity, code, label, anchor⟩ := a
  unfold isResolvedBy
  cases anchor with
  | unplaced => simp [Anchor.relation?, Anchor.stop?]
  | dangling s h0 =>
    simp only [Anchor.relation?, Anchor.stop?]
    split <;> simp [Relation.isResolving]
  | span s e h0 hle =>
    simp only [Anchor.stop?, Option.bind_some]
    cases hs : t.lineOf? s with
    | none =>
      rw [relation?_of_lineOf?_eq_none hs]
      simp only [Option.any_some, Relation.isResolving, Bool.false_eq_true, false_iff]
      intro he
      obtain ⟨i, hi⟩ := exists_lineOf?_start h0 hle he
      rw [hs] at hi
      cases hi
    | some i =>
      rw [relation?_of_lineOf? hk hs]
      by_cases he : t.lineOf? e = some k
      · have hik := le_of_lineOf? hle hs he
        rcases Nat.eq_or_lt_of_le hik with rfl | hik
        · simp [he, Relation.isResolving]
        · simp [he, Nat.lt_asymm hik, Nat.ne_of_lt hik, Relation.isResolving]
      · simp only [he, if_false, iff_false, Bool.not_eq_true]
        (repeat' split) <;> rfl

/-! ## Behind the line that resolves -/

/-- A line resolves only annotations whose end it holds. -/
theorem mem_of_isResolvedBy {a : Annotation} {r : LineRange} (h : a.isResolvedBy r) :
    ∃ e ∈ a.anchor.stop?, e ∈ r := by
  unfold isResolvedBy at h
  cases hanchor : a.anchor with
  | unplaced => simp [hanchor, Anchor.relation?] at h
  | dangling s h0 =>
    simp only [hanchor, Anchor.relation?] at h
    split at h <;> simp [Relation.isResolving] at h
  | span s e h0 hle =>
    refine ⟨e, rfl, ?_⟩
    by_contra he
    simp only [hanchor, Anchor.relation?, he, if_false] at h
    (repeat' split at h) <;> simp [Relation.isResolving] at h

/-- Behind the line that resolves an annotation, no line places it. -/
theorem placeOn_of_isResolvedBy {a : Annotation} {r r' : LineRange} {k : Nat}
    (h : a.isResolvedBy r) (hr : r.last < r'.first) (hr' : r'.first ≤ r'.last) :
    a.placeOn k r' = [] := by
  obtain ⟨e, hstop, -, he⟩ := mem_of_isResolvedBy h
  unfold placeOn
  cases hanchor : a.anchor with
  | unplaced => rfl
  | dangling s h0 =>
    rw [hanchor] at hstop
    cases hstop
  | span s e' h0 hle =>
    rw [hanchor] at hstop
    cases hstop
    -- the span lies in front of `r'` as a whole
    unfold Anchor.relation?
    simp only [LineRange.mem_def]
    rw [if_neg (by omega), if_neg (by omega), if_pos (by omega), if_neg (by omega),
      if_neg (by omega)]

end Annotation

/-! ## The walk -/

/-- Elements without an image can be left out. -/
theorem flatMap_filter_of_eq_nil {α β : Type} {f : α → List β} {p : α → Bool} (l : List α)
    (h : ∀ x ∈ l, p x = false → f x = []) : (l.filter p).flatMap f = l.flatMap f := by
  induction l with
  | nil => rfl
  | cons x l ih =>
    have hl := ih fun y hy => h y (List.mem_cons_of_mem x hy)
    cases hp : p x with
    | true => rw [List.filter_cons_of_pos hp, List.flatMap_cons, List.flatMap_cons, hl]
    | false =>
      rw [List.filter_cons_of_neg (by simp [hp]), List.flatMap_cons, hl,
        h x List.mem_cons_self hp, List.nil_append]

/-- The walk over lines in order gives what testing every annotation on every line gives, and leaves
what no line resolves. -/
theorem planFrom_eq {rs : List LineRange} (hrs : rs.Pairwise fun r r' => r.last < r'.first)
    (hproper : ∀ r ∈ rs, r.first ≤ r.last) (i : Nat) (pending : List Annotation) :
    planFrom i rs pending =
      ⟨(rs.zipIdx i).flatMap fun rk => pending.flatMap fun a => a.placeOn rk.2 rk.1,
        pending.filter fun a => !rs.any fun r => a.isResolvedBy r⟩ := by
  induction rs generalizing i pending with
  | nil => simp [planFrom]
  | cons r rs ih =>
    obtain ⟨hr, hrs⟩ := List.pairwise_cons.1 hrs
    have hrest := ih hrs (fun r' hr' => hproper r' (List.mem_cons_of_mem r hr')) (i + 1)
      (pending.filter fun a => !a.isResolvedBy r)
    have hdrop : ∀ rk ∈ rs.zipIdx (i + 1),
        ((pending.filter fun a => !a.isResolvedBy r).flatMap fun a => a.placeOn rk.2 rk.1) =
          pending.flatMap fun a => a.placeOn rk.2 rk.1 := by
      intro rk hrk
      have hmem := List.fst_mem_of_mem_zipIdx hrk
      refine flatMap_filter_of_eq_nil pending fun a _ ha => ?_
      have hres : a.isResolvedBy r := by simpa using ha
      exact Annotation.placeOn_of_isResolvedBy hres (hr _ hmem)
        (hproper _ (List.mem_cons_of_mem r hmem))
    rw [planFrom, hrest, List.zipIdx_cons, List.flatMap_cons, List.flatMap_congr hdrop,
      List.filter_filter]
    simp only [List.any_cons, Bool.not_or, Bool.and_comm]

/-! ## Plans -/

namespace LineTable

variable (t : LineTable)

/-- The range of a line of the table is not empty. -/
theorem first_le_last {r : LineRange} (hr : r ∈ t.ranges) : r.first ≤ r.last := by
  obtain ⟨k, hk, rfl⟩ := List.getElem_of_mem hr
  rw [length_ranges] at hk
  rw [(List.getElem?_eq_some_iff.1 (t.getElem?_ranges_of_lt hk)).2]
  have h := t.start_succ (List.getElem?_eq_getElem hk)
  show t.start k ≤ t.start (k + 1) - 1
  omega

/-- The members of `ranges.zipIdx` are the lines with their starts. -/
theorem of_mem_zipIdx_ranges {r : LineRange} {k : Nat} (h : (r, k) ∈ t.ranges.zipIdx) :
    k < t.lines.length ∧ r = ⟨t.start k, t.start (k + 1) - 1⟩ := by
  have hr := List.mk_mem_zipIdx_iff_getElem?.1 h
  have hk : k < t.lines.length := by
    rw [← length_ranges]
    exact (List.getElem?_eq_some_iff.1 hr).1
  rw [t.getElem?_ranges_of_lt hk, Option.some.injEq] at hr
  exact ⟨hk, hr.symm⟩

theorem plan_placements_eq (as : List Annotation) :
    (t.plan as).placements =
      (List.range t.lines.length).flatMap fun k => as.flatMap fun a => a.share t k := by
  have hline : ∀ rk ∈ t.ranges.zipIdx,
      ((as.filter fun a => a.anchor.start?.isSome).flatMap fun a => a.placeOn rk.2 rk.1) =
        as.flatMap fun a => a.share t rk.2 := by
    rintro ⟨r, k⟩ hrk
    obtain ⟨hk, rfl⟩ := t.of_mem_zipIdx_ranges hrk
    rw [List.flatMap_congr fun a _ => Annotation.placeOn_eq_share hk a]
    refine flatMap_filter_of_eq_nil as fun a _ ha => ?_
    -- what lies nowhere has no share
    unfold Annotation.share
    cases hanchor : a.anchor <;> simp_all [Anchor.start?]
  unfold plan
  rw [planFrom_eq t.ranges_pairwise (fun r hr => t.first_le_last hr), List.flatMap_congr hline,
    ← length_ranges, List.range_eq_range', ← List.zipIdx_map_snd 0 t.ranges, List.flatMap_map]

/-- What a plan puts under a line is a caption with the label of an annotation. -/
theorem exists_caption_of_insert_mem_plan {as : List Annotation} {i : Int} {row : DisplayLine}
    (h : .insert i row ∈ (t.plan as).placements) :
    ∃ a ∈ as, ∃ kind marks first stop, row = a.caption kind marks first stop := by
  rw [plan_placements_eq, List.mem_flatMap] at h
  obtain ⟨k, -, h⟩ := h
  obtain ⟨a, ha, h⟩ := List.mem_flatMap.1 h
  refine ⟨a, ha, ?_⟩
  unfold Annotation.share Annotation.firstShare Annotation.lastShare Annotation.wholeShare at h
  (repeat' split at h) <;> simp only [List.not_mem_nil, List.mem_cons, or_false, false_or,
    reduceCtorEq, Placement.insert.injEq] at h
  all_goals exact ⟨_, _, _, _, h.2⟩

/-- Plans put only captions under lines. -/
theorem isCaption_of_insert_mem_plan {as : List Annotation} {i : Int} {row : DisplayLine}
    (h : .insert i row ∈ (t.plan as).placements) : row.isCaption := by
  obtain ⟨a, -, kind, marks, first, stop, rfl⟩ := t.exists_caption_of_insert_mem_plan h
  rfl

/-- Some line resolves an annotation exactly when some line holds its end. -/
theorem any_isResolvedBy (a : Annotation) :
    (t.ranges.any fun r => a.isResolvedBy r) = (a.anchor.stop?.bind t.lineOf?).isSome := by
  rw [Bool.eq_iff_iff, List.any_eq_true, Option.isSome_iff_exists]
  constructor
  · rintro ⟨r, hr, hres⟩
    obtain ⟨k, hk, rfl⟩ := List.getElem_of_mem hr
    rw [length_ranges] at hk
    rw [(List.getElem?_eq_some_iff.1 (t.getElem?_ranges_of_lt hk)).2] at hres
    have hline := Annotation.isResolvedBy_iff hk a
    exact ⟨k, hline.1 hres⟩
  · rintro ⟨k, hk⟩
    obtain ⟨e, -, he⟩ := Option.bind_eq_some_iff.1 hk
    have hlt := (t.lineOf?_eq_some_iff.1 he).1
    have hline := Annotation.isResolvedBy_iff hlt a
    exact ⟨_, List.mem_of_getElem? (t.getElem?_ranges_of_lt hlt), hline.2 hk⟩

theorem plan_pending_eq (as : List Annotation) :
    (t.plan as).pending = as.filter fun a => a.isLeftOut t := by
  unfold plan
  rw [planFrom_eq t.ranges_pairwise (fun r hr => t.first_le_last hr), List.filter_filter]
  refine List.filter_congr fun a _ => ?_
  rw [any_isResolvedBy, Annotation.isLeftOut, Bool.and_comm]
  simp

/-- A plan is the concatenation of what each line receives from each annotation. What has a start and
ends on no line is left out, and where warnings are recorded there is one for each of these. -/
theorem plan_eq_shares (as : List Annotation) (origin : Option String) {σ : Session} {p : Place}
    (hbase : σ.handler = .base) (hshown : σ.filters.ShowsAll p) :
    (t.plan as).placements =
        ((List.range t.lines.length).flatMap fun k => as.flatMap fun a => a.share t k) ∧
      (t.plan as).pending = as.filter (fun a => a.isLeftOut t) ∧
      (Session.warnAll p ((t.plan as).pending.map (LayoutWarning.ofPending origin))).run σ =
        (.ok (), { σ with
          received := σ.received ++ (as.filter fun a => a.isLeftOut t).map fun a =>
            (LayoutWarning.ofPending origin a).record }) := by
  refine ⟨t.plan_placements_eq as, t.plan_pending_eq as, ?_⟩
  rw [Session.warnAll_run_of_base _ hbase hshown, plan_pending_eq, List.map_map]
  rfl

/-- Three lines with a span from the first to the last, one inside the last, one that ends behind
the source, and one without an end. -/
theorem plan_of_three_lines :
    let t : LineTable := ⟨["ab", "", "cde"], 1⟩
    let long : Annotation := ⟨.error, none, some "x", .span 1 7 (by decide) (by decide)⟩
    let short : Annotation := ⟨.warning, none, none, .span 6 8 (by decide) (by decide)⟩
    let beyond : Annotation := ⟨.error, none, none, .span 6 11 (by decide) (by decide)⟩
    let dangling : Annotation := ⟨.error, none, none, .dangling 0 (by decide)⟩
    let σ : Session := { filters := { list := [{ action := .always }] }, memory := 0 }
    σ.handler = .base ∧ σ.filters.ShowsAll .assembly ∧
      (t.plan [long, short, beyond, dangling]).placements =
        [.insert 0 (.caption ⟨[.through], 1, 2, "x", .multilineStart⟩), .attach 1 .through,
          .attach 2 .through, .insert 2 (.caption ⟨[.through], 1, 2, "x", .multilineEnd⟩),
          .insert 2 (.caption ⟨[], 0, 2, "", .warning⟩), .attach 2 .start] ∧
      (t.plan [long, short, beyond, dangling]).pending = [beyond, dangling] := by
  intro t long short beyond dangling σ
  have hshown : σ.filters.ShowsAll .assembly := Filters.showsAll_of_always (fun _ => rfl) rfl
  obtain ⟨hplaced, hpending, -⟩ :=
    t.plan_eq_shares [long, short, beyond, dangling] none (σ := σ) rfl hshown
  exact ⟨rfl, hshown, hplaced.trans (by decide), hpending.trans (by decide)⟩

end LineTable

end CodeFrame
