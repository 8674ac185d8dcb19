import CodeFrame.Proofs.Json.Numbers
import CodeFrame.Proofs.Layout.Rows
import CodeFrame.Proofs.Layout.Totality
import Mathlib.Data.List.Basic

/-!
# The location in the header

The header names row and column of the main annotation, found by a search over the starts of the lines.
The body puts the annotation where a walk over all lines finds it. Both mean the same place
(`Snippet.location_meets_body`).

A plan does not say which placement is made for which annotation. `LineTable.attributed` is the same
walk with annotations that carry their index, so that `LineTable.placementsFor` can be read off it.
-/

namespace CodeFrame

/-! ## The text of a location -/

namespace Snippet

variable (s : Snippet) (o : LayoutOptions)

/-- The location line that says `row` and `col`. -/
def locationLine (row col : Int) : String :=
  "  --> " ++ s.origin.getD "" ++ ":" ++ toString row ++ ":" ++ toString col

/-- Row and column can be read off a location line. -/
theorem locationLine_injective {row col row' col' : Int}
    (h : s.locationLine row col = s.locationLine row' col') : row = row' ∧ col = col' := by
  have hcolon : ∀ i : Int, ':' ∉ Json.writeInt i := by
    intro i hi
    rcases Token.isDigit_or_of_mem_writeInt hi with h | h
    · exact absurd h (by decide)
    · exact absurd h (by decide)
  have htext : ∀ r c : Int, (s.locationLine r c).toList =
      ("  --> " ++ s.origin.getD "" ++ ":").toList ++ (Json.writeInt r ++ ':' :: Json.writeInt c) := by
    intro r c
    unfold locationLine
    rw [String.toList_append, String.toList_append, String.toList_append, List.append_assoc,
      List.append_assoc]
    rfl
  have hlist := congrArg String.toList h
  rw [htext, htext, List.append_cancel_left_eq,
    List.append_cons_inj_of_notMem (hcolon row) (hcolon col)] at hlist
  exact ⟨Token.writeInt_injective hlist.1, Token.writeInt_injective hlist.2.2⟩

/-- A title line starts with a severity, a location line with a blank. -/
theorem titleText_ne_locationLine (a : Annotation) (row col : Int) :
    titleText o a ≠ s.locationLine row col := by
  intro h
  have hhead := congrArg (fun t => t.toList.head?) h
  have hline : (s.locationLine row col).toList.head? = some ' ' := by
    unfold locationLine
    simp only [String.toList_append]
    rfl
  have htitle : (titleText o a).toList.head? ≠ some ' ' := by
    unfold titleText
    simp only [String.toList_append]
    cases a.severity <;> simp [Severity.word]
  exact htitle (hhead.trans hline)

theorem locationText_of_fits {row : Int} (h : fitsDigits row) (col : Int) :
    s.locationText row col = .ok (s.locationLine row col) := by
  have hrow : numeral? row = .ok (toString row) := numeral?_eq_ok_iff.2 ⟨h, rfl⟩
  unfold locationText
  rw [hrow]
  rfl

/-- With a main annotation, the header has the location line of its place and no other, unless the row
cannot be written. -/
theorem header_of_location {a : Annotation} (hmain : s.mainAnnotation? = some a) {n col : Int}
    (hlocation : s.location o a = .ok (n, col)) :
    (fitsDigits n ∧ ∃ rows, s.header o = .ok rows ∧
      ∀ row' col', .raw (s.locationLine row' col') ∈ rows ↔ row' = n ∧ col' = col) ∨
    (¬ fitsDigits n ∧ s.header o = .error (.row ⟨n⟩)) := by
  rw [s.header_of_main o hmain hlocation]
  rcases s.locationText_eq n col with ⟨hfits, -⟩ | ⟨hfits, herror⟩
  · left
    rw [s.locationText_of_fits hfits]
    refine ⟨hfits, _, rfl, ?_⟩
    intro row' col'
    constructor
    · intro hmem
      rcases List.mem_append.1 hmem with hmem | hmem
      · -- a title line is no location line
        obtain ⟨b, -, hb⟩ := List.mem_map.1 hmem
        exact absurd (DisplayLine.raw.inj hb) (s.titleText_ne_locationLine o b row' col')
      · exact s.locationLine_injective (DisplayLine.raw.inj (List.mem_singleton.1 hmem))
    · rintro ⟨rfl, rfl⟩
      exact List.mem_append_right _ (List.mem_singleton.2 rfl)
  · right
    rw [herror]
    exact ⟨hfits, rfl⟩

end Snippet

/-! ## Placements and whom they are made for -/

/-- An annotation and its index. -/
abbrev Indexed := Annotation × Nat

/-- The walk of `planFrom` with annotations that carry their index. -/
def attributedFrom (i : Nat) : List LineRange → List Indexed → List (Placement × Nat)
  | [], _ => []
  | r :: rs, pending =>
    (pending.flatMap fun am => (am.1.placeOn i r).map fun p => (p, am.2)) ++
      attributedFrom (i + 1) rs (pending.filter fun am => !am.1.isResolvedBy r)

/-- Without the indices it is `planFrom`. -/
theorem map_fst_attributedFrom (i : Nat) (rs : List LineRange) (pending : List Indexed) :
    (attributedFrom i rs pending).map Prod.fst = (planFrom i rs (pending.map Prod.fst)).placements := by
  induction rs generalizing i pending with
  | nil => rfl
  | cons r rs ih =>
    rw [attributedFrom, planFrom, List.map_append, ih, List.map_flatMap, List.flatMap_map,
      List.filter_map]
    simp only [List.map_map, Function.comp_def, List.map_id']

/-- What one annotation receives does not depend on the others. -/
theorem filter_attributedFrom (m i : Nat) (rs : List LineRange) (pending : List Indexed) :
    (attributedFrom i rs pending).filter (fun pm => pm.2 = m) =
      attributedFrom i rs (pending.filter fun am => am.2 = m) := by
  induction rs generalizing i pending with
  | nil => rfl
  | cons r rs ih =>
    -- at one line, the placements with index `m` are those of the annotations with index `m`
    have hother : ∀ am ∈ pending, decide (am.2 = m) = false →
        ((am.1.placeOn i r).map fun p => (p, am.2)).filter (fun pm => pm.2 = m) = [] := by
      intro am _ hm
      rw [List.filter_map, List.map_eq_nil_iff, List.filter_eq_nil_iff]
      intro p _
      exact ne_true_of_eq_false hm
    have hsame : ∀ am ∈ pending.filter (fun am => am.2 = m),
        ((am.1.placeOn i r).map fun p => (p, am.2)).filter (fun pm => pm.2 = m) =
          (am.1.placeOn i r).map fun p => (p, am.2) := by
      intro am ham
      rw [List.filter_map]
      congr 1
      apply List.filter_eq_self.2
      intro p _
      exact (List.mem_filter.1 ham).2
    rw [attributedFrom, attributedFrom, List.filter_append, ih, List.filter_comm,
      List.filter_flatMap, ← flatMap_filter_of_eq_nil pending hother, List.flatMap_congr hsame]

/-- Of numbered elements, one has the number `n + m`. -/
theorem filter_zipIdx_eq_singleton {α : Type} {l : List α} {x : α} {m n : Nat} (h : l[m]? = some x) :
    (l.zipIdx n).filter (fun xi => xi.2 = n + m) = [(x, n + m)] := by
  induction l generalizing m n with
  | nil => cases h
  | cons y l ih =>
    rw [List.zipIdx_cons]
    cases m with
    | zero =>
      cases h
      rw [List.filter_cons_of_pos (by simp), List.filter_eq_nil_iff.2]
      · rfl
      intro xi hxi
      have hle : n + 1 ≤ xi.2 := List.le_snd_of_mem_zipIdx hxi
      simp only [decide_eq_true_eq]
      omega
    | succ m =>
      have hrest := ih (n := n + 1) h
      rw [show n + (m + 1) = n + 1 + m from by omega, List.filter_cons_of_neg (by simp; omega)]
      exact hrest

namespace LineTable

variable (t : LineTable)

/-- The placements of a plan, each with the index of the annotation that it is made for. -/
def attributed (as : List Annotation) : List (Placement × Nat) :=
  attributedFrom 0 t.ranges (as.zipIdx.filter fun am => am.1.anchor.start?.isSome)

/-- The placements made for the annotation at index `m`, in the order of the plan. -/
def placementsFor (as : List Annotation) (m : Nat) : List Placement :=
  ((t.attributed as).filter fun pm => pm.2 = m).map Prod.fst

theorem map_fst_attributed (as : List Annotation) :
    (t.attributed as).map Prod.fst = (t.plan as).placements := by
  unfold attributed plan
  rw [map_fst_attributedFrom]
  conv => rhs; rw [← List.zipIdx_map_fst 0 as, List.filter_map]
  rfl

theorem mem_plan_of_mem_placementsFor {as : List Annotation} {m : Nat} {p : Placement}
    (h : p ∈ t.placementsFor as m) : p ∈ (t.plan as).placements := by
  obtain ⟨pm, hpm, rfl⟩ := List.mem_map.1 h
  rw [← map_fst_attributed]
  exact List.mem_map_of_mem (List.mem_of_mem_filter hpm)

/-- What is placed for an annotation is what is placed for it where it is alone. -/
theorem placementsFor_eq {as : List Annotation} {m : Nat} {a : Annotation} (h : as[m]? = some a) :
    t.placementsFor as m = (t.plan [a]).placements := by
  have hindex : as.zipIdx.filter (fun am => am.2 = m) = [(a, m)] := by
    have hsingle := filter_zipIdx_eq_singleton (n := 0) h
    rwa [Nat.zero_add] at hsingle
  unfold placementsFor attributed plan
  rw [filter_attributedFrom, List.filter_comm, hindex, map_fst_attributedFrom]
  by_cases hstart : a.anchor.start?.isSome <;> simp [hstart]

end LineTable

/-! ## The first placement -/

namespace Annotation

variable {t : LineTable} {a : Annotation} {s e : Int} {h0 : 0 ≤ s} {hle : s ≤ e} {i j : Nat}

/-- On the line where it starts, a span has one placement, at the column where it starts. -/
theorem share_start (ha : a.anchor = .span s e h0 hle) (hs : t.lineOf? s = some i)
    (he : t.lineOf? e = some j) :
    ∃ p, a.share t i = [p] ∧
      ((∃ c : Caption, p = .insert i (.caption c) ∧ c.first = s - t.start i) ∨
        (p = .attach i .start ∧ s = t.start i)) := by
  have hij : i ≤ j := le_of_lineOf? hle hs he
  unfold share
  simp only [ha, hs, he]
  by_cases hwhole : i = j
  · rw [if_pos ⟨trivial, hwhole⟩]
    exact ⟨_, rfl, .inl ⟨_, rfl, rfl⟩⟩
  · rw [if_neg (by omega), if_pos ⟨trivial, by omega⟩, firstShare]
    by_cases hfirst : s = t.start i
    · rw [if_pos hfirst]
      exact ⟨_, rfl, .inr ⟨rfl, hfirst⟩⟩
    · rw [if_neg hfirst]
      exact ⟨_, rfl, .inl ⟨_, rfl, rfl⟩⟩

end Annotation

/-- A plan starts a span on the line that holds the start. -/
theorem LineTable.head?_placementsFor (t : LineTable) {as : List Annotation} {m : Nat}
    {a : Annotation} {s e : Int} {h0 : 0 ≤ s} {hle : s ≤ e} {i j : Nat} (hm : as[m]? = some a)
    (ha : a.anchor = .span s e h0 hle) (hs : t.lineOf? s = some i) (he : t.lineOf? e = some j) :
    ∃ p, (t.placementsFor as m).head? = some p ∧
      ((∃ c : Caption, p = .insert i (.caption c) ∧ c.first = s - t.start i) ∨
        (p = .attach i .start ∧ s = t.start i)) := by
  obtain ⟨p, hshare, hp⟩ := Annotation.share_start ha hs he
  refine ⟨p, ?_, hp⟩
  have hi : i < t.lines.length := (t.lineOf?_eq_some_iff.1 hs).1
  have hsplit : List.range t.lines.length =
      List.range' 0 i ++ i :: List.range' (i + 1) (t.lines.length - (i + 1)) := by
    have happend := List.range'_append_1 (s := 0) (m := i) (n := t.lines.length - (i + 1) + 1)
    rw [Nat.zero_add] at happend
    rw [← List.range'_succ, happend, List.range_eq_range']
    congr 1
    omega
  rw [t.placementsFor_eq hm, plan_placements_eq, List.head?_flatMap,
    List.findSome?_eq_some_iff]
  -- nothing is placed on the lines in front
  refine ⟨_, i, _, hsplit, ?_, ?_⟩
  · rw [List.flatMap_singleton, hshare]
    rfl
  · intro k hk
    have hlt : k < i := by simpa using List.mem_range'_1.1 hk
    have hnil : a.share t k = [] := by
      apply Annotation.share_eq_nil_of_lt_start
      intro s' i' hs' hi'
      rw [ha] at hs'
      obtain rfl : s = s' := Option.some.inj hs'
      rw [hs, Option.some.injEq] at hi'
      omega
    rw [List.flatMap_singleton, hnil]
    rfl

/-! ## Header and body -/

/-- A placement of a plan is in the body: its mark beside its line, its row under it. -/
theorem LineTable.exists_body_of_mem_plan (t : LineTable) {as : List Annotation} {p : Placement}
    {k : Nat} {content : String} (hk : t.lines[k]? = some content) (hp : p ∈ (t.plan as).placements) :
    ∃ above marks under below,
      t.body (t.plan as).placements =
        above ++ (.source (t.number k) marks content :: under) ++ below ∧
      (∀ r ∈ above ++ below, r.number? ≠ some (t.number k)) ∧
      (∀ r ∈ under, r.isCaption) ∧
      (∀ mark, p = .attach k mark → mark ∈ marks) ∧ ∀ row, p = .insert k row → row ∈ under := by
  have hcaptions : ∀ i row, .insert i row ∈ (t.plan as).placements → row.isCaption :=
    fun i row => t.isCaption_of_insert_mem_plan
  obtain ⟨above, below, hbody, hothers⟩ := exists_body_around hcaptions hk
  refine ⟨above, _, _, below, hbody, hothers, ?_, ?_, ?_⟩
  · intro r hr
    obtain ⟨i, hi⟩ := exists_insert_of_mem_rowsUnder hr
    exact hcaptions i r hi
  · rintro mark rfl
    apply List.mem_filterMap.2
    exact ⟨_, hp, if_pos rfl⟩
  · rintro row rfl
    apply List.mem_filterMap.2
    exact ⟨_, hp, if_pos rfl⟩

namespace Snippet

variable (s : Snippet) (o : LayoutOptions)

theorem mainAnnotation?_eq {m : Nat} (hmain : s.main = some (m : Int)) :
    s.mainAnnotation? = s.annotations[m]? := by
  unfold mainAnnotation? designated?
  rw [hmain]
  rfl

/-- The location line of a main annotation with a start and an end names the line `k` and the column at
which the body starts the annotation: the first placement made for it is on line `k`, where it is a
caption that starts at this column, or a mark if the column is the first one. There is such a location
line and no other, unless the number of the line cannot be written. -/
theorem location_meets_body {m : Nat} {a : Annotation} (hmain : s.main = some (m : Int))
    (ha : s.annotations[m]? = some a) (hstop : a.anchor.stop?.isSome) (hresolve : o.resolveLocation) :
    (s.table.attributed s.annotations).map Prod.fst = s.plan.placements ∧
    ∃ (k : Nat) (col : Int) (p : Placement),
      ((fitsDigits (s.firstNumber + k) ∧ ∃ rows, s.header o = .ok rows ∧
          ∀ row' col', .raw (s.locationLine row' col') ∈ rows ↔
            row' = s.firstNumber + k ∧ col' = col) ∨
        (¬ fitsDigits (s.firstNumber + k) ∧ s.header o = .error (.row ⟨s.firstNumber + k⟩))) ∧
      (s.table.placementsFor s.annotations m).head? = some p ∧
      ((∃ c : Caption, p = .insert k (.caption c) ∧ c.first = col - 1) ∨
        (p = .attach k .start ∧ col = 1)) ∧
      ∃ above marks content under below,
        s.body { o with fold := false } =
          .blank :: (above ++ (.source (s.firstNumber + k) marks content :: under) ++ below) ++
            [.blank] ∧
        s.table.lines[k]? = some content ∧
        (∀ r ∈ above ++ below, r.number? ≠ some (s.firstNumber + k)) ∧
        (∀ r ∈ under, r.isCaption) ∧
        (∀ mark, p = .attach k mark → mark ∈ marks) ∧ ∀ row, p = .insert k row → row ∈ under := by
  refine ⟨s.table.map_fst_attributed s.annotations, ?_⟩
  have hmem : a ∈ s.annotations := List.mem_of_getElem? ha
  have hannotation : s.mainAnnotation? = some a := (s.mainAnnotation?_eq hmain).trans ha
  cases hanchor : a.anchor with
  | unplaced =>
    rw [hanchor] at hstop
    cases hstop
  | dangling start h0 =>
    rw [hanchor] at hstop
    cases hstop
  | span start stop h0 hle =>
    have hstart? : a.anchor.start? = some start := by rw [hanchor]; rfl
    have hstop? : a.anchor.stop? = some stop := by rw [hanchor]; rfl
    obtain ⟨k, hk⟩ := exists_lineOf? hmem (.inl hstart?)
    obtain ⟨j, hj⟩ := exists_lineOf? hmem (.inr hstop?)
    have hlt : k < s.table.lines.length := (s.table.lineOf?_eq_some_iff.1 hk).1
    have hcontent := List.getElem?_eq_getElem hlt
    -- the search by starts finds the line that the walk finds
    have hlocation : s.location o a = .ok (s.table.number k, start - s.table.start k + 1) := by
      unfold location
      rw [if_pos hresolve, hstart?]
      exact s.table.locate_eq_ok hk
    obtain ⟨p, hhead, hp⟩ := s.table.head?_placementsFor ha hanchor hk hj
    have hplan := s.table.mem_plan_of_mem_placementsFor (List.mem_of_head? hhead)
    obtain ⟨above, marks, under, below, hbody, hrest⟩ :=
      s.table.exists_body_of_mem_plan hcontent hplan
    refine ⟨k, _, p, s.header_of_location o hannotation hlocation, hhead, ?_,
      above, marks, _, under, below, ?_, hcontent, hrest⟩
    · rcases hp with ⟨c, hinsert, hfirst⟩ | ⟨hattach, hfirst⟩
      · exact .inl ⟨c, hinsert, by omega⟩
      · exact .inr ⟨hattach, by omega⟩
    · show .blank :: s.table.body (s.table.plan s.annotations).placements ++ [.blank] = _
      rw [hbody]
      rfl

/-- A main annotation that starts at the end of the empty second line, and ends on the third one. -/
theorem location_meets_body_of_empty_line :
    let a : Annotation := ⟨.error, none, none, .span 5 7 (by decide) (by decide)⟩
    let other : Annotation := ⟨.warning, none, none, .span 0 9 (by decide) (by decide)⟩
    let d : Description :=
      { source := "ab\n\ncd", firstNumber := 10, annotations := [other, a], main := some 1 }
    ∃ s : Snippet, s.toDescription = d ∧
      s.main = some (1 : Nat) ∧ s.annotations[1]? = some a ∧ a.anchor.stop?.isSome ∧
      ({} : LayoutOptions).resolveLocation ∧
      (s.table.placementsFor s.annotations 1).head? =
        some (.insert 1 (.caption ⟨[.through], 1, 2, "", .multilineStart⟩)) ∧
      ∃ rows, s.header {} = .ok rows ∧
        ∀ row col, .raw (s.locationLine row col) ∈ rows ↔ row = 11 ∧ col = 2 := by
  intro a other d
  have hvalid : d.Valid := by
    rw [← Description.problem?_eq_none_iff]
    decide
  have hfirst : ((⟨d, hvalid⟩ : Snippet).table.placementsFor [other, a] 1).head? =
      some (.insert 1 (.caption ⟨[.through], 1, 2, "", .multilineStart⟩)) := by
    show ((LineTable.mk (splitLines "ab\n\ncd") 10).placementsFor [other, a] 1).head? = _
    decide
  obtain ⟨-, k, col, p, hheader, hp, hplace, -⟩ :=
    location_meets_body ⟨d, hvalid⟩ {} (m := 1) (a := a) rfl rfl rfl rfl
  rw [hfirst, Option.some.injEq] at hp
  subst hp
  rcases hplace with ⟨c, hinsert, hcol⟩ | ⟨hattach, -⟩
  · rw [Placement.insert.injEq, DisplayLine.caption.injEq] at hinsert
    obtain ⟨hline, rfl⟩ := hinsert
    have hk : k = 1 := by omega
    have hcol : col = 2 := by
      have hfirst : (1 : Int) = col - 1 := hcol
      omega
    subst hk hcol
    have hfits : fitsDigits 11 := by decide +kernel
    rcases hheader with ⟨-, rows, hrows⟩ | ⟨hlong, -⟩
    · exact ⟨⟨d, hvalid⟩, rfl, rfl, rfl, rfl, rfl, hfirst, rows, hrows⟩
    · exact absurd hfits hlong
  · cases hattach

end Snippet

end CodeFrame
