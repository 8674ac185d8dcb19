import CodeFrame.Layout.Placement

/-!
# The rows that placements make

A list of placements splits by lines: what counts for line `k` are its marks and the rows put under it,
each in the order of the list (`Placement.marksOn`, `Placement.rowsUnder`). The body is one source row a
line, with the line's marks, followed by the line's rows (`LineTable.body_eq`).
-/

namespace CodeFrame

/-- A caption has no number. -/
theorem DisplayLine.number?_of_isCaption {l : DisplayLine} (h : l.isCaption) : l.number? = none := by
  cases l <;> first | rfl | cases h

namespace Placement

/-- The mark that a placement puts beside line `k`. -/
def markOn? (k : Nat) : Placement → Option Mark
  | attach i m => if i = k then some m else none
  | insert _ _ => none

/-- The row that a placement puts under line `k`. -/
def rowUnder? (k : Nat) : Placement → Option DisplayLine
  | attach _ _ => none
  | insert i row => if i = k then some row else none

/-- The marks beside line `k`, in their order. -/
def marksOn (k : Nat) (ps : List Placement) : List Mark :=
  ps.filterMap (markOn? k)

/-- The rows under line `k`, in their order. -/
def rowsUnder (k : Nat) (ps : List Placement) : List DisplayLine :=
  ps.filterMap (rowUnder? k)

end Placement

/-! ## One placement -/

/-- Only the row at the given index changes. -/
theorem getElem?_modifyRow (i : Int) (f : SourceRow → SourceRow) (rows : Array SourceRow) (k : Nat) :
    (modifyRow i f rows)[k]? = if i = k then rows[k]?.map f else rows[k]? := by
  unfold modifyRow
  by_cases h0 : 0 ≤ i
  · rw [if_pos h0, Array.getElem?_modify]
    by_cases hik : i = k
    · rw [if_pos hik, if_pos (by omega)]
    · rw [if_neg hik, if_neg (by omega)]
  · rw [if_neg h0, if_neg (by omega)]

/-- A row after one more placement. -/
theorem getElem?_apply (p : Placement) (rows : Array SourceRow) (k : Nat) :
    (p.apply rows)[k]? = rows[k]?.map fun r =>
      { r with marks := r.marks ++ (p.markOn? k).toList, under := r.under ++ (p.rowUnder? k).toList } := by
  cases p with
  | attach i m =>
    unfold Placement.apply Placement.markOn? Placement.rowUnder?
    simp only
    rw [getElem?_modifyRow]
    by_cases hik : i = k
    · simp only [if_pos hik, Option.toList_some, Option.toList_none, List.append_nil]
    · simp only [if_neg hik, Option.toList_none, List.append_nil, Option.map_id']
  | insert i row =>
    unfold Placement.apply Placement.markOn? Placement.rowUnder?
    simp only
    rw [getElem?_modifyRow]
    by_cases hik : i = k
    · simp only [if_pos hik, Option.toList_some, Option.toList_none, List.append_nil]
    · simp only [if_neg hik, Option.toList_none, List.append_nil, Option.map_id']

/-! ## All placements -/

/-- A row after all placements. -/
theorem getElem?_foldl_apply (ps : List Placement) (rows : Array SourceRow) (k : Nat) :
    (ps.foldl Placement.apply rows)[k]? = rows[k]?.map fun r =>
      { r with
        marks := r.marks ++ Placement.marksOn k ps
        under := r.under ++ Placement.rowsUnder k ps } := by
  induction ps generalizing rows with
  | nil =>
    unfold Placement.marksOn Placement.rowsUnder
    simp only [List.foldl_nil, List.filterMap_nil, List.append_nil, Option.map_id']
  | cons p ps ih =>
    have hmarks : Placement.marksOn k (p :: ps) = (p.markOn? k).toList ++ Placement.marksOn k ps := by
      unfold Placement.marksOn
      cases h : p.markOn? k <;> simp [h]
    have hunder :
        Placement.rowsUnder k (p :: ps) = (p.rowUnder? k).toList ++ Placement.rowsUnder k ps := by
      unfold Placement.rowsUnder
      cases h : p.rowUnder? k <;> simp [h]
    rw [List.foldl_cons, ih, getElem?_apply, Option.map_map, hmarks, hunder]
    congr 1
    funext r
    simp only [Function.comp_apply, List.append_assoc]

namespace LineTable

variable (t : LineTable)

/-- The display lines that a line of the source ends up as. -/
def lineRows (ps : List Placement) (lk : String × Nat) : List DisplayLine :=
  .source (t.number lk.2) (Placement.marksOn lk.2 ps) lk.1 :: Placement.rowsUnder lk.2 ps

/-- The body is made of one source row a line, each followed by what was put under it. -/
theorem body_eq (ps : List Placement) : t.body ps = t.lines.zipIdx.flatMap (t.lineRows ps) := by
  -- row by row: a placement changes only what stands at its index
  have hrows : (ps.foldl Placement.apply t.rows.toArray).toList =
      t.lines.zipIdx.map fun lk =>
        { number := t.number lk.2, content := lk.1, marks := Placement.marksOn lk.2 ps
          under := Placement.rowsUnder lk.2 ps } := by
    apply List.ext_getElem?
    intro k
    rw [Array.getElem?_toList, getElem?_foldl_apply, List.getElem?_toArray, rows, List.getElem?_map,
      List.getElem?_map, Option.map_map, List.getElem?_zipIdx]
    cases t.lines[k]? with
    | none => rfl
    | some l => simp
  unfold body
  rw [hrows, List.flatMap_map]
  rfl

/-! ## Source rows and captions -/

variable {t} {ps : List Placement}

/-- What stands under a line has been put there. -/
theorem exists_insert_of_mem_rowsUnder {k : Nat} {l : DisplayLine}
    (h : l ∈ Placement.rowsUnder k ps) : ∃ i, .insert i l ∈ ps := by
  obtain ⟨p, hp, hrow⟩ := List.mem_filterMap.1 h
  cases p with
  | attach i m => cases hrow
  | insert i row =>
    simp only [Placement.rowUnder?, Option.ite_none_right_eq_some, Option.some.injEq] at hrow
    exact ⟨i, hrow.2 ▸ hp⟩

/-- Where only captions are put under lines, a body has no other rows than these and source rows. -/
theorem source_or_caption_of_mem_body (hps : ∀ i row, .insert i row ∈ ps → row.isCaption)
    {l : DisplayLine} (hl : l ∈ t.body ps) : l.number?.isSome ∨ l.isCaption := by
  rw [body_eq, List.mem_flatMap] at hl
  obtain ⟨lk, -, hl⟩ := hl
  rcases List.mem_cons.1 hl with rfl | hl
  · exact .inl rfl
  · obtain ⟨i, hi⟩ := exists_insert_of_mem_rowsUnder hl
    exact .inr (hps i l hi)

/-- The source rows of such a body are numbered like the lines, none left out. -/
theorem filterMap_number?_body (hps : ∀ i row, .insert i row ∈ ps → row.isCaption) :
    (t.body ps).filterMap DisplayLine.number? =
      (List.range t.lines.length).map fun k : Nat => t.number k := by
  have hunder : ∀ k, (Placement.rowsUnder k ps).filterMap DisplayLine.number? = [] := by
    intro k
    rw [List.filterMap_eq_nil_iff]
    intro l hl
    obtain ⟨i, hi⟩ := exists_insert_of_mem_rowsUnder hl
    exact DisplayLine.number?_of_isCaption (hps i l hi)
  rw [body_eq, List.filterMap_flatMap, List.range_eq_range', ← List.zipIdx_map_snd 0 t.lines,
    List.map_map, List.map_eq_flatMap]
  congr 1
  funext lk
  show t.number lk.2 :: (Placement.rowsUnder lk.2 ps).filterMap DisplayLine.number? = _
  rw [hunder]
  rfl

/-- A body is the rows of a line with other rows around them, none of which has the number of the
line. -/
theorem exists_body_around (hps : ∀ i row, .insert i row ∈ ps → row.isCaption) {k : Nat} {l : String}
    (hk : t.lines[k]? = some l) :
    ∃ above below, t.body ps = above ++ t.lineRows ps (l, k) ++ below ∧
      ∀ r ∈ above ++ below, r.number? ≠ some (t.number k) := by
  have hget : t.lines.zipIdx[k]? = some (l, k) := by
    rw [List.getElem?_zipIdx, hk]
    simp
  obtain ⟨hlt, hget⟩ := List.getElem?_eq_some_iff.1 hget
  have hsplit : t.lines.zipIdx = t.lines.zipIdx.take k ++ (l, k) :: t.lines.zipIdx.drop (k + 1) := by
    rw [← hget, List.getElem_cons_drop, List.take_append_drop]
  -- a row of another line has the number of that line or none
  have hother : ∀ lk : String × Nat, lk.2 ≠ k → ∀ r ∈ t.lineRows ps lk,
      r.number? ≠ some (t.number k) := by
    intro lk hne r hr
    rcases List.mem_cons.1 hr with rfl | hr
    · intro hnumber
      have heq : t.firstNumber + (lk.2 : Int) = t.firstNumber + k := Option.some.inj hnumber
      omega
    · obtain ⟨i, hi⟩ := exists_insert_of_mem_rowsUnder hr
      rw [DisplayLine.number?_of_isCaption (hps i r hi)]
      simp
  refine ⟨(t.lines.zipIdx.take k).flatMap (t.lineRows ps),
    (t.lines.zipIdx.drop (k + 1)).flatMap (t.lineRows ps), ?_, ?_⟩
  · rw [body_eq]
    conv => lhs; rw [hsplit]
    rw [List.flatMap_append, List.flatMap_cons, List.append_assoc]
  · intro r hr
    rcases List.mem_append.1 hr with hr | hr
    · obtain ⟨lk, hlk, hr⟩ := List.mem_flatMap.1 hr
      apply hother lk ?_ r hr
      obtain ⟨j, hj, rfl⟩ := List.mem_take_iff_getElem.1 hlk
      rw [List.getElem_zipIdx]
      show 0 + j ≠ k
      omega
    · obtain ⟨lk, hlk, hr⟩ := List.mem_flatMap.1 hr
      apply hother lk ?_ r hr
      obtain ⟨j, hj, rfl⟩ := List.mem_drop_iff_getElem.1 hlk
      rw [List.getElem_zipIdx]
      show 0 + (k + 1 + j) ≠ k
      omega

end LineTable

end CodeFrame
