import CodeFrame.Proofs.Layout.Folds
import CodeFrame.Proofs.Layout.Totality

/-!
# Where long annotations start

An annotation that starts at the first offset of a line and ends on a later one leaves a mark beside the
line and no caption under it. The caption that ends the line's run is that of its end, or one between
(`Snippet.exists_caption_below`), so the line stands in a run like a line without marks: it is folded away
with it, unless it is among the first or the last lines of the run (`Snippet.start_row_shown_iff`).
-/

namespace CodeFrame

/-- A row with a number is nowhere else among rows with increasing numbers. -/
theorem notMem_of_sorted_numbers {above below : List DisplayLine} {l : DisplayLine} {n : Int}
    (hsorted : ((above ++ l :: below).filterMap DisplayLine.number?).Pairwise (· < ·))
    (hn : l.number? = some n) : l ∉ above ∧ l ∉ below := by
  rw [List.filterMap_append, List.filterMap_cons_some hn, List.pairwise_append, List.pairwise_cons]
    at hsorted
  obtain ⟨-, ⟨hbelow, -⟩, habove⟩ := hsorted
  have hmem : ∀ {rows : List DisplayLine}, l ∈ rows → n ∈ rows.filterMap DisplayLine.number? :=
    fun hl => List.mem_filterMap.2 ⟨l, hl, hn⟩
  constructor
  · intro hl
    have hlt := habove n (hmem hl) n List.mem_cons_self
    omega
  · intro hl
    have hlt := hbelow n (hmem hl)
    omega

/-! ## Marks and captions -/

namespace Annotation

variable {t : LineTable} {k : Nat} {a : Annotation}

theorem of_start_mem_firstShare {i s : Int} (h : .attach i .start ∈ a.firstShare t k s) : i = k := by
  unfold firstShare at h
  split at h
  · rw [List.mem_singleton, Placement.attach.injEq] at h
    exact h.1
  · simp at h

/-- The mark of a start stands beside the line of the start, and the annotation ends on no line up to
that one. -/
theorem of_start_mem_share {i : Int} (h : .attach i .start ∈ a.share t k) :
    i = k ∧ ∃ s e h0 hle, a.anchor = .span s e h0 hle ∧ t.lineOf? s = some k ∧
      ∀ j, t.lineOf? e = some j → k < j := by
  unfold share at h
  cases hanchor : a.anchor with
  | unplaced => simp [hanchor] at h
  | dangling => simp [hanchor] at h
  | span s e h0 hle =>
    simp only [hanchor] at h
    cases hs : t.lineOf? s with
    | none => simp [hs] at h
    | some k' =>
      cases he : t.lineOf? e with
      | none =>
        -- an end that lies on no line comes after every line
        simp only [hs, he] at h
        split at h
        · rename_i hk
          exact ⟨of_start_mem_firstShare h, s, e, h0, hle, rfl, hk ▸ hs, fun j hj => by simp [he] at hj⟩
        · split at h <;> simp at h
      | some j =>
        simp only [hs, he] at h
        -- on a single line nothing is marked as a start
        split at h
        · simp [wholeShare] at h
        split at h
        · rename_i hk
          refine ⟨of_start_mem_firstShare h, s, e, h0, hle, rfl, hk.1 ▸ hs, ?_⟩
          intro j' hj'
          rw [he, Option.some.injEq] at hj'
          exact hj' ▸ hk.2
        · split at h
          · simp at h
          · split at h <;> simp [lastShare] at h

/-- A line that an annotation ends on, but does not begin on, gets a caption. -/
theorem exists_insert_mem_share {s e : Int} {h0 : 0 ≤ s} {hle : s ≤ e} {j : Nat}
    (hanchor : a.anchor = .span s e h0 hle) (hs : t.lineOf? s = some k) (he : t.lineOf? e = some j)
    (hkj : k < j) : ∃ c, .insert j c ∈ a.share t j := by
  have hshare : a.share t j = a.lastShare t j e := by
    unfold share
    simp only [hanchor, hs, he]
    rw [if_neg (by omega), if_neg (by omega), if_neg (by omega), if_pos ⟨hkj, trivial⟩]
  rw [hshare]
  exact ⟨_, List.mem_cons_of_mem _ List.mem_cons_self⟩

end Annotation

namespace LineTable

variable {t : LineTable} (ps : List Placement)

/-- The rows of a line stand above those of a later line. -/
theorem exists_body_between {i j : Nat} (hij : i < j) {l m : String} (hi : t.lines[i]? = some l)
    (hj : t.lines[j]? = some m) :
    ∃ above between below, t.body ps =
      above ++ (t.lineRows ps (l, i) ++ (between ++ (t.lineRows ps (m, j) ++ below))) := by
  have hget : ∀ {k : Nat} {l : String}, t.lines[k]? = some l → t.lines.zipIdx[k]? = some (l, k) := by
    intro k l hk
    rw [List.getElem?_zipIdx, hk]
    simp
  have hsplit : t.lines.zipIdx = t.lines.zipIdx.take i ++ (l, i) :: t.lines.zipIdx.drop (i + 1) := by
    obtain ⟨hlt, hget⟩ := List.getElem?_eq_some_iff.1 (hget hi)
    rw [← hget, List.getElem_cons_drop, List.take_append_drop]
  have hlater : (m, j) ∈ t.lines.zipIdx.drop (i + 1) := by
    apply List.mem_of_getElem? (i := j - (i + 1))
    rw [List.getElem?_drop, ← hget hj]
    congr 1
    omega
  obtain ⟨front, back, hlater⟩ := List.append_of_mem hlater
  refine ⟨(t.lines.zipIdx.take i).flatMap (t.lineRows ps), front.flatMap (t.lineRows ps),
    back.flatMap (t.lineRows ps), ?_⟩
  rw [body_eq]
  conv => lhs; rw [hsplit, hlater]
  simp only [List.flatMap_append, List.flatMap_cons]

end LineTable

namespace Snippet

variable {s : Snippet} {o : LayoutOptions} {above below : List DisplayLine} {n : Int}
  {marks : List Mark} {content : String}

/-- Where a mark of a start stands beside a line, a caption stands under a later one. -/
theorem exists_caption_of_start_mem_marksOn {k : Nat}
    (h : .start ∈ Placement.marksOn k s.plan.placements) :
    ∃ j c, k < j ∧ j < s.table.lines.length ∧ c.isCaption ∧
      c ∈ Placement.rowsUnder j s.plan.placements := by
  have hplan : s.plan.placements = (List.range s.table.lines.length).flatMap fun k =>
      s.annotations.flatMap fun a => a.share s.table k := s.table.plan_placements_eq s.annotations
  -- the annotation that starts beside the mark
  obtain ⟨p, hp, hmark⟩ := List.mem_filterMap.1 h
  obtain rfl : p = .attach k .start := by
    cases p with
    | insert i row => cases hmark
    | attach i m =>
      simp only [Placement.markOn?, Option.ite_none_right_eq_some, Option.some.injEq] at hmark
      rw [hmark.1, hmark.2]
  rw [hplan, List.mem_flatMap] at hp
  obtain ⟨k', -, hp⟩ := hp
  obtain ⟨a, ha, hp⟩ := List.mem_flatMap.1 hp
  obtain ⟨hk, start, stop, h0, hle, hanchor, hstart, hlater⟩ := Annotation.of_start_mem_share hp
  obtain rfl : k = k' := by omega
  -- it ends on a line, behind that one
  obtain ⟨j, hj⟩ := exists_lineOf? ha (.inr (by rw [hanchor]; rfl))
  have hlt : j < s.table.lines.length := (s.table.lineOf?_eq_some_iff.1 hj).1
  obtain ⟨c, hc⟩ := Annotation.exists_insert_mem_share hanchor hstart hj (hlater j hj)
  have hmem : .insert (j : Int) c ∈ s.plan.placements := by
    rw [hplan, List.mem_flatMap]
    exact ⟨j, List.mem_range.2 hlt, List.mem_flatMap.2 ⟨a, ha, hc⟩⟩
  refine ⟨j, c, hlater j hj, hlt, s.table.isCaption_of_insert_mem_plan hmem, ?_⟩
  exact List.mem_filterMap.2 ⟨_, hmem, if_pos rfl⟩

/-- A source row of an unfolded body is that of a line. -/
theorem exists_line_of_source_mem (h : .source n marks content ∈ s.table.body s.plan.placements) :
    ∃ k : Nat, s.table.lines[k]? = some content ∧ n = s.table.number k ∧
      marks = Placement.marksOn k s.plan.placements := by
  rw [LineTable.body_eq, List.mem_flatMap] at h
  obtain ⟨⟨l, k⟩, hlk, h⟩ := h
  rcases List.mem_cons.1 h with h | h
  · rw [DisplayLine.source.injEq] at h
    obtain ⟨rfl, rfl, rfl⟩ := h
    refine ⟨k, ?_, rfl, rfl⟩
    exact List.mk_mem_zipIdx_iff_getElem?.1 hlk
  · obtain ⟨i, hi⟩ := LineTable.exists_insert_of_mem_rowsUnder h
    cases s.table.isCaption_of_insert_mem_plan hi

/-- The numbers of an unfolded body increase. -/
theorem pairwise_numbers :
    ((s.table.body s.plan.placements).filterMap DisplayLine.number?).Pairwise (· < ·) := by
  have hcaptions : ∀ i row, .insert i row ∈ s.plan.placements → row.isCaption :=
    fun i row => s.table.isCaption_of_insert_mem_plan
  rw [LineTable.filterMap_number?_body hcaptions]
  exact s.table.numbers_pairwise _

/-- Below a row with the mark of a start there is a caption. -/
theorem exists_caption_below
    (hbody : s.table.body s.plan.placements = above ++ .source n marks content :: below)
    (hstart : .start ∈ marks) : ∃ c ∈ below, c.isCaption := by
  have hsource : .source n marks content ∈ s.table.body s.plan.placements := by
    rw [hbody]
    exact List.mem_append_right _ List.mem_cons_self
  obtain ⟨habove, hbelow⟩ := notMem_of_sorted_numbers (hbody ▸ pairwise_numbers) rfl
  obtain ⟨k, hk, rfl, rfl⟩ := exists_line_of_source_mem hsource
  obtain ⟨j, c, hkj, hj, hc, hunder⟩ := exists_caption_of_start_mem_marksOn hstart
  obtain ⟨above', between, below', hbody'⟩ :=
    LineTable.exists_body_between s.plan.placements hkj hk (List.getElem?_eq_getElem hj)
  -- the row is the only one of its number, so the body is split at the same place
  obtain ⟨-, -, rfl⟩ :=
    (List.append_cons_inj_of_notMem habove hbelow).1 (hbody.symm.trans hbody')
  refine ⟨c, ?_, hc⟩
  apply List.mem_append_right
  apply List.mem_append_right
  exact List.mem_append_left _ (List.mem_cons_of_mem _ hunder)

/-- The line of a row with the mark of a start is shown with its marks or not at all. There is a caption
below the row, and the line is folded away exactly if the run that the next caption ends is too long and
the line is neither among the first lines of this run nor among its last. -/
theorem start_row_shown_iff
    (hbody : s.body { o with fold := false } =
      .blank :: (above ++ .source n marks content :: below) ++ [.blank])
    (hstart : .start ∈ marks) :
    let before := (rowsBefore above).length
    let behind := (rowsBehind below).length
    (∃ c ∈ below, c.isCaption) ∧
    (∀ marks' content', .source n marks' content' ∈ s.body o →
      marks' = marks ∧ content' = content) ∧
    (.source n marks content ∈ s.body o ↔
      ¬ (o.fold ∧ o.threshold < before + 1 + behind ∧ o.keepHead ≤ before ∧ o.keepTail ≤ behind)) := by
  intro before behind
  have hunfolded : s.table.body s.plan.placements = above ++ .source n marks content :: below :=
    List.append_cancel_right (List.cons.inj hbody).2
  have hmem : ∀ l, l ≠ .blank →
      (l ∈ s.body o ↔ l ∈ foldBody o (above ++ .source n marks content :: below)) := by
    intro l hl
    show l ∈ .blank :: foldBody o (s.table.body s.plan.placements) ++ [.blank] ↔ _
    rw [hunfolded]
    simp [hl]
  obtain ⟨habove, hbelow⟩ := notMem_of_sorted_numbers (hunfolded ▸ pairwise_numbers) rfl
  have hcaption := exists_caption_below hunfolded hstart
  have hsource : .source n marks content ∈ s.table.body s.plan.placements := by
    rw [hunfolded]
    exact List.mem_append_right _ List.mem_cons_self
  refine ⟨hcaption, ?_, ?_⟩
  · intro marks' content' hshown
    rw [hmem _ DisplayLine.noConfusion] at hshown
    rcases mem_of_mem_foldBody hshown with hshown | hfold
    · -- no other row has this number
      rw [← hunfolded] at hshown
      have hsame := (filter_number?_eq_singleton pairwise_numbers hsource rfl).symm.trans
        (filter_number?_eq_singleton pairwise_numbers hshown rfl)
      rw [List.singleton_inj, DisplayLine.source.injEq] at hsame
      exact ⟨hsame.2.1.symm, hsame.2.2.symm⟩
    · cases hfold
  · rw [hmem _ DisplayLine.noConfusion,
      mem_foldBody_iff Bool.noConfusion DisplayLine.noConfusion habove hbelow]
    simp only [hcaption, true_and]
    rfl

/-- The second of four lines, at which an annotation up to the fourth one starts, where a run keeps one
line at each end. -/
theorem start_row_shown_iff_of_four_lines :
    let a : Annotation := ⟨.error, none, none, .span 3 9 (by decide) (by decide)⟩
    let d : Description := { source := "a\nb\nc\nd", annotations := [a] }
    let o : LayoutOptions := { threshold := 2, keepHead := 1, keepTail := 1 }
    ∃ s : Snippet, s.toDescription = d ∧
      s.body { o with fold := false } =
        .blank :: ([.source 1 [] "a"] ++ .source 2 [.start] "b" :: [.source 3 [.through] "c",
          .source 4 [.through] "d", .caption ⟨[.through], 0, 1, "", .multilineEnd⟩]) ++ [.blank] ∧
      .start ∈ [Mark.start] ∧ .source 2 [.start] "b" ∉ s.body o := by
  intro a d o
  have hvalid : d.Valid := d.problem?_eq_none_iff.1 (by decide)
  have hbody : (⟨d, hvalid⟩ : Snippet).body { o with fold := false } =
      .blank :: ([.source 1 [] "a"] ++ .source 2 [.start] "b" :: [.source 3 [.through] "c",
        .source 4 [.through] "d", .caption ⟨[.through], 0, 1, "", .multilineEnd⟩]) ++ [.blank] := by
    show .blank :: d.table.body (d.table.plan [a]).placements ++ [.blank] = _
    decide
  obtain ⟨-, -, hshown⟩ := start_row_shown_iff hbody List.mem_cons_self
  refine ⟨⟨d, hvalid⟩, rfl, hbody, List.mem_cons_self, ?_⟩
  rw [hshown]
  decide

end Snippet

end CodeFrame
