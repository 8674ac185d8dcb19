import CodeFrame.Proofs.Layout.Readback
import CodeFrame.Proofs.Render.Printed
import CodeFrame.Proofs.Session.Drawing
import CodeFrame.Proofs.Source.Splitting

/-!
# Where carets stand

The caption of an annotation on one line stands under that line, and its underline starts at the column of
the annotation's start. That column counts the characters of the source. In the row above it tabs are filled
out and some control characters are not kept, so the character that the annotation points at stands above the
underline exactly if both together change the length of what is in front of it by nothing
(`Session.caret_under_character_iff`). Rows that the console has no room for are wrapped.
-/

namespace CodeFrame

/-! ## Annotations on one line -/

/-- The annotation starts at the character `c` of line `k`, behind the characters `before` of that line, and
ends on the same line. -/
structure Annotation.PointsAt (t : LineTable) (a : Annotation) (k : Nat) (before : List Char)
    (c : Char) : Prop where
  start_eq : a.anchor.start? = some (t.start k + before.length)
  stop_eq : a.anchor.stop?.bind t.lineOf? = some k
  content : ∃ l behind, t.lines[k]? = some l ∧ l.toList = before ++ c :: behind

namespace Annotation.PointsAt

variable {t : LineTable} {a : Annotation} {k : Nat} {before : List Char} {c : Char}

/-- The character that an annotation points at is on the line, so the annotation starts there. -/
theorem lineOf?_start (h : a.PointsAt t k before c) :
    t.lineOf? (t.start k + before.length) = some k := by
  obtain ⟨l, behind, hl, hcontent⟩ := h.content
  have hlength : l.length = before.length + (behind.length + 1) := by
    rw [← String.length_toList, hcontent, List.length_append, List.length_cons]
  have hnext := t.start_succ hl
  refine t.lineOf?_eq_some_iff.2 ⟨(List.getElem?_eq_some_iff.1 hl).1, ?_, ?_⟩ <;> omega

/-- All that a line receives from an annotation on it is the caption at its columns. -/
theorem share_eq (h : a.PointsAt t k before c) :
    ∃ stop, a.share t k =
      [.insert k (a.caption (.ofSeverity a.severity) [] before.length stop)] := by
  have hstart := h.start_eq
  have hline := h.lineOf?_start
  obtain ⟨stop, hstop, hend⟩ := Option.bind_eq_some_iff.1 h.stop_eq
  cases hanchor : a.anchor with
  | unplaced =>
    rw [hanchor] at hstart
    cases hstart
  | dangling p h0 =>
    rw [hanchor] at hstop
    cases hstop
  | span p e h0 hle =>
    rw [hanchor] at hstart hstop
    obtain rfl : p = t.start k + before.length := Option.some.inj hstart
    obtain rfl : e = stop := Option.some.inj hstop
    have hfirst : t.start k + before.length - t.start k = before.length := by omega
    refine ⟨e - t.start k, ?_⟩
    simp only [share, hanchor, hline, hend, and_self, if_true, wholeShare, hfirst]

end Annotation.PointsAt

/-! ## Bodies -/

namespace Snippet

variable {s : Snippet} {o : LayoutOptions} {a : Annotation} {k : Nat} {before : List Char} {c : Char}

/-- The caption of an annotation on one line stands under the row of that line, with captions only in
between. -/
theorem exists_caption_of_pointsAt (ho : o.fold = false) (ha : a ∈ s.annotations)
    (h : a.PointsAt s.table k before c) :
    ∃ above marks content behind between stop below,
      s.body o = above ++ .source (s.table.number k) marks content :: between ++
        a.caption (.ofSeverity a.severity) [] before.length stop :: below ∧
      content.toList = before ++ c :: behind ∧ ∀ l ∈ between, l.isCaption := by
  obtain ⟨content, behind, hcontent, hchars⟩ := h.content
  have hk : k < s.table.lines.length := (List.getElem?_eq_some_iff.1 hcontent).1
  obtain ⟨stop, hshare⟩ := h.share_eq
  have hinsert : ∀ i row, .insert i row ∈ s.plan.placements → row.isCaption :=
    fun i row => isCaption_of_insert_mem
  obtain ⟨above, below, hbody, -⟩ := LineTable.exists_body_around hinsert hcontent
  have hmem : a.caption (.ofSeverity a.severity) [] before.length stop ∈
      Placement.rowsUnder k s.plan.placements := by
    have hunder := (s.table.on_plan s.annotations hk).2
    rw [plan, hunder]
    refine List.mem_filterMap.2 ⟨.insert k _, List.mem_flatMap.2 ⟨a, ha, ?_⟩, if_pos rfl⟩
    rw [hshare]
    exact List.mem_singleton.2 rfl
  obtain ⟨between, behind', hrows⟩ := List.append_of_mem hmem
  refine ⟨.blank :: above, Placement.marksOn k s.plan.placements, content, behind, between, stop,
    behind' ++ below ++ [.blank], ?_, hchars, ?_⟩
  · rw [body_of_not_fold ho, unfolded, hbody, LineTable.lineRows, hrows]
    simp only [List.cons_append, List.append_assoc]
  · intro l hl
    have hl : l ∈ Placement.rowsUnder k s.plan.placements := hrows ▸ List.mem_append_left _ hl
    obtain ⟨i, hi⟩ := LineTable.exists_insert_of_mem_rowsUnder hl
    exact hinsert i l hi

/-- A row of a body without folds is an empty line, a line of the source or the caption of an annotation. -/
theorem mem_body_cases (ho : o.fold = false) {l : DisplayLine} (hl : l ∈ s.body o) :
    l = .blank ∨ (∃ n marks content, content ∈ s.table.lines ∧ l = .source n marks content) ∨
      ∃ a ∈ s.annotations, ∃ kind marks first stop, l = a.caption kind marks first stop := by
  rw [body_of_not_fold ho, List.mem_append, List.mem_cons, List.mem_singleton, unfolded,
    LineTable.body_eq, List.mem_flatMap] at hl
  rcases hl with (rfl | ⟨⟨content, k⟩, hline, hl⟩) | rfl
  · exact .inl rfl
  · rcases List.mem_cons.1 hl with rfl | hl
    · exact .inr (.inl ⟨_, _, content, List.fst_mem_of_mem_zipIdx hline, rfl⟩)
    · obtain ⟨i, hi⟩ := LineTable.exists_insert_of_mem_rowsUnder hl
      exact .inr (.inr (s.table.exists_caption_of_insert_mem_plan hi))
  · exact .inl rfl

/-- Without line feeds in labels, the rows of a body show none. -/
theorem lineFeed_not_mem_text (ho : o.fold = false)
    (hlabels : ∀ a ∈ s.annotations, '\n' ∉ (a.label.getD "").toList) {l : DisplayLine}
    (hl : l ∈ s.body o) : '\n' ∉ l.text.toList := by
  rcases mem_body_cases ho hl with rfl | ⟨n, marks, content, hcontent, rfl⟩ |
    ⟨a, ha, kind, marks, first, stop, rfl⟩
  · exact List.not_mem_nil
  · exact lineFeed_not_mem_of_mem_splitLines hcontent
  · exact hlabels a ha

theorem ne_raw_of_mem_body (ho : o.fold = false) {l : DisplayLine} (hl : l ∈ s.body o) (text : String) :
    l ≠ .raw text := by
  rcases mem_body_cases ho hl with rfl | ⟨n, marks, content, -, rfl⟩ | ⟨a, -, kind, marks, first, stop, rfl⟩
  · exact DisplayLine.noConfusion
  · exact DisplayLine.noConfusion
  · exact DisplayLine.noConfusion

theorem exists_header_of_display {rows : List DisplayLine} (h : s.display o = .ok rows) :
    ∃ header, s.header o = .ok header ∧ rows = header ++ s.body o := by
  rw [display_eq] at h
  cases hheader : s.header o with
  | error e =>
    rw [hheader] at h
    cases h
  | ok header =>
    rw [hheader] at h
    exact ⟨header, rfl, (Except.ok.inj h).symm⟩

end Snippet

/-! ## Carets -/

namespace Session

variable {e : Emitter} {s : Snippet} {σ : Session}

theorem emit_run_of_no_fault (h : s.fault? e.glyphs e.options σ = none) :
    let told := σ.toldAll s.warnings
    ∃ rows, s.display e.options = .ok rows ∧ (emit e s).run σ = (.ok (), { told with
      written := told.written ++
        [(e.console.stream, e.console.write (drawFrame e.theme e.glyphs rows))] }) :=
  Snippet.run_of_no_fault e.theme h

/-- On a console that is no terminal, and without folds and line feeds in labels, a snippet that nothing
keeps from being drawn is written with a row for each display line of its body, which is one line where the
console has room for it. The caption of an annotation on one line is a row below the row of that line, with
captions only in between. Its underline starts behind as many characters as the source has in front of the
annotation, counted from where the bodies of rows start. What the annotation points at stands behind what is
kept of these characters, with tabs filled out. So it stands above the underline exactly if this is as long as
they are, and it is if there are no tabs among them and all of them are kept. -/
theorem caret_under_character_iff (hplain : ¬ e.console.isTerminal) (hwidth : e.console.width ≠ 0)
    (hglyphs : e.glyphs = {}) (hfold : e.options.fold = false)
    (hlabels : ∀ a ∈ s.annotations, '\n' ∉ (a.label.getD "").toList)
    (hfault : s.fault? {} e.options σ = none) :
    let told := σ.toldAll s.warnings
    let body := s.body e.options
    ∃ header text, s.header e.options = .ok header ∧
      (emit e s).run σ =
        (.ok (), { told with written := told.written ++ [(e.console.stream, text)] }) ∧
      let w := Columns.of (header ++ body)
      let printed := DisplayLine.printed e.theme {} w
      let shown l := wrapRow e.console.width (printed l)
      (∃ heading, pieces text.toList = heading ++ body.flatMap shown) ∧
      (∀ l ∈ body, columns (printed l) ≤ e.console.width → shown l = [printed l]) ∧
      ∀ a ∈ s.annotations, ∀ k before c, a.PointsAt s.table k before c → ¬ isBlank c → isStored c →
        ∃ above source between caret below, body = above ++ source :: between ++ caret :: below ∧
          source.number? = some (s.table.number k) ∧ (∀ l ∈ between, l.isCaption) ∧
          (∃ stop, caret = a.caption (.ofSeverity a.severity) [] before.length stop) ∧
          let filled := expandTabs w.bodyStart (before.filter isStored)
          let place := w.bodyStart + filled.length
          (∃ edge rest, edge.length = w.bodyStart ∧ printed source = edge ++ filled ++ c :: rest) ∧
          (printed source)[place]? = some c ∧
          (printed caret).idxOf a.severity.underline = w.bodyStart + before.length ∧
          ((printed caret).idxOf a.severity.underline = place ↔ filled.length = before.length) ∧
          ((∀ d ∈ before, d ≠ '\t' ∧ isStored d) →
            (printed caret).idxOf a.severity.underline = place) := by
  intro told body
  obtain ⟨rows, hdisplay, hrun⟩ := emit_run_of_no_fault (hglyphs ▸ hfault)
  obtain ⟨header, hheader, rfl⟩ := Snippet.exists_header_of_display hdisplay
  rw [hglyphs] at hrun
  refine ⟨header, _, hheader, hrun, ?_, ?_, ?_⟩
  · have hbody : body ≠ [] := by
      show s.body e.options ≠ []
      rw [Snippet.body_of_not_fold hfold]
      exact List.cons_ne_nil _ _
    exact exists_pieces_write_drawFrame hplain hwidth e.theme header hbody
      fun l => Snippet.lineFeed_not_mem_text hfold hlabels
  · intro l hl hfits
    exact wrapRow_of_columns_le hfits
      (DisplayLine.not_isBlank_getLast?_printed e.theme (Snippet.ne_raw_of_mem_body hfold hl))
  intro a ha k before c hpoints hblank hstored
  obtain ⟨above, marks, content, behind, between, stop, below, hsplit, hcontent, hbetween⟩ :=
    Snippet.exists_caption_of_pointsAt hfold ha hpoints
  refine ⟨above, _, between, _, below, hsplit, rfl, hbetween, ⟨stop, rfl⟩, ?_⟩
  intro filled place
  set w := Columns.of (header ++ body)
  have hmem : DisplayLine.source (s.table.number k) marks content ∈ header ++ body := by
    show _ ∈ header ++ s.body e.options
    rw [hsplit]
    simp
  obtain ⟨hnumber, hmarks⟩ := (widest_of (header ++ body)).le_of_source_mem hmem
  obtain ⟨edge, rest, hedge, hsource⟩ :=
    DisplayLine.printed_source e.theme {} hnumber hmarks hcontent hblank hstored
  have hcaret : ((a.caption (.ofSeverity a.severity) [] before.length stop).printed e.theme {} w).idxOf
      a.severity.underline = w.bodyStart + before.length :=
    DisplayLine.printed_caption e.theme rfl (Nat.zero_le w.marks)
  have hiff : w.bodyStart + before.length = place ↔ filled.length = before.length := by
    show w.bodyStart + before.length = w.bodyStart + filled.length ↔ _
    omega
  have hplace : (edge ++ filled).length = place := by
    rw [List.length_append, hedge]
  refine ⟨⟨edge, rest, hedge, hsource⟩, ?_, hcaret, ?_, ?_⟩
  · rw [hsource, ← hplace, List.getElem?_append_right (Nat.le_refl _), Nat.sub_self]
    rfl
  · rw [hcaret]
    exact hiff
  · intro hkept
    have hfilter : before.filter isStored = before :=
      List.filter_eq_self.2 fun d hd => (hkept d hd).2
    have hfilled : filled = before := by
      show expandTabs w.bodyStart (before.filter isStored) = before
      rw [hfilter, expandTabs_of_not_mem fun d hd => (hkept d hd).1]
    rw [hcaret, hiff, hfilled]

/-- The one line of a source begins with a tab, and an annotation points at the character behind it: that
character stands three places to the right of its caret. -/
theorem caret_under_character_iff_of_tab :
    let a : Annotation := ⟨.error, none, some "here", .span 1 2 (by decide) (by decide)⟩
    let d : Description := { source := "\tx", annotations := [a] }
    let e : Emitter := { options := { fold := false } }
    let σ : Session := { memory := 1 }
    ∃ s : Snippet, s.toDescription = d ∧ ¬ e.console.isTerminal ∧ e.console.width ≠ 0 ∧ e.glyphs = {} ∧
      e.options.fold = false ∧ (∀ a ∈ s.annotations, '\n' ∉ (a.label.getD "").toList) ∧
      s.fault? {} e.options σ = none ∧ a.PointsAt s.table 0 ['\t'] 'x' ∧
      ∃ text, (emit e s).run σ = (.ok (), { σ with written := [("stderr", text)] }) ∧
        ∃ source ∈ pieces text.toList, ∃ caret ∈ pieces text.toList,
          source[8]? = some 'x' ∧ caret.idxOf '^' = 5 := by
  intro a d e σ
  have hvalid : d.Valid := d.problem?_eq_none_iff.1 (by decide)
  let s : Snippet := ⟨d, hvalid⟩
  have hplain : ¬ e.console.isTerminal := by decide
  have hwidth : e.console.width ≠ 0 := by decide
  have hlabels : ∀ a ∈ s.annotations, '\n' ∉ (a.label.getD "").toList := by
    show ∀ a ∈ d.annotations, _
    decide
  let rows : List DisplayLine :=
    [.blank, .source 1 [] "\tx", .caption ⟨[], 1, 2, "here", .error⟩, .blank]
  have hbody : s.body e.options = rows := by
    show .blank :: foldBody e.options (d.table.body (d.table.plan [a]).placements) ++ [.blank] = _
    decide
  have hwarnings : s.warnings = [] := by
    have hpending : (d.table.plan [a]).pending = [] := by decide
    show (d.table.plan [a]).pending.map _ = []
    rw [hpending]
    rfl
  have hheader : s.header e.options = .ok [] := rfl
  have hfault : s.fault? {} e.options σ = none := by
    have hdisplay : s.display e.options = .ok (s.body e.options) := rfl
    have hraised : s.raised? σ = none := by
      rw [Snippet.raised?, hwarnings, Filters.sift_nil, Option.map_none]
    have hdrawn : drawError? {} σ.memory rows = none := by decide +kernel
    rw [hbody] at hdisplay
    simp only [Snippet.fault?, hdisplay, hraised, hdrawn, Option.none_or, Option.map_none]
  have hpoints : a.PointsAt s.table 0 ['\t'] 'x' := by
    refine ⟨rfl, ?_, "\tx", [], ?_, rfl⟩
    · show d.table.lineOf? 2 = some 0
      decide
    · show d.table.lines[0]? = some "\tx"
      decide
  refine ⟨s, rfl, hplain, hwidth, rfl, rfl, hlabels, hfault, hpoints, ?_⟩
  obtain ⟨header, text, hheader', hrun, ⟨heading, hpieces⟩, hshown, hcarets⟩ :=
    caret_under_character_iff hplain hwidth rfl rfl hlabels hfault
  obtain rfl : [] = header := Except.ok.inj (hheader.symm.trans hheader')
  obtain ⟨above, source, between, caret, below, hsplit, -, -, -, -, hplace, hcaret, -⟩ :=
    hcarets a List.mem_cons_self 0 ['\t'] 'x' hpoints (by decide) rfl
  have hstart : (Columns.of ([] ++ s.body e.options)).bodyStart = 4 := by
    rw [hbody]
    decide
  have hfilled : (expandTabs 4 (['\t'].filter isStored)).length = 4 := by decide
  have hrow : ∀ l ∈ s.body e.options,
      l.printed e.theme {} (.of ([] ++ s.body e.options)) ∈ pieces text.toList := by
    intro l hl
    have hfits : columns (l.printed e.theme {} (.of ([] ++ s.body e.options))) ≤ e.console.width := by
      rw [hbody] at hl ⊢
      revert l
      decide +kernel
    have hline := hshown l hl hfits
    dsimp only at hline
    rw [hpieces]
    refine List.mem_append_right heading (List.mem_flatMap.2 ⟨l, hl, ?_⟩)
    rw [hline]
    exact List.mem_singleton.2 rfl
  rw [hwarnings, toldAll_nil] at hrun
  rw [hstart] at hcaret hplace
  rw [hfilled] at hplace
  refine ⟨text, hrun, _, hrow source ?_, _, hrow caret ?_, hplace, hcaret⟩
  · rw [hsplit]
    simp
  · rw [hsplit]
    simp

end Session

end CodeFrame
