import CodeFrame.Proofs.Layout.Captions
import CodeFrame.Proofs.Layout.Totality

/-!
# Reading an annotation back

A body that is not folded tells where its only annotation starts and ends
(`Snippet.range_of_unfolded_body`). The lines that have something beside or under them are those from the
line of the start to the line of the end (`Annotation.share_eq_nil_iff`), and what the first and the last
of them have tells the columns.
-/

namespace CodeFrame

namespace Annotation

variable {t : LineTable} {k : Nat} {a b : Annotation}

/-! ## Shares as they stand in a body -/

/-- A share puts marks first and rows behind them, so what is beside the line and under it is all of it. -/
theorem share_eq_on (a : Annotation) : a.share t k =
    (Placement.marksOn k (a.share t k)).map (.attach k) ++
      (Placement.rowsUnder k (a.share t k)).map (.insert k) := by
  unfold share firstShare lastShare wholeShare
  (repeat' split) <;>
    simp [Placement.marksOn, Placement.rowsUnder, Placement.markOn?, Placement.rowUnder?,
      List.filterMap_cons]

/-! ## Shares and offsets -/

variable {s e s' e' : Int}

theorem wholeShare_inj (h : a.wholeShare t k s e = b.wholeShare t k s' e') : s = s' ∧ e = e' := by
  simp only [wholeShare, caption, List.cons.injEq, Placement.insert.injEq, DisplayLine.caption.injEq,
    Caption.mk.injEq] at h
  omega

theorem lastShare_inj (h : a.lastShare t k e = b.lastShare t k e') : e = e' := by
  simp only [lastShare, caption, List.cons.injEq, Placement.insert.injEq, DisplayLine.caption.injEq,
    Caption.mk.injEq] at h
  omega

/-- A start at the first offset of a line leaves a mark, any other a caption with its column. -/
theorem firstShare_inj (h : a.firstShare t k s = b.firstShare t k s') : s = s' := by
  unfold firstShare at h
  by_cases hs : s = t.start k <;> by_cases hs' : s' = t.start k
  · rw [hs, hs']
  · simp [hs, hs'] at h
  · simp [hs, hs'] at h
  · rw [if_neg hs, if_neg hs'] at h
    simp only [caption, List.cons.injEq, Placement.insert.injEq, DisplayLine.caption.injEq,
      Caption.mk.injEq] at h
    omega

/-- The lines that have a share of a span are those from the line of its start to the line of its end. -/
theorem share_eq_nil_iff {h0 : 0 ≤ s} {hle : s ≤ e} {i j : Nat} (ha : a.anchor = .span s e h0 hle)
    (hs : t.lineOf? s = some i) (he : t.lineOf? e = some j) :
    a.share t k = [] ↔ k < i ∨ j < k := by
  have hij : i ≤ j := le_of_lineOf? hle hs he
  constructor
  · intro hnil
    by_contra hbetween
    simp only [share, ha, hs, he, firstShare, lastShare, wholeShare] at hnil
    (repeat' split at hnil) <;> first | omega | cases hnil
  · rintro (hbefore | hbehind)
    · apply share_eq_nil_of_lt_start
      intro p i' hp hi'
      rw [ha] at hp
      obtain rfl : s = p := Option.some.inj hp
      rw [hs] at hi'
      exact Option.some.inj hi' ▸ hbefore
    · exact share_eq_nil_of_stop_lt (by rw [ha]; rfl) he hbehind

/-- The shares of a span tell its offsets. -/
theorem offsets_eq_of_share_eq {h0 : 0 ≤ s} {hle : s ≤ e} {h0' : 0 ≤ s'} {hle' : s' ≤ e'}
    (ha : a.anchor = .span s e h0 hle) (hb : b.anchor = .span s' e' h0' hle') {i j i' j' : Nat}
    (hs : t.lineOf? s = some i) (he : t.lineOf? e = some j) (hs' : t.lineOf? s' = some i')
    (he' : t.lineOf? e' = some j') (h : ∀ k < t.lines.length, a.share t k = b.share t k) :
    s = s' ∧ e = e' := by
  have hj := (t.lineOf?_eq_some_iff.1 he).1
  have hj' := (t.lineOf?_eq_some_iff.1 he').1
  have hij : i ≤ j := le_of_lineOf? hle hs he
  have hij' : i' ≤ j' := le_of_lineOf? hle' hs' he'
  have hsame : ∀ k < t.lines.length, (k < i ∨ j < k) ↔ (k < i' ∨ j' < k) := by
    intro k hk
    rw [← share_eq_nil_iff ha hs he, ← share_eq_nil_iff hb hs' he', h k hk]
  -- both spans have a share of the first and the last line of either
  have hi := hsame i (by omega)
  have hi' := hsame i' (by omega)
  have hlast := hsame j hj
  have hlast' := hsame j' hj'
  obtain rfl : i = i' := by omega
  obtain rfl : j = j' := by omega
  have hfirst := h i (by omega)
  have hlast := h j hj
  by_cases heq : i = j
  · subst heq
    simp only [share, ha, hb, hs, he, hs', he', and_self, if_true] at hfirst
    exact wholeShare_inj hfirst
  · have hlt : i < j := by omega
    simp only [share, ha, hb, hs, he, hs', he', heq, hlt, and_true, and_false, if_true,
      if_false, Nat.lt_irrefl] at hfirst hlast
    exact ⟨firstShare_inj hfirst, lastShare_inj hlast⟩

end Annotation

namespace Snippet

variable {s u : Snippet} {o o' : LayoutOptions} {a b : Annotation}

/-- Without folding, the rows stand between the two empty lines of the body. -/
theorem body_of_not_fold (ho : o.fold = false) : s.body o = .blank :: s.unfolded ++ [.blank] := by
  rw [body, foldBody_of_not_fold (by simp [ho])]
  rfl

theorem unfolded_eq_of_body_eq (ho : o.fold = false) (ho' : o'.fold = false)
    (h : s.body o = u.body o') : s.unfolded = u.unfolded := by
  rw [body_of_not_fold ho, body_of_not_fold ho'] at h
  exact List.append_cancel_right (List.cons.inj h).2

/-- An unfolded body with one annotation, which starts and ends, tells the table of the source and what
each line has of the annotation. -/
theorem table_share_eq_of_unfolded_eq (hs : s.annotations = [a]) (hu : u.annotations = [b])
    (ha : a.anchor.stop?.isSome) (h : s.unfolded = u.unfolded) :
    s.table = u.table ∧ ∀ k < s.table.lines.length, a.share s.table k = b.share s.table k := by
  obtain ⟨hlines, hon⟩ := LineTable.on_eq_of_body_eq (fun i row => isCaption_of_insert_mem)
    (fun i row => isCaption_of_insert_mem) h
  -- there is a line, since the annotation lies somewhere, and its number is that of the table
  have hmem : a ∈ s.annotations := hs ▸ List.mem_singleton.2 rfl
  obtain ⟨p, e, h0, hle, i, j, -, hi, -⟩ := exists_span hmem ha
  have hlt := (s.table.lineOf?_eq_some_iff.1 hi).1
  have hnumber := (hon 0 (by omega)).1
  have htable : s.table = u.table := by
    cases hst : s.table
    cases hut : u.table
    simp_all [LineTable.number]
  refine ⟨htable, ?_⟩
  intro k hk
  obtain ⟨-, hmarks, hrows⟩ := hon k hk
  obtain ⟨hmarks', hrows'⟩ := s.table.on_plan s.annotations hk
  obtain ⟨hmarks'', hrows''⟩ := s.table.on_plan u.annotations hk
  rw [plan, plan, ← htable, hmarks', hmarks'', hs, hu, List.flatMap_singleton,
    List.flatMap_singleton] at hmarks
  rw [plan, plan, ← htable, hrows', hrows'', hs, hu, List.flatMap_singleton,
    List.flatMap_singleton] at hrows
  rw [a.share_eq_on, hmarks, hrows, ← b.share_eq_on]

/-- The unfolded body of a snippet with one annotation, which starts and ends, determines where it starts
and where it ends: no other snippet with one such annotation has the same body, unless its annotation has
the same range. -/
theorem range_of_unfolded_body (hs : s.annotations = [a]) (hu : u.annotations = [b])
    (ha : a.anchor.stop?.isSome) (hb : b.anchor.stop?.isSome) (ho : o.fold = false)
    (ho' : o'.fold = false) (h : s.body o = u.body o') :
    a.anchor.start? = b.anchor.start? ∧ a.anchor.stop? = b.anchor.stop? := by
  obtain ⟨htable, hshare⟩ :=
    table_share_eq_of_unfolded_eq hs hu ha (unfolded_eq_of_body_eq ho ho' h)
  have hmem : a ∈ s.annotations := hs ▸ List.mem_singleton.2 rfl
  have hmem' : b ∈ u.annotations := hu ▸ List.mem_singleton.2 rfl
  obtain ⟨p, e, h0, hle, i, j, hanchor, hi, hj⟩ := exists_span hmem ha
  obtain ⟨p', e', h0', hle', i', j', hanchor', hi', hj'⟩ := exists_span hmem' hb
  rw [← htable] at hi' hj'
  obtain ⟨rfl, rfl⟩ := Annotation.offsets_eq_of_share_eq hanchor hanchor' hi hj hi' hj' hshare
  rw [hanchor, hanchor']
  exact ⟨rfl, rfl⟩

/-- Two sources with the same three lines, and an annotation from the empty second line, of which only a
mark is drawn there, to the third one. -/
theorem range_of_unfolded_body_of_three_lines :
    let a : Annotation := ⟨.error, none, some "x", .span 4 7 (by decide) (by decide)⟩
    let b : Annotation := { a with code := some "E1" }
    let d : Description := { source := "ab\n\ncd", annotations := [a] }
    let e : Description := { source := "ab\r\n\r\ncd\n", origin := some "f", annotations := [b] }
    let o : LayoutOptions := { fold := false }
    let rows : List DisplayLine := [.source 1 [] "ab", .source 2 [.start] "",
      .source 3 [.through] "cd", .caption ⟨[.through], 1, 2, "x", .multilineEnd⟩]
    ∃ s u : Snippet, s.toDescription = d ∧ u.toDescription = e ∧ a.anchor.stop?.isSome ∧
      b.anchor.stop?.isSome ∧ o.fold = false ∧ s.body o = .blank :: rows ++ [.blank] ∧
      s.body o = u.body o ∧ a.anchor.start? = b.anchor.start? ∧ a.anchor.stop? = b.anchor.stop? := by
  intro a b d e o rows
  have hd : d.Valid := d.problem?_eq_none_iff.1 (by decide)
  have he : e.Valid := e.problem?_eq_none_iff.1 (by decide)
  have hrows : (⟨d, hd⟩ : Snippet).unfolded = rows := by
    show d.table.body (d.table.plan [a]).placements = rows
    decide
  have hrows' : (⟨e, he⟩ : Snippet).unfolded = rows := by
    show e.table.body (e.table.plan [b]).placements = rows
    decide
  have hbody : (⟨d, hd⟩ : Snippet).body o = .blank :: rows ++ [.blank] := by
    rw [body_of_not_fold rfl, hrows]
  have hsame : (⟨d, hd⟩ : Snippet).body o = (⟨e, he⟩ : Snippet).body o := by
    rw [hbody, body_of_not_fold rfl, hrows']
  exact ⟨⟨d, hd⟩, ⟨e, he⟩, rfl, rfl, rfl, rfl, rfl, hbody, hsame,
    range_of_unfolded_body rfl rfl rfl rfl rfl rfl hsame⟩

end Snippet

end CodeFrame
