import CodeFrame.Proofs.Layout.Rows
import CodeFrame.Proofs.Layout.Shares
import CodeFrame.Proofs.Source.Concat
import CodeFrame.Proofs.Source.Separators

/-!
# Laying out one source behind another

Where the first source ends with a complete line, the body of two sources one behind the other is the two
bodies one behind the other, and so are the warnings (`Snippet.body_warnings_concat`). The annotations of
the second source are moved by the offsets that the first one takes. On its lines nothing is left of the
annotations of the first (`Annotation.share_concat_behind`), and on the lines of the first none of them has
begun (`Annotation.share_shift_before`).
-/

namespace CodeFrame

/-! ## Moving -/

/-- The annotation with all its offsets increased. -/
def Annotation.shift (d : Nat) (a : Annotation) : Annotation :=
  { a with anchor := a.anchor.shift d }

/-- The warning about an annotation with all its offsets increased. -/
def LayoutWarning.shift (d : Nat) (w : LayoutWarning) : LayoutWarning :=
  { w with offset := w.offset.map fun p => p + (d : Int) }

theorem LayoutWarning.ofPending_shift (origin : Option String) (d : Nat) (a : Annotation) :
    ofPending origin (a.shift d) = (ofPending origin a).shift d := by
  unfold ofPending shift Annotation.shift
  rw [Anchor.start?_shift]

namespace Placement

/-- The line that a placement is for. -/
def line : Placement → Int
  | attach i _ => i
  | insert i _ => i

/-- The placement for a line further down. -/
def shift (n : Nat) : Placement → Placement
  | attach i m => attach (n + i) m
  | insert i row => insert (n + i) row

end Placement

/-! ## Shares -/

namespace Annotation

variable {t u : LineTable} {k : Nat} {a : Annotation}

/-- A line's shares are for this line. -/
theorem line_of_mem_share {p : Placement} (h : p ∈ a.share t k) : p.line = k := by
  unfold share firstShare lastShare wholeShare at h
  (repeat' split at h) <;> simp only [List.not_mem_nil, List.mem_cons, or_false] at h
  all_goals rcases h with rfl | rfl <;> rfl

/-- On the lines of the first table, what fits it has the shares that it has there. -/
theorem share_concat_left (hfits : a.anchor.Fits t.extent?) (hk : k < t.lines.length) :
    a.share (t.concat u) k = a.share t k := by
  have hstart : (t.concat u).start k = t.start k := t.start_concat_left u (by omega)
  unfold share firstShare lastShare wholeShare
  rw [hstart]
  cases hanchor : a.anchor with
  | unplaced => rfl
  | dangling s h0 => rfl
  | span s e h0 hle =>
    rw [hanchor] at hfits
    obtain ⟨i, hi⟩ := t.exists_lineOf?_of_fits hfits (.inl rfl)
    obtain ⟨j, hj⟩ := t.exists_lineOf?_of_fits hfits (.inr rfl)
    simp only [hi, hj, t.lineOf?_concat_left u hi, t.lineOf?_concat_left u hj]

/-- On the lines of the second table, what fits the first has no share. -/
theorem share_concat_behind (hfits : a.anchor.Fits t.extent?) (k : Nat) :
    a.share (t.concat u) (t.lines.length + k) = [] := by
  cases hanchor : a.anchor with
  | unplaced =>
    unfold share
    rw [hanchor]
  | dangling s h0 =>
    unfold share
    rw [hanchor]
  | span s e h0 hle =>
    rw [hanchor] at hfits
    obtain ⟨j, hj⟩ := t.exists_lineOf?_of_fits hfits (.inr rfl)
    have hlt : j < t.lines.length := (t.lineOf?_eq_some_iff.1 hj).1
    have hstop : a.anchor.stop? = some e := by rw [hanchor]; rfl
    exact share_eq_nil_of_stop_lt hstop (t.lineOf?_concat_left u hj) (by omega)

/-- On the lines of the first table, what is moved behind it has no share. -/
theorem share_shift_before (hk : k < t.lines.length) :
    (a.shift t.size).share (t.concat u) k = [] := by
  apply share_eq_nil_of_lt_start
  intro p j hp hj
  unfold shift at hp
  rw [Anchor.start?_shift] at hp
  obtain ⟨s, hs, rfl⟩ := Option.map_eq_some_iff.1 hp
  -- where it starts at all, it starts on a line of the second table
  rw [t.lineOf?_concat_right u (Anchor.start?_nonneg hs)] at hj
  obtain ⟨i, -, rfl⟩ := Option.map_eq_some_iff.1 hj
  omega

theorem firstShare_shift (a : Annotation) (k : Nat) (s : Int) :
    (a.shift t.size).firstShare (t.concat u) (t.lines.length + k) (s + t.size) =
      (a.firstShare u k s).map (Placement.shift t.lines.length) := by
  have hstart : s + t.size = (t.concat u).start (t.lines.length + k) ↔ s = u.start k := by
    rw [t.start_concat_right u]
    omega
  unfold firstShare
  rw [t.sub_start_concat_right u, Int.natCast_add]
  by_cases hs : s = u.start k
  · rw [if_pos hs, if_pos (hstart.2 hs)]
    rfl
  · rw [if_neg hs, if_neg (mt hstart.1 hs)]
    rfl

theorem lastShare_shift (a : Annotation) (k : Nat) (e : Int) :
    (a.shift t.size).lastShare (t.concat u) (t.lines.length + k) (e + t.size) =
      (a.lastShare u k e).map (Placement.shift t.lines.length) := by
  unfold lastShare
  rw [t.sub_start_concat_right u, Int.natCast_add]
  rfl

theorem wholeShare_shift (a : Annotation) (k : Nat) (s e : Int) :
    (a.shift t.size).wholeShare (t.concat u) (t.lines.length + k) (s + t.size) (e + t.size) =
      (a.wholeShare u k s e).map (Placement.shift t.lines.length) := by
  unfold wholeShare
  rw [t.sub_start_concat_right u, t.sub_start_concat_right u, Int.natCast_add]
  rfl

/-- On the lines of the second table, what is moved behind the first has the shares that it has in the
second alone. -/
theorem share_shift (a : Annotation) (k : Nat) :
    (a.shift t.size).share (t.concat u) (t.lines.length + k) =
      (a.share u k).map (Placement.shift t.lines.length) := by
  have hthrough : [Placement.attach ((t.lines.length + k : Nat) : Int) .through] =
      [Placement.attach (k : Int) .through].map (Placement.shift t.lines.length) := by
    rw [Int.natCast_add]
    rfl
  unfold share
  cases hanchor : a.anchor with
  | unplaced => simp [shift, hanchor, Anchor.shift]
  | dangling s h0 => simp [shift, hanchor, Anchor.shift]
  | span s e h0 hle =>
    have hshift : (a.shift t.size).anchor = .span (s + t.size) (e + t.size) (by omega) (by omega) := by
      rw [shift, hanchor]
      rfl
    simp only [hshift]
    rw [t.lineOf?_concat_right u h0, t.lineOf?_concat_right u (by omega : 0 ≤ e)]
    -- now both sides ask the same of the lines of `s` and `e`
    cases u.lineOf? s with
    | none => rfl
    | some i =>
      cases u.lineOf? e with
      | none =>
        simp only [Option.map_some, Option.map_none, Nat.add_left_cancel_iff,
          Nat.add_lt_add_iff_left, firstShare_shift, hthrough]
        (repeat' split) <;> rfl
      | some j =>
        simp only [Option.map_some, Nat.add_left_cancel_iff, Nat.add_lt_add_iff_left,
          firstShare_shift, lastShare_shift, wholeShare_shift, hthrough]
        (repeat' split) <;> rfl

/-- What fits the first table is left out of both if it is left out of the first. -/
theorem isLeftOut_concat_left (hfits : a.anchor.Fits t.extent?) :
    a.isLeftOut (t.concat u) = a.isLeftOut t := by
  unfold isLeftOut
  cases hstop : a.anchor.stop? with
  | none => rfl
  | some e =>
    obtain ⟨j, hj⟩ := t.exists_lineOf?_of_fits hfits (.inr hstop)
    rw [Option.bind_some, Option.bind_some, hj, t.lineOf?_concat_left u hj]

/-- What is moved behind the first table is left out of both if it is left out of the second. -/
theorem isLeftOut_shift (a : Annotation) :
    (a.shift t.size).isLeftOut (t.concat u) = a.isLeftOut u := by
  unfold isLeftOut shift
  rw [Anchor.start?_shift, Anchor.stop?_shift, Option.isSome_map]
  cases hstop : a.anchor.stop? with
  | none => rfl
  | some e =>
    have h0 : 0 ≤ e := Anchor.last?_nonneg (Anchor.last?_of_stop? hstop)
    rw [Option.map_some, Option.bind_some, Option.bind_some, t.lineOf?_concat_right u h0,
      Option.isNone_map]

end Annotation

/-! ## Plans -/

namespace LineTable

variable {t u : LineTable}

/-- A plan places on the lines of its table. -/
theorem exists_line_of_mem_plan {as : List Annotation} {p : Placement}
    (h : p ∈ (t.plan as).placements) : ∃ k < t.lines.length, p.line = k := by
  rw [plan_placements_eq, List.mem_flatMap] at h
  obtain ⟨k, hk, h⟩ := h
  obtain ⟨a, -, h⟩ := List.mem_flatMap.1 h
  exact ⟨k, List.mem_range.1 hk, Annotation.line_of_mem_share h⟩

/-- What two tables place is what they place one behind the other. -/
theorem plan_placements_concat {as : List Annotation}
    (hfits : ∀ a ∈ as, a.anchor.Fits t.extent?) (bs : List Annotation) :
    ((t.concat u).plan (as ++ bs.map fun b => b.shift t.size)).placements =
      (t.plan as).placements ++ (u.plan bs).placements.map (Placement.shift t.lines.length) := by
  have hbefore : ∀ k ∈ List.range t.lines.length,
      ((as ++ bs.map fun b => b.shift t.size).flatMap fun a => a.share (t.concat u) k) =
        as.flatMap fun a => a.share t k := by
    intro k hk
    have hlt : k < t.lines.length := List.mem_range.1 hk
    rw [List.flatMap_append, List.flatMap_map,
      List.flatMap_congr fun a ha => Annotation.share_concat_left (hfits a ha) hlt,
      List.flatMap_eq_nil_iff.2 fun b _ => Annotation.share_shift_before hlt, List.append_nil]
  have hbehind : ∀ k ∈ List.range u.lines.length,
      ((as ++ bs.map fun b => b.shift t.size).flatMap fun a =>
          a.share (t.concat u) (t.lines.length + k)) =
        (bs.flatMap fun b => b.share u k).map (Placement.shift t.lines.length) := by
    intro k _
    rw [List.flatMap_append, List.flatMap_map,
      List.flatMap_eq_nil_iff.2 fun a ha => Annotation.share_concat_behind (hfits a ha) k,
      List.nil_append, List.map_flatMap]
    exact List.flatMap_congr fun b _ => Annotation.share_shift b k
  rw [plan_placements_eq, plan_placements_eq, plan_placements_eq, length_lines_concat,
    List.range_add, List.flatMap_append, List.flatMap_map, List.flatMap_congr hbefore,
    List.flatMap_congr hbehind, List.map_flatMap]

/-- What two tables leave pending is what each of them does. -/
theorem plan_pending_concat {as : List Annotation}
    (hfits : ∀ a ∈ as, a.anchor.Fits t.extent?) (bs : List Annotation) :
    ((t.concat u).plan (as ++ bs.map fun b => b.shift t.size)).pending =
      (t.plan as).pending ++ (u.plan bs).pending.map fun b => b.shift t.size := by
  have hbefore : (as.filter fun a => a.isLeftOut (t.concat u)) = as.filter fun a => a.isLeftOut t := by
    apply List.filter_congr
    intro a ha
    exact Annotation.isLeftOut_concat_left (hfits a ha)
  have hbehind : ((bs.map fun b => b.shift t.size).filter fun a => a.isLeftOut (t.concat u)) =
      (bs.filter fun b => b.isLeftOut u).map fun b => b.shift t.size := by
    rw [List.filter_map]
    congr 1
    apply List.filter_congr
    intro b _
    exact Annotation.isLeftOut_shift b
  rw [plan_pending_eq, plan_pending_eq, plan_pending_eq, List.filter_append, hbefore, hbehind]

end LineTable

/-! ## Bodies -/

namespace Placement

theorem markOn?_shift (n k : Nat) (p : Placement) : (p.shift n).markOn? (n + k) = p.markOn? k := by
  cases p with
  | attach i m =>
    unfold shift markOn?
    simp only [Int.natCast_add, Int.add_right_inj]
  | insert i row => rfl

theorem rowUnder?_shift (n k : Nat) (p : Placement) :
    (p.shift n).rowUnder? (n + k) = p.rowUnder? k := by
  cases p with
  | attach i m => rfl
  | insert i row =>
    unfold shift rowUnder?
    simp only [Int.natCast_add, Int.add_right_inj]

theorem marksOn_append (k : Nat) (ps qs : List Placement) :
    marksOn k (ps ++ qs) = marksOn k ps ++ marksOn k qs :=
  List.filterMap_append

theorem rowsUnder_append (k : Nat) (ps qs : List Placement) :
    rowsUnder k (ps ++ qs) = rowsUnder k ps ++ rowsUnder k qs :=
  List.filterMap_append

/-- Placements for other lines do not count for a line. -/
theorem on_eq_nil {k : Nat} {ps : List Placement} (h : ∀ p ∈ ps, p.line ≠ k) :
    marksOn k ps = [] ∧ rowsUnder k ps = [] := by
  unfold marksOn rowsUnder
  constructor
  · apply List.filterMap_eq_nil_iff.2
    intro p hp
    cases p with
    | attach i m => exact if_neg (h _ hp)
    | insert i row => rfl
  · apply List.filterMap_eq_nil_iff.2
    intro p hp
    cases p with
    | attach i m => rfl
    | insert i row => exact if_neg (h _ hp)

/-- Moved placements count for the line moved like them. -/
theorem on_map_shift (n k : Nat) (ps : List Placement) :
    marksOn (n + k) (ps.map (shift n)) = marksOn k ps ∧
      rowsUnder (n + k) (ps.map (shift n)) = rowsUnder k ps := by
  unfold marksOn rowsUnder
  rw [List.filterMap_map, List.filterMap_map]
  constructor
  · congr 1
    funext p
    exact markOn?_shift n k p
  · congr 1
    funext p
    exact rowUnder?_shift n k p

end Placement

namespace LineTable

variable {t u : LineTable} {ps qs : List Placement}

/-- On the lines of the first table, only the placements in front count. -/
theorem lineRows_concat_left (hqs : ∀ q ∈ qs, 0 ≤ q.line) {lk : String × Nat}
    (hk : lk.2 < t.lines.length) :
    (t.concat u).lineRows (ps ++ qs.map (Placement.shift t.lines.length)) lk = t.lineRows ps lk := by
  have hother : ∀ p ∈ qs.map (Placement.shift t.lines.length), p.line ≠ lk.2 := by
    intro p hp
    obtain ⟨q, hq, rfl⟩ := List.mem_map.1 hp
    have h0 := hqs q hq
    have hline : (q.shift t.lines.length).line = t.lines.length + q.line := by
      cases q <;> rfl
    omega
  obtain ⟨hmarks, hrows⟩ := Placement.on_eq_nil hother
  unfold lineRows
  rw [Placement.marksOn_append, Placement.rowsUnder_append, hmarks, hrows, List.append_nil,
    List.append_nil]
  rfl

/-- On the lines of the second table, only the moved placements count. -/
theorem lineRows_concat_right (hnumber : u.firstNumber = t.firstNumber + t.lines.length)
    (hps : ∀ p ∈ ps, p.line < t.lines.length) (lk : String × Nat) :
    (t.concat u).lineRows (ps ++ qs.map (Placement.shift t.lines.length))
      (lk.1, t.lines.length + lk.2) = u.lineRows qs lk := by
  have hother : ∀ p ∈ ps, p.line ≠ (t.lines.length + lk.2 : Nat) := by
    intro p hp
    have hlt := hps p hp
    omega
  have hnumbers : (t.concat u).number (t.lines.length + lk.2 : Nat) = u.number lk.2 := by
    show t.firstNumber + ((t.lines.length + lk.2 : Nat) : Int) = u.firstNumber + lk.2
    omega
  obtain ⟨hmarks, hrows⟩ := Placement.on_eq_nil hother
  obtain ⟨hmarks', hrows'⟩ := Placement.on_map_shift t.lines.length lk.2 qs
  unfold lineRows
  rw [Placement.marksOn_append, Placement.rowsUnder_append, hmarks, hrows, hmarks', hrows', hnumbers]
  rfl

/-- The body of two tables is the two bodies one behind the other. -/
theorem body_concat (hnumber : u.firstNumber = t.firstNumber + t.lines.length)
    (hps : ∀ p ∈ ps, p.line < t.lines.length) (hqs : ∀ q ∈ qs, 0 ≤ q.line) :
    (t.concat u).body (ps ++ qs.map (Placement.shift t.lines.length)) = t.body ps ++ u.body qs := by
  have hlines : (t.concat u).lines.zipIdx =
      t.lines.zipIdx ++ u.lines.zipIdx.map fun lk => (lk.1, t.lines.length + lk.2) := by
    have hsecond : u.lines.zipIdx t.lines.length =
        u.lines.zipIdx.map fun lk => (lk.1, t.lines.length + lk.2) := List.zipIdx_eq_map_add
    unfold concat
    rw [List.zipIdx_append, Nat.zero_add, hsecond]
  have hleft : ∀ lk ∈ t.lines.zipIdx,
      (t.concat u).lineRows (ps ++ qs.map (Placement.shift t.lines.length)) lk = t.lineRows ps lk := by
    intro lk hlk
    exact lineRows_concat_left hqs (by simpa using List.snd_lt_of_mem_zipIdx hlk)
  rw [body_eq, body_eq, body_eq, hlines, List.flatMap_append, List.flatMap_map,
    List.flatMap_congr hleft]
  congr 1
  exact List.flatMap_congr fun lk _ => lineRows_concat_right hnumber hps lk

end LineTable

/-! ## Snippets -/

namespace Snippet

variable (s u : Snippet)

/-- The source of a snippet behind that of another one, with the annotations of both. -/
def concat : Description :=
  { source := s.source ++ u.source
    firstNumber := s.firstNumber
    origin := s.origin
    annotations := s.annotations ++ u.annotations.map fun b => b.shift s.table.size }

theorem table_concat (hend : s.source = "" ∨ s.source.toList.getLast? = some '\n') :
    (s.concat u).table = s.table.concat u.table := by
  show LineTable.mk (splitLines (s.source ++ u.source)) s.firstNumber = _
  rw [splitLines_append hend]
  rfl

theorem valid_concat (hend : s.source = "" ∨ s.source.toList.getLast? = some '\n') :
    (s.concat u).Valid := by
  refine ⟨?_, ?_, ?_⟩
  · intro i hi
    cases hi
  · intro i hi
    cases hi
  · rw [s.table_concat u hend]
    intro a ha
    rcases List.mem_append.1 ha with ha | ha
    · exact s.table.fits_concat_left u.table (s.valid.fits a ha)
    · obtain ⟨b, hb, rfl⟩ := List.mem_map.1 ha
      exact s.table.fits_concat_right u.table (u.valid.fits b hb)

/-- A source that is empty or ends with a complete line can be continued: with the source of a snippet
behind it, numbered on, and the annotations of both, those behind moved by the offsets that the lines in
front take, it is a snippet again. Its body is that of the first snippet followed by that of the second
one, and its warnings are theirs, those of the second moved alike. -/
theorem body_warnings_concat (horigin : u.origin = s.origin)
    (hend : s.source = "" ∨ s.source.toList.getLast? = some '\n')
    (hnumber : u.firstNumber = s.firstNumber + s.table.lines.length) :
    ∃ c : Snippet, (s.concat u).check = .ok c ∧ c.toDescription = s.concat u ∧
      c.table.body c.plan.placements =
        s.table.body s.plan.placements ++ u.table.body u.plan.placements ∧
      c.warnings = s.warnings ++ u.warnings.map (LayoutWarning.shift s.table.size) := by
  have hplacements : ((s.concat u).table.plan (s.concat u).annotations).placements =
      s.plan.placements ++ u.plan.placements.map (Placement.shift s.table.lines.length) := by
    rw [s.table_concat u hend]
    exact LineTable.plan_placements_concat s.valid.fits u.annotations
  have hpending : ((s.concat u).table.plan (s.concat u).annotations).pending =
      s.plan.pending ++ u.plan.pending.map fun b => b.shift s.table.size := by
    rw [s.table_concat u hend]
    exact LineTable.plan_pending_concat s.valid.fits u.annotations
  refine ⟨⟨s.concat u, s.valid_concat u hend⟩, check_toDescription ⟨s.concat u, _⟩, rfl,
    ?_, ?_⟩
  · -- no placement leaves the lines of its own table
    show (s.concat u).table.body ((s.concat u).table.plan (s.concat u).annotations).placements = _
    rw [hplacements, s.table_concat u hend]
    apply LineTable.body_concat hnumber
    · intro p hp
      obtain ⟨k, hk, hline⟩ := LineTable.exists_line_of_mem_plan hp
      omega
    · intro q hq
      obtain ⟨k, -, hline⟩ := LineTable.exists_line_of_mem_plan hq
      omega
  · show ((s.concat u).table.plan (s.concat u).annotations).pending.map
      (LayoutWarning.ofPending s.origin) = _
    unfold warnings
    rw [hpending, horigin, List.map_append, List.map_map, List.map_map]
    congr 2
    funext a
    exact LayoutWarning.ofPending_shift s.origin s.table.size a

/-- Two lines, the second one empty, and two more. Each pair has an annotation over both lines and one
without an end. -/
theorem body_warnings_concat_of_four_lines :
    let upper : Description :=
      { source := "ab\n\n"
        annotations := [⟨.error, none, none, .span 1 5 (by decide) (by decide)⟩,
          ⟨.warning, none, some "u", .dangling 0 (by decide)⟩] }
    let lower : Description :=
      { source := "c\r\nd", firstNumber := 3
        annotations := [⟨.warning, none, some "v", .dangling 3 (by decide)⟩,
          ⟨.error, none, none, .span 0 4 (by decide) (by decide)⟩] }
    ∃ s u : Snippet, s.toDescription = upper ∧ u.toDescription = lower ∧
      u.origin = s.origin ∧ (s.source = "" ∨ s.source.toList.getLast? = some '\n') ∧
      u.firstNumber = s.firstNumber + s.table.lines.length ∧
      ∃ c : Snippet, (s.concat u).check = .ok c ∧
        c.table.body c.plan.placements =
          [.source 1 [] "ab", .caption ⟨[.through], 1, 2, "", .multilineStart⟩,
            .source 2 [.through] "", .caption ⟨[.through], 1, 2, "", .multilineEnd⟩,
            .source 3 [.start] "c",
            .source 4 [.through] "d", .caption ⟨[.through], 1, 2, "", .multilineEnd⟩] ∧
        c.warnings.map LayoutWarning.offset = [some 0, some 9] := by
  intro upper lower
  have hupper : upper.Valid := by
    rw [← Description.problem?_eq_none_iff]
    decide
  have hlower : lower.Valid := by
    rw [← Description.problem?_eq_none_iff]
    decide
  have hend : upper.source.toList.getLast? = some '\n' := by decide
  have hnumber : lower.firstNumber = upper.firstNumber + upper.table.lines.length := by decide
  obtain ⟨c, hcheck, -, hbody, hwarnings⟩ :=
    body_warnings_concat ⟨upper, hupper⟩ ⟨lower, hlower⟩ rfl (.inr hend) hnumber
  refine ⟨⟨upper, hupper⟩, ⟨lower, hlower⟩, rfl, rfl, rfl, .inr hend, hnumber, c, hcheck, ?_, ?_⟩
  · rw [hbody]
    show upper.table.body (upper.table.plan upper.annotations).placements ++
      lower.table.body (lower.table.plan lower.annotations).placements = _
    decide
  · rw [hwarnings]
    show ((upper.table.plan upper.annotations).pending.map (LayoutWarning.ofPending none) ++
      ((lower.table.plan lower.annotations).pending.map (LayoutWarning.ofPending none)).map
        (LayoutWarning.shift upper.table.size)).map LayoutWarning.offset = _
    decide

end Snippet

end CodeFrame
