import CodeFrame.Proofs.Layout.Shares
import CodeFrame.Proofs.Source.Coordinates

/-!
# The relations along the lines of a source

Line after line, an annotation that starts and ends is ahead of the lines, then placed, then behind the
lines. The relations that it has to the lines one after the other make a word, and only a few forms of
words occur (`EndingWord`, `OpenWord`): which one it is, is told by the lines that hold its two offsets
(`LineTable.relations_form_word`). Behind the line that resolves it there is no relation any more, so it
makes no difference that the walk over the lines drops it there.
-/

namespace CodeFrame

/-! ## Words -/

/-- What an annotation that ends on a line is to the lines in their order. -/
inductive EndingWord : List (Option Relation) → Prop
  /-- Ahead of some lines, inside one, and behind the others. -/
  | inside (front behind : Nat) :
    EndingWord (.replicate front (some .ahead) ++ some .contained :: .replicate behind none)
  /-- Ahead of some lines, from one of them over some to another one, and behind the others. -/
  | across (front between behind : Nat) :
    EndingWord (.replicate front (some .ahead) ++ some .starts :: .replicate between (some .through) ++
      some .ends :: .replicate behind none)

/-- What an annotation that ends on no line is to the lines in their order. -/
inductive OpenWord : List (Option Relation) → Prop
  /-- Ahead of all lines. -/
  | ahead (front : Nat) : OpenWord (.replicate front (some .ahead))
  /-- Ahead of some lines, and from one of them over all that follow. -/
  | begun (front between : Nat) :
    OpenWord (.replicate front (some .ahead) ++ some .starts :: .replicate between (some .through))

theorem EndingWord.exists_resolving {word : List (Option Relation)} (h : EndingWord word) :
    ∃ rel, some rel ∈ word ∧ rel.isResolving := by
  cases h with
  | inside front behind => exact ⟨.contained, by simp, rfl⟩
  | across front between behind => exact ⟨.ends, by simp, rfl⟩

theorem OpenWord.not_isResolving {word : List (Option Relation)} (h : OpenWord word) {rel : Relation}
    (hrel : some rel ∈ word) : ¬ rel.isResolving := by
  cases h with
  | ahead front =>
    obtain rfl : rel = .ahead := Option.some.inj (List.eq_of_mem_replicate hrel)
    decide
  | begun front between =>
    rcases List.mem_append.1 hrel with hrel | hrel
    · obtain rfl : rel = .ahead := Option.some.inj (List.eq_of_mem_replicate hrel)
      decide
    rcases List.mem_cons.1 hrel with hrel | hrel
    · obtain rfl : rel = .starts := Option.some.inj hrel
      decide
    · obtain rfl : rel = .through := Option.some.inj (List.eq_of_mem_replicate hrel)
      decide

/-- No word has both forms: only an annotation that ends on a line has a line that resolves it. -/
theorem EndingWord.not_openWord {word : List (Option Relation)} (h : EndingWord word) :
    ¬ OpenWord word := by
  intro hopen
  obtain ⟨rel, hmem, hrel⟩ := h.exists_resolving
  exact hopen.not_isResolving hmem hrel

/-! ## Stretches of lines -/

section

variable {α : Type} {f : Nat → α} {x : α} {first count k : Nat}

/-- Where a function has the same value for all numbers in a row, its values repeat this one. -/
theorem map_range'_eq_replicate (h : ∀ j, first ≤ j → j < first + count → f j = x) :
    (List.range' first count).map f = .replicate count x := by
  have hall : ∀ j ∈ List.range' first count, f j = x := by
    intro j hj
    obtain ⟨h1, h2⟩ := List.mem_range'_1.1 hj
    exact h j h1 h2
  rw [List.map_eq_replicate_iff.2 hall, List.length_range']

/-- Where it has the same value for all numbers in front of `k`, its values repeat this one up to there. -/
theorem map_range'_eq_append_cons (hk : first ≤ k) (hk' : k < first + count)
    (h : ∀ j, first ≤ j → j < k → f j = x) :
    (List.range' first count).map f =
      .replicate (k - first) x ++ f k :: (List.range' (k + 1) (first + count - k - 1)).map f := by
  have hcount : count = (k - first) + (1 + (first + count - k - 1)) := by omega
  have hfirst : first + (k - first) = k := by omega
  have hfront : (List.range' first (k - first)).map f = .replicate (k - first) x :=
    map_range'_eq_replicate fun j hj hj' => h j hj (by omega)
  conv => lhs; rw [hcount]
  rw [← List.range'_append_1, hfirst, Nat.add_comm 1, List.range'_succ, List.map_append, hfront,
    List.map_cons]

end

namespace LineTable

variable (t : LineTable)

/-- The relations of an anchor to the lines, in the order of the lines. -/
def relations (a : Anchor) : List (Option Relation) :=
  t.ranges.map fun r => a.relation? r

theorem relations_eq_map (a : Anchor) :
    t.relations a = (List.range' 0 t.lines.length).map fun k =>
      a.relation? ⟨t.start k, t.start (k + 1) - 1⟩ := by
  apply List.ext_getElem
  · rw [relations, List.length_map, length_ranges, List.length_map, List.length_range']
  · intro k hk hk'
    rw [relations, List.length_map] at hk
    simp only [relations, List.getElem_map, getElem_ranges hk, List.getElem_range', Nat.one_mul,
      Nat.zero_add]

/-! ## The words of spans -/

variable {t} {start stop : Int} {h0 : 0 ≤ start} {hle : start ≤ stop} {i j k : Nat}

variable (h0 hle) in
/-- How a span lies to line `k`, told by the lines of its start and of its end. -/
theorem relation?_of_lines (hk : k < t.lines.length) (hi : t.lineOf? start = some i)
    (hj : t.lineOf? stop = some j) :
    (Anchor.span start stop h0 hle).relation? ⟨t.start k, t.start (k + 1) - 1⟩ =
      if k < i then some .ahead
      else if i = k then some (if j = k then .contained else .starts)
      else if j = k then some .ends
      else if j < k then none
      else some .through := by
  rw [ Annotation.relation?_of_lineOf? hk hi, hj]
  simp only [Option.some.injEq, lt_start_iff hj]

variable (h0 hle) in
/-- How a span that ends on no line lies to line `k`, told by the line of its start. -/
theorem relation?_of_no_last_line (hk : k < t.lines.length) (hi : t.lineOf? start = some i)
    (hstop : t.lineOf? stop = none) :
    (Anchor.span start stop h0 hle).relation? ⟨t.start k, t.start (k + 1) - 1⟩ =
      if k < i then some .ahead else if i = k then some .starts else some .through := by
  have hbehind := start_le_of_lineOf?_eq_none (by omega : 0 ≤ stop) hstop k
  rw [ Annotation.relation?_of_lineOf? hk hi, hstop]
  simp only [reduceCtorEq, if_false, Int.not_lt.2 hbehind]

theorem relations_of_one_line (hi : t.lineOf? start = some i) (hj : t.lineOf? stop = some i) :
    t.relations (.span start stop h0 hle) =
      .replicate i (some .ahead) ++ some .contained :: .replicate (t.lines.length - i - 1) none := by
  have hlt := (t.lineOf?_eq_some_iff.1 hi).1
  have hrel := fun k (hk : k < t.lines.length) =>
    relation?_of_lines h0 hle hk hi hj
  rw [relations_eq_map, map_range'_eq_append_cons (x := some .ahead) (Nat.zero_le i) (by omega),
    map_range'_eq_replicate (x := none), hrel i hlt]
  · simp
  · intro k hk hk'
    rw [hrel k (by omega), if_neg (by omega), if_neg (by omega), if_neg (by omega), if_pos (by omega)]
  · intro k _ hk
    rw [hrel k (by omega), if_pos (by omega)]

theorem relations_of_two_lines (hi : t.lineOf? start = some i) (hj : t.lineOf? stop = some j)
    (hij : i < j) :
    t.relations (.span start stop h0 hle) =
      .replicate i (some .ahead) ++ some .starts :: .replicate (j - i - 1) (some .through) ++
        some .ends :: .replicate (t.lines.length - j - 1) none := by
  have hlt := (t.lineOf?_eq_some_iff.1 hj).1
  have hrel := fun k (hk : k < t.lines.length) =>
    relation?_of_lines h0 hle hk hi hj
  have hbehind : i + 1 + (0 + t.lines.length - i - 1) - j - 1 = t.lines.length - j - 1 := by omega
  rw [relations_eq_map, map_range'_eq_append_cons (x := some .ahead) (Nat.zero_le i) (by omega),
    map_range'_eq_append_cons (x := some .through) (k := j) hij (by omega),
    map_range'_eq_replicate (x := none), hrel i (by omega), hrel j hlt]
  · rw [hbehind]
    simp [Nat.lt_asymm hij, Nat.ne_of_lt hij, Nat.ne_of_gt hij, Nat.sub_sub]
  · intro k hk hk'
    rw [hrel k (by omega), if_neg (by omega), if_neg (by omega), if_neg (by omega), if_pos (by omega)]
  · intro k hk hk'
    rw [hrel k (by omega), if_neg (by omega), if_neg (by omega), if_neg (by omega), if_neg (by omega)]
  · intro k _ hk
    rw [hrel k (by omega), if_pos (by omega)]

theorem relations_of_no_last_line (hi : t.lineOf? start = some i) (hstop : t.lineOf? stop = none) :
    t.relations (.span start stop h0 hle) =
      .replicate i (some .ahead) ++
        some .starts :: .replicate (t.lines.length - i - 1) (some .through) := by
  have hlt := (t.lineOf?_eq_some_iff.1 hi).1
  have hrel := fun k (hk : k < t.lines.length) =>
    relation?_of_no_last_line h0 hle hk hi hstop
  rw [relations_eq_map, map_range'_eq_append_cons (x := some .ahead) (Nat.zero_le i) (by omega),
    map_range'_eq_replicate (x := some .through), hrel i hlt]
  · simp
  · intro k hk hk'
    rw [hrel k (by omega), if_neg (by omega), if_neg (by omega)]
  · intro k _ hk
    rw [hrel k (by omega), if_pos (by omega)]

theorem relations_of_no_first_line (hstart : t.lineOf? start = none) :
    t.relations (.span start stop h0 hle) = .replicate t.lines.length (some .ahead) := by
  rw [relations_eq_map, map_range'_eq_replicate]
  intro k _ _
  exact Annotation.relation?_of_lineOf?_eq_none hstart

/-- A span that ends on a line makes a word with an end, and any other span makes one without. -/
theorem word_of_span (t : LineTable) (start stop : Int) (h0 : 0 ≤ start) (hle : start ≤ stop) :
    (∃ j, t.lineOf? stop = some j) ∧ EndingWord (t.relations (.span start stop h0 hle)) ∨
      t.lineOf? stop = none ∧ OpenWord (t.relations (.span start stop h0 hle)) := by
  cases hstop : t.lineOf? stop with
  | some j =>
    left
    refine ⟨⟨j, rfl⟩, ?_⟩
    obtain ⟨i, hi⟩ := Annotation.exists_lineOf?_start h0 hle hstop
    have hij := Annotation.le_of_lineOf? hle hi hstop
    rcases Nat.eq_or_lt_of_le hij with rfl | hij
    · rw [relations_of_one_line hi hstop]
      exact .inside _ _
    · rw [relations_of_two_lines hi hstop hij]
      exact .across _ _ _
  | none =>
    right
    refine ⟨rfl, ?_⟩
    cases hstart : t.lineOf? start with
    | some i =>
      rw [relations_of_no_last_line hstart hstop]
      exact .begun _ _
    | none =>
      rw [relations_of_no_first_line hstart]
      exact .ahead _

end LineTable

/-! ## Dropping annotations -/

/-- What starts nowhere is not placed. -/
theorem Annotation.placeOn_of_start?_eq_none {a : Annotation} (h : a.anchor.start? = none) (k : Nat)
    (r : LineRange) : a.placeOn k r = [] := by
  unfold Annotation.placeOn
  cases hanchor : a.anchor with
  | unplaced => rfl
  | dangling s h0 =>
    rw [hanchor] at h
    cases h
  | span s e h0 hle =>
    rw [hanchor] at h
    cases h

namespace LineTable

/-- The walk drops an annotation behind the line that resolves it, and places what it would place if every
annotation met every line. -/
theorem plan_placements_eq_all (t : LineTable) (as : List Annotation) :
    (t.plan as).placements =
      t.ranges.zipIdx.flatMap fun rk => as.flatMap fun a => a.placeOn rk.2 rk.1 := by
  unfold plan
  rw [planFrom_eq t.ranges_pairwise fun r hr => t.first_le_last hr]
  apply List.flatMap_congr
  intro rk _
  apply flatMap_filter_of_eq_nil
  intro a _ ha
  exact Annotation.placeOn_of_start?_eq_none (by simpa using ha) rk.2 rk.1

/-- The relations of an annotation with an end to the lines in their order make a word of one of four forms.
It ends within the source exactly if the word is one of those that reach the end; beyond the extent, or
without lines, it is one of the others. And an annotation that is dropped behind the line that resolves it
is missed nowhere: the plan is what it would be if every annotation met every line. -/
theorem relations_form_word (t : LineTable) :
    (∀ (a : Anchor) (stop : Int), a.stop? = some stop →
      ((∃ extent ∈ t.extent?, stop ≤ extent) ↔ EndingWord (t.relations a)) ∧
      ((t.extent? = none ∨ ∃ extent ∈ t.extent?, extent < stop) ↔ OpenWord (t.relations a))) ∧
    ∀ as : List Annotation, (t.plan as).placements =
      t.ranges.zipIdx.flatMap fun rk => as.flatMap fun a => a.placeOn rk.2 rk.1 := by
  refine ⟨?_, t.plan_placements_eq_all⟩
  intro a last hlast
  cases a with
  | unplaced => cases hlast
  | dangling start h0 => cases hlast
  | span start stop h0 hle =>
    obtain rfl : stop = last := Option.some.inj hlast
    have hline : (∃ extent ∈ t.extent?, stop ≤ extent) ↔ ∃ j, t.lineOf? stop = some j := by
      rw [← mem_offsets_iff]
      exact (and_iff_right (Int.le_trans h0 hle)).symm
    have hbeyond : (t.extent? = none ∨ ∃ extent ∈ t.extent?, extent < stop) ↔
        ¬ ∃ extent ∈ t.extent?, stop ≤ extent := by
      cases t.extent? with
      | none => simp
      | some extent => simp
    rw [hbeyond, hline]
    rcases t.word_of_span start stop h0 hle with ⟨hstop, hword⟩ | ⟨hstop, hword⟩
    · exact ⟨iff_of_true hstop hword, iff_of_false (not_not_intro hstop) hword.not_openWord⟩
    · have hnone : ¬ ∃ j, t.lineOf? stop = some j := by simp [hstop]
      exact ⟨iff_of_false hnone fun h => h.not_openWord hword, iff_of_true hnone hword⟩

example :
    let t : LineTable := ⟨["ab", "", "cde"], 1⟩
    t.relations (.span 1 7 (by decide) (by decide)) = [some .starts, some .through, some .ends] ∧
      t.relations (.span 4 5 (by decide) (by decide)) = [some .ahead, some .contained, none] ∧
      t.relations (.span 5 11 (by decide) (by decide)) = [some .ahead, some .starts, some .through] := by
  decide

end LineTable

end CodeFrame
