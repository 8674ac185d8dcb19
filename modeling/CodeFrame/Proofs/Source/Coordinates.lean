import CodeFrame.Proofs.Source.Tiling
import Mathlib.Data.List.Chain
import Mathlib.Data.List.Forall2
import Mathlib.Data.Prod.Lex
import Mathlib.Data.Set.Function

/-!
# Offsets, rows and columns

The offsets of a source and the places in its lines are two names for the same things. Offsets run
through the lines in their order, and in each line through its columns: one for each character, one for
the end of the line and one for the step to the next line. So each offset has one place and each place one
offset, and a later offset has a later place (`LineTable.offsets_match_places`).
-/

namespace CodeFrame

namespace LineTable

variable (t : LineTable)

/-- The offsets of a source, up to its extent. A source without lines has none. -/
def offsets : Set Int :=
  {p | 0 ≤ p ∧ ∃ e ∈ t.extent?, p ≤ e}

/-- The places of a source: the number of a line and a column of that line. -/
def places : Set (Int × Int) :=
  {q | ∃ (i : Nat) (l : String), t.lines[i]? = some l ∧ q.1 = t.number i ∧ 1 ≤ q.2 ∧ q.2 ≤ l.length + 2}

/-- The ranges of the lines follow each other from offset zero up to the extent, with nothing between them
and no offset in two of them. -/
structure Tiled : Prop where
  widths : List.Forall₂ (fun l r => r.last - r.first = (l.length : Int) + 1) t.lines t.ranges
  first : ∀ r ∈ t.ranges.head?, r.first = 0
  next : t.ranges.IsChain fun r r' => r'.first = r.last + 1
  last : t.ranges.getLast?.map LineRange.last = t.extent?
  none : t.extent? = none ↔ t.lines = []

variable {t} {p : Int} {i : Nat}

/-! ## Ranges -/

theorem getElem_ranges (h : i < t.ranges.length) :
    t.ranges[i] = ⟨t.start i, t.start (i + 1) - 1⟩ := by
  have hrange := t.getElem?_ranges_of_lt (by simpa using h)
  exact (List.getElem?_eq_some_iff.1 hrange).2

variable (t) in
theorem tiled : t.Tiled where
  widths := by
    rw [List.forall₂_iff_get]
    refine ⟨t.length_ranges.symm, fun i hl hr => ?_⟩
    have hstart := t.start_succ (List.getElem?_eq_getElem hl)
    rw [List.get_eq_getElem, List.get_eq_getElem, getElem_ranges hr]
    show t.start (i + 1) - 1 - t.start i = (t.lines[i].length : Int) + 1
    omega
  first := by
    intro r hr
    rw [List.head?_eq_getElem?] at hr
    obtain ⟨hlt, rfl⟩ := List.getElem?_eq_some_iff.1 hr
    rw [getElem_ranges hlt]
    exact t.start_zero
  next := by
    rw [List.isChain_iff_getElem]
    intro i hi
    rw [getElem_ranges hi, getElem_ranges (Nat.lt_of_succ_lt hi)]
    show t.start (i + 1) = t.start (i + 1) - 1 + 1
    omega
  last := rfl
  none := by
    rw [extent?_eq]
    split <;> simp_all

/-- An offset lies in the range of its line and in no other. -/
theorem exists_range_iff (h : t.lineOf? p = some i) (j : Nat) :
    (∃ r ∈ t.ranges[j]?, p ∈ r) ↔ j = i := by
  obtain ⟨hi, hfirst, hlast⟩ := t.lineOf?_eq_some_iff.1 h
  constructor
  · rintro ⟨r, hr, hmem⟩
    obtain ⟨hj, rfl⟩ := List.getElem?_eq_some_iff.1 hr
    rw [getElem_ranges hj, LineRange.mem_def] at hmem
    have hline : t.lineOf? p = some j :=
      t.lineOf?_eq_some_iff.2 ⟨by simpa using hj, hmem.1, Int.lt_of_le_sub_one hmem.2⟩
    rw [h, Option.some.injEq] at hline
    exact hline.symm
  · rintro rfl
    exact ⟨_, t.getElem?_ranges_of_lt hi, hfirst, Int.le_sub_one_of_lt hlast⟩

/-! ## The line of an offset -/

/-- The offsets of a source are those that lie on a line. -/
theorem mem_offsets_iff : p ∈ t.offsets ↔ ∃ i, t.lineOf? p = some i := by
  have hextent : p ∈ t.offsets ↔ 0 ≤ p ∧ p < t.start t.lines.length := by
    show 0 ≤ p ∧ (∃ e ∈ t.extent?, p ≤ e) ↔ _
    rw [extent?_eq]
    by_cases hnil : t.lines = []
    · simp [hnil]
    · rw [if_neg hnil]
      simp only [Option.mem_some_iff, exists_eq_left', Int.le_sub_one_iff]
  rw [hextent]
  constructor
  · rintro ⟨h0, hlt⟩
    exact t.exists_lineOf? h0 hlt
  · rintro ⟨i, hi⟩
    obtain ⟨hi, hfirst, hlast⟩ := t.lineOf?_eq_some_iff.1 hi
    have hend := t.start_le_start (by omega : i + 1 ≤ t.lines.length)
    exact ⟨Int.le_trans (t.start_nonneg i) hfirst, Int.lt_of_lt_of_le hlast hend⟩

/-- Exactly the other offsets are refused. -/
theorem lineIndex_eq_error_iff : t.lineIndex p = .error ⟨p, t.extent?⟩ ↔ p ∉ t.offsets := by
  have hmem : p ∈ t.offsets ↔ 0 ≤ p ∧ ∃ e ∈ t.extent?, p ≤ e := Iff.rfl
  rw [hmem]
  unfold lineIndex
  cases t.extent? with
  | none => simp
  | some e =>
    by_cases hp : 0 ≤ p ∧ p ≤ e
    · simp [hp]
    · simp only [if_neg hp, Option.mem_some_iff, exists_eq_left']
      exact ⟨fun _ => hp, fun _ => trivial⟩

/-- The place of an offset is counted from the start of its line. -/
theorem locate_eq_ok_iff {q : Int × Int} :
    t.locate p = .ok q ↔ ∃ i, t.lineOf? p = some i ∧ q = (t.number i, p - t.start i + 1) := by
  constructor
  · intro h
    by_cases hp : p ∈ t.offsets
    · obtain ⟨i, hi⟩ := mem_offsets_iff.1 hp
      rw [t.locate_eq_ok hi, Except.ok.injEq] at h
      exact ⟨i, hi, h.symm⟩
    · unfold locate at h
      rw [lineIndex_eq_error_iff.2 hp] at h
      cases h
  · rintro ⟨i, hi, rfl⟩
    exact t.locate_eq_ok hi

/-- Line `i` has its offsets at its columns. -/
theorem lineOf?_add_column {l : String} (hl : t.lines[i]? = some l) {c : Int} (hc : 1 ≤ c)
    (hc' : c ≤ l.length + 2) : t.lineOf? (t.start i + (c - 1)) = some i := by
  have hstart := t.start_succ hl
  rw [t.lineOf?_eq_some_iff]
  exact ⟨(List.getElem?_eq_some_iff.1 hl).1, by omega, by omega⟩

/-- A later offset is not on an earlier line. -/
theorem line_le_line {p' : Int} {j : Nat} (hp : t.lineOf? p = some i) (hp' : t.lineOf? p' = some j)
    (hlt : p < p') : i ≤ j := by
  obtain ⟨-, hfirst, -⟩ := t.lineOf?_eq_some_iff.1 hp
  obtain ⟨-, -, hlast⟩ := t.lineOf?_eq_some_iff.1 hp'
  by_contra hji
  have hle := t.start_le_start (by omega : j + 1 ≤ i)
  omega

/-! ## Places -/

variable (t)

/-- Each offset has a place of its own, and each place has an offset. -/
theorem bijOn_locate : Set.BijOn t.locate t.offsets (Except.ok '' t.places) := by
  refine ⟨?_, ?_, ?_⟩
  · intro p hp
    obtain ⟨i, hi⟩ := mem_offsets_iff.1 hp
    obtain ⟨hlt, hfirst, hlast⟩ := t.lineOf?_eq_some_iff.1 hi
    have hline := List.getElem?_eq_getElem hlt
    have hstart := t.start_succ hline
    exact ⟨_, ⟨i, _, hline, rfl, by dsimp only; omega, by dsimp only; omega⟩, (t.locate_eq_ok hi).symm⟩
  · intro p hp p' hp' heq
    obtain ⟨i, hi⟩ := mem_offsets_iff.1 hp
    obtain ⟨j, hj⟩ := mem_offsets_iff.1 hp'
    rw [t.locate_eq_ok hi, t.locate_eq_ok hj, Except.ok.injEq, Prod.mk.injEq] at heq
    obtain ⟨hrow, hcolumn⟩ := heq
    have hij : i = j := by
      have hnumber : t.firstNumber + (i : Int) = t.firstNumber + j := hrow
      omega
    subst hij
    omega
  · rintro _ ⟨⟨row, c⟩, ⟨i, l, hl, rfl, hc, hc'⟩, rfl⟩
    have hline := lineOf?_add_column hl hc hc'
    refine ⟨t.start i + (c - 1), mem_offsets_iff.2 ⟨i, hline⟩, ?_⟩
    rw [t.locate_eq_ok hline]
    congr 2
    omega

variable {t} in
/-- Places come in the order of their offsets. -/
theorem toLex_lt_toLex_of_locate {p' : Int} {q q' : Int × Int} (hp : t.locate p = .ok q)
    (hp' : t.locate p' = .ok q') (hlt : p < p') : toLex q < toLex q' := by
  obtain ⟨i, hi, rfl⟩ := locate_eq_ok_iff.1 hp
  obtain ⟨j, hj, rfl⟩ := locate_eq_ok_iff.1 hp'
  rw [Prod.Lex.toLex_lt_toLex]
  rcases Nat.lt_or_eq_of_le (line_le_line hi hj hlt) with hij | rfl
  · left
    show t.firstNumber + (i : Int) < t.firstNumber + (j : Int)
    omega
  · exact .inr ⟨rfl, by dsimp only; omega⟩

/-- The ranges of the lines tile the offsets of a source. The line of an offset is the only one whose
range holds it, and what is no offset is refused. Offsets and places are in bijection, and in the same
order. -/
theorem offsets_match_places :
    t.Tiled ∧
    (∀ p, t.lineIndex p = .error ⟨p, t.extent?⟩ ↔ p ∉ t.offsets) ∧
    (∀ p ∈ t.offsets, ∃ i, t.lineIndex p = .ok i ∧ ∀ j, (∃ r ∈ t.ranges[j]?, p ∈ r) ↔ j = i) ∧
    Set.BijOn t.locate t.offsets (Except.ok '' t.places) ∧
    ∀ p p' q q', t.locate p = .ok q → t.locate p' = .ok q' → p < p' → toLex q < toLex q' := by
  refine ⟨t.tiled, fun p => lineIndex_eq_error_iff, ?_, t.bijOn_locate, ?_⟩
  · intro p hp
    obtain ⟨i, hi⟩ := mem_offsets_iff.1 hp
    exact ⟨i, t.lineIndex_eq_ok hi, exists_range_iff hi⟩
  · intro p p' q q' hp hp' hlt
    exact toLex_lt_toLex_of_locate hp hp' hlt

example :
    let t : LineTable := ⟨["ab", ""], 7⟩
    [0, 1, 2, 3, 4, 5].map t.locate =
      [.ok (7, 1), .ok (7, 2), .ok (7, 3), .ok (7, 4), .ok (8, 1), .ok (8, 2)] := by
  decide

end LineTable

end CodeFrame
