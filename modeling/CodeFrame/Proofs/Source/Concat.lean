import CodeFrame.Proofs.Source.Tiling

/-!
# Line tables one behind the other

Behind the lines of a table, the lines of another one keep their places but for the offsets that the first
table takes. `LineTable.start_concat_right` says it of starts, `LineTable.lineOf?_concat_right` of offsets.
-/

namespace CodeFrame

namespace LineTable

variable (t u : LineTable)

/-- The number of offsets that the lines of a table take. -/
def size : Nat :=
  (t.lines.map fun l => l.length + 2).foldr (· + ·) 0

/-- The lines of two tables, numbered on from the first one. -/
def concat : LineTable :=
  ⟨t.lines ++ u.lines, t.firstNumber⟩

theorem length_lines_concat :
    (t.concat u).lines.length = t.lines.length + u.lines.length :=
  List.length_append

/-! ## Starts -/

/-- The offset behind the last line is the number of offsets. -/
theorem start_length : t.start t.lines.length = t.size := by
  unfold start size
  rw [List.take_length]
  induction t.lines with
  | nil => rfl
  | cons l ls ih =>
    simp only [List.map_cons, List.foldr_cons]
    omega

theorem start_concat_left {k : Nat} (hk : k ≤ t.lines.length) :
    (t.concat u).start k = t.start k := by
  unfold start concat
  rw [List.take_append_of_le_length hk]

theorem start_concat_right (k : Nat) :
    (t.concat u).start (t.lines.length + k) = t.size + u.start k := by
  rw [← start_length]
  unfold start concat
  rw [List.take_length_add_append, List.map_append, List.take_length, ← List.sum_eq_foldr,
    ← List.sum_eq_foldr, ← List.sum_eq_foldr, List.sum_append]

/-- Columns of the second table count from a start that has moved with them. -/
theorem sub_start_concat_right (p : Int) (k : Nat) :
    p + t.size - (t.concat u).start (t.lines.length + k) = p - u.start k := by
  rw [start_concat_right]
  omega

/-! ## Lines of offsets -/

/-- An offset of the first table stays on its line. -/
theorem lineOf?_concat_left {p : Int} {k : Nat} (h : t.lineOf? p = some k) :
    (t.concat u).lineOf? p = some k := by
  obtain ⟨hk, h1, h2⟩ := t.lineOf?_eq_some_iff.1 h
  rw [lineOf?_eq_some_iff, length_lines_concat, start_concat_left t u (by omega),
    start_concat_left t u (by omega)]
  exact ⟨by omega, h1, h2⟩

/-- An offset of the second table stays on its line, counted from behind the first table. -/
theorem lineOf?_concat_right {p : Int} (h0 : 0 ≤ p) :
    (t.concat u).lineOf? (p + t.size) = (u.lineOf? p).map (t.lines.length + ·) := by
  cases hp : u.lineOf? p with
  | none =>
    have hle := (u.lineOf?_eq_none_iff h0).1 hp
    rw [Option.map_none, lineOf?_eq_none_iff _ (by omega), length_lines_concat, start_concat_right]
    omega
  | some k =>
    obtain ⟨hk, h1, h2⟩ := u.lineOf?_eq_some_iff.1 hp
    rw [Option.map_some, lineOf?_eq_some_iff, length_lines_concat, start_concat_right,
      Nat.add_assoc, start_concat_right]
    exact ⟨by omega, by omega, by omega⟩

/-! ## Anchors -/

/-- What fits the first table fits both. -/
theorem fits_concat_left {a : Anchor} (h : a.Fits t.extent?) : a.Fits (t.concat u).extent? := by
  cases hlast : a.last? with
  | none => simp [Anchor.Fits, hlast]
  | some p =>
    have h0 : 0 ≤ p := Anchor.last?_nonneg hlast
    have hp := (t.fits_iff hlast h0).1 h
    have hu := u.start_nonneg u.lines.length
    rw [fits_iff _ hlast h0, length_lines_concat, start_concat_right, ← start_length]
    omega

end LineTable

namespace Anchor

theorem shift_nonneg {p : Int} (d : Nat) (h : 0 ≤ p) : 0 ≤ p + d := by
  omega

/-- The anchor with all its offsets increased. -/
def shift (d : Nat) : Anchor → Anchor
  | unplaced => unplaced
  | dangling s h => dangling (s + d) (shift_nonneg d h)
  | span s e h h' => span (s + d) (e + d) (shift_nonneg d h) (Int.add_le_add_right h' d)

@[simp] theorem start?_shift (d : Nat) (a : Anchor) :
    (a.shift d).start? = a.start?.map fun p => p + (d : Int) := by
  cases a <;> rfl

@[simp] theorem stop?_shift (d : Nat) (a : Anchor) :
    (a.shift d).stop? = a.stop?.map fun p => p + (d : Int) := by
  cases a <;> rfl

@[simp] theorem last?_shift (d : Nat) (a : Anchor) :
    (a.shift d).last? = a.last?.map fun p => p + (d : Int) := by
  cases a <;> rfl

end Anchor

/-- What fits the second table fits both behind the first one. -/
theorem LineTable.fits_concat_right (t u : LineTable) {a : Anchor} (h : a.Fits u.extent?) :
    (a.shift t.size).Fits (t.concat u).extent? := by
  cases hlast : a.last? with
  | none => simp [Anchor.Fits, hlast]
  | some p =>
    have h0 : 0 ≤ p := Anchor.last?_nonneg hlast
    have hp := (u.fits_iff hlast h0).1 h
    have hshift : (a.shift t.size).last? = some (p + t.size) := by
      rw [Anchor.last?_shift, hlast]
      rfl
    rw [fits_iff _ hshift (by omega), length_lines_concat, start_concat_right]
    omega

end CodeFrame
