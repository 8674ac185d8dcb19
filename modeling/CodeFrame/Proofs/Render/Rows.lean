import CodeFrame.Proofs.Json.Numbers
import CodeFrame.Render.Frame
import Mathlib.Data.List.DropRight
import Mathlib.Data.List.Infix

/-!
# The rows of a frame

What a drawn row is made of, styles aside. A row with a line number or under one has four columns: the
number, the gutter, the marks and the body (`Framed`). The first three have a width of their own, so the
body of every such row starts at the same place, and trimming the row trims its body and nothing else
(`framed_dropTrailingBlanks`).
-/

namespace CodeFrame

/-! ## Trimming -/

variable {α : Type} [Printable α]

@[simp] theorem dropTrailingBlanks_nil : dropTrailingBlanks ([] : List α) = [] := rfl

theorem isPrefix_dropTrailingBlanks (xs : List α) : dropTrailingBlanks xs <+: xs :=
  List.rdropWhile_prefix (fun x => isBlank (Printable.char x)) xs

theorem dropTrailingBlanks_append_eq (xs ys : List α) :
    dropTrailingBlanks (xs ++ ys) =
      if dropTrailingBlanks ys = [] then dropTrailingBlanks xs else xs ++ dropTrailingBlanks ys := by
  unfold dropTrailingBlanks
  rw [List.reverse_append, List.dropWhile_append]
  by_cases hys : (ys.reverse.dropWhile fun y => isBlank (Printable.char y)) = []
  · simp [hys]
  · simp [hys]

/-- What is left does not end with a blank. -/
theorem not_isBlank_of_getLast? {cs : List Char} {c : Char}
    (h : (dropTrailingBlanks cs).getLast? = some c) : ¬ isBlank c := by
  have hne : cs.rdropWhile isBlank ≠ [] := by
    intro hnil
    have hempty : dropTrailingBlanks cs = [] := hnil
    rw [hempty] at h
    cases h
  have hlast : some ((cs.rdropWhile isBlank).getLast hne) = some c :=
    (List.getLast?_eq_some_getLast hne).symm.trans h
  rw [← Option.some.inj hlast]
  exact List.rdropWhile_last_not isBlank cs hne

/-- What does not end with a blank is left as it is, and what stands in front of something is not trimmed
if it does not end with a blank. -/
theorem dropTrailingBlanks_append_of_not_blank {xs : List α}
    (h : ∀ x ∈ xs.getLast?, ¬ isBlank (Printable.char x)) (ys : List α) :
    dropTrailingBlanks (xs ++ ys) = xs ++ dropTrailingBlanks ys := by
  rw [dropTrailingBlanks_append_eq]
  by_cases hys : dropTrailingBlanks ys = []
  · rw [if_pos hys, hys, List.append_nil]
    apply List.rdropWhile_eq_self_iff.2
    intro hne
    exact h _ (List.getLast?_eq_some_getLast hne)
  · rw [if_neg hys]

theorem dropTrailingBlanks_of_not_blank {xs : List α}
    (h : ∀ x ∈ xs.getLast?, ¬ isBlank (Printable.char x)) : dropTrailingBlanks xs = xs := by
  have happend := dropTrailingBlanks_append_of_not_blank h []
  rwa [List.append_nil, dropTrailingBlanks_nil, List.append_nil] at happend

/-- Nothing up to a character that is no blank is trimmed. -/
theorem dropTrailingBlanks_append_cons {c : Char} (h : ¬ isBlank c) (xs ys : List Char) :
    dropTrailingBlanks (xs ++ c :: ys) = xs ++ c :: dropTrailingBlanks ys := by
  have hlast : ∀ d ∈ (xs ++ [c]).getLast?, ¬ isBlank d := by
    intro d hd
    rw [List.getLast?_concat] at hd
    rwa [← Option.some.inj hd]
  rw [List.append_cons, dropTrailingBlanks_append_of_not_blank hlast, ← List.append_cons]

/-- Trimming what stands behind a place is the same whatever stands in front of it. -/
theorem drop_dropTrailingBlanks_append (xs ys : List Char) :
    (dropTrailingBlanks (xs ++ ys)).drop xs.length = dropTrailingBlanks ys := by
  rw [dropTrailingBlanks_append_eq]
  by_cases hys : dropTrailingBlanks ys = []
  · have hle := (isPrefix_dropTrailingBlanks xs).length_le
    rw [if_pos hys, hys, List.drop_of_length_le hle]
  · rw [if_neg hys, List.drop_left]

/-! ## Characters of styled text -/

namespace StyledText

theorem chars_append (t : StyledText) (cs : List Char) (style : String) :
    (t.append cs style).chars = t.chars ++ cs.filter isStored := by
  unfold StyledText.append
  by_cases hcs : cs = []
  · rw [if_pos hcs, hcs, List.filter_nil, List.append_nil]
  · rw [if_neg hcs]

theorem chars_trimEnd (t : StyledText) : t.trimEnd.chars = dropTrailingBlanks t.chars := by
  unfold trimEnd
  by_cases hlt : (dropTrailingBlanks t.chars).length < t.chars.length
  · simp only [if_pos hlt]
  · simp only [if_neg hlt]
    exact ((isPrefix_dropTrailingBlanks t.chars).eq_of_length_le (Nat.le_of_not_lt hlt)).symm

/-- Rows one below the other are joined by line feeds. -/
theorem chars_stack (ts : List StyledText) :
    (stack ts).chars = ['\n'].intercalate (ts.map StyledText.chars) := by
  show (ts.intersperse _).flatMap StyledText.chars = ((ts.map StyledText.chars).intersperse _).flatten
  induction ts with
  | nil => rfl
  | cons t ts ih =>
    cases ts with
    | nil => simp
    | cons t' ts =>
      rw [List.intersperse_cons_cons, List.flatMap_cons, List.flatMap_cons, ih]
      rfl

/-- Joined by line feeds, rows have one of them behind each row above a row, and one in front of each row
below it. -/
theorem intercalate_lineFeed_append_cons (above : List (List Char)) (block : List Char)
    (below : List (List Char)) :
    ['\n'].intercalate (above ++ block :: below) =
      above.flatMap (· ++ ['\n']) ++ block ++ below.flatMap ('\n' :: ·) := by
  have hbelow : ∀ block, ['\n'].intercalate (block :: below) = block ++ below.flatMap ('\n' :: ·) := by
    induction below with
    | nil => simp
    | cons next below ih =>
      intro block
      rw [List.intercalate_cons_cons, ih, List.flatMap_cons, List.append_assoc]
      rfl
  induction above with
  | nil => exact hbelow block
  | cons first above ih =>
    obtain ⟨next, rest, hrest⟩ := List.exists_cons_of_ne_nil
      (List.append_ne_nil_of_right_ne_nil above (List.cons_ne_nil block below))
    rw [List.cons_append, hrest, List.intercalate_cons_cons, ← hrest, ih, List.flatMap_cons]
    simp only [List.append_assoc]

end StyledText

/-! ## Columns -/

theorem isStored_iff {c : Char} :
    isStored c ↔ c ≠ '\x07' ∧ c ≠ '\x08' ∧ c ≠ '\x0b' ∧ c ≠ '\x0c' ∧ c ≠ '\x0d' := by
  simp [isStored, and_assoc]

/-- What a line number consists of is kept. -/
theorem isStored_of_mem_numberChars {n : Int} {c : Char} (h : c ∈ numberChars n) : isStored c := by
  rcases Token.isDigit_or_of_mem_writeInt h with hdigit | rfl
  · rw [isStored_iff]
    refine ⟨?_, ?_, ?_, ?_, ?_⟩ <;> rintro rfl <;> exact absurd hdigit (by decide)
  · decide

/-- What stands in the column of line numbers: the number at its right end, or blanks. -/
def numberField (width : Nat) : Option Int → List Char
  | some n => List.replicate (width - (numberChars n).length) ' ' ++ numberChars n
  | none => List.replicate width ' '

theorem length_numberField {width : Nat} {n? : Option Int}
    (h : ∀ n ∈ n?, (numberChars n).length ≤ width) : (numberField width n?).length = width := by
  cases n? with
  | none => exact List.length_replicate
  | some n =>
    have hn := h n rfl
    rw [numberField, List.length_append, List.length_replicate]
    omega

/-- What stands in front of the body of a row: the number field, the gutter, the marks and blanks. -/
def rowEdge (w : Columns) (n? : Option Int) (marks : List Mark) : List Char :=
  numberField w.number n? ++ " |".toList ++ marks.map Mark.glyph ++
    List.replicate (w.marks - marks.length + 1) ' '

namespace DisplayLine

variable (th : Theme) (g : Glyphs) (w : Columns)

theorem chars_edge (n? : Option Int) :
    (edge th w n?).chars = numberField w.number n? ++ " |".toList := by
  have hblanks : ∀ k, (List.replicate k ' ').filter isStored = List.replicate k ' ' := fun k =>
    List.filter_replicate_of_pos rfl
  cases n? with
  | none =>
    show (StyledText.append (StyledText.append {} _ _) _ _).chars = _
    rw [StyledText.chars_append, StyledText.chars_append, hblanks]
    rfl
  | some n =>
    show (StyledText.append (StyledText.append {} _ _) _ _).chars = _
    rw [StyledText.chars_append, StyledText.chars_append, List.filter_append, hblanks,
      List.filter_eq_self.2 fun c => isStored_of_mem_numberChars]
    rfl

/-- The marks of a row follow its edge, filled up to the width of their column and one blank more. -/
theorem chars_withMarks (t : StyledText) (marks : List Mark) :
    (withMarks th w t marks).chars = t.chars ++ marks.map Mark.glyph ++
      List.replicate (w.marks - marks.length + 1) ' ' := by
  have hglyphs : ∀ t : StyledText,
      (marks.foldl (fun t m => t.append [m.glyph] th.connector) t).chars =
        t.chars ++ marks.map Mark.glyph := by
    induction marks with
    | nil =>
      intro t
      exact (List.append_nil _).symm
    | cons m marks ih =>
      intro t
      have hglyph : [m.glyph].filter isStored = [m.glyph] := by
        cases m <;> rfl
      rw [List.foldl_cons, ih, StyledText.chars_append, hglyph, List.append_assoc]
      rfl
  have hpadding : (List.replicate (w.marks - marks.length) ' ' ++ [' ']).filter isStored =
      List.replicate (w.marks - marks.length + 1) ' ' := by
    rw [← List.replicate_succ']
    exact List.filter_replicate_of_pos rfl
  rw [withMarks, StyledText.chars_append, hglyphs, hpadding]

end DisplayLine

/-- A row with columns: its number field, the gutter, its marks in front of blanks, and its body, which
starts at the same place in every row. -/
structure Framed (w : Columns) (field : List Char) (marks : List Mark) (body row : List Char) : Prop where
  number_eq : row.take w.number = field
  gutter : " |".toList <+: row.drop w.number
  glyphs : marks.map Mark.glyph <+: row.drop (w.number + 2)
  padding : ∀ c ∈ (row.drop (w.number + 2 + marks.length)).take (w.marks - marks.length + 1), c = ' '
  body_eq : row.drop (w.number + w.marks + 3) = body
  trimmed : ∀ c ∈ row.getLast?, ¬ isBlank c

/-- No row with marks, or with none, ends with a blank of the gutter. -/
theorem not_isBlank_gutter (field : List Char) (marks : List Mark) :
    ∀ c ∈ (field ++ " |".toList ++ marks.map Mark.glyph).getLast?, ¬ isBlank c := by
  intro c hc
  rw [List.append_assoc, List.getLast?_append_of_ne_nil _ (by simp)] at hc
  have hmem : c = '|' ∨ ∃ m ∈ marks, m.glyph = c := by
    cases marks with
    | nil =>
      left
      exact (Option.some.inj hc).symm
    | cons m marks =>
      rw [List.getLast?_append_of_ne_nil _ (by simp)] at hc
      right
      exact List.mem_map.1 (List.mem_of_getLast? hc)
  rcases hmem with rfl | ⟨m, -, rfl⟩
  · decide
  · cases m <;> decide

/-- Trimming a row with columns trims its body only: what stands in front of it does not end with a blank,
padding aside. -/
theorem framed_dropTrailingBlanks {w : Columns} {field : List Char} {marks : List Mark}
    (hfield : field.length = w.number) (hmarks : marks.length ≤ w.marks) (body : List Char) :
    Framed w field marks (dropTrailingBlanks body)
      (dropTrailingBlanks (field ++ " |".toList ++ marks.map Mark.glyph ++
        List.replicate (w.marks - marks.length + 1) ' ' ++ body)) := by
  set padding := List.replicate (w.marks - marks.length + 1) ' ' with hpadding
  have hrow : dropTrailingBlanks (field ++ " |".toList ++ marks.map Mark.glyph ++ padding ++ body) =
      field ++ (" |".toList ++ (marks.map Mark.glyph ++ dropTrailingBlanks (padding ++ body))) := by
    rw [List.append_assoc, dropTrailingBlanks_append_of_not_blank (not_isBlank_gutter field marks),
      List.append_assoc, List.append_assoc]
  have hgutter : (" |".toList).length = 2 := rfl
  have hnumber : ∀ rest, (field ++ rest).drop w.number = rest := by
    intro rest
    rw [← hfield, List.drop_left]
  have hglyphs : ∀ rest, (field ++ (" |".toList ++ rest)).drop (w.number + 2) = rest := by
    intro rest
    rw [← List.drop_drop, hnumber, ← hgutter, List.drop_left]
  have hbehind : ∀ rest, (field ++ (" |".toList ++ (marks.map Mark.glyph ++ rest))).drop
      (w.number + 2 + marks.length) = rest := by
    intro rest
    rw [← List.drop_drop, hglyphs, ← List.length_map (f := Mark.glyph), List.drop_left]
  rw [hrow]
  refine ⟨?_, ?_, ?_, ?_, ?_, ?_⟩
  · rw [← hfield, List.take_left]
  · rw [hnumber]
    exact List.prefix_append _ _
  · rw [hglyphs]
    exact List.prefix_append _ _
  · intro c hc
    rw [hbehind] at hc
    have hinit := isPrefix_dropTrailingBlanks (padding ++ body)
    have htake := (hinit.take (w.marks - marks.length + 1)).subset hc
    have hlength : padding.length = w.marks - marks.length + 1 := List.length_replicate
    rw [← hlength, List.take_left] at htake
    exact List.eq_of_mem_replicate htake
  · have hplace : w.number + w.marks + 3 = w.number + 2 + marks.length + padding.length := by
      rw [hpadding, List.length_replicate]
      omega
    rw [hplace, ← List.drop_drop, hbehind, drop_dropTrailingBlanks_append]
  · intro c hc
    rw [← hrow] at hc
    exact not_isBlank_of_getLast? hc

end CodeFrame
