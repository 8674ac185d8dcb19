import CodeFrame.Proofs.Render.Rows
import CodeFrame.Text.Unprintable

/-!
# The blocks of a frame

A frame is one block for each display line, joined by line feeds (`drawRows_blocks`). The columns are as
wide as their widest entry (`Columns.Widest`), and what stands in them is told by the display line
(`IsBlock`). A frame is drawn unless a line number has too many digits or a caption is too wide to be
held.
-/

namespace CodeFrame

/-! ## Columns -/

/-- The columns of numbers and of marks have room for the entries of all rows, and not more than that. -/
structure Columns.Widest (w : Columns) (rows : List DisplayLine) : Prop where
  number_le : ∀ n ∈ rows.filterMap DisplayLine.number?, (numberChars n).length ≤ w.number
  number_eq : (∃ n ∈ rows.filterMap DisplayLine.number?, (numberChars n).length = w.number) ∨
    rows.filterMap DisplayLine.number? = [] ∧ w.number = 1
  marks_le : ∀ ms ∈ rows.filterMap DisplayLine.marks?, ms.length ≤ w.marks
  marks_eq : (∃ ms ∈ rows.filterMap DisplayLine.marks?, ms.length = w.marks) ∨
    rows.filterMap DisplayLine.marks? = [] ∧ w.marks = 0

/-- The greatest of some sizes, none of them below the least one, is one of them, if there are any. -/
theorem foldl_max_spec {α : Type} (f : α → Nat) (least : Nat) (xs : List α) :
    least ≤ xs.foldl (fun w x => max w (f x)) least ∧
      (∀ x ∈ xs, f x ≤ xs.foldl (fun w x => max w (f x)) least) ∧
      ((∃ x ∈ xs, f x = xs.foldl (fun w x => max w (f x)) least) ∨
        xs.foldl (fun w x => max w (f x)) least = least) := by
  induction xs generalizing least with
  | nil => simp
  | cons x xs ih =>
    obtain ⟨hleast, hle, hattained⟩ := ih (max least (f x))
    rw [List.foldl_cons]
    refine ⟨by omega, ?_, ?_⟩
    · intro y hy
      rcases List.mem_cons.1 hy with rfl | hy
      · omega
      · exact hle y hy
    · rcases hattained with ⟨y, hy, heq⟩ | heq
      · exact .inl ⟨y, List.mem_cons_of_mem x hy, heq⟩
      · by_cases hlt : least < f x
        · exact .inl ⟨x, List.mem_cons_self, by omega⟩
        · exact .inr (by omega)

/-- Where no size is below the least one, the greatest is one of them, unless there are none. -/
theorem foldl_max_widest {α : Type} (f : α → Nat) (least : Nat) (xs : List α)
    (hleast : ∀ x ∈ xs, least ≤ f x) :
    (∀ x ∈ xs, f x ≤ xs.foldl (fun w x => max w (f x)) least) ∧
      ((∃ x ∈ xs, f x = xs.foldl (fun w x => max w (f x)) least) ∨
        xs = [] ∧ xs.foldl (fun w x => max w (f x)) least = least) := by
  obtain ⟨-, hle, hattained⟩ := foldl_max_spec f least xs
  refine ⟨hle, ?_⟩
  rcases hattained with hattained | heq
  · exact .inl hattained
  · cases xs with
    | nil => exact .inr ⟨rfl, rfl⟩
    | cons x xs =>
      have hx := hle x List.mem_cons_self
      have hx' := hleast x List.mem_cons_self
      exact .inl ⟨x, List.mem_cons_self, by omega⟩

theorem numberChars_ne_nil (n : Int) : numberChars n ≠ [] := by
  show Json.writeInt n ≠ []
  rw [Token.writeInt_eq]
  split
  · exact Nat.toDigits_ne_nil
  · exact List.cons_ne_nil _ _

theorem widest_of (rows : List DisplayLine) : (Columns.of rows).Widest rows := by
  obtain ⟨hnumber, hnumber'⟩ := foldl_max_widest (fun n => (numberChars n).length) 1
    (rows.filterMap DisplayLine.number?) fun n _ => List.length_pos_iff.2 (numberChars_ne_nil n)
  obtain ⟨hmarks, hmarks'⟩ := foldl_max_widest List.length 0
    (rows.filterMap DisplayLine.marks?) fun ms _ => Nat.zero_le ms.length
  exact ⟨hnumber, hnumber', hmarks, hmarks'⟩

/-- A source row keeps within the columns. -/
theorem Columns.Widest.le_of_source_mem {w : Columns} {rows : List DisplayLine} (h : w.Widest rows) {n : Int}
    {marks : List Mark} {content : String} (hmem : .source n marks content ∈ rows) :
    (numberChars n).length ≤ w.number ∧ marks.length ≤ w.marks :=
  ⟨h.number_le n (List.mem_filterMap.2 ⟨_, hmem, rfl⟩),
    h.marks_le marks (List.mem_filterMap.2 ⟨_, hmem, rfl⟩)⟩

/-! ## Blocks -/

/-- The underlines of errors and warnings are one character each, which is printed as it is and is no
blank. -/
structure Glyphs.Single (g : Glyphs) (error warning : Char) : Prop where
  error_eq : g.errorUnderline = String.singleton error
  error_plain : ¬ isBlank error ∧ ¬ isUnprintable error
  warning_eq : g.warningUnderline = String.singleton warning
  warning_plain : ¬ isBlank warning ∧ ¬ isUnprintable warning

theorem Glyphs.single_default : Glyphs.Single {} '^' '-' := by
  constructor <;> decide

/-- The underline of a caption. One of an error or a warning starts at the first column of the caption, has
a character for each of its columns, and one at least. That of a long annotation leads to its column. -/
def Caption.underlineChars (error warning : Char) (c : Caption) : List Char :=
  let line (u : Char) :=
    List.replicate c.first.toNat ' ' ++ List.replicate (max 1 (c.stop - c.first)).toNat u
  match c.kind with
  | .error => line error
  | .warning => line warning
  | .multilineStart => List.replicate c.first.toNat '_' ++ ['^']
  | .multilineEnd => List.replicate c.first.toNat '_' ++ ['^']

/-- What follows the underline: the label behind a blank, without the blanks at its end. Nothing follows if
nothing of the label is left, or if a long annotation starts here. -/
def Caption.labelChars (c : Caption) : List Char :=
  let label := dropTrailingBlanks (c.label.toList.filter isStored)
  if label = [] ∨ c.kind = .multilineStart then [] else ' ' :: label

/-- What the block of a display line is in a frame with the columns `w`. -/
def IsBlock (w : Columns) (foldMarker : String) (error warning : Char) :
    DisplayLine → List Char → Prop
  | .raw text, block => block = text.toList.filter isStored
  | .fold, block => block = foldMarker.toList.filter isStored
  | .blank, block => block = List.replicate w.number ' ' ++ " |".toList
  | .source n marks content, block =>
    Framed w (List.replicate (w.number - (numberChars n).length) ' ' ++ numberChars n) marks
      (dropTrailingBlanks (content.toList.filter isStored)) block
  | .caption c, block =>
    Framed w (List.replicate w.number ' ') c.marks (c.underlineChars error warning ++ c.labelChars) block

/-! ## Underlines and labels -/

/-- What is printed as it is is kept. -/
theorem isStored_of_not_isUnprintable {c : Char} (h : ¬ isUnprintable c) : isStored c := by
  rw [isStored_iff]
  refine ⟨?_, ?_, ?_, ?_, ?_⟩ <;> rintro rfl <;> exact h (by decide)

theorem repeated_singleton (u : Char) (n : Int) :
    repeated (String.singleton u) n = List.replicate n.toNat u := by
  have hne : String.singleton u ≠ "" := by
    intro h
    have hnil := congrArg String.toList h
    rw [String.toList_singleton] at hnil
    cases hnil
  rw [repeated, if_neg hne, String.toList_singleton, List.flatten_replicate_singleton]

variable {g : Glyphs} {error warning : Char}

theorem Glyphs.Single.underline_eq (hg : g.Single error warning) (c : Caption) :
    g.underline c = c.underlineChars error warning := by
  have hblank : " " = String.singleton ' ' := rfl
  have hline : "_" = String.singleton '_' := rfl
  unfold Glyphs.underline Caption.underlineChars
  rw [hg.error_eq, hg.warning_eq, hblank, hline]
  cases c.kind <;> simp only [repeated_singleton]

/-- An underline ends with a character that is no blank, and all of it is kept. -/
theorem Glyphs.Single.underline_plain (hg : g.Single error warning) (c : Caption) :
    (∀ u ∈ (c.underlineChars error warning).getLast?, ¬ isBlank u) ∧
      ∀ u ∈ c.underlineChars error warning, isStored u := by
  have hline : ∀ u : Char, ¬ isBlank u ∧ ¬ isUnprintable u →
      let line := List.replicate c.first.toNat ' ' ++
        List.replicate (max 1 (c.stop - c.first)).toNat u
      (∀ v ∈ line.getLast?, ¬ isBlank v) ∧ ∀ v ∈ line, isStored v := by
    intro u ⟨hblank, hprintable⟩ line
    have hline : List.replicate (max 1 (c.stop - c.first)).toNat u ≠ [] := by
      rw [Ne, List.replicate_eq_nil_iff]
      omega
    constructor
    · intro v hv
      rw [List.getLast?_append_of_ne_nil _ hline] at hv
      rw [List.eq_of_mem_replicate (List.mem_of_getLast? hv)]
      exact hblank
    · intro v hv
      rcases List.mem_append.1 hv with hv | hv
      · rw [List.eq_of_mem_replicate hv]
        decide
      · rw [List.eq_of_mem_replicate hv]
        exact isStored_of_not_isUnprintable hprintable
  have hlead : (∀ v ∈ (List.replicate c.first.toNat '_' ++ ['^']).getLast?, ¬ isBlank v) ∧
      ∀ v ∈ List.replicate c.first.toNat '_' ++ ['^'], isStored v := by
    constructor
    · intro v hv
      rw [List.getLast?_concat] at hv
      rw [← Option.some.inj hv]
      decide
    · intro v hv
      rcases List.mem_append.1 hv with hv | hv
      · rw [List.eq_of_mem_replicate hv]
        decide
      · rw [List.mem_singleton.1 hv]
        decide
  unfold Caption.underlineChars
  cases c.kind with
  | error => exact hline error hg.error_plain
  | warning => exact hline warning hg.warning_plain
  | multilineStart => exact hlead
  | multilineEnd => exact hlead

namespace DisplayLine

variable (th : Theme) (w : Columns)

theorem chars_withLabel (t : StyledText) (c : Caption) :
    (withLabel th t c).chars = t.chars ++ if c.label = "" ∨ c.kind = .multilineStart then []
      else ' ' :: c.label.toList.filter isStored := by
  unfold withLabel
  split
  · rw [List.append_nil]
  · rw [StyledText.chars_append, StyledText.chars_append, List.append_assoc]
    rfl

/-- Of a label, trimming leaves what follows the underline. -/
theorem dropTrailingBlanks_label (c : Caption) :
    (dropTrailingBlanks (if c.label = "" ∨ c.kind = .multilineStart then []
      else ' ' :: c.label.toList.filter isStored)) = c.labelChars := by
  unfold Caption.labelChars
  by_cases hkind : c.kind = .multilineStart
  · simp only [hkind, or_true, if_true]
    rfl
  by_cases hlabel : c.label = ""
  · simp [hlabel, dropTrailingBlanks]
  simp only [hkind, hlabel, or_false, if_false]
  rw [← List.singleton_append, dropTrailingBlanks_append_eq]
  rfl

theorem chars_draw_source (n : Int) (marks : List Mark) (content : String) :
    ((source n marks content).draw th g w).chars =
      dropTrailingBlanks (rowEdge w (some n) marks ++ content.toList.filter isStored) := by
  show (StyledText.trimEnd _).chars = _
  rw [StyledText.chars_trimEnd, StyledText.chars_append, chars_withMarks, chars_edge]
  rfl

theorem chars_draw_caption (hg : g.Single error warning) (c : Caption) :
    ((caption c).draw th g w).chars =
      dropTrailingBlanks (rowEdge w none c.marks ++
        (c.underlineChars error warning ++ if c.label = "" ∨ c.kind = .multilineStart then []
          else ' ' :: c.label.toList.filter isStored)) := by
  show (StyledText.trimEnd _).chars = _
  rw [StyledText.chars_trimEnd, chars_withLabel, StyledText.chars_append, chars_withMarks, chars_edge,
    hg.underline_eq, List.filter_eq_self.2 (hg.underline_plain c).2, List.append_assoc]
  rfl

/-- What is drawn of a display line is its block. -/
theorem isBlock_draw (hg : g.Single error warning) {l : DisplayLine}
    (hnumber : ∀ n, l.number? = some n → (numberChars n).length ≤ w.number)
    (hmarks : ∀ ms, l.marks? = some ms → ms.length ≤ w.marks) :
    IsBlock w g.foldMarker error warning l (l.draw th g w).chars := by
  cases l with
  | raw text => rfl
  | fold => rfl
  | blank => exact chars_edge th w none
  | source n marks content =>
    rw [chars_draw_source]
    exact framed_dropTrailingBlanks (length_numberField hnumber) (hmarks marks rfl) _
  | caption c =>
    have hbody : dropTrailingBlanks (c.underlineChars error warning ++
        if c.label = "" ∨ c.kind = .multilineStart then []
          else ' ' :: c.label.toList.filter isStored) =
        c.underlineChars error warning ++ c.labelChars := by
      rw [dropTrailingBlanks_append_of_not_blank (hg.underline_plain c).1, dropTrailingBlanks_label]
    rw [chars_draw_caption th w hg]
    show Framed _ _ _ (c.underlineChars error warning ++ c.labelChars) _
    rw [← hbody]
    exact framed_dropTrailingBlanks List.length_replicate (hmarks c.marks rfl) _

end DisplayLine

/-! ## Frames -/

/-- A frame can be drawn if its line numbers have few digits and its captions can be held in memory. -/
theorem drawError?_eq_none_iff {g : Glyphs} {memory : Nat} {rows : List DisplayLine} :
    drawError? g memory rows = none ↔
      (∀ l ∈ rows, ∀ n, l.number? = some n → fitsDigits n) ∧
        ∀ c, .caption c ∈ rows → g.underlineError? memory c = none := by
  have hnumber : ∀ l : DisplayLine, l.numberError? = none ↔ ∀ n, l.number? = some n → fitsDigits n := by
    intro l
    unfold DisplayLine.numberError?
    cases l.number? with
    | none => simp
    | some n =>
      by_cases hfits : fitsDigits n
      · simp [numeral?, hfits]
      · simp [numeral?, hfits]
  have hcaption : (∀ l ∈ rows, l.captionError? g memory = none) ↔
      ∀ c, .caption c ∈ rows → g.underlineError? memory c = none := by
    constructor
    · intro h c hc
      exact h _ hc
    · intro h l hl
      cases l with
      | caption c => exact h c hl
      | _ => rfl
  rw [drawError?, Option.or_eq_none_iff, List.findSome?_eq_none_iff, List.findSome?_eq_none_iff,
    hcaption]
  simp only [hnumber]

/-- Frames are their blocks, joined by line feeds. -/
theorem plain_drawFrame (th : Theme) (g : Glyphs) (rows : List DisplayLine) :
    (drawFrame th g rows).plain =
      "\n".intercalate (rows.map fun l => (l.draw th g (.of rows)).plain) := by
  apply String.toList_injective
  unfold StyledText.plain drawFrame
  rw [String.toList_ofList, StyledText.chars_stack, String.toList_intercalate, List.map_map,
    List.map_map]
  congr 1
  apply List.map_congr_left
  intro l _
  exact String.toList_ofList.symm

/-- A frame has one block for each display line, in their order, and line feeds between them. Its columns are
as wide as their widest entries, and each block is what its display line says. The frame is drawn if its line
numbers have few digits and its captions can be held in memory; else nothing is. -/
theorem drawRows_blocks (th : Theme) (hg : g.Single error warning) (memory : Nat)
    (rows : List DisplayLine) :
    let w := Columns.of rows
    let frame := drawFrame th g rows
    let drawable := (∀ l ∈ rows, ∀ n, l.number? = some n → fitsDigits n) ∧
      ∀ c, .caption c ∈ rows → g.underlineError? memory c = none
    w.Widest rows ∧
      frame.plain = "\n".intercalate (rows.map fun l => (l.draw th g w).plain) ∧
      (∀ l ∈ rows, IsBlock w g.foldMarker error warning l (l.draw th g w).plain.toList) ∧
      (drawable → drawRows th g memory rows = .ok frame) ∧
      (¬ drawable → ∃ e, drawRows th g memory rows = .error e) := by
  intro w frame drawable
  have hwidest := widest_of rows
  have hdrawable : drawError? g memory rows = none ↔ drawable := drawError?_eq_none_iff
  refine ⟨hwidest, plain_drawFrame th g rows, ?_, ?_, ?_⟩
  · intro l hl
    rw [StyledText.plain, String.toList_ofList]
    apply DisplayLine.isBlock_draw th w hg
    · intro n hn
      exact hwidest.number_le n (List.mem_filterMap.2 ⟨l, hl, hn⟩)
    · intro ms hms
      exact hwidest.marks_le ms (List.mem_filterMap.2 ⟨l, hl, hms⟩)
  · intro hrows
    rw [drawRows, hdrawable.2 hrows]
  · intro hrows
    rw [← hdrawable] at hrows
    obtain ⟨e, he⟩ := Option.ne_none_iff_exists'.1 hrows
    exact ⟨e, by rw [drawRows, he]⟩

/-- A frame with a row of each kind is drawn where five characters can be held at a time, and one with a line
number of too many digits is not. -/
theorem drawRows_blocks_of_six_rows :
    let rows : List DisplayLine :=
      [.raw "error: no", .blank, .source 9 [.start] "if x:  ",
        .caption ⟨[], 3, 4, "here ", .error⟩, .fold, .source 10 [.through] " "]
    let long : List DisplayLine := [.source (Nat.pow 10 maxDigits) [] "b"]
    (∃ frame, drawRows {} {} 5 rows = .ok frame ∧ frame.plain =
      "error: no\n   |\n 9 |/ if x:\n   |     ^ here\n...\n10 ||") ∧
      ∃ e, drawRows {} {} 5 long = .error e := by
  have hlong : ¬ fitsDigits (Nat.pow 10 maxDigits) := by decide +kernel
  -- from here on the number is not to be evaluated
  generalize ((Nat.pow 10 maxDigits : Nat) : Int) = n at hlong ⊢
  intro rows long
  have hg : Glyphs.Single {} '^' '-' := by
    constructor <;> decide
  obtain ⟨-, -, -, hdrawn, -⟩ := drawRows_blocks {} hg 5 rows
  obtain ⟨-, -, -, -, hfail⟩ := drawRows_blocks {} hg 5 long
  refine ⟨⟨_, hdrawn (drawError?_eq_none_iff.1 (by decide +kernel)), by decide⟩, hfail ?_⟩
  rintro ⟨hfits, -⟩
  exact hlong (hfits _ List.mem_cons_self n rfl)

end CodeFrame
