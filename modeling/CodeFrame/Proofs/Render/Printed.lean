import CodeFrame.Console
import CodeFrame.Proofs.Render.Blocks
import CodeFrame.Proofs.Render.Wrapping
import CodeFrame.Proofs.Source.Separators

/-!
# Printed rows

A console that is no terminal prints a frame row by row: tabs are filled out, and a line feed starts again at
the first column, so a row is printed as it would be alone (`DisplayLine.printed`). A row that is too long is
wrapped, and the others are lines as they stand. What stands in front of the body of a row takes one column
for each character (`isPlain_rowEdge`), and the body of every row starts at the same place. Behind that place
filling out tabs, and the characters that are not kept, move what follows them in a source row
(`printed_source`), but nothing moves the underline of a caption (`printed_caption`).
-/

namespace CodeFrame

/-! ## Tab stops -/

/-- How tabs are filled out in a text whose first character is known. -/
theorem expandTabs_char (col : Nat) (c : Char) (cs : List Char) :
    expandTabs col (c :: cs) =
      if c = '\n' then '\n' :: expandTabs 0 cs
      else if c = '\t' then List.replicate (tabWidth col) ' ' ++ expandTabs (col + tabWidth col) cs
      else c :: expandTabs (col + charWidth c) cs := by
  by_cases hfeed : c = '\n'
  · rw [if_pos hfeed, hfeed]
    rfl
  · rw [if_neg hfeed]
    exact if_neg hfeed

/-- The column behind `cs`, when it starts at column `col`. -/
def columnBehind (col : Nat) : List Char → Nat
  | [] => col
  | c :: cs =>
    if c = '\n' then columnBehind 0 cs
    else if c = '\t' then columnBehind (col + tabWidth col) cs
    else columnBehind (col + charWidth c) cs

theorem expandTabs_append (col : Nat) (xs ys : List Char) :
    expandTabs col (xs ++ ys) = expandTabs col xs ++ expandTabs (columnBehind col xs) ys := by
  induction xs generalizing col with
  | nil => rfl
  | cons x xs ih =>
    rw [List.cons_append, expandTabs_char, expandTabs_char, columnBehind]
    by_cases hfeed : x = '\n'
    · rw [if_pos hfeed, if_pos hfeed, if_pos hfeed, ih, List.cons_append]
    rw [if_neg hfeed, if_neg hfeed, if_neg hfeed]
    by_cases htab : x = '\t'
    · rw [if_pos htab, if_pos htab, if_pos htab, ih, List.append_assoc]
    · rw [if_neg htab, if_neg htab, if_neg htab, ih, List.cons_append]

/-- Behind a line feed tabs are filled out as at the start of a text. -/
theorem expandTabs_append_lineFeed (col : Nat) (xs ys : List Char) :
    expandTabs col (xs ++ '\n' :: ys) = expandTabs col xs ++ '\n' :: expandTabs 0 ys := by
  rw [expandTabs_append, expandTabs_char, if_pos rfl]

theorem expandTabs_cons {c : Char} (hfeed : c ≠ '\n') (htab : c ≠ '\t') (col : Nat) (cs : List Char) :
    expandTabs col (c :: cs) = c :: expandTabs (col + charWidth c) cs := by
  rw [expandTabs_char, if_neg hfeed, if_neg htab]

theorem lineFeed_not_mem_expandTabs {cs : List Char} (h : '\n' ∉ cs) (col : Nat) :
    '\n' ∉ expandTabs col cs := by
  induction cs generalizing col with
  | nil => exact h
  | cons c cs ih =>
    obtain ⟨hc, hcs⟩ := List.ne_and_not_mem_of_not_mem_cons h
    rw [expandTabs_char, if_neg (Ne.symm hc)]
    split
    · rw [List.mem_append, List.mem_replicate, not_or]
      exact ⟨fun hblank => absurd hblank.2 (by decide), ih hcs _⟩
    · rw [List.mem_cons, not_or]
      exact ⟨hc, ih hcs _⟩

/-- Rows without line feeds are the pieces of a text that has them with a line feed behind each. -/
theorem pieces_flatMap_lineFeed {rows : List (List Char)} (h : ∀ row ∈ rows, '\n' ∉ row) :
    pieces (rows.flatMap (· ++ ['\n'])) = rows := by
  induction rows with
  | nil => rfl
  | cons row rows ih =>
    obtain ⟨hrow, hrows⟩ := List.forall_mem_cons.1 h
    rw [List.flatMap_cons, List.append_assoc, List.singleton_append, pieces_append_lineFeed hrow,
      ih hrows]

theorem ne_of_not_isBlank {c : Char} (h : ¬ isBlank c) : c ≠ '\n' ∧ c ≠ '\t' := by
  constructor <;> rintro rfl <;> exact h (by decide)

/-- What does not end with a blank does not do so with its tabs filled out. -/
theorem not_isBlank_getLast?_expandTabs {cs : List Char} (h : ∀ c ∈ cs.getLast?, ¬ isBlank c) (col : Nat) :
    ∀ c ∈ (expandTabs col cs).getLast?, ¬ isBlank c := by
  rcases List.eq_nil_or_concat cs with rfl | ⟨front, last, rfl⟩
  · exact h
  · rw [List.concat_eq_append] at h ⊢
    have hlast : ¬ isBlank last := h last (by simp)
    obtain ⟨hfeed, htab⟩ := ne_of_not_isBlank hlast
    rw [expandTabs_append, expandTabs_cons hfeed htab, expandTabs_nil]
    simpa using hlast

/-! ## Plain characters -/

/-- Is `c` printed as it is, in one column? -/
def isPlain (c : Char) : Bool :=
  0x20 ≤ c.toNat && c.toNat < 0x7F

theorem ne_of_isPlain {c : Char} (h : isPlain c) : c ≠ '\n' ∧ c ≠ '\t' := by
  constructor <;> rintro rfl <;> exact absurd h (by decide)

theorem charWidth_of_isPlain {c : Char} (h : isPlain c) : charWidth c = 1 := by
  simp only [isPlain, Bool.and_eq_true, decide_eq_true_eq] at h
  exact charWidth_of_ascii h.1 h.2

theorem lineFeed_not_mem_of_plain {cs : List Char} (h : ∀ c ∈ cs, isPlain c) : '\n' ∉ cs :=
  fun hmem => (ne_of_isPlain (h _ hmem)).1 rfl

/-- Plain characters take a column each, and what follows them starts behind these. -/
theorem expandTabs_plain_append {xs : List Char} (h : ∀ c ∈ xs, isPlain c) (col : Nat)
    (ys : List Char) : expandTabs col (xs ++ ys) = xs ++ expandTabs (col + xs.length) ys := by
  induction xs generalizing col with
  | nil => rfl
  | cons x xs ih =>
    obtain ⟨hx, hxs⟩ := List.forall_mem_cons.1 h
    obtain ⟨hfeed, htab⟩ := ne_of_isPlain hx
    have hcol : col + 1 + xs.length = col + (x :: xs).length := by
      rw [List.length_cons]
      omega
    rw [List.cons_append, expandTabs_cons hfeed htab, charWidth_of_isPlain hx, ih hxs, hcol,
      List.cons_append]

/-! ## The edge of a row -/

/-- The place where the bodies of rows start. -/
def Columns.bodyStart (w : Columns) : Nat :=
  w.number + w.marks + 3

theorem isPlain_of_mem_numberChars {n : Int} {c : Char} (h : c ∈ numberChars n) : isPlain c := by
  rcases Token.isDigit_or_of_mem_writeInt h with hdigit | rfl
  · simp only [Char.isDigit, ge_iff_le, Bool.and_eq_true, decide_eq_true_eq,
      UInt32.le_iff_toNat_le] at hdigit
    obtain ⟨hlow, hhigh⟩ := hdigit
    change 0x30 ≤ c.toNat at hlow
    change c.toNat ≤ 0x39 at hhigh
    simp only [isPlain, Bool.and_eq_true, decide_eq_true_eq]
    omega
  · decide

/-- Everything in front of the body of a row is plain. -/
theorem isPlain_rowEdge (w : Columns) (n? : Option Int) (marks : List Mark) :
    ∀ c ∈ rowEdge w n? marks, isPlain c := by
  have hblanks : ∀ k, ∀ c ∈ List.replicate k ' ', isPlain c := by
    intro k c hc
    rw [List.eq_of_mem_replicate hc]
    decide
  have hfield : ∀ c ∈ numberField w.number n?, isPlain c := by
    cases n? with
    | none => exact hblanks w.number
    | some n =>
      intro c hc
      rcases List.mem_append.1 hc with hc | hc
      · exact hblanks _ c hc
      · exact isPlain_of_mem_numberChars hc
  have hgutter : ∀ c ∈ " |".toList, isPlain c := List.all_eq_true.1 (by decide)
  have hglyphs : ∀ c ∈ marks.map Mark.glyph, isPlain c := by
    intro c hc
    obtain ⟨m, -, rfl⟩ := List.mem_map.1 hc
    cases m <;> decide
  intro c hc
  rw [rowEdge, List.mem_append, List.mem_append, List.mem_append] at hc
  rcases hc with ((hc | hc) | hc) | hc
  · exact hfield c hc
  · exact hgutter c hc
  · exact hglyphs c hc
  · exact hblanks _ c hc

theorem length_rowEdge {w : Columns} {n? : Option Int} {marks : List Mark}
    (hnumber : ∀ n ∈ n?, (numberChars n).length ≤ w.number) (hmarks : marks.length ≤ w.marks) :
    (rowEdge w n? marks).length = w.bodyStart := by
  have hgutter : (" |".toList).length = 2 := rfl
  rw [rowEdge, List.length_append, List.length_append, List.length_append, length_numberField hnumber,
    hgutter, List.length_map, List.length_replicate, Columns.bodyStart]
  omega

/-! ## Rows -/

/-- The character of underlines. -/
def Severity.underline : Severity → Char
  | error => '^'
  | warning => '-'

/-- An underline on one line has one character at least, behind as many blanks as its first column says. -/
theorem Caption.exists_underlineChars_eq {c : Caption} {severity : Severity}
    (hkind : c.kind = .ofSeverity severity) : ∃ more, c.underlineChars '^' '-' =
      List.replicate c.first.toNat ' ' ++ severity.underline :: more := by
  have hpos : (max 1 (c.stop - c.first)).toNat = (max 1 (c.stop - c.first)).toNat - 1 + 1 := by omega
  unfold Caption.underlineChars
  rw [hkind]
  cases severity <;>
    exact ⟨_, congrArg (List.replicate c.first.toNat ' ' ++ List.replicate · _) hpos⟩

namespace DisplayLine

variable (th : Theme) (g : Glyphs) (w : Columns)

/-- The row of a display line as it is printed where there is room for it. -/
def printed (l : DisplayLine) : List Char :=
  expandTabs 0 (l.draw th g w).chars

/-- The text that a row shows. -/
def text : DisplayLine → String
  | raw text => text
  | source _ _ content => content
  | caption c => c.label
  | blank => ""
  | fold => ""

variable {w}

/-- In its row, a character of the source that is no blank stands behind what is kept of the characters in
front of it, with the tabs filled out. -/
theorem printed_source {n : Int} {marks : List Mark} {content : String}
    (hnumber : (numberChars n).length ≤ w.number) (hmarks : marks.length ≤ w.marks)
    {before behind : List Char} {c : Char} (hcontent : content.toList = before ++ c :: behind)
    (hblank : ¬ isBlank c) (hstored : isStored c) :
    ∃ edge rest, edge.length = w.bodyStart ∧ (source n marks content).printed th g w =
      edge ++ expandTabs w.bodyStart (before.filter isStored) ++ c :: rest := by
  have hlength : (rowEdge w (some n) marks).length = w.bodyStart := by
    apply length_rowEdge _ hmarks
    rintro _ ⟨⟩
    exact hnumber
  have hchars : ((source n marks content).draw th g w).chars =
      rowEdge w (some n) marks ++ (before.filter isStored ++
        c :: dropTrailingBlanks (behind.filter isStored)) := by
    rw [chars_draw_source, hcontent, List.filter_append, List.filter_cons_of_pos hstored,
      ← List.append_assoc, dropTrailingBlanks_append_cons hblank, List.append_assoc]
  obtain ⟨hfeed, htab⟩ := ne_of_not_isBlank hblank
  have hprinted : (source n marks content).printed th g w = rowEdge w (some n) marks ++
      expandTabs w.bodyStart (before.filter isStored ++
        c :: dropTrailingBlanks (behind.filter isStored)) := by
    rw [printed, hchars, expandTabs_plain_append (isPlain_rowEdge w (some n) marks), Nat.zero_add,
      hlength]
  rw [hprinted, expandTabs_append, expandTabs_cons hfeed htab, ← List.append_assoc]
  exact ⟨_, _, hlength, rfl⟩

/-- No underline stands in front of the body of a caption. -/
theorem underline_not_mem_rowEdge (severity : Severity) (marks : List Mark) :
    severity.underline ∉ rowEdge w none marks := by
  have hblanks : ∀ k, severity.underline ∉ List.replicate k ' ' := by
    intro k hmem
    have hblank := List.eq_of_mem_replicate hmem
    cases severity <;> exact absurd hblank (by decide)
  have hgutter : severity.underline ∉ " |".toList := by
    cases severity <;> decide
  have hglyphs : severity.underline ∉ marks.map Mark.glyph := by
    intro hmem
    obtain ⟨m, -, hm⟩ := List.mem_map.1 hmem
    cases m <;> cases severity <;> exact absurd hm (by decide)
  rw [rowEdge, List.mem_append, List.mem_append, List.mem_append, not_or, not_or, not_or]
  exact ⟨⟨⟨hblanks _, hgutter⟩, hglyphs⟩, hblanks _⟩

/-- The underline of a caption stands at its first column, and nothing in front of it looks like it. -/
theorem printed_caption {c : Caption} {severity : Severity} (hkind : c.kind = .ofSeverity severity)
    (hmarks : c.marks.length ≤ w.marks) :
    ((caption c).printed th {} w).idxOf severity.underline = w.bodyStart + c.first.toNat := by
  have hblank : ¬ isBlank severity.underline := by
    cases severity <;> decide
  obtain ⟨more, hunderline⟩ := Caption.exists_underlineChars_eq hkind
  set front := rowEdge w none c.marks ++ List.replicate c.first.toNat ' ' with hfront
  have hplain : ∀ d ∈ front, isPlain d := by
    intro d hd
    rcases List.mem_append.1 hd with hd | hd
    · exact isPlain_rowEdge w none c.marks d hd
    · rw [List.eq_of_mem_replicate hd]
      decide
  have hnot : severity.underline ∉ front := by
    rw [hfront, List.mem_append, not_or]
    refine ⟨underline_not_mem_rowEdge severity c.marks, ?_⟩
    intro hmem
    rw [List.eq_of_mem_replicate hmem] at hblank
    exact hblank (by decide)
  have hlength : front.length = w.bodyStart + c.first.toNat := by
    rw [hfront, List.length_append, length_rowEdge (by simp) hmarks, List.length_replicate]
  obtain ⟨rest, hchars⟩ : ∃ rest, ((caption c).draw th {} w).chars =
      front ++ severity.underline :: rest := by
    rw [chars_draw_caption th w Glyphs.single_default, hunderline, List.append_assoc,
      ← List.append_assoc, List.cons_append, ← hfront, dropTrailingBlanks_append_cons hblank]
    exact ⟨_, rfl⟩
  obtain ⟨hfeed, htab⟩ := ne_of_not_isBlank hblank
  rw [printed, hchars, expandTabs_plain_append hplain, expandTabs_cons hfeed htab,
    List.idxOf_append_of_notMem hnot, List.idxOf_cons_self, hlength, Nat.add_zero]

/-- A row without a line feed in its text is drawn without one. -/
theorem lineFeed_not_mem_draw {l : DisplayLine} (h : '\n' ∉ l.text.toList) :
    '\n' ∉ (l.draw th {} w).chars := by
  have hkept : ∀ cs : List Char, '\n' ∉ cs → '\n' ∉ cs.filter isStored :=
    fun cs hcs hmem => hcs (List.mem_of_mem_filter hmem)
  have htrimmed : ∀ cs : List Char, '\n' ∉ cs → '\n' ∉ dropTrailingBlanks cs :=
    fun cs hcs hmem => hcs ((isPrefix_dropTrailingBlanks cs).subset hmem)
  have hedge : ∀ n? marks, '\n' ∉ rowEdge w n? marks :=
    fun n? marks => lineFeed_not_mem_of_plain (isPlain_rowEdge w n? marks)
  cases l with
  | raw text => exact hkept _ h
  | fold => exact hkept _ (by decide)
  | blank =>
    have hchars : (blank.draw th {} w).chars = List.replicate w.number ' ' ++ " |".toList :=
      chars_edge th w none
    rw [hchars, List.mem_append, List.mem_replicate, not_or]
    exact ⟨fun hblank => absurd hblank.2 (by decide), by decide⟩
  | source n marks content =>
    rw [chars_draw_source]
    apply htrimmed
    rw [List.mem_append, not_or]
    exact ⟨hedge _ _, hkept _ h⟩
  | caption c =>
    have hunderline : '\n' ∉ c.underlineChars '^' '-' := by
      unfold Caption.underlineChars
      cases c.kind <;> simp
    have hlabel : '\n' ∉ if c.label = "" ∨ c.kind = .multilineStart then []
        else ' ' :: c.label.toList.filter isStored := by
      split
      · exact List.not_mem_nil
      · exact List.not_mem_cons_of_ne_of_not_mem (by decide) (hkept _ h)
    rw [chars_draw_caption th w Glyphs.single_default]
    apply htrimmed
    rw [List.mem_append, List.mem_append, not_or, not_or]
    exact ⟨hedge _ _, hunderline, hlabel⟩

/-- A row does not end with a blank, unless it is a text that is shown as it is. -/
theorem not_isBlank_getLast?_printed {l : DisplayLine} (h : ∀ text, l ≠ raw text) :
    ∀ c ∈ (l.printed th {} w).getLast?, ¬ isBlank c := by
  apply not_isBlank_getLast?_expandTabs
  cases l with
  | raw text => exact absurd rfl (h text)
  | fold =>
    have hlast : (fold.draw th {} w).chars.getLast? = some '.' := rfl
    rw [hlast]
    rintro c ⟨⟩
    decide
  | blank =>
    have hchars : (blank.draw th {} w).chars = List.replicate w.number ' ' ++ " |".toList :=
      chars_edge th w none
    have hlast : " |".toList.getLast? = some '|' := rfl
    rw [hchars, List.getLast?_append_of_ne_nil _ (by simp), hlast]
    rintro c ⟨⟩
    decide
  | source n marks content =>
    rw [chars_draw_source]
    exact fun c => not_isBlank_of_getLast?
  | caption c =>
    rw [chars_draw_caption th w Glyphs.single_default]
    exact fun c => not_isBlank_of_getLast?

end DisplayLine

/-! ## Frames -/

/-- Behind a line feed a text is printed as it is alone. -/
theorem printedLines_append_lineFeed (width : Nat) (xs ys : List Char) :
    printedLines width (xs ++ '\n' :: ys) = printedLines width xs ++ printedLines width ys := by
  rw [printedLines, expandTabs_append_lineFeed, splitRows_append_cons rfl, List.flatMap_append]
  rfl

/-- Rows that are joined by line feeds are printed one by one. -/
theorem printedLines_intercalate (width : Nat) {blocks : List (List Char)} (h : blocks ≠ []) :
    printedLines width (['\n'].intercalate blocks) = blocks.flatMap (printedLines width) := by
  induction blocks with
  | nil => exact absurd rfl h
  | cons block blocks ih =>
    cases blocks with
    | nil => simp
    | cons next blocks =>
      rw [List.intercalate_cons_cons, List.append_assoc, List.singleton_append,
        printedLines_append_lineFeed, ih (List.cons_ne_nil _ _), List.flatMap_cons (x := block)]

/-- A text without line feeds is printed as the lines of one row. -/
theorem printedLines_of_not_mem (width : Nat) {cs : List Char} (h : '\n' ∉ cs) :
    printedLines width cs = wrapRow width (expandTabs 0 cs) := by
  have hfeed : ∀ c ∈ expandTabs 0 cs, Printable.char c ≠ '\n' := by
    rintro c hc rfl
    exact lineFeed_not_mem_expandTabs h 0 hc
  rw [printedLines, splitRows_of_not_mem hfeed, List.flatMap_singleton]

theorem lineFeed_not_mem_printedLines {width : Nat} {cs line : List Char}
    (h : line ∈ printedLines width cs) : '\n' ∉ line := by
  obtain ⟨row, hrow, hline⟩ := List.mem_flatMap.1 h
  exact lineFeed_not_mem_of_mem_wrapRow (fun hfeed => ne_lineFeed_of_mem_splitRows hrow _ hfeed rfl) hline

/-- A console that is no terminal writes the lines of a text, and nothing else. -/
theorem Console.toList_write {c : Console} (hplain : ¬ c.isTerminal) (hwidth : c.width ≠ 0)
    (t : StyledText) : (c.write t).toList = (printedLines c.width t.chars).flatMap (· ++ ['\n']) := by
  rw [write, if_neg hwidth, lines, if_neg hplain, String.toList_ofList]

/-- It writes a frame row by row. -/
theorem pieces_write_drawFrame {c : Console} (hplain : ¬ c.isTerminal) (hwidth : c.width ≠ 0) (th : Theme)
    (g : Glyphs) {rows : List DisplayLine} (hrows : rows ≠ []) :
    pieces (c.write (drawFrame th g rows)).toList =
      rows.flatMap fun l => printedLines c.width (l.draw th g (.of rows)).chars := by
  have hblocks : rows.map (fun l => (l.draw th g (.of rows)).chars) ≠ [] := by
    simpa using hrows
  have hchars : (drawFrame th g rows).chars =
      ['\n'].intercalate (rows.map fun l => (l.draw th g (.of rows)).chars) := by
    rw [drawFrame, StyledText.chars_stack, List.map_map]
    rfl
  rw [Console.toList_write hplain hwidth, pieces_flatMap_lineFeed fun _ => lineFeed_not_mem_printedLines,
    hchars, printedLines_intercalate _ hblocks, List.flatMap_map]

/-- Below a header, whatever it is, the pieces of the text are the lines of the body. -/
theorem exists_pieces_write_drawFrame {c : Console} (hplain : ¬ c.isTerminal) (hwidth : c.width ≠ 0)
    (th : Theme) (header : List DisplayLine) {body : List DisplayLine} (hbody : body ≠ [])
    (hfeeds : ∀ l ∈ body, '\n' ∉ l.text.toList) :
    ∃ heading, pieces (c.write (drawFrame th {} (header ++ body))).toList =
      heading ++ body.flatMap fun l => wrapRow c.width (l.printed th {} (.of (header ++ body))) := by
  have hrows : header ++ body ≠ [] := List.append_ne_nil_of_right_ne_nil header hbody
  rw [pieces_write_drawFrame hplain hwidth th {} hrows, List.flatMap_append]
  refine ⟨_, congrArg _ (List.flatMap_congr ?_)⟩
  intro l hl
  exact printedLines_of_not_mem _ (DisplayLine.lineFeed_not_mem_draw th (hfeeds l hl))

end CodeFrame
