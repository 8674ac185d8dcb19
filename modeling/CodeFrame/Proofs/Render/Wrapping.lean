import CodeFrame.Proofs.Render.Rows
import CodeFrame.Text.Wrap

/-!
# Wrapped rows

Breaking a row into lines loses nothing of it (`flatten_breakWords`); only of a line that is still too long,
some of the end may not be shown. So a row that its console has room for is one line as it stands
(`wrapRow_of_columns_le`), and the first line of any other row begins with the words that fit in it
(`exists_prefix_wrapRow`).
-/

namespace CodeFrame

variable {α : Type} [Printable α]

open Printable (char blanks)

/-! ## Words -/

/-- The words of a row are all of it. -/
theorem flatten_wordsFrom (word : List α) (isOver : Bool) (xs : List α) :
    (wordsFrom word isOver xs).flatten = word.reverse ++ xs := by
  induction xs generalizing word isOver with
  | nil => simp [wordsFrom]
  | cons x xs ih =>
    rw [wordsFrom]
    split
    · rw [ih, List.reverse_cons, List.append_assoc, List.singleton_append]
    split
    · rw [List.flatten_cons, ih, List.reverse_singleton, List.singleton_append]
    · rw [ih, List.reverse_cons, List.append_assoc, List.singleton_append]

theorem flatten_words (row : List α) : (words row).flatten = row := by
  rw [words, flatten_wordsFrom, List.reverse_reverse, List.takeWhile_append_dropWhile]

/-- The blanks behind a word belong to it. -/
theorem exists_wordsFrom_isOver (word xs : List α) :
    ∃ behind more, wordsFrom word true xs = (word.reverse ++ behind) :: more ∧
      ∀ x ∈ behind, isBlank (char x) := by
  induction xs generalizing word with
  | nil => exact ⟨[], [], by simp [wordsFrom], by simp⟩
  | cons x xs ih =>
    rw [wordsFrom]
    by_cases hx : isBlank (char x)
    · obtain ⟨behind, more, hwords, hbehind⟩ := ih (x :: word)
      refine ⟨x :: behind, more, ?_, List.forall_mem_cons.2 ⟨hx, hbehind⟩⟩
      rw [if_pos hx, hwords, List.reverse_cons, List.append_assoc]
      rfl
    · refine ⟨[], wordsFrom [x] false xs, ?_, by simp⟩
      rw [if_neg hx, if_pos rfl, List.append_nil]

/-! ## Breaking -/

theorem columns_dropTrailingBlanks_le (row : List α) : columns (dropTrailingBlanks row) ≤ columns row := by
  obtain ⟨behind, hrow⟩ := isPrefix_dropTrailingBlanks row
  have hcolumns := congrArg columns hrow
  rw [columns_append] at hcolumns
  omega

/-- Words go on in a line as long as there is room for them. -/
theorem breakWords_append {width col : Nat} {front : List (List α)}
    (h : col + columns front.flatten ≤ width) (line : List α) (ws : List (List α)) :
    breakWords width line col (front ++ ws) =
      breakWords width (line ++ front.flatten) (col + columns front.flatten) ws := by
  induction front generalizing line col with
  | nil => simp
  | cons w front ih =>
    rw [List.flatten_cons, columns_append] at h
    have hword := columns_dropTrailingBlanks_le w
    rw [List.cons_append, breakWords, if_pos (by omega), ih (by omega), List.flatten_cons,
      columns_append, List.append_assoc, Nat.add_assoc]

theorem flatten_chopFrom (width : Nat) (part : List α) (col : Nat) (word : List α) :
    (chopFrom width part col word).flatten = part ++ word := by
  induction word generalizing part col with
  | nil => simp [chopFrom]
  | cons x xs ih =>
    rw [chopFrom]
    split
    · rw [ih, List.append_assoc, List.singleton_append]
    · rw [List.flatten_cons, ih, List.singleton_append]

theorem flatten_foldWord (width : Nat) (line word : List α) :
    (foldWord width line word).flatten = line ++ word := by
  have hparts := flatten_chopFrom width [] 0 word
  unfold foldWord
  split
  · rename_i hchop
    rw [hchop] at hparts
    exact hparts
  · exact hparts
  · rw [List.flatten_cons, hparts, List.nil_append]

/-- The lines of a row are all of it. -/
theorem flatten_breakWords (width : Nat) (line : List α) (col : Nat) (ws : List (List α)) :
    (breakWords width line col ws).flatten = line ++ ws.flatten := by
  induction ws generalizing line col with
  | nil => simp [breakWords]
  | cons word ws ih =>
    rw [breakWords]
    split
    · rw [ih, List.flatten_cons, List.append_assoc]
    split
    · rw [List.flatten_cons, ih, List.flatten_cons]
    · -- the last line of a word that is too long goes on
      have hlines := flatten_foldWord width line word
      have hlast : ∀ lines : List (List α), lines.dropLast.flatten ++ lines.getLastD [] = lines.flatten := by
        intro lines
        rcases List.eq_nil_or_concat lines with rfl | ⟨front, last, rfl⟩
        · rfl
        · simp
      rw [List.flatten_append, ih, ← List.append_assoc, hlast, hlines, List.flatten_cons,
        List.append_assoc]

/-- A line that has been begun is broken off before a word that is too long. -/
theorem exists_foldWord_eq (width : Nat) {line : List α} (word : List α) (h : line ≠ []) :
    ∃ parts, foldWord width line word = line :: parts := by
  obtain ⟨x, xs, rfl⟩ := List.exists_cons_of_ne_nil h
  exact ⟨_, rfl⟩

/-- The first line begins with what has been written of it. -/
theorem exists_breakWords_eq (width : Nat) (line : List α) (col : Nat) (ws : List (List α)) :
    ∃ first more, breakWords width line col ws = first :: more ∧ line <+: first := by
  induction ws generalizing line col with
  | nil => exact ⟨line, [], rfl, List.prefix_rfl⟩
  | cons word ws ih =>
    rw [breakWords]
    split
    · obtain ⟨first, more, hfirst, hprefix⟩ := ih (line ++ word) (col + columns word)
      exact ⟨first, more, hfirst, (List.prefix_append line word).trans hprefix⟩
    split
    · exact ⟨line, _, rfl, List.prefix_rfl⟩
    obtain ⟨first, more, hfirst, hprefix⟩ :=
      ih ((foldWord width line word).getLastD []) (columns ((foldWord width line word).getLastD []))
    simp only [hfirst]
    by_cases hline : line = []
    · rw [hline]
      cases (foldWord width [] word).dropLast with
      | nil => exact ⟨first, more, rfl, List.nil_prefix⟩
      | cons part parts => exact ⟨part, _, rfl, List.nil_prefix⟩
    · obtain ⟨parts, hparts⟩ := exists_foldWord_eq width word hline
      rw [hparts] at hprefix ⊢
      cases parts with
      | nil => exact ⟨first, more, rfl, hprefix⟩
      | cons part parts => exact ⟨line, _, rfl, List.prefix_rfl⟩

/-! ## Cropping -/

/-- Characters of one column each take as many columns as there are of them. -/
theorem columns_of_narrow {row : List α} (h : ∀ x ∈ row, charWidth (char x) = 1) :
    columns row = row.length := by
  induction row with
  | nil => rfl
  | cons x row ih =>
    obtain ⟨hx, hrow⟩ := List.forall_mem_cons.1 h
    rw [columns_cons, hx, ih hrow, List.length_cons, Nat.add_comm]

/-- What is shown of a line that is too long begins with characters of one column each, as long as they fit.
The place where the line is cut off stays behind them while it is looked for. -/
theorem prefix_cropBetween {width : Nat} {line head : List α} {first stop : Nat} (hhead : head <+: line)
    (hnarrow : ∀ x ∈ head, charWidth (char x) = 1) (hfits : head.length ≤ width)
    (hstop : width < columns (line.take (stop + 1))) : head <+: cropBetween width line first stop := by
  have hcolumns : ∀ n ≤ head.length, columns (line.take n) = n := by
    intro n hn
    obtain ⟨behind, rfl⟩ := hhead
    rw [List.take_append_of_le_length hn, columns_of_narrow fun x hx => hnarrow x (List.mem_of_mem_take hx),
      List.length_take, Nat.min_eq_left hn]
  have hfront : ∀ n, head.length ≤ n → head <+: line.take n :=
    fun n hn => List.prefix_take_iff.2 ⟨hhead, hn⟩
  have hlength : ∀ n, width < columns (line.take n) → head.length < n := by
    intro n hn
    by_contra hle
    have hn' := hcolumns n (by omega)
    omega
  fun_induction cropBetween width line first stop with
  | case1 first stop middle front hnone =>
    -- only an empty line has no character up to the middle
    have hnil := List.getLast?_eq_none_iff.1 hnone
    rcases List.take_eq_nil_iff.1 hnil with hzero | rfl
    · cases hzero
    · simp at hstop
  | case2 first stop middle front x hlast hwide =>
    -- the character that is cut in two is none of the head
    obtain ⟨behind, hbehind⟩ := hfront (middle + 1) (hlength _ hwide.1.ge).le
    have hne : behind ≠ [] := by
      rintro rfl
      rw [List.append_nil] at hbehind
      have hx := hnarrow x (hbehind ▸ List.mem_of_getLast? hlast)
      omega
    have hdrop : front.dropLast = head ++ behind.dropLast := by
      rw [← List.dropLast_append_of_ne_nil hne, hbehind]
    rw [hdrop, List.append_assoc]
    exact List.prefix_append _ _
  | case3 first stop middle front x hlast hwide hend =>
    apply hfront
    rcases hend with hfull | hclose
    · by_contra hlt
      change columns (line.take (middle + 1)) = width at hfull
      rw [hcolumns (middle + 1) (by omega)] at hfull
      omega
    · have hstop' := hlength (stop + 1) hstop
      omega
  | case4 first stop middle front x hlast hwide hend hlong ih => exact ih hlong
  | case5 first stop middle front x hlast hwide hend hlong ih => exact ih hstop

/-- What is shown of a line begins with characters of one column each, as long as they fit. -/
theorem prefix_crop {width : Nat} {line head : List α} (hhead : head <+: line)
    (hnarrow : ∀ x ∈ head, charWidth (char x) = 1) (hfits : head.length ≤ width) :
    head <+: crop width line := by
  unfold crop
  split
  · exact hhead
  · rename_i hlong
    apply prefix_cropBetween hhead hnarrow hfits
    rw [List.take_of_length_le (Nat.le_succ _)]
    omega

/-- Nothing is shown of a line but its characters, and a blank for half of one. -/
theorem mem_of_mem_crop {width : Nat} {line : List Char} {c : Char} (h : c ∈ crop width line) :
    c ∈ line ∨ c = ' ' := by
  have hbetween : ∀ first stop, c ∈ cropBetween width line first stop → c ∈ line ∨ c = ' ' := by
    intro first stop hc
    fun_induction cropBetween width line first stop with
    | case1 => cases hc
    | case2 first stop middle front x hlast hwide =>
      rcases List.mem_append.1 hc with hc | hc
      · exact .inl (List.mem_of_mem_take (List.mem_of_mem_dropLast hc))
      · exact .inr (List.eq_of_mem_replicate hc)
    | case3 => exact .inl (List.mem_of_mem_take hc)
    | case4 first stop middle front x hlast hwide hend hlong ih => exact ih hc
    | case5 first stop middle front x hlast hwide hend hlong ih => exact ih hc
  unfold crop at h
  split at h
  · exact .inl h
  · exact hbetween 0 line.length h

/-! ## Lines -/

/-- A row that its console has room for is one line as it stands, if it does not end with a blank. -/
theorem wrapRow_of_columns_le {width : Nat} {row : List α} (h : columns row ≤ width)
    (hlast : ∀ x ∈ row.getLast?, ¬ isBlank (char x)) : wrapRow width row = [row] := by
  have hbreak : breakWords width [] 0 (words row) = [row] := by
    have hfits : 0 + columns (words row).flatten ≤ width := by rwa [flatten_words, Nat.zero_add]
    have happend := breakWords_append hfits [] []
    rwa [List.append_nil, flatten_words, List.nil_append, breakWords] at happend
  have hkept : dropBlanksBeyond width row = row := by
    rw [dropBlanksBeyond, dropTrailingBlanks_of_not_blank hlast]
    exact List.take_of_length_le (Nat.le_max_right _ _)
  rw [wrapRow, hbreak, List.map_singleton, hkept, crop, if_pos h]

/-- The first line of a row begins with the words that fit in it, also where blanks behind the last of them do
not fit any more. -/
theorem exists_prefix_wrapRow {width : Nat} {row head w : List α} {front more : List (List α)}
    (hwords : words row = front ++ w :: more)
    (hfits : columns front.flatten + columns (dropTrailingBlanks w) ≤ width)
    (hhead : head <+: front.flatten ++ w) (hnarrow : ∀ x ∈ head, charWidth (char x) = 1)
    (hlength : head.length ≤ width) :
    ∃ first rest, wrapRow width row = first :: rest ∧ head <+: first := by
  have hbreak : breakWords width [] 0 (words row) =
      breakWords width (front.flatten ++ w) (columns front.flatten + columns w) more := by
    rw [hwords, breakWords_append (by omega), List.nil_append, Nat.zero_add, breakWords, if_pos hfits]
  obtain ⟨line, lines, hlines, hline⟩ :=
    exists_breakWords_eq width (front.flatten ++ w) (columns front.flatten + columns w) more
  have hkept : head <+: dropBlanksBeyond width line :=
    List.prefix_take_iff.2 ⟨hhead.trans hline, hlength.trans (Nat.le_max_left _ _)⟩
  rw [wrapRow, hbreak, hlines, List.map_cons]
  exact ⟨_, _, rfl, prefix_crop hkept hnarrow hlength⟩

/-- No line of a row has a line feed in it if the row has none. -/
theorem lineFeed_not_mem_of_mem_wrapRow {width : Nat} {row line : List Char} (h : '
' ∉ row)
    (hline : line ∈ wrapRow width row) : '
' ∉ line := by
  obtain ⟨whole, hwhole, rfl⟩ := List.mem_map.1 hline
  intro hmem
  rcases mem_of_mem_crop hmem with hfeed | hblank
  · have hrow := flatten_breakWords width [] 0 (words row)
    rw [List.nil_append, flatten_words] at hrow
    exact h (hrow ▸ List.mem_flatten.2 ⟨whole, hwhole, List.mem_of_mem_take hfeed⟩)
  · cases hblank

/-! ## Rows of a text -/

theorem splitRows_ne_nil (xs : List α) : splitRows xs ≠ [] := by
  unfold splitRows
  (repeat' split) <;> simp

/-- Without a line feed a text is one row. -/
theorem splitRows_of_not_mem {xs : List α} (h : ∀ x ∈ xs, char x ≠ '
') : splitRows xs = [xs] := by
  induction xs with
  | nil => rfl
  | cons x xs ih =>
    obtain ⟨hx, hxs⟩ := List.forall_mem_cons.1 h
    rw [splitRows, if_neg hx, ih hxs]

/-- What stands in front of the first line feed belongs to the first row. -/
theorem exists_splitRows_append {xs : List α} (h : ∀ x ∈ xs, char x ≠ '\n') (ys : List α) :
    ∃ row rows, splitRows (xs ++ ys) = (xs ++ row) :: rows := by
  induction xs with
  | nil => exact List.exists_cons_of_ne_nil (splitRows_ne_nil ys)
  | cons x xs ih =>
    obtain ⟨hx, hxs⟩ := List.forall_mem_cons.1 h
    obtain ⟨row, rows, hrows⟩ := ih hxs
    refine ⟨row, rows, ?_⟩
    rw [List.cons_append, splitRows, if_neg hx, hrows]
    rfl

/-- A row ends at a line feed. -/
theorem splitRows_append_cons {x : α} (hx : char x = '
') (xs ys : List α) :
    splitRows (xs ++ x :: ys) = splitRows xs ++ splitRows ys := by
  induction xs with
  | nil =>
    show splitRows (x :: ys) = [] :: splitRows ys
    rw [splitRows, if_pos hx]
  | cons x' xs ih =>
    obtain ⟨row, rows, hrows⟩ := List.exists_cons_of_ne_nil (splitRows_ne_nil xs)
    rw [List.cons_append, splitRows, splitRows, ih, hrows]
    split <;> rfl

/-- No row has a line feed in it. -/
theorem ne_lineFeed_of_mem_splitRows {xs row : List α} (h : row ∈ splitRows xs) :
    ∀ x ∈ row, char x ≠ '
' := by
  induction xs generalizing row with
  | nil =>
    rw [splitRows, List.mem_singleton] at h
    simp [h]
  | cons x xs ih =>
    obtain ⟨first, rows, hrows⟩ := List.exists_cons_of_ne_nil (splitRows_ne_nil xs)
    rw [hrows] at ih
    rw [splitRows, hrows] at h
    split at h
    · rcases List.mem_cons.1 h with rfl | h
      · simp
      · exact ih h
    · rename_i hx
      rcases List.mem_cons.1 h with rfl | h
      · exact List.forall_mem_cons.2 ⟨hx, ih List.mem_cons_self⟩
      · exact ih (List.mem_cons_of_mem first h)

end CodeFrame
