import CodeFrame.Proofs.Source.Separators

/-!
# What splitting a text leaves out

The lines of a text with their separators behind them are the text again (`splitLines_keeps_text`). A
separator is a line feed, with the carriage return in front of it if there is one; behind the last line
the text may end without a line feed. What is between the lines is read off the text alone (`IsCut`): a
separator has a carriage return exactly if one stands in front of the line feed, or at the end of the text.
-/

namespace CodeFrame

/-- What follows a line: a carriage return or not, then a line feed or the end of the text. -/
structure Separator where
  returns : Bool
  feeds : Bool
  deriving DecidableEq, Repr

/-- The characters of a separator. -/
def Separator.chars (s : Separator) : List Char :=
  (if s.returns then ['\r'] else []) ++ (if s.feeds then ['\n'] else [])

/-- The separator behind the last of the characters `cs`, which are followed by a line feed or by nothing. -/
def separatorBehind (cs : List Char) (feeds : Bool) : Separator :=
  ⟨cs.getLast? = some '\r', feeds⟩

/-- A cut of the characters `cs` into lines, each with its separator. -/
structure IsCut (cs : List Char) (cut : List (String × Separator)) : Prop where
  joined : (cut.flatMap fun c => c.1.toList ++ c.2.chars) = cs
  unbroken : ∀ c ∈ cut, '\n' ∉ c.1.toList
  fed : ∀ c ∈ cut.dropLast, c.2.feeds
  /-- The separator of a line is told by what stands in front of its line feed. -/
  at_feed : ∀ before after, cs = before ++ '\n' :: after →
    (cut[before.count '\n']?).map Prod.snd = some (separatorBehind before true)
  /-- If there is no line feed at the end, the last separator is told by the end. -/
  at_end : cs ≠ [] → cs.getLast? ≠ some '\n' →
    (cut[cs.count '\n']?).map Prod.snd = some (separatorBehind cs false)
  /-- There is a line for each line feed, and one more if something follows the last of them. -/
  length_eq : cut.length =
    cs.count '\n' + if cs ≠ [] ∧ cs.getLast? ≠ some '\n' then 1 else 0

/-- What holds of the empty text and of a single line, and of a text if it holds of what follows its first
line feed, holds of every text. -/
theorem induction_on_lines {P : List Char → Prop} (nil : P [])
    (last : ∀ l, '\n' ∉ l → l ≠ [] → P l)
    (cons : ∀ l cs, '\n' ∉ l → P cs → P (l ++ '\n' :: cs)) (cs : List Char) : P cs := by
  induction hn : cs.length using Nat.strongRecOn generalizing cs with
  | ind n ih =>
    by_cases hfeed : '\n' ∈ cs
    · obtain ⟨l, rest, rfl, hl⟩ := List.eq_append_cons_of_mem hfeed
      have hlt : rest.length < n := by
        rw [← hn, List.length_append, List.length_cons]
        omega
      exact cons l rest hl (ih rest.length hlt rest rfl)
    · by_cases hnil : cs = []
      · rw [hnil]
        exact nil
      · exact last cs hfeed hnil

/-- A carriage return that was taken from a line is found in its separator. -/
theorem dropReturn_append_chars (l : List Char) (feeds : Bool) :
    dropReturn l ++ (separatorBehind l feeds).chars = l ++ if feeds then ['\n'] else [] := by
  unfold separatorBehind Separator.chars
  by_cases hreturn : l.getLast? = some '\r'
  · obtain ⟨init, rfl⟩ := List.getLast?_eq_some_iff.1 hreturn
    rw [dropReturn_concat]
    simp
  · rw [dropReturn_of_getLast? hreturn]
    simp [hreturn]

theorem lineFeed_not_mem_dropReturn {l : List Char} (h : '\n' ∉ l) : '\n' ∉ dropReturn l := by
  unfold dropReturn
  split
  · intro hmem
    exact h (List.dropLast_subset l hmem)
  · exact h

/-- Lines have no line feed. -/
theorem lineFeed_not_mem_of_mem_splitLines {text l : String} (h : l ∈ splitLines text) :
    '\n' ∉ l.toList := by
  obtain ⟨p, hp, rfl⟩ := List.mem_map.1 h
  rw [String.toList_ofList]
  exact lineFeed_not_mem_dropReturn (lineFeed_not_mem_of_mem_pieces hp)

/-! ## Behind a line feed -/

theorem count_append_lineFeed {l : List Char} (h : '\n' ∉ l) (cs : List Char) :
    (l ++ '\n' :: cs).count '\n' = cs.count '\n' + 1 := by
  rw [List.count_append, List.count_eq_zero.2 h, List.count_cons_self, Nat.zero_add]

theorem getLast?_append_lineFeed (l : List Char) {cs : List Char} (h : cs ≠ []) :
    (l ++ '\n' :: cs).getLast? = cs.getLast? := by
  rw [List.getLast?_append_cons, List.getLast?_cons_of_ne_nil h]

/-- No carriage return reaches over a line feed. -/
theorem separatorBehind_append_lineFeed (l cs : List Char) (feeds : Bool) :
    separatorBehind (l ++ '\n' :: cs) feeds = separatorBehind cs feeds := by
  unfold separatorBehind
  by_cases hne : cs = []
  · simp [hne]
  · rw [getLast?_append_lineFeed l hne]

/-! ## Cuts -/

namespace IsCut

theorem nil : IsCut [] [] where
  joined := rfl
  unbroken := by simp
  fed := by simp
  at_feed := by simp
  at_end := by simp
  length_eq := rfl

/-- A text without a line feed is one line. -/
theorem single {l : List Char} (hfeed : '\n' ∉ l) (hne : l ≠ []) :
    IsCut l [(String.ofList (dropReturn l), separatorBehind l false)] where
  joined := by
    have hjoined := dropReturn_append_chars l false
    simpa using hjoined
  unbroken := by
    simpa using lineFeed_not_mem_dropReturn hfeed
  fed := by simp
  at_feed := by
    rintro before after rfl
    simp at hfeed
  at_end := by
    intro _ _
    rw [List.count_eq_zero.2 hfeed]
    rfl
  length_eq := by
    have hlast : l.getLast? ≠ some '\n' := fun h => hfeed (List.mem_of_getLast? h)
    rw [List.count_eq_zero.2 hfeed, if_pos ⟨hne, hlast⟩]
    rfl

/-- A line with its line feed goes in front of the cut of what follows. -/
theorem cons {l cs : List Char} {cut : List (String × Separator)} (hfeed : '\n' ∉ l)
    (h : IsCut cs cut) :
    IsCut (l ++ '\n' :: cs) ((String.ofList (dropReturn l), separatorBehind l true) :: cut) where
  joined := by
    have hfirst := dropReturn_append_chars l true
    rw [List.flatMap_cons, h.joined, String.toList_ofList, hfirst]
    simp
  unbroken := by
    intro c hc
    rcases List.mem_cons.1 hc with rfl | hc
    · simpa using lineFeed_not_mem_dropReturn hfeed
    · exact h.unbroken c hc
  fed := by
    intro c hc
    cases cut with
    | nil => simp at hc
    | cons c' cut =>
      rw [List.dropLast_cons_of_ne_nil (List.cons_ne_nil c' cut)] at hc
      rcases List.mem_cons.1 hc with rfl | hc
      · rfl
      · exact h.fed c hc
  at_feed := by
    intro before after heq
    rcases List.append_eq_append_iff.1 heq with ⟨m, rfl, hm⟩ | ⟨m, rfl, hm⟩
    · cases m with
      | nil =>
        -- the line feed is the one behind the first line
        rw [List.append_nil, List.count_eq_zero.2 hfeed]
        rfl
      | cons c m =>
        rw [List.cons_append, List.cons.injEq] at hm
        obtain ⟨rfl, rfl⟩ := hm
        rw [count_append_lineFeed hfeed, List.getElem?_cons_succ, separatorBehind_append_lineFeed]
        exact h.at_feed m after rfl
    · cases m with
      | nil =>
        rw [List.append_nil] at hfeed
        rw [List.count_eq_zero.2 hfeed, List.append_nil]
        rfl
      | cons c m =>
        rw [List.cons_append, List.cons.injEq] at hm
        obtain ⟨rfl, -⟩ := hm
        simp at hfeed
  at_end := by
    intro _ hlast
    have hne : cs ≠ [] := by
      rintro rfl
      simp at hlast
    have hlast' : cs.getLast? ≠ some '\n' := by
      rwa [getLast?_append_lineFeed l hne] at hlast
    rw [count_append_lineFeed hfeed, List.getElem?_cons_succ, separatorBehind_append_lineFeed]
    exact h.at_end hne hlast'
  length_eq := by
    have hmore : (l ++ '\n' :: cs ≠ [] ∧ (l ++ '\n' :: cs).getLast? ≠ some '\n') ↔
        cs ≠ [] ∧ cs.getLast? ≠ some '\n' := by
      by_cases hne : cs = []
      · simp [hne]
      · simp [getLast?_append_lineFeed l hne, hne]
    rw [List.length_cons, h.length_eq, count_append_lineFeed hfeed]
    simp only [hmore]
    omega

end IsCut

/-- The pieces of a text, without the carriage returns at their ends, are the lines of a cut. -/
theorem exists_isCut (cs : List Char) :
    ∃ cut, IsCut cs cut ∧ cut.map Prod.fst = (pieces cs).map fun p => String.ofList (dropReturn p) := by
  induction cs using induction_on_lines with
  | nil => exact ⟨[], .nil, rfl⟩
  | last l hfeed hne =>
    refine ⟨_, .single hfeed hne, ?_⟩
    rw [pieces_of_not_mem hfeed hne]
    rfl
  | cons l cs hfeed ih =>
    obtain ⟨cut, hcut, hlines⟩ := ih
    refine ⟨_, .cons hfeed hcut, ?_⟩
    rw [pieces_append_lineFeed hfeed, List.map_cons, List.map_cons, hlines]

/-- A text is cut into its lines: with their separators behind them they are the text again, and nothing
else is left out. -/
theorem splitLines_keeps_text (text : String) :
    ∃ cut, cut.map Prod.fst = splitLines text ∧ IsCut text.toList cut := by
  obtain ⟨cut, hcut, hlines⟩ := exists_isCut text.toList
  exact ⟨cut, hlines, hcut⟩

example : splitLines "a\r\r\n\n\rb\u2028c\r" = ["a\r", "", "\rb\u2028c"] := by
  decide

end CodeFrame
