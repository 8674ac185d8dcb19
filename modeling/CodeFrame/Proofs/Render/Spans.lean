import CodeFrame.Proofs.Render.Blocks

/-!
# The styles of a frame

A frame gets its styles part by part: each part that is appended to a row brings a span for what is kept of
it, trimming the row clips its spans, and in the frame they stand behind the rows above. On the way they
remain in order (`Span.InOrder`), and the rows keep them apart: each span of a frame lies in the block of one
display line, and a line feed between two blocks has no style (`drawRows_spans`).
-/

namespace CodeFrame

/-! ## Spans in order -/

/-- Spans between two offsets, one behind the other. -/
structure Span.InOrder (first stop : Nat) (ss : List Span) : Prop where
  within : ∀ s ∈ ss, first ≤ s.first ∧ s.first ≤ s.stop ∧ s.stop ≤ stop
  apart : ss.Pairwise fun s s' => s.stop ≤ s'.first

namespace Span.InOrder

variable {a b c : Nat} {ss ss' : List Span}

theorem nil : InOrder a b [] :=
  ⟨fun _ hs => absurd hs List.not_mem_nil, .nil⟩

theorem append (h : InOrder a b ss) (h' : InOrder b c ss') (hab : a ≤ b) (hbc : b ≤ c) :
    InOrder a c (ss ++ ss') := by
  constructor
  · intro s hs
    rcases List.mem_append.1 hs with hs | hs
    · have hw := h.within s hs
      omega
    · have hw := h'.within s hs
      omega
  · refine List.pairwise_append.2 ⟨h.apart, h'.apart, ?_⟩
    intro s hs s' hs'
    have hw := h.within s hs
    have hw' := h'.within s' hs'
    omega

theorem spanOf (hab : a ≤ b) (style : String) : InOrder a b (spanOf a b style) := by
  unfold CodeFrame.spanOf
  split
  · exact nil
  · refine ⟨?_, List.pairwise_singleton _ _⟩
    intro s hs
    rw [List.mem_singleton.1 hs]
    exact ⟨Nat.le_refl a, hab, Nat.le_refl b⟩

/-- Behind `n` more characters, spans are in order as they were. -/
theorem shift (n : Nat) (h : InOrder a b ss) : InOrder (n + a) (n + b) (ss.map (Span.shift n)) := by
  constructor
  · intro s' hs'
    obtain ⟨s, hs, rfl⟩ := List.mem_map.1 hs'
    have hw := h.within s hs
    simp only [Span.shift]
    omega
  · refine List.pairwise_map.2 (h.apart.imp ?_)
    intro s s' hss'
    exact Nat.add_le_add_right hss' n

/-- Clipped to the first `n` characters, spans are in order and end there. -/
theorem clip (n : Nat) (h : InOrder a b ss) : InOrder a n (ss.filterMap (Span.clip? n)) := by
  have hclip : ∀ s s', Span.clip? n s = some s' →
      s.first < n ∧ s'.first = s.first ∧ s'.stop = min n s.stop := by
    intro s s' hs
    unfold Span.clip? at hs
    split at hs
    · next hlt =>
      obtain rfl := Option.some.inj hs
      exact ⟨hlt, rfl, rfl⟩
    · cases hs
  constructor
  · intro s' hs'
    obtain ⟨s, hs, hss'⟩ := List.mem_filterMap.1 hs'
    have hw := h.within s hs
    have hc := hclip s s' hss'
    omega
  · refine List.Pairwise.filterMap (Span.clip? n) ?_ h.apart
    intro r s hrs r' hr s' hs
    have hr' := hclip r r' hr
    have hs' := hclip s s' hs
    omega

end Span.InOrder

/-! ## Texts -/

namespace StyledText

/-- A text without a style of its own whose spans are in order. -/
structure Tidy (t : StyledText) : Prop where
  base_eq : t.base = ""
  spans : Span.InOrder 0 t.chars.length t.spans

theorem tidy_empty : ({} : StyledText).Tidy :=
  ⟨rfl, .nil⟩

variable {t : StyledText} {ts : List StyledText}

/-- The span of what is appended stands on the characters that are kept of it, behind all others. -/
theorem Tidy.append (h : t.Tidy) (cs : List Char) (style : String) : (t.append cs style).Tidy := by
  unfold StyledText.append
  split
  · exact h
  · refine ⟨h.base_eq, ?_⟩
    rw [List.length_append]
    exact h.spans.append (.spanOf (Nat.le_add_right _ _) style) (Nat.zero_le _) (Nat.le_add_right _ _)

/-- A trimmed text has no span that reaches beyond its end. -/
theorem Tidy.trimEnd (h : t.Tidy) : t.trimEnd.Tidy := by
  unfold StyledText.trimEnd
  by_cases hlt : (dropTrailingBlanks t.chars).length < t.chars.length
  · simp only [if_pos hlt]
    exact ⟨h.base_eq, h.spans.clip _⟩
  · simp only [if_neg hlt]
    exact h

/-- Wherever a text stands, its spans are in order if they were, or if there is only its base style. -/
theorem inOrder_spansAt (h : t.Tidy ∨ t.spans = []) (n : Nat) :
    Span.InOrder n (n + t.chars.length) (t.spansAt n) := by
  unfold spansAt
  split
  · exact .nil
  rcases h with h | h
  · have hbase : spanOf n (n + t.chars.length) t.base = [] := if_pos h.base_eq
    rw [hbase, List.nil_append]
    exact h.spans.shift n
  · rw [h, List.map_nil, List.append_nil]
    exact .spanOf (Nat.le_add_right _ _) t.base

theorem inOrder_spansFrom (h : ∀ t ∈ ts, t.Tidy ∨ t.spans = []) (n : Nat) :
    Span.InOrder n (n + (ts.flatMap chars).length) (spansFrom n ts) := by
  induction ts generalizing n with
  | nil => exact .nil
  | cons t ts ih =>
    have hhead := inOrder_spansAt (h t List.mem_cons_self) n
    have htail := ih (fun t ht => h t (List.mem_cons_of_mem _ ht)) (n + t.chars.length)
    rw [List.flatMap_cons, List.length_append, ← Nat.add_assoc]
    exact hhead.append htail (Nat.le_add_right _ _) (Nat.le_add_right _ _)

/-! ## Rows one below the other -/

/-- Each span of rows one below the other is a span of one of them, where it stands: no line feed between
them has one. -/
theorem exists_row_of_mem_spansFrom {n : Nat} {s : Span}
    (hs : s ∈ spansFrom n (ts.intersperse (.ofString "\n" ""))) :
    ∃ above t below, ts = above ++ t :: below ∧
      s ∈ t.spansAt (n + (above.flatMap fun t => t.chars ++ ['\n']).length) := by
  induction ts generalizing n with
  | nil => cases hs
  | cons t ts ih =>
    cases ts with
    | nil =>
      rw [List.intersperse_singleton, spansFrom, spansFrom, List.append_nil] at hs
      exact ⟨[], t, [], rfl, hs⟩
    | cons t' ts =>
      rw [List.intersperse_cons_cons, spansFrom, spansFrom] at hs
      rcases List.mem_append.1 hs with hs | hs
      · exact ⟨[], t, t' :: ts, rfl, hs⟩
      · have hfeed : ∀ k, (ofString "\n" "").spansAt k = [] := fun _ => rfl
        rw [hfeed, List.nil_append] at hs
        obtain ⟨above, u, below, hsplit, hu⟩ := ih hs
        refine ⟨t :: above, u, below, by rw [hsplit, List.cons_append], ?_⟩
        have hstart : n + ((t :: above).flatMap fun t => t.chars ++ ['\n']).length =
            n + t.chars.length + (ofString "\n" "").chars.length +
              (above.flatMap fun t => t.chars ++ ['\n']).length := by
          rw [List.flatMap_cons, List.length_append, List.length_append]
          show n + (_ + 1 + _) = n + _ + 1 + _
          omega
        rw [hstart]
        exact hu

theorem forall_mem_intersperse {p : StyledText → Prop} {feed : StyledText} (hfeed : p feed)
    (h : ∀ t ∈ ts, p t) : ∀ t ∈ ts.intersperse feed, p t := by
  induction ts with
  | nil => exact h
  | cons t ts ih =>
    cases ts with
    | nil => exact h
    | cons t' ts =>
      rw [List.intersperse_cons_cons]
      rw [List.forall_mem_cons] at h ⊢
      exact ⟨h.1, List.forall_mem_cons.2 ⟨hfeed, ih h.2⟩⟩

/-- Tidy rows make a tidy text, and so do rows that have only a style of their own. -/
theorem tidy_stack (h : ∀ t ∈ ts, t.Tidy ∨ t.spans = []) : (stack ts).Tidy := by
  refine ⟨rfl, ?_⟩
  have hfeed : (ofString "\n" "").Tidy ∨ (ofString "\n" "").spans = [] := .inr rfl
  have horder := inOrder_spansFrom (forall_mem_intersperse hfeed h) 0
  rw [Nat.zero_add] at horder
  exact horder

end StyledText

/-! ## Display lines -/

namespace DisplayLine

variable (th : Theme) (g : Glyphs) (w : Columns) {t : StyledText}

theorem tidy_edge (number? : Option Int) : (edge th w number?).Tidy := by
  unfold edge
  cases number? with
  | none => exact (StyledText.tidy_empty.append _ _).append _ _
  | some n => exact (StyledText.tidy_empty.append _ _).append _ _

theorem tidy_withMarks (h : t.Tidy) (marks : List Mark) : (withMarks th w t marks).Tidy := by
  have hmarks : (marks.foldl (fun t m => t.append [m.glyph] th.connector) t).Tidy := by
    induction marks generalizing t with
    | nil => exact h
    | cons m marks ih => exact ih (h.append [m.glyph] th.connector)
  exact hmarks.append _ _

theorem tidy_withLabel (h : t.Tidy) (c : Caption) : (withLabel th t c).Tidy := by
  unfold withLabel
  split
  · exact h
  · exact (h.append _ _).append _ _

/-- A row with an edge is tidy, and any other row has a style for the whole of it. -/
theorem tidy_draw (l : DisplayLine) : (l.draw th g w).Tidy ∨ (l.draw th g w).spans = [] := by
  cases l with
  | raw text => exact .inr rfl
  | fold => exact .inr rfl
  | blank => exact .inl (tidy_edge th w none)
  | source n marks content =>
    exact .inl ((tidy_withMarks th w (tidy_edge th w (some n)) marks).append _ _).trimEnd
  | caption c =>
    exact .inl (tidy_withLabel th
      ((tidy_withMarks th w (tidy_edge th w none) c.marks).append _ _) c).trimEnd

end DisplayLine

/-! ## Frames -/

/-- The styles of a frame are spans on its characters, in order and apart, and each of them lies in the block
of one display line, so that no line feed between two blocks has a style. A block is what trimming leaves of
its row. The frame is drawn exactly if its line numbers have few digits and its captions can be held in
memory. -/
theorem drawRows_spans (th : Theme) (g : Glyphs) (memory : Nat) (rows : List DisplayLine) :
    let frame := drawFrame th g rows
    let block (l : DisplayLine) := (l.draw th g (.of rows)).chars
    (drawRows th g memory rows = .ok frame ↔
      (∀ l ∈ rows, ∀ n, l.number? = some n → fitsDigits n) ∧
        ∀ c, .caption c ∈ rows → g.underlineError? memory c = none) ∧
      frame.base = "" ∧
      (∀ s ∈ frame.spans, s.first ≤ s.stop ∧ s.stop ≤ frame.chars.length) ∧
      frame.spans.Pairwise (fun s s' => s.stop ≤ s'.first) ∧
      ∀ s ∈ frame.spans, ∃ above l below, rows = above ++ l :: below ∧
        let front := above.flatMap fun l => block l ++ ['\n']
        let behind := below.flatMap fun l => '\n' :: block l
        frame.chars = front ++ block l ++ behind ∧
          front.length ≤ s.first ∧ s.stop ≤ front.length + (block l).length := by
  intro frame block
  have hrow : ∀ l : DisplayLine, (l.draw th g (.of rows)).Tidy ∨ (l.draw th g (.of rows)).spans = [] :=
    DisplayLine.tidy_draw th g (.of rows)
  have htidy : frame.Tidy := by
    apply StyledText.tidy_stack
    intro t ht
    obtain ⟨l, -, rfl⟩ := List.mem_map.1 ht
    exact hrow l
  refine ⟨?_, htidy.base_eq, fun s hs => (htidy.spans.within s hs).2, htidy.spans.apart, ?_⟩
  · rw [← drawError?_eq_none_iff, drawRows]
    cases drawError? g memory rows with
    | none => simp [frame]
    | some e => simp
  · intro s hs
    obtain ⟨texts, t, texts', hsplit, ht⟩ := StyledText.exists_row_of_mem_spansFrom hs
    obtain ⟨above, rest, hrows, habove, hrest⟩ := List.map_eq_append_iff.1 hsplit
    obtain ⟨l, below, rfl, hl, hbelow⟩ := List.map_eq_cons_iff.1 hrest
    subst habove hl hbelow
    have horder := StyledText.inOrder_spansAt (hrow l) (above.flatMap fun l => block l ++ ['\n']).length
    rw [Nat.zero_add, List.flatMap_map] at ht
    obtain ⟨hfirst, -, hstop⟩ := horder.within s ht
    refine ⟨above, l, below, hrows, ?_, hfirst, hstop⟩
    have hchars : frame.chars = ['\n'].intercalate (above.map block ++ block l :: below.map block) := by
      show (stack _).chars = _
      rw [StyledText.chars_stack, List.map_map]
      show ['\n'].intercalate (rows.map block) = _
      rw [hrows, List.map_append, List.map_cons]
    rw [hchars, StyledText.intercalate_lineFeed_append_cons, List.flatMap_map, List.flatMap_map]

example :
    (drawFrame { code := "cyan" } {} [.source 1 [] "a\x07 \t ", .raw "error"]).spans =
      [⟨0, 1, "bold blue"⟩, ⟨1, 3, "bold blue"⟩, ⟨4, 5, "cyan"⟩, ⟨6, 11, "bold red"⟩] := by
  decide

end CodeFrame
