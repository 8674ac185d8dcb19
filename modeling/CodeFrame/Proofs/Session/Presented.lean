import CodeFrame.Proofs.Decode.Room
import CodeFrame.Proofs.Decode.Strays
import CodeFrame.Proofs.Render.Printed
import CodeFrame.Proofs.Session.Drawing
import CodeFrame.Session.Present

/-!
# Presenting a text

The text of a snippet is presented as the snippet is, and a text of none fails with what is wrong with
it, behind a report (`Session.present_text`). The report begins with words that no frame begins with
(`reportHead`). Three errors are not reported: nothing is said about a text that is not UTF-8, nothing about
one that has a surrogate, and nothing about one that is nested too deeply.
-/

namespace CodeFrame

/-- What the report on a text that describes no snippet begins with. -/
def reportHead : List Char :=
  "error: invalid snippet:".toList

/-! ## Reports -/

namespace Session

variable (th : Theme) (err : DecodeError)

/-- A report is its head with the message behind it. -/
theorem chars_decodeReport :
    (decodeReport th err).chars = reportHead ++ (' ' :: err.message.toList.filter isStored) := by
  have hhead : "error".toList.filter isStored ++ ": invalid snippet: ".toList.filter isStored =
      reportHead ++ [' '] := by decide
  unfold decodeReport
  rw [StyledText.chars_append, StyledText.chars_append, String.toList_append, List.filter_append,
    List.nil_append, ← List.append_assoc, hhead, List.append_assoc]
  rfl

/-- A row that begins with the head of a report has it at the start of its first line, if it fits there. -/
theorem exists_reportHead_prefix_wrapRow {width : Nat} (hwidth : reportHead.length ≤ width)
    (rest : List Char) :
    ∃ first more, wrapRow width (reportHead ++ ' ' :: rest) = first :: more ∧ reportHead <+: first := by
  -- the last of the three words has all blanks that follow it
  obtain ⟨behind, more, hlast, hbehind⟩ := exists_wordsFrom_isOver "snippet: ".toList.reverse rest
  have hwords : words (reportHead ++ ' ' :: rest) =
      ["error: ".toList, "invalid ".toList] ++ ("snippet: ".toList ++ behind) :: more := by
    show "error: ".toList :: "invalid ".toList :: wordsFrom "snippet: ".toList.reverse true rest = _
    rw [hlast, List.reverse_reverse]
    rfl
  have htrimmed : dropTrailingBlanks ("snippet: ".toList ++ behind) = "snippet:".toList := by
    have hnil : dropTrailingBlanks behind = [] := List.rdropWhile_eq_nil_iff.2 hbehind
    rw [dropTrailingBlanks_append_eq, if_pos hnil]
    decide
  have hplain : reportHead.all isPlain := by decide
  have hnarrow : ∀ c ∈ reportHead, charWidth c = 1 :=
    fun c hc => charWidth_of_isPlain (List.all_eq_true.1 hplain c hc)
  refine exists_prefix_wrapRow hwords ?_ ⟨' ' :: behind, rfl⟩ hnarrow hwidth
  rw [htrimmed]
  exact hwidth

/-- Where there is room for it, a console that is no terminal writes the head of a report as it is. -/
theorem reportHead_prefix_write {c : Console} (hplain : ¬ c.isTerminal)
    (hwidth : reportHead.length ≤ c.width) :
    reportHead <+: (c.write (decodeReport th err)).toList := by
  set message := err.message.toList.filter isStored
  have hpos : 0 < reportHead.length := by decide
  have hplain' : (reportHead ++ [' ']).all isPlain := by decide
  have hfront : ∀ d ∈ reportHead ++ [' '], isPlain d := List.all_eq_true.1 hplain'
  have hfeeds : ∀ d ∈ reportHead ++ [' '], Printable.char d ≠ '\n' :=
    fun d hd => (ne_of_isPlain (hfront d hd)).1
  have hexpanded := expandTabs_plain_append hfront 0 message
  obtain ⟨row, rows, hrows⟩ :=
    exists_splitRows_append hfeeds (expandTabs (0 + (reportHead ++ [' ']).length) message)
  obtain ⟨first, more, hfirst, hprefix⟩ := exists_reportHead_prefix_wrapRow hwidth row
  rw [Console.toList_write hplain (by omega), chars_decodeReport, List.append_cons, printedLines, hexpanded,
    hrows, List.flatMap_cons, List.append_assoc, List.singleton_append, hfirst, List.cons_append,
    List.flatMap_cons, List.append_assoc]
  exact hprefix.trans (List.prefix_append _ _)

end Session

/-! ## Frames -/

/-- What a frame begins with: the head of a title, or the blank that location lines and empty lines
begin with. -/
def frameHeads : List (List Char) :=
  ["error[".toList, "warning[".toList, " ".toList]

/-- No text begins like a report and like a frame. -/
theorem not_reportHead_prefix {cs head : List Char} (hhead : head ∈ frameHeads) (h : head <+: cs) :
    ¬ reportHead <+: cs := by
  intro hreport
  have hapart : ∀ head ∈ frameHeads, ¬ reportHead <+: head ∧ ¬ head <+: reportHead := by decide
  rcases List.prefix_or_prefix_of_prefix hreport h with hle | hle
  · exact (hapart head hhead).1 hle
  · exact (hapart head hhead).2 hle

theorem exists_chars_stack (t : StyledText) (ts : List StyledText) :
    ∃ rest, (stack (t :: ts)).chars = t.chars ++ rest := by
  cases ts with
  | nil => exact ⟨[], rfl⟩
  | cons t' ts => exact ⟨_, List.flatMap_cons⟩

namespace DisplayLine

variable (th : Theme) (g : Glyphs) (w : Columns)

theorem prefix_draw_raw {text : String} {head : List Char} (hhead : head.all isStored)
    (h : head <+: text.toList) : head <+: ((raw text).draw th g w).chars := by
  show head <+: text.toList.filter isStored
  rw [← List.filter_eq_self.2 (List.all_eq_true.1 hhead)]
  exact h.filter isStored

theorem prefix_draw_blank : " ".toList <+: (blank.draw th g w).chars := by
  have hchars : (blank.draw th g w).chars = List.replicate w.number ' ' ++ " |".toList :=
    chars_edge th w none
  rw [hchars]
  -- a number column of no width leaves the blank of the separator
  cases w.number with
  | zero => exact ⟨_, rfl⟩
  | succ n => exact ⟨_, rfl⟩

end DisplayLine

namespace Snippet

variable {s : Snippet} {o : LayoutOptions} {rows : List DisplayLine}

theorem exists_prefix_titleText (o : LayoutOptions) (a : Annotation) :
    ∃ head ∈ frameHeads, head <+: (titleText o a).toList := by
  unfold titleText
  cases a.severity with
  | error =>
    refine ⟨"error[".toList, by decide, ?_⟩
    simp only [String.toList_append, List.append_assoc]
    exact ⟨_, rfl⟩
  | warning =>
    refine ⟨"warning[".toList, by decide, ?_⟩
    simp only [String.toList_append, List.append_assoc]
    exact ⟨_, rfl⟩

theorem prefix_locationText {row col : Int} {text : String} (h : s.locationText row col = .ok text) :
    " ".toList <+: text.toList := by
  unfold locationText at h
  cases hrow : numeral? row with
  | error e =>
    rw [hrow] at h
    cases h
  | ok digits =>
    rw [hrow] at h
    cases h
    simp only [String.toList_append, List.append_assoc]
    exact ⟨_, rfl⟩

/-- The rows of a header are texts, and each of them begins as a frame may begin. -/
theorem exists_prefix_of_mem_header {header : List DisplayLine} (h : s.header o = .ok header)
    {l : DisplayLine} (hl : l ∈ header) :
    ∃ text, l = .raw text ∧ ∃ head ∈ frameHeads, head <+: text.toList := by
  have htitle : l ∈ s.titleAnnotation?.toList.map (fun a => DisplayLine.raw (titleText o a)) →
      ∃ text, l = .raw text ∧ ∃ head ∈ frameHeads, head <+: text.toList := by
    intro hl
    obtain ⟨a, -, rfl⟩ := List.mem_map.1 hl
    exact ⟨_, rfl, exists_prefix_titleText o a⟩
  cases hmain : s.mainAnnotation? with
  | none =>
    unfold Snippet.header at h
    rw [hmain] at h
    cases h
    exact htitle hl
  | some a =>
    obtain ⟨col, hlocation⟩ := s.exists_location o (s.mem_of_mainAnnotation? hmain)
    rw [s.header_of_main o hmain hlocation] at h
    cases htext : s.locationText (s.row o a) col with
    | error e =>
      rw [htext] at h
      cases h
    | ok text =>
      rw [htext] at h
      cases h
      rcases List.mem_append.1 hl with hl | hl
      · exact htitle hl
      · rw [List.mem_singleton] at hl
        exact ⟨text, hl, " ".toList, by decide, prefix_locationText htext⟩

/-- The frame of a snippet begins with its title or with its location; without a header it begins with
the empty line above the source. -/
theorem exists_prefix_drawFrame (h : s.display o = .ok rows) (th : Theme) (g : Glyphs) :
    ∃ head ∈ frameHeads, head <+: (drawFrame th g rows).chars := by
  have hfirst : ∃ l ls, rows = l :: ls ∧
      ∀ w, ∃ head ∈ frameHeads, head <+: (l.draw th g w).chars := by
    unfold display at h
    cases hheader : s.header o with
    | error e =>
      rw [hheader] at h
      cases h
    | ok header =>
      rw [hheader] at h
      cases h
      -- what follows the header is the empty line above the source
      cases header with
      | nil =>
        refine ⟨_, _, rfl, ?_⟩
        intro w
        exact ⟨" ".toList, by decide, DisplayLine.prefix_draw_blank th g w⟩
      | cons l ls =>
        refine ⟨_, _, rfl, ?_⟩
        intro w
        obtain ⟨text, rfl, head, hhead, hprefix⟩ := exists_prefix_of_mem_header hheader List.mem_cons_self
        have hstored : ∀ head ∈ frameHeads, head.all isStored := by decide
        exact ⟨head, hhead, DisplayLine.prefix_draw_raw th g w (hstored head hhead) hprefix⟩
  obtain ⟨l, ls, rfl, hl⟩ := hfirst
  obtain ⟨head, hhead, hprefix⟩ := hl (.of (l :: ls))
  obtain ⟨rest, hrest⟩ := exists_chars_stack (l.draw th g (.of (l :: ls)))
    (ls.map (DisplayLine.draw th g (.of (l :: ls))))
  refine ⟨head, hhead, ?_⟩
  show head <+: (stack (_ :: _)).chars
  rw [hrest]
  exact hprefix.trans (List.prefix_append _ _)

end Snippet

namespace Session

variable {σ : Session}

/-! ## Presenting -/

variable {room : Nat} {e : Emitter} {text : List Symbol}

theorem load_run_ok {s : Snippet} (h : Snippet.load room text = .ok s) :
    (load room e text).run σ = (.ok s, σ) := by
  unfold load
  rw [h]
  rfl

/-- A text that describes no snippet gets a report, unless it is not UTF-8, has a surrogate or is nested too
deeply. -/
theorem load_run_error {err : DecodeError} (h : Snippet.load room text = .error err) :
    (load room e text).run σ = (.error (.decode err),
      if err = .notUtf8 ∨ err = .loneSurrogate ∨ err = .tooDeep then σ
      else { σ with written := σ.written ++
        [(e.console.stream, e.console.write (decodeReport e.theme err))] }) := by
  unfold load
  rw [h]
  cases err with
  | mismatch cause path =>
    -- the condition does not compute here, since the cause and the path are open
    rw [if_neg (by simp)]
    rfl
  | _ => rfl

/-- What is presented of a snippet are its warnings, and its frame unless there is a fault. -/
theorem presentSnippet_run (e : Emitter) (s : Snippet) :
    let told := σ.toldAll s.warnings
    (s.fault? e.glyphs e.options σ = none →
      ∃ rows, s.display e.options = .ok rows ∧ (presentSnippet e s).run σ =
        (.ok rows, { told with written := told.written ++
          [(e.console.stream, e.console.write (drawFrame e.theme e.glyphs rows))] })) ∧
    ∀ f, s.fault? e.glyphs e.options σ = some f →
      ∃ σ', (σ' = σ ∨ σ' = told) ∧ (presentSnippet e s).run σ = (.error f, σ') := by
  intro told
  -- the form in which `run_of_no_fault` and `run_of_fault` take a drawing
  have hsteps : presentSnippet e s = layOut s e.options >>= fun rows =>
      draw e.theme e.glyphs rows >>= fun t => print e.console t >>= fun _ => pure rows := by
    unfold presentSnippet emitRows
    simp only [bind_assoc]
  rw [hsteps]
  constructor
  · intro hfault
    obtain ⟨rows, hdisplay, hrun⟩ := Snippet.run_of_no_fault e.theme
      (k := fun rows t => print e.console t >>= fun _ => pure rows) hfault
    refine ⟨rows, hdisplay, ?_⟩
    rw [hrun]
    rfl
  · intro f hfault
    exact Snippet.run_of_fault e.theme hfault

/-- A text that describes no snippet fails with what is wrong with it. A report on it comes first, unless
the text is not UTF-8, which is said only of a text with stray bytes, has a surrogate, or is nested too
deeply for the recursion that is left: then nothing is shown. A text that describes a snippet is presented
as the snippet is, and no report is written: all that is shown are the warnings and the frame. Whatever is
found in a text that is not too deep is found as well with more recursion left. -/
theorem present_text (room : Nat) (e : Emitter) (text : List Symbol) (σ : Session) :
    (∀ err, Snippet.load room text = .error err →
      let report := decodeReport e.theme err
      (present room e (.text text)).run σ = (.error (.decode err),
        if err = .notUtf8 ∨ err = .loneSurrogate ∨ err = .tooDeep then σ
        else { σ with written := σ.written ++ [(e.console.stream, e.console.write report)] }) ∧
      ((∀ b, .stray b ∉ text) → err ≠ .notUtf8) ∧
      (err = .loneSurrogate ↔ ∃ u, .surrogate u ∈ text) ∧
      reportHead <+: report.chars ∧
      (¬ e.console.isTerminal → reportHead.length ≤ e.console.width →
        reportHead <+: (e.console.write report).toList)) ∧
    (∀ s, Snippet.load room text = .ok s →
      let told := σ.toldAll s.warnings
      (present room e (.text text)).run σ = (present room e (.snippet s)).run σ ∧
      (s.fault? e.glyphs e.options σ = none →
        ∃ rows, s.display e.options = .ok rows ∧
          let frame := drawFrame e.theme e.glyphs rows
          (present room e (.text text)).run σ = (.ok rows,
            { told with written := told.written ++ [(e.console.stream, e.console.write frame)] }) ∧
          ¬ reportHead <+: frame.chars) ∧
      ∀ f, s.fault? e.glyphs e.options σ = some f →
        ∃ σ', (σ' = σ ∨ σ' = told) ∧ (present room e (.text text)).run σ = (.error f, σ')) ∧
    (Snippet.load room text ≠ .error .tooDeep →
      ∀ room', room ≤ room' → Snippet.load room' text = Snippet.load room text) := by
  have hrun : (present room e (.text text)).run σ = (load room e text >>= presentSnippet e).run σ := rfl
  refine ⟨?_, ?_, ?_⟩
  · intro err herr report
    refine ⟨?_, ?_, ?_, ?_, reportHead_prefix_write e.theme err⟩
    · rw [hrun, run_bind, load_run_error herr]
    · rintro hstrays rfl
      exact Snippet.load_ne_notUtf8 hstrays herr
    · have hiff : Snippet.load room text = .error .loneSurrogate ↔ _ := Snippet.load_eq_loneSurrogate_iff
      rwa [herr, Except.error.injEq] at hiff
    · rw [chars_decodeReport]
      exact List.prefix_append _ _
  · intro s hs told
    have hsnippet : (present room e (.text text)).run σ = (presentSnippet e s).run σ := by
      rw [hrun, run_bind, load_run_ok hs]
    obtain ⟨hdrawn, hfailed⟩ := presentSnippet_run (σ := σ) e s
    rw [hsnippet]
    refine ⟨rfl, ?_, hfailed⟩
    intro hfault
    obtain ⟨rows, hdisplay, hrows⟩ := hdrawn hfault
    obtain ⟨head, hhead, hprefix⟩ := Snippet.exists_prefix_drawFrame hdisplay e.theme e.glyphs
    exact ⟨rows, hdisplay, hrows, not_reportHead_prefix hhead hprefix⟩
  · exact fun hdeep room' hle => Snippet.load_of_le hle hdeep

/-- A text whose source holds a stray byte fails without a report. -/
theorem present_text_of_stray_byte :
    let text := Symbol.ofString "\x7b\"source\":\"" ++ [.stray 0xff] ++ Symbol.ofString "\"\x7d"
    let σ : Session := { memory := 0 }
    Snippet.load 1 text = .error .notUtf8 ∧
      (present 1 {} (.text text)).run σ = (.error (.decode .notUtf8), σ) := by
  intro text σ
  have hload : Snippet.load 1 text = .error .notUtf8 := by decide +kernel
  exact ⟨hload, ((present_text 1 {} text σ).1 _ hload).1⟩

end Session

end CodeFrame
