import CodeFrame.Proofs.Source.Separators
import CodeFrame.Session.Basic

/-!
# Line ends do not matter

Nothing but the lines of a source reaches its check and its layout, so sources that write the same lines
come to the same, with whatever line ends (`Description.layOut_of_written`).
-/

namespace CodeFrame

/-! ## What a layout reads -/

namespace Snippet

variable {s s' : Snippet}

/-- A header reads the table, the origin, and the two designated annotations. -/
theorem header_congr (htable : s.table = s'.table) (horigin : s.origin = s'.origin)
    (htitle : s.titleAnnotation? = s'.titleAnnotation?)
    (hmain : s.mainAnnotation? = s'.mainAnnotation?) (o : LayoutOptions) :
    s.header o = s'.header o := by
  have hnumber : s.firstNumber = s'.firstNumber := congrArg LineTable.firstNumber htable
  have hlocation : s.location o = s'.location o := by
    funext a
    unfold location
    rw [hnumber, htable]
  have htext : s.locationText = s'.locationText := by
    funext row col
    unfold locationText
    rw [horigin]
  unfold header
  rw [htitle, hmain, hlocation, htext]

/-- A plan reads the table and the annotations. -/
theorem plan_congr (htable : s.table = s'.table) (has : s.annotations = s'.annotations) :
    s.plan = s'.plan := by
  unfold plan
  rw [htable, has]

/-- Laying out reads what header and plan read, whatever becomes of the warnings. -/
theorem layOut_congr (htable : s.table = s'.table) (horigin : s.origin = s'.origin)
    (has : s.annotations = s'.annotations) (htitle : s.title = s'.title) (hmain : s.main = s'.main)
    (o : LayoutOptions) :
    s.display o = s'.display o ∧ s.warnings = s'.warnings ∧
      Session.layOut s o = Session.layOut s' o := by
  have hdesignated : ∀ i?, s.designated? i? = s'.designated? i? := by
    intro i?
    unfold designated?
    rw [has]
  have hplan : s.plan = s'.plan := plan_congr htable has
  have hheader : s.header o = s'.header o := by
    apply header_congr htable horigin
    · unfold titleAnnotation?
      rw [hdesignated, htitle]
    · unfold mainAnnotation?
      rw [hdesignated, hmain]
  have hdisplay : s.display o = s'.display o := by
    unfold display body
    rw [hheader, htable, hplan]
  have hwarnings : s.warnings = s'.warnings := by
    unfold warnings
    rw [hplan, horigin]
  refine ⟨hdisplay, hwarnings, ?_⟩
  unfold Session.layOut
  rw [hdisplay, hwarnings]

end Snippet

/-! ## Sources with the same lines -/

namespace Description

variable {source source' : String}

theorem table_of_splitLines (h : splitLines source = splitLines source') (d : Description) :
    { d with source }.table = { d with source := source' }.table := by
  unfold table LineTable.ofText
  rw [h]

/-- The check finds the same problem in sources with the same lines. -/
theorem problem?_of_splitLines (h : splitLines source = splitLines source') (d : Description) :
    { d with source }.problem? = { d with source := source' }.problem? := by
  have htable := d.table_of_splitLines h
  unfold problem? anchorProblem?
  rw [htable]
  rfl

/-- Two sources that write the same lines, each with line ends of its own, make snippets that are laid out
alike: to the same rows with the same warnings, in every session. Or neither makes a snippet, for the same
reason. -/
theorem layOut_of_written {lines : List String} (hlines : ∀ l ∈ lines, IsLine l)
    (h : Written lines source) (h' : Written lines source') (d : Description) :
    (∃ e, { d with source }.check = .error e ∧ { d with source := source' }.check = .error e) ∨
    ∃ s s' : Snippet, { d with source }.check = .ok s ∧ { d with source := source' }.check = .ok s' ∧
      ∀ o, s.display o = s'.display o ∧ s.warnings = s'.warnings ∧
        ∀ σ, (Session.layOut s o).run σ = (Session.layOut s' o).run σ := by
  have hsplit : splitLines source = splitLines source' := by
    rw [splitLines_of_written h hlines, splitLines_of_written h' hlines]
  have hproblem := d.problem?_of_splitLines hsplit
  -- the two checks find the same problem, so they cannot come to different results
  rcases { d with source }.check_cases with ⟨e, he, hcheck⟩ | ⟨s, hnone, hcheck, hs⟩
  · rcases { d with source := source' }.check_cases with ⟨e', he', hcheck'⟩ | ⟨s', hnone', -, -⟩
    · rw [he, he', Option.some.injEq] at hproblem
      rw [← hproblem] at hcheck'
      exact .inl ⟨e, hcheck, hcheck'⟩
    · rw [he, hnone'] at hproblem
      cases hproblem
  · rcases { d with source := source' }.check_cases with ⟨e', he', -⟩ | ⟨s', -, hcheck', hs'⟩
    · rw [hnone, he'] at hproblem
      cases hproblem
    · refine .inr ⟨s, s', hcheck, hcheck', ?_⟩
      intro o
      have htable : s.table = s'.table := by
        rw [hs, hs']
        exact d.table_of_splitLines hsplit
      obtain ⟨hdisplay, hwarnings, hrun⟩ := Snippet.layOut_congr htable (by rw [hs, hs'])
        (by rw [hs, hs']) (by rw [hs, hs']) (by rw [hs, hs']) o
      refine ⟨hdisplay, hwarnings, ?_⟩
      intro σ
      rw [hrun]

/-- Three lines, the second one empty, with different line ends behind each of them. -/
theorem layOut_of_written_of_three_lines :
    let long : Annotation := ⟨.error, none, some "x", .span 1 6 (by decide) (by decide)⟩
    let dangling : Annotation := ⟨.warning, none, none, .dangling 4 (by decide)⟩
    let d (source : String) : Description :=
      { source, annotations := [long, dangling], title := some 1, main := some 0 }
    (∀ l ∈ ["a", "", "b"], IsLine l) ∧
      Written ["a", "", "b"] "a\r\n\nb" ∧ Written ["a", "", "b"] "a\n\r\nb\r\n" ∧
      ∃ s s' : Snippet, (d "a\r\n\nb").check = .ok s ∧ (d "a\n\r\nb\r\n").check = .ok s' ∧
        ∀ o, s.display o = s'.display o ∧ s.warnings = s'.warnings := by
  intro long dangling d
  have hlines : ∀ l ∈ ["a", "", "b"], IsLine l := by
    unfold IsLine
    decide
  have h : Written ["a", "", "b"] "a\r\n\nb" :=
    .cons .returnLineFeed (.cons .lineFeed (.unterminated (by decide)))
  have h' : Written ["a", "", "b"] "a\n\r\nb\r\n" :=
    .cons .lineFeed (.cons .returnLineFeed (.cons .returnLineFeed .nil))
  refine ⟨hlines, h, h', ?_⟩
  rcases layOut_of_written hlines h h' (d "") with ⟨e, herror, -⟩ | ⟨s, s', hs, hs', heq⟩
  · have hok : (d "a\r\n\nb").problem? = none := by decide
    rcases (d "a\r\n\nb").check_cases with ⟨_, hsome, -⟩ | ⟨_, -, hcheck, -⟩
    · rw [hok] at hsome
      cases hsome
    · rw [hcheck] at herror
      cases herror
  · exact ⟨s, s', hs, hs', fun o => ⟨(heq o).1, (heq o).2.1⟩⟩

end Description

end CodeFrame
