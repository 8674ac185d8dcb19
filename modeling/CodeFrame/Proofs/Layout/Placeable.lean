import CodeFrame.Proofs.Layout.Shares
import Mathlib.Tactic.TFAE

/-!
# What is checked and what is placed

The check of a description compares one offset of each annotation with the extent of the source. The
planner knows no extent and tests the annotations against every line. Both come to the same
(`Description.check_iff_plan`), since an offset is within the extent exactly if some line holds it
(`LineTable.fits_iff_exists_range`).
-/

namespace CodeFrame

/-! ## Offsets within the extent -/

namespace LineTable

variable (t : LineTable)

theorem isSome_lineOf?_iff {p : Int} : (t.lineOf? p).isSome ↔ ∃ r ∈ t.ranges, p ∈ r := by
  unfold lineOf?
  rw [List.findIdx?_isSome, List.any_eq_true]
  simp only [decide_eq_true_eq]

/-- An anchor fits the source exactly if a line holds the last offset that it mentions. -/
theorem fits_iff_exists_range {a : Anchor} {p : Int} (hp : a.last? = some p) :
    a.Fits t.extent? ↔ ∃ r ∈ t.ranges, p ∈ r := by
  have h0 : 0 ≤ p := Anchor.last?_nonneg hp
  have hnone := t.lineOf?_eq_none_iff h0
  rw [t.fits_iff hp h0, ← isSome_lineOf?_iff, ← Option.ne_none_iff_isSome, Ne, hnone, Int.not_le]

/-- A span fits the source exactly if some line resolves it. -/
theorem fits_iff_isResolvedBy {a : Annotation} (hstop : a.anchor.stop?.isSome) :
    a.anchor.Fits t.extent? ↔ ∃ r ∈ t.ranges, a.isResolvedBy r := by
  obtain ⟨e, he⟩ := Option.isSome_iff_exists.1 hstop
  have hany := t.any_isResolvedBy a
  rw [he, Option.bind_some] at hany
  rw [t.fits_iff_exists_range (Anchor.last?_of_stop? he), ← isSome_lineOf?_iff, ← hany,
    List.any_eq_true]

/-- A plan leaves no span pending exactly if some line resolves each of them. -/
theorem plan_pending_eq_nil_iff {as : List Annotation} (hstop : ∀ a ∈ as, a.anchor.stop?.isSome) :
    (t.plan as).pending = [] ↔ ∀ a ∈ as, ∃ r ∈ t.ranges, a.isResolvedBy r := by
  rw [plan_pending_eq, List.filter_eq_nil_iff]
  apply forall₂_congr
  intro a ha
  have hstart : a.anchor.start?.isSome := Anchor.isSome_start?_of_stop? (hstop a ha)
  have hany := t.any_isResolvedBy a
  unfold Annotation.isLeftOut
  rw [hstart, Bool.true_and, Option.isNone_iff_eq_none, ← Ne,
    Option.ne_none_iff_isSome, ← hany, List.any_eq_true]

end LineTable

/-- A line resolves an annotation that it contains, and one that ends on it. -/
theorem LineRange.resolves_iff {a : Annotation} {r : LineRange} :
    a.isResolvedBy r ↔
      a.anchor.relation? r = some .contained ∨ a.anchor.relation? r = some .ends := by
  unfold Annotation.isResolvedBy
  cases a.anchor.relation? r with
  | none => simp
  | some rel => cases rel <;> simp [Relation.isResolving]

/-! ## The check -/

namespace Description

/-- A description makes a snippet exactly if it is valid. -/
theorem exists_check_iff (d : Description) : (∃ s, d.check = .ok s) ↔ d.Valid := by
  rw [← problem?_eq_none_iff]
  rcases d.check_cases with ⟨e, he, hcheck⟩ | ⟨s, hnone, hcheck, -⟩
  · rw [he, hcheck]
    simp
  · rw [hnone, hcheck]
    simp

/-- Without designations only the anchors are checked. -/
theorem exists_check_iff_fits {d : Description} (htitle : d.title = none) (hmain : d.main = none) :
    (∃ s, d.check = .ok s) ↔ ∀ a ∈ d.annotations, a.anchor.Fits d.table.extent? := by
  rw [exists_check_iff]
  constructor
  · intro hvalid
    exact hvalid.fits
  · intro hfits
    refine ⟨?_, ?_, hfits⟩
    · rw [htitle]
      intro i hi
      cases hi
    · rw [hmain]
      intro i hi
      cases hi

/-- A list of annotations with a start and an end is accepted exactly if planning it raises no warning,
which is if some line resolves each of them. Among any other annotations, one with a start only is
accepted exactly if its start lies on a line. -/
theorem check_iff_plan (source : String) (firstNumber : Int) (origin : Option String)
    (as : List Annotation) :
    let d : Description := { source, firstNumber, origin, annotations := as }
    let warnings := (d.table.plan as).pending.map (LayoutWarning.ofPending origin)
    ((∀ a ∈ as, a.anchor.start?.isSome ∧ a.anchor.stop?.isSome) →
      [∃ s, d.check = .ok s,
        warnings = [],
        ∀ p σ, (Session.warnAll p warnings).run σ = (.ok (), σ),
        ∀ a ∈ as, ∃ r ∈ d.table.ranges,
          a.anchor.relation? r = some .contained ∨ a.anchor.relation? r = some .ends].TFAE) ∧
    ∀ before a after start, as = before ++ a :: after →
      a.anchor.start? = some start → a.anchor.stop? = none →
        ((∃ s, d.check = .ok s) ↔
          (∃ s, { d with annotations := before ++ after }.check = .ok s) ∧
            ∃ r ∈ d.table.ranges, start ∈ r) := by
  intro d warnings
  constructor
  · -- each of the others is equivalent to the last, which speaks of every line
    intro hspans
    have hstop : ∀ a ∈ as, a.anchor.stop?.isSome := fun a ha => (hspans a ha).2
    have hresolved : (∀ a ∈ as, ∃ r ∈ d.table.ranges, a.isResolvedBy r) ↔
        ∀ a ∈ as, ∃ r ∈ d.table.ranges,
          a.anchor.relation? r = some .contained ∨ a.anchor.relation? r = some .ends := by
      simp only [LineRange.resolves_iff]
    tfae_have 1 ↔ 4 := by
      rw [exists_check_iff_fits rfl rfl, ← hresolved]
      apply forall₂_congr
      intro a ha
      exact d.table.fits_iff_isResolvedBy (hstop a ha)
    tfae_have 2 ↔ 4 := by
      rw [List.map_eq_nil_iff, d.table.plan_pending_eq_nil_iff hstop, hresolved]
    tfae_have 3 ↔ 2 := Session.warnAll_run_eq_self_iff
    tfae_finish
  · -- each anchor is checked for itself, and this one for its start
    intro before a after start has hstart hstop
    have hlast : a.anchor.last? = some start := by
      rw [Anchor.last?_of_stop?_eq_none hstop, hstart]
    have hfits := d.table.fits_iff_exists_range hlast
    rw [exists_check_iff_fits rfl rfl, exists_check_iff_fits rfl rfl, ← hfits]
    show (∀ b ∈ as, b.anchor.Fits d.table.extent?) ↔
      (∀ b ∈ before ++ after, b.anchor.Fits d.table.extent?) ∧ a.anchor.Fits d.table.extent?
    rw [has, List.forall_mem_append, List.forall_mem_append, List.forall_mem_cons, and_left_comm,
      and_comm]

/-- A span up to the last offset of three lines is accepted, with and without an annotation that starts
at the end of the second line, which is empty. One offset further neither the check nor the plan accepts
it. -/
theorem check_iff_plan_of_three_lines :
    let inside : Annotation := ⟨.error, none, none, .span 1 8 (by decide) (by decide)⟩
    let beyond : Annotation := ⟨.error, none, none, .span 1 9 (by decide) (by decide)⟩
    let dangling : Annotation := ⟨.error, none, none, .dangling 5 (by decide)⟩
    let d (as : List Annotation) : Description := { source := "ab\n\nc", annotations := as }
    let warnings (as : List Annotation) :=
      ((d as).table.plan as).pending.map (LayoutWarning.ofPending none)
    (inside.anchor.start?.isSome ∧ inside.anchor.stop?.isSome) ∧
      (∃ s, (d [inside]).check = .ok s) ∧ warnings [inside] = [] ∧
      (beyond.anchor.start?.isSome ∧ beyond.anchor.stop?.isSome) ∧
      (¬ ∃ s, (d [beyond]).check = .ok s) ∧ warnings [beyond] ≠ [] ∧
      (dangling.anchor.start? = some 5 ∧ dangling.anchor.stop? = none) ∧
      ∃ s, (d [inside, dangling]).check = .ok s := by
  intro inside beyond dangling d warnings
  have hlines : splitLines "ab\n\nc" = ["ab", "", "c"] := by decide
  have hranges : ∀ as, (d as).table.ranges = [⟨0, 3⟩, ⟨4, 5⟩, ⟨6, 8⟩] := by
    intro as
    show (LineTable.mk (splitLines "ab\n\nc") 1).ranges = _
    rw [hlines]
    rfl
  have hinside := (check_iff_plan "ab\n\nc" 1 none [inside]).1
    (by intro a ha; rw [List.mem_singleton.1 ha]; exact ⟨rfl, rfl⟩)
  have hbeyond := (check_iff_plan "ab\n\nc" 1 none [beyond]).1
    (by intro a ha; rw [List.mem_singleton.1 ha]; exact ⟨rfl, rfl⟩)
  have hdangling := (check_iff_plan "ab\n\nc" 1 none [inside, dangling]).2 [inside] dangling [] 5
    rfl rfl rfl
  have hresolved : ∀ a ∈ [inside], ∃ r ∈ (d [inside]).table.ranges,
      a.anchor.relation? r = some .contained ∨ a.anchor.relation? r = some .ends := by
    rw [hranges]
    decide
  have hunresolved : ¬ ∀ a ∈ [beyond], ∃ r ∈ (d [beyond]).table.ranges,
      a.anchor.relation? r = some .contained ∨ a.anchor.relation? r = some .ends := by
    rw [hranges]
    decide
  have haccepted := (hinside.out 0 3).2 hresolved
  refine ⟨⟨rfl, rfl⟩, haccepted, (hinside.out 1 3).2 hresolved, ⟨rfl, rfl⟩, ?_, ?_, ⟨rfl, rfl⟩, ?_⟩
  · intro hok
    exact hunresolved ((hbeyond.out 0 3).1 hok)
  · intro hnil
    exact hunresolved ((hbeyond.out 1 3).1 hnil)
  · apply hdangling.2
    refine ⟨haccepted, ⟨4, 5⟩, ?_, by decide⟩
    show _ ∈ (d [inside, dangling]).table.ranges
    rw [hranges]
    decide

end Description

end CodeFrame
