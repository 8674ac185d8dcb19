import CodeFrame.Annotation

/-!
# Snippets

A piece of source with its annotations. One annotation may be designated as the title and one as the
main one. A `Description` is what a caller gives; a `Snippet` is a description whose designations and
offsets fit. `Description.problem?` finds the first thing that does not.
-/

namespace CodeFrame

/-- A piece of source and what is said about it. -/
structure Description where
  source : String
  firstNumber : Int := 1
  origin : Option String := none
  annotations : List Annotation := []
  title : Option Int := none
  main : Option Int := none
  deriving DecidableEq

/-- The two designations of an annotation. -/
inductive Role
  | title
  | main
  deriving DecidableEq, Repr

/-- The name of a designation in a description. -/
def Role.field : Role → String
  | title => "title_annotation_pos"
  | main => "main_annotation_pos"

/-- Why a description is no snippet. -/
inductive SnippetError
  | badIndex (role : Role) (index : Int) (count : Nat)
  | noLines (index : Nat)
  | beyondExtent (index : Nat) (start? stop? : Option Int) (extent : Int)
  deriving DecidableEq, Repr

/-- The wording of a snippet error. -/
def SnippetError.message : SnippetError → String
  | badIndex role i n =>
    "Snippet." ++ role.field ++ " (" ++ toString i ++ ") is not a valid index into " ++ toString n ++
      " annotation(s)"
  | noLines i => "Annotation #" ++ toString i ++ " is positioned but the source has no lines"
  | beyondExtent i start? stop? extent =>
    "Annotation #" ++ toString i ++ " range (" ++ offsetText start? ++ ", " ++ offsetText stop? ++
      ") exceeds source extent " ++ toString extent

namespace Description

variable (d : Description)

/-- The lines of the source. -/
def table : LineTable :=
  .ofText d.source d.firstNumber

/-- `i` designates an annotation, if it designates anything. -/
def Designates (i? : Option Int) : Prop :=
  ∀ i ∈ i?, 0 ≤ i ∧ i < d.annotations.length

instance (i? : Option Int) : Decidable (d.Designates i?) :=
  match i? with
  | none => isTrue (by simp [Designates])
  | some i => decidable_of_iff (0 ≤ i ∧ i < d.annotations.length) (by simp [Designates])

/-- The designations hit annotations and every anchor fits the source. -/
structure Valid : Prop where
  title : d.Designates d.title
  main : d.Designates d.main
  fits : ∀ a ∈ d.annotations, a.anchor.Fits d.table.extent?

/-- What is wrong with the designation of a role. -/
def designationProblem? (role : Role) (i? : Option Int) : Option SnippetError :=
  match i? with
  | none => none
  | some i =>
    if 0 ≤ i ∧ i < d.annotations.length then none
    else some (.badIndex role i d.annotations.length)

/-- What is wrong with the anchor of the annotation at index `i`. -/
def anchorProblem? (a : Annotation) (i : Nat) : Option SnippetError :=
  match a.anchor.last?, d.table.extent? with
  | none, _ => none
  | some _, none => some (.noLines i)
  | some p, some e =>
    if p ≤ e then none else some (.beyondExtent i a.anchor.start? a.anchor.stop? e)

/-- The first thing wrong: the title, then the main designation, then the anchors in order. -/
def problem? : Option SnippetError :=
  (d.designationProblem? .title d.title).or <|
    (d.designationProblem? .main d.main).or <|
      d.annotations.zipIdx.findSome? fun (a, i) => d.anchorProblem? a i

theorem designationProblem?_eq_none_iff {role : Role} {i? : Option Int} :
    d.designationProblem? role i? = none ↔ d.Designates i? := by
  cases i? <;> simp [designationProblem?, Designates]

theorem anchorProblem?_eq_none_iff {a : Annotation} {i : Nat} :
    d.anchorProblem? a i = none ↔ a.anchor.Fits d.table.extent? := by
  rw [anchorProblem?.eq_def]
  split <;> simp_all [Anchor.Fits]

/-- Nothing is wrong exactly with valid descriptions. -/
theorem problem?_eq_none_iff : d.problem? = none ↔ d.Valid := by
  have hanchors : (d.annotations.zipIdx.findSome? fun (a, i) => d.anchorProblem? a i) = none ↔
      ∀ a ∈ d.annotations, a.anchor.Fits d.table.extent? := by
    simp only [List.findSome?_eq_none_iff, Prod.forall, anchorProblem?_eq_none_iff]
    constructor
    · intro h a ha
      obtain ⟨i, hi, rfl⟩ := List.mem_iff_getElem.1 ha
      exact h _ i (List.mk_mem_zipIdx_iff_getElem?.2 (List.getElem?_eq_getElem hi))
    · intro h a i hai
      exact h a (List.mem_of_getElem? (List.mk_mem_zipIdx_iff_getElem?.1 hai))
  rw [problem?, Option.or_eq_none_iff, Option.or_eq_none_iff, hanchors,
    designationProblem?_eq_none_iff, designationProblem?_eq_none_iff]
  exact ⟨fun ⟨h1, h2, h3⟩ => ⟨h1, h2, h3⟩, fun ⟨h1, h2, h3⟩ => ⟨h1, h2, h3⟩⟩

end Description

/-- A valid description. -/
structure Snippet extends Description where
  valid : toDescription.Valid
  deriving DecidableEq

/-- The snippet of a description, or the first thing wrong with it. -/
def Description.check (d : Description) : Except SnippetError Snippet :=
  match h : d.problem? with
  | none => .ok ⟨d, d.problem?_eq_none_iff.1 h⟩
  | some e => .error e

/-- A check ends with the first problem, or with a snippet of the description. -/
theorem Description.check_cases (d : Description) :
    (∃ e, d.problem? = some e ∧ d.check = .error e) ∨
      ∃ s : Snippet, d.problem? = none ∧ d.check = .ok s ∧ s.toDescription = d := by
  unfold check
  split
  · rename_i hnone
    exact .inr ⟨_, hnone, rfl, rfl⟩
  · rename_i e he
    exact .inl ⟨e, he, rfl⟩

namespace Snippet

variable (s : Snippet)

/-- The annotation at a designated index. -/
def designated? (i? : Option Int) : Option Annotation :=
  i?.bind fun i => s.annotations[i.toNat]?

/-- The annotation designated as title. -/
def titleAnnotation? : Option Annotation :=
  s.designated? s.title

/-- The annotation designated as main. -/
def mainAnnotation? : Option Annotation :=
  s.designated? s.main

/-- The checks accept the description of a snippet. -/
@[simp] theorem check_toDescription : s.toDescription.check = .ok s := by
  have h := s.problem?_eq_none_iff.2 s.valid
  rw [Description.check]
  split
  · rfl
  · simp_all

end Snippet

/-- A snippet with one annotation, which is both its title and its main one. -/
def Snippet.single (a : Annotation) (source : String) (origin : Option String)
    (firstNumber : Int) : Except SnippetError Snippet :=
  Description.check
    { source, firstNumber, origin, annotations := [a], title := some 0, main := some 0 }

end CodeFrame
