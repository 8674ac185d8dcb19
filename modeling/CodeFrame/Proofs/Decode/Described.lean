import CodeFrame.Decode.Snippet
import CodeFrame.Proofs.Decode.Field
import CodeFrame.Proofs.Json.Bytes

/-!
# Snippets that are described and read back

A JSON object describes a snippet if its members give the fields of the snippet, in any order, and leave
out only fields that hold their default (`Snippet.DescribedBy`). From any text of such an object, and
from the object itself, a reader makes the snippet (`Snippet.load_of_describedBy`).

Each member fills its own field and no other, so what the members make together can be told field by
field (`Decode.get_foldl_fill`).
-/

namespace CodeFrame

namespace Json

/-- A string, or `null`. -/
def strOrNull : Option String → Json
  | some s => .str s
  | none => .null

/-- A whole number, or `null`. -/
def intOrNull : Option Int → Json
  | some i => .int i
  | none => .null

end Json

/-! ## Descriptions -/

/-- The member `name` of a description gives a field of an annotation. -/
inductive Annotation.Gives (a : Annotation) : (name : String) → Json → Prop
  | severity : a.Gives "severity" (.str a.severity.word)
  | code : a.Gives "code" (.strOrNull a.code)
  | label : a.Gives "label" (.strOrNull a.label)
  | start : a.Gives "start" (.intOrNull a.anchor.start?)
  | stop : a.Gives "end" (.intOrNull a.anchor.stop?)

/-- The members of an object describe an annotation: each gives a field, and a field that none gives
has its default. -/
structure Annotation.DescribedBy (a : Annotation) (members : List (String × Json)) : Prop where
  gives : ∀ m ∈ members, a.Gives m.1 m.2
  severity : "severity" ∈ members.map Prod.fst
  code : "code" ∈ members.map Prod.fst ∨ a.code = none
  label : "label" ∈ members.map Prod.fst ∨ a.label = none
  start : "start" ∈ members.map Prod.fst ∨ a.anchor.start? = none
  stop : "end" ∈ members.map Prod.fst ∨ a.anchor.stop? = none

/-- The member `name` of a description gives a field of a snippet. -/
inductive Snippet.Gives (s : Snippet) : (name : String) → Json → Prop
  | source : s.Gives "source" (.str s.source)
  | firstNumber : s.Gives "line_start" (.int s.firstNumber)
  | origin : s.Gives "origin" (.strOrNull s.origin)
  | annotations {objects : List (List (String × Json))}
      (h : List.Forall₂ Annotation.DescribedBy s.annotations objects) :
      s.Gives "annotations" (.array (objects.map .object))
  | title : s.Gives "title_annotation_pos" (.intOrNull s.title)
  | main : s.Gives "main_annotation_pos" (.intOrNull s.main)

/-- The members of an object describe a snippet: each gives a field, and a field that none gives has its
default. -/
structure Snippet.DescribedBy (s : Snippet) (members : List (String × Json)) : Prop where
  gives : ∀ m ∈ members, s.Gives m.1 m.2
  source : "source" ∈ members.map Prod.fst
  firstNumber : "line_start" ∈ members.map Prod.fst ∨ s.firstNumber = 1
  origin : "origin" ∈ members.map Prod.fst ∨ s.origin = none
  annotations : "annotations" ∈ members.map Prod.fst ∨ s.annotations = []
  title : "title_annotation_pos" ∈ members.map Prod.fst ∨ s.title = none
  main : "main_annotation_pos" ∈ members.map Prod.fst ∨ s.main = none

/-- The whole numbers in an annotation. -/
def Annotation.integers (a : Annotation) : List Int :=
  a.anchor.start?.toList ++ a.anchor.stop?.toList

/-- The whole numbers in a snippet. -/
def Snippet.integers (s : Snippet) : List Int :=
  s.firstNumber :: (s.title.toList ++ s.main.toList ++ s.annotations.flatMap Annotation.integers)

namespace Decode

/-! ## Members -/

section Fill

variable {σ β : Type} {fill : String → σ → σ}

/-- Members that each fill their field are read to the end. -/
theorem members_read (m : Medium) {pass : Decoder Unit} {member : String → Option (σ → Decoder σ)}
    {ms : List (String × Json)}
    (h : ∀ p ∈ ms, ∃ d, member p.1 = some d ∧ ∀ f, d f (m.read p.2) = .ok (fill p.1 f)) (f : σ) :
    members pass member f (ms.map fun (k, v) => (some k, m.read v)) =
      .ok ((ms.map Prod.fst).foldl (fun f k => fill k f) f) := by
  induction ms generalizing f with
  | nil => rfl
  | cons p ms ih =>
    obtain ⟨d, hd, hv⟩ := h p List.mem_cons_self
    have hrest := ih (fun q hq => h q (List.mem_cons_of_mem p hq)) (fill p.1 f)
    rw [List.map_cons, members_cons hd (hv f), hrest]
    rfl

/-- An object whose members each fill their field. -/
theorem object_read {α : Type} (m : Medium) {pass : Decoder Unit}
    {member : String → Option (σ → Decoder σ)} {ms : List (String × Json)}
    (h : ∀ p ∈ ms, ∃ d, member p.1 = some d ∧ ∀ f, d f (m.read p.2) = .ok (fill p.1 f)) (start : σ)
    (finish : σ → Except DecodeError α) :
    object pass start member finish (m.read (.object ms)) =
      finish ((ms.map Prod.fst).foldl (fun f k => fill k f) start) := by
  rw [m.read_object, object, members_read m h]
  rfl

/-- What is filled by the members of one name, and by no others, is filled in the end if there is such a
member or if it was so from the start. -/
theorem get_foldl_fill (get : σ → β) {name : String} {b : β}
    (h : ∀ k f, get (fill k f) = if k = name then b else get f) {names : List String} {f : σ}
    (hgiven : name ∈ names ∨ get f = b) :
    get (names.foldl (fun f k => fill k f) f) = b := by
  induction names generalizing f with
  | nil => exact hgiven.resolve_left List.not_mem_nil
  | cons k names ih =>
    -- the first member fills, or leaves the question to those behind it
    apply ih
    rw [h]
    by_cases hk : k = name
    · exact .inr (if_pos hk)
    · rw [if_neg hk]
      refine hgiven.imp_left fun hmem => ?_
      exact (List.mem_cons.1 hmem).resolve_left fun heq => hk heq.symm

end Fill

/-! ## Fields -/

section Read

variable (m : Medium)

/-- A string or `null` is read as it is. -/
theorem textOrNull_read (s? : Option String) : textOrNull (m.read (.strOrNull s?)) = .ok s? := by
  cases s? with
  | none =>
    rw [Json.strOrNull, m.read_null]
    rfl
  | some s =>
    rw [Json.strOrNull, m.read_str]
    rfl

/-- A short number or `null` is read as it is. -/
theorem wholeOrNull_read_intOrNull {i? : Option Int} (h : ∀ i ∈ i?, fitsText i) :
    wholeOrNull (m.read (.intOrNull i?)) = .ok i? := by
  cases i? with
  | none =>
    rw [Json.intOrNull, m.read_null]
    rfl
  | some i => exact wholeOrNull_read m (h i rfl)

/-- The fields of an annotation, with the one that is called `name` as `a` has it. -/
def AnnotationFields.fill (a : Annotation) (name : String) (f : AnnotationFields) :
    AnnotationFields where
  severity := if name = "severity" then some a.severity else f.severity
  code := if name = "code" then a.code else f.code
  label := if name = "label" then a.label else f.label
  start := if name = "start" then a.anchor.start? else f.start
  stop := if name = "end" then a.anchor.stop? else f.stop

/-- A member that gives a field of an annotation fills this field. -/
theorem annotationMember_read {a : Annotation} (ha : ∀ i ∈ a.integers, fitsText i) {name : String}
    {v : Json} (h : a.Gives name v) :
    ∃ d, AnnotationFields.member name = some d ∧
      ∀ f, d f (m.read v) = .ok (AnnotationFields.fill a name f) := by
  have hstart : ∀ i ∈ a.anchor.start?, fitsText i := by
    intro i hi
    exact ha i (List.mem_append_left _ (Option.mem_toList.2 hi))
  have hstop : ∀ i ∈ a.anchor.stop?, fitsText i := by
    intro i hi
    exact ha i (List.mem_append_right _ (Option.mem_toList.2 hi))
  cases h with
  | severity =>
    refine ⟨_, rfl, fun f => ?_⟩
    rw [m.read_str, word_of_ofWord? a.severity.ofWord?_word]
    rfl
  | code =>
    refine ⟨_, rfl, fun f => ?_⟩
    rw [textOrNull_read]
    rfl
  | label =>
    refine ⟨_, rfl, fun f => ?_⟩
    rw [textOrNull_read]
    rfl
  | start =>
    refine ⟨_, rfl, fun f => ?_⟩
    rw [wholeOrNull_read_intOrNull m hstart]
    rfl
  | stop =>
    refine ⟨_, rfl, fun f => ?_⟩
    rw [wholeOrNull_read_intOrNull m hstop]
    rfl

/-- An object that describes an annotation is read as the annotation. -/
theorem annotation_read {a : Annotation} (ha : ∀ i ∈ a.integers, fitsText i)
    {ms : List (String × Json)} (h : a.DescribedBy ms) (room : Nat) :
    annotation m (room + 1) (m.read (.object ms)) = .ok a := by
  have hmembers := fun p hp => annotationMember_read m ha (h.gives p hp)
  rw [Decode.annotation, entering, object_read m hmembers]
  generalize hf : (ms.map Prod.fst).foldl (fun f k => AnnotationFields.fill a k f) {} = f
  have hseverity : f.severity = some a.severity :=
    hf ▸ get_foldl_fill AnnotationFields.severity (fun _ _ => rfl) (.inl h.severity)
  have hcode : f.code = a.code :=
    hf ▸ get_foldl_fill AnnotationFields.code (fun _ _ => rfl) (h.code.imp_right Eq.symm)
  have hlabel : f.label = a.label :=
    hf ▸ get_foldl_fill AnnotationFields.label (fun _ _ => rfl) (h.label.imp_right Eq.symm)
  have hstart : f.start = a.anchor.start? :=
    hf ▸ get_foldl_fill AnnotationFields.start (fun _ _ => rfl) (h.start.imp_right Eq.symm)
  have hstop : f.stop = a.anchor.stop? :=
    hf ▸ get_foldl_fill AnnotationFields.stop (fun _ _ => rfl) (h.stop.imp_right Eq.symm)
  rw [AnnotationFields.finish, hseverity, hcode, hlabel, hstart, hstop,
    Anchor.ofOffsets_start?_stop?]
  rfl

/-- The fields of a snippet, with the one that is called `name` as `s` has it. -/
def SnippetFields.fill (s : Snippet) (name : String) (f : SnippetFields) : SnippetFields where
  source := if name = "source" then some s.source else f.source
  firstNumber := if name = "line_start" then s.firstNumber else f.firstNumber
  origin := if name = "origin" then s.origin else f.origin
  annotations := if name = "annotations" then s.annotations else f.annotations
  title := if name = "title_annotation_pos" then s.title else f.title
  main := if name = "main_annotation_pos" then s.main else f.main

/-- A member that gives a field of a snippet fills this field. -/
theorem snippetMember_read {s : Snippet} (hs : ∀ i ∈ s.integers, fitsText i) {name : String}
    {v : Json} (h : s.Gives name v) (room : Nat) :
    ∃ d, SnippetFields.member m (room + 2) name = some d ∧
      ∀ f, d f (m.read v) = .ok (SnippetFields.fill s name f) := by
  simp only [Snippet.integers, List.forall_mem_cons, List.forall_mem_append, Option.mem_toList,
    List.forall_mem_flatMap] at hs
  obtain ⟨hfirst, ⟨htitle, hmain⟩, hannotations⟩ := hs
  cases h with
  | source =>
    refine ⟨_, rfl, fun f => ?_⟩
    rw [m.read_str]
    rfl
  | firstNumber =>
    refine ⟨_, rfl, fun f => ?_⟩
    rw [whole_read m hfirst]
    rfl
  | origin =>
    refine ⟨_, rfl, fun f => ?_⟩
    rw [textOrNull_read]
    rfl
  | @annotations objects hobjects =>
    have hread : List.Forall₂ (fun a v => annotation m (room + 1) (m.read v) = .ok a) s.annotations
        (objects.map .object) := by
      rw [List.forall₂_map_right_iff]
      refine List.Forall₂.imp ?_ ((List.forall₂_and_left _ _).2 ⟨hannotations, hobjects⟩)
      exact fun a ms ⟨ha, hms⟩ => annotation_read m ha hms room
    refine ⟨_, rfl, fun f => ?_⟩
    rw [annotations, entering, array_read m hread]
    rfl
  | title =>
    refine ⟨_, rfl, fun f => ?_⟩
    rw [wholeOrNull_read_intOrNull m htitle]
    rfl
  | main =>
    refine ⟨_, rfl, fun f => ?_⟩
    rw [wholeOrNull_read_intOrNull m hmain]
    rfl

/-- An object that describes a snippet is read as the snippet. It has two more containers inside it. -/
theorem snippet_read {s : Snippet} (hs : ∀ i ∈ s.integers, fitsText i)
    {ms : List (String × Json)} (h : s.DescribedBy ms) (room : Nat) :
    snippet m (room + 3) (m.read (.object ms)) = .ok s := by
  have hmembers := fun p hp => snippetMember_read m hs (h.gives p hp) room
  rw [snippet, entering, object_read m hmembers]
  generalize hf : (ms.map Prod.fst).foldl (fun f k => SnippetFields.fill s k f) {} = f
  have hsource : f.source = some s.source :=
    hf ▸ get_foldl_fill SnippetFields.source (fun _ _ => rfl) (.inl h.source)
  have hfirst : f.firstNumber = s.firstNumber :=
    hf ▸ get_foldl_fill SnippetFields.firstNumber (fun _ _ => rfl)
      (h.firstNumber.imp_right Eq.symm)
  have horigin : f.origin = s.origin :=
    hf ▸ get_foldl_fill SnippetFields.origin (fun _ _ => rfl) (h.origin.imp_right Eq.symm)
  have hannotations : f.annotations = s.annotations :=
    hf ▸ get_foldl_fill SnippetFields.annotations (fun _ _ => rfl)
      (h.annotations.imp_right Eq.symm)
  have htitle : f.title = s.title :=
    hf ▸ get_foldl_fill SnippetFields.title (fun _ _ => rfl) (h.title.imp_right Eq.symm)
  have hmain : f.main = s.main :=
    hf ▸ get_foldl_fill SnippetFields.main (fun _ _ => rfl) (h.main.imp_right Eq.symm)
  -- the checks are made again, on the description that the snippet was made of
  have hcheck : Description.check ⟨s.source, s.firstNumber, s.origin, s.annotations, s.title, s.main⟩ =
      .ok s := s.check_toDescription
  rw [SnippetFields.finish, hsource, hfirst, horigin, hannotations, htitle, hmain]
  dsimp only [required, bind, Except.bind]
  rw [hcheck]
  rfl

end Read

/-- What is read of a text in which nothing follows the value. -/
theorem decode_of_not_trailing {α : Type} (v : Reading) (d : Decoder α) :
    Document.decode ⟨v, false⟩ d = d v := by
  rw [Document.decode]
  cases d v <;> rfl

end Decode

/-! ## Texts and values -/

/-- A text of a value is read as the value's reading. -/
theorem Snippet.load_of_isText {v : Json} {text : String} (h : v.IsText text) (room : Nat) :
    Snippet.load room (Symbol.ofString text) =
      Decode.snippet .text room (Decode.Medium.read .text v) := by
  rw [Snippet.load, decodeText_ofString, Document.read_of_isText h]
  exact Decode.decode_of_not_trailing _ _

/-- All the members that an annotation gives. -/
def Annotation.allMembers (a : Annotation) : List (String × Json) :=
  [("severity", .str a.severity.word), ("code", .strOrNull a.code), ("label", .strOrNull a.label),
    ("start", .intOrNull a.anchor.start?), ("end", .intOrNull a.anchor.stop?)]

/-- All the members that a snippet gives. -/
def Snippet.allMembers (s : Snippet) : List (String × Json) :=
  [("source", .str s.source), ("line_start", .int s.firstNumber), ("origin", .strOrNull s.origin),
    ("annotations", .array ((s.annotations.map Annotation.allMembers).map .object)),
    ("title_annotation_pos", .intOrNull s.title), ("main_annotation_pos", .intOrNull s.main)]

/-- All its members describe an annotation. -/
theorem Annotation.describedBy_allMembers (a : Annotation) : a.DescribedBy a.allMembers where
  gives := by
    simp only [allMembers, List.forall_mem_cons]
    exact ⟨.severity, .code, .label, .start, .stop, nofun⟩
  severity := by simp [allMembers]
  code := by simp [allMembers]
  label := by simp [allMembers]
  start := by simp [allMembers]
  stop := by simp [allMembers]

/-- All its members describe a snippet. -/
theorem Snippet.describedBy_allMembers (s : Snippet) : s.DescribedBy s.allMembers where
  gives := by
    have hannotations : List.Forall₂ Annotation.DescribedBy s.annotations
        (s.annotations.map Annotation.allMembers) :=
      List.forall₂_map_right_iff.2
        (List.forall₂_same.2 fun a _ => a.describedBy_allMembers)
    simp only [allMembers, List.forall_mem_cons]
    exact ⟨.source, .firstNumber, .origin, .annotations hannotations, .title, .main, nofun⟩
  source := by simp [allMembers]
  firstNumber := by simp [allMembers]
  origin := by simp [allMembers]
  annotations := by simp [allMembers]
  title := by simp [allMembers]
  main := by simp [allMembers]

/-- There are no floats in a description of a snippet. -/
theorem Snippet.floatFree_allMembers (s : Snippet) : (Json.object s.allMembers).floatFree := by
  have hstr : ∀ s?, (Json.strOrNull s?).floatFree := by
    rintro (_ | s) <;> simp [Json.strOrNull, Json.floatFree]
  have hint : ∀ i?, (Json.intOrNull i?).floatFree := by
    rintro (_ | i) <;> simp [Json.intOrNull, Json.floatFree]
  have hannotations :
      Json.floatFreeAll (s.annotations.map (Json.object ∘ Annotation.allMembers)) := by
    apply Json.floatFreeAll_of_forall
    intro v hv
    obtain ⟨a, -, rfl⟩ := List.mem_map.1 hv
    simp [Json.floatFree, Json.floatFreeMembers, Annotation.allMembers, hstr, hint]
  simp [allMembers, Json.floatFree, Json.floatFreeMembers, hstr, hint, hannotations]

/-- Every snippet whose whole numbers the reader takes can be described in JSON, and it is read back from
whatever describes it: from each text of an object that gives its fields, as characters and as bytes,
and from the object itself. A description has three containers inside each other. -/
theorem Snippet.load_of_describedBy {s : Snippet} (h : ∀ i ∈ s.integers, Decode.ReadsWhole i)
    {room : Nat} (hroom : 3 ≤ room) :
    (∃ members text, s.DescribedBy members ∧ (Json.object members).IsText text) ∧
      ∀ members, s.DescribedBy members →
        (∀ text, (Json.object members).IsText text →
          Snippet.load room (Symbol.ofString text) = .ok s ∧
            Snippet.load room (Symbol.ofBytes text.toUTF8.data.toList) = .ok s) ∧
        Snippet.ofJson room (.object members) = .ok s := by
  obtain ⟨more, rfl⟩ := Nat.exists_eq_add_of_le' hroom
  have hfits : ∀ i ∈ s.integers, fitsText i := by
    intro i hi
    exact (Decode.readsWhole_iff i).1 (h i hi)
  have hwritten := Json.isText_write s.floatFree_allMembers
  refine ⟨⟨_, _, s.describedBy_allMembers, hwritten⟩, ?_⟩
  intro members hmembers
  have hvalue : Snippet.ofJson (more + 3) (.object members) = .ok s :=
    Decode.snippet_read .value hfits hmembers more
  refine ⟨fun text htext => ?_, hvalue⟩
  have hload : Snippet.load (more + 3) (Symbol.ofString text) = .ok s := by
    rw [load_of_isText htext]
    exact Decode.snippet_read .text hfits hmembers more
  have hbytes : Symbol.ofBytes text.toUTF8.data.toList = Symbol.ofString text :=
    Symbol.ofBytes_toByteArray text
  exact ⟨hload, by rw [hbytes]; exact hload⟩

/-- Members out of order, three of them left out, with a number that no word holds. -/
theorem Snippet.load_of_describedBy_of_four_members :
    let a : Annotation := ⟨.warning, none, some "é😀", .span 0 2 (by decide) (by decide)⟩
    let d : Description :=
      { source := "a\"b\n", firstNumber := 10 ^ 30, annotations := [a], main := some 0 }
    let members : List (String × Json) :=
      [("annotations", .array [.object [("end", .int 2), ("label", .str "é😀"),
          ("severity", .str "warning"), ("start", .int 0)]]),
        ("main_annotation_pos", .int 0), ("line_start", .int (10 ^ 30)), ("source", .str "a\"b\n")]
    ∃ s : Snippet, s.toDescription = d ∧ (∀ i ∈ s.integers, Decode.ReadsWhole i) ∧
      s.DescribedBy members ∧ Snippet.ofJson 3 (.object members) = .ok s ∧
      Snippet.load 3 (Symbol.ofString (Json.object members).write) = .ok s := by
  intro a d members
  have hvalid : d.Valid := by
    rw [← Description.problem?_eq_none_iff]
    decide
  have hintegers : ∀ i ∈ (⟨d, hvalid⟩ : Snippet).integers, Decode.ReadsWhole i := by
    show ∀ i ∈ [(10 : Int) ^ 30, 0, 0, 2], Decode.ReadsWhole i
    simp only [Decode.readsWhole_iff]
    decide +kernel
  have ha : a.DescribedBy [("end", .int 2), ("label", .str "é😀"), ("severity", .str "warning"),
      ("start", .int 0)] :=
    { gives := by
        simp only [List.forall_mem_cons]
        exact ⟨.stop, .label, .severity, .start, nofun⟩
      severity := by simp
      code := .inr rfl
      label := by simp
      start := by simp
      stop := by simp }
  have hannotations : List.Forall₂ Annotation.DescribedBy (⟨d, hvalid⟩ : Snippet).annotations _ :=
    .cons ha .nil
  have hmembers : (⟨d, hvalid⟩ : Snippet).DescribedBy members :=
    { gives := by
        simp only [members, List.forall_mem_cons]
        exact ⟨.annotations hannotations, .main, .firstNumber, .source, nofun⟩
      source := by simp [members]
      firstNumber := by simp [members]
      origin := .inr rfl
      annotations := by simp [members]
      title := .inr rfl
      main := by simp [members] }
  have htext : (Json.object members).IsText (Json.object members).write :=
    Json.isText_write (by decide)
  obtain ⟨-, hread⟩ := load_of_describedBy hintegers (Nat.le_refl 3)
  obtain ⟨hload, hvalue⟩ := hread members hmembers
  exact ⟨_, rfl, hintegers, hmembers, hvalue, (hload _ htext).1⟩

end CodeFrame
