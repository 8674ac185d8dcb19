import CodeFrame.Decode.Snippet

/-!
# Room for containers

A decoder that has room enough for the containers of a text finds the same with more room
(`Snippet.load_of_le`). So two callers that have different levels of recursion left get the same snippet or
the same error from a text, unless it is nested too deeply for one of them.
-/

namespace CodeFrame

namespace Decode

/-- `r'` is found with more room than `r`: the same, unless the room for `r` was too small. -/
def Keeps {α : Type} (r r' : Except DecodeError α) : Prop :=
  r = .error .tooDeep ∨ r' = r

/-- `d'` reads everything that `d` has room for, as `d` does. -/
def Widens {α : Type} (d d' : Decoder α) : Prop :=
  ∀ v, Keeps (d v) (d' v)

section

variable {α β σ : Type}

theorem Keeps.refl (r : Except DecodeError α) : Keeps r r :=
  .inr rfl

theorem Keeps.trans {r r' r'' : Except DecodeError α} (h : Keeps r r') (h' : Keeps r' r'') :
    Keeps r r'' := by
  rcases h with h | rfl
  · exact .inl h
  · exact h'

theorem Keeps.bind {r r' : Except DecodeError α} (h : Keeps r r')
    {f f' : α → Except DecodeError β} (hf : ∀ a, Keeps (f a) (f' a)) :
    Keeps (r >>= f) (r' >>= f') := by
  rcases h with rfl | rfl
  · exact .inl rfl
  · cases r' with
    | ok a => exact hf a
    | error e => exact .refl _

theorem Keeps.within {r r' : Except DecodeError α} (h : Keeps r r') (step : PathStep) :
    Keeps (within step r) (within step r') := by
  rcases h with rfl | rfl
  · exact .inl rfl
  · exact .refl _

theorem Widens.map {d d' : Decoder α} (h : Widens d d') (f : α → β) :
    Widens (fun v => do return f (← d v)) (fun v => do return f (← d' v)) :=
  fun v => (h v).bind fun _ => .refl _

/-! ## Values of no interest -/

mutual

theorem keeps_skim (v : Reading) (room : Nat) : Keeps (skim v room) (skim v (room + 1)) := by
  match v, room with
  | .array _ _, 0 => exact .inl rfl
  | .object _ _, 0 => exact .inl rfl
  | .array items closed, room + 1 =>
    exact (keeps_skimAll items room).bind fun _ => .refl _
  | .object ms closed, room + 1 =>
    exact (keeps_skimMembers ms room).bind fun _ => .refl _
  | .null, _ | .bool _, _ | .int _, _ | .wide _, _ | .float _ _, _ | .overflow _ _, _ | .str _, _
  | .broken, _ =>
    refine .inr ?_
    rw [skim, skim] <;> nofun

theorem keeps_skimAll (items : List Reading) (room : Nat) :
    Keeps (skimAll items room) (skimAll items (room + 1)) := by
  match items with
  | [] => exact .refl _
  | v :: vs => exact (keeps_skim v room).bind fun _ => keeps_skimAll vs room

theorem keeps_skimMembers (ms : List (Option String × Reading)) (room : Nat) :
    Keeps (skimMembers ms room) (skimMembers ms (room + 1)) := by
  match ms with
  | [] => exact .refl _
  | (_, v) :: ms => exact (keeps_skim v room).bind fun _ => keeps_skimMembers ms room

end

theorem widens_pass (m : Medium) (room : Nat) : Widens (m.pass room) (m.pass (room + 1)) := by
  cases m with
  | text => exact fun v => keeps_skim v room
  | value => exact fun v => .refl _

/-! ## Containers -/

/-- Containers whose insides are read alike with more room. One that there was no room for is another
matter. -/
theorem Widens.entering {d : (room : Nat) → Decoder α} (h : ∀ room, Widens (d room) (d (room + 1)))
    (k : Kind) (room : Nat) : Widens (entering k d room) (entering k d (room + 1)) := by
  cases room with
  | succ room => exact h room
  | zero =>
    intro v
    show Keeps (if v.opens k then .error .tooDeep else d 0 v) (d 0 v)
    split
    · exact .inl rfl
    · exact .refl _

theorem keeps_itemsFrom {item item' : Decoder α} (h : Widens item item') (i : Nat)
    (vs : List Reading) : Keeps (itemsFrom item i vs) (itemsFrom item' i vs) := by
  induction vs generalizing i with
  | nil => exact .refl _
  | cons v vs ih =>
    refine ((h v).within (.item i)).bind fun a => ?_
    exact (ih (i + 1)).bind fun as => .refl _

theorem Widens.array {item item' : Decoder α} (h : Widens item item') :
    Widens (array item) (array item') := by
  intro v
  cases v with
  | array items closed => exact (keeps_itemsFrom h 0 items).bind fun as => .refl _
  | _ => exact .refl _

/-- Two ways to read the members of one name, if there are such members. -/
inductive WidensMember : Option (σ → Decoder σ) → Option (σ → Decoder σ) → Prop
  | same (d? : Option (σ → Decoder σ)) : WidensMember d? d?
  | known {d d' : σ → Decoder σ} (h : ∀ f, Widens (d f) (d' f)) : WidensMember (some d) (some d')

variable {pass pass' : Decoder Unit} {member member' : String → Option (σ → Decoder σ)}

theorem keeps_members (hpass : Widens pass pass')
    (hmember : ∀ name, WidensMember (member name) (member' name))
    (ms : List (Option String × Reading)) (f : σ) :
    Keeps (members pass member f ms) (members pass' member' f ms) := by
  induction ms generalizing f with
  | nil => exact .refl _
  | cons m ms ih =>
    obtain ⟨name?, v⟩ := m
    rw [members, members]
    cases name? with
    | none => exact (hpass v).bind fun _ => ih f
    | some name =>
      have hname := hmember name
      simp only [Option.bind_some]
      generalize member name = d at hname
      generalize member' name = d' at hname
      cases hname with
      | known h => exact ((h f v).within _).bind fun f' => ih f'
      | same =>
        cases d with
        | none => exact (hpass v).bind fun _ => ih f
        | some d => exact ((Keeps.refl (d f v)).within _).bind fun f' => ih f'

theorem widens_object {finish : σ → Except DecodeError α} {start : σ} (hpass : Widens pass pass')
    (hmember : ∀ name, WidensMember (member name) (member' name)) :
    Widens (object pass start member finish) (object pass' start member' finish) := by
  intro v
  cases v with
  | object ms closed => exact (keeps_members hpass hmember ms start).bind fun f => .refl _
  | _ => exact .refl _

end

/-! ## Snippets -/

theorem widens_annotation (m : Medium) (room : Nat) :
    Widens (Decode.annotation m room) (Decode.annotation m (room + 1)) :=
  Widens.entering (fun room => widens_object (widens_pass m room) fun _ => .same _) .object room

theorem widens_annotations (m : Medium) (room : Nat) :
    Widens (annotations m room) (annotations m (room + 1)) :=
  Widens.entering (fun room => Widens.array <| widens_annotation m room) .array room

/-- Of the members of a snippet only annotations need room. -/
theorem widensMember_snippet (m : Medium) (room : Nat) (name : String) :
    WidensMember (SnippetFields.member m room name) (SnippetFields.member m (room + 1) name) := by
  unfold SnippetFields.member
  split
  · exact .same _
  · exact .same _
  · exact .same _
  · exact .known fun f => (widens_annotations m room).map fun annotations => { f with annotations }
  · exact .same _
  · exact .same _
  · exact .same _

theorem widens_snippet (m : Medium) (room : Nat) :
    Widens (snippet m room) (snippet m (room + 1)) :=
  Widens.entering (fun room => widens_object (widens_pass m room) (widensMember_snippet m room)) .object
    room

theorem keeps_decodeText {α : Type} {d d' : Decoder α} (h : Widens d d') (text : List Symbol) :
    Keeps (decodeText text d) (decodeText text d') := by
  unfold decodeText
  split
  · exact .refl _
  · exact (h _).bind fun a => .refl _

end Decode

/-- With more room a text is read as before, unless there was too little room for it. -/
theorem Snippet.load_of_le {room room' : Nat} (h : room ≤ room') {text : List Symbol}
    (hdeep : load room text ≠ .error .tooDeep) : load room' text = load room text := by
  have hkeeps : Decode.Keeps (load room text) (load room' text) := by
    induction h with
    | refl => exact .refl _
    | @step n _ ih => exact ih.trans (Decode.keeps_decodeText (Decode.widens_snippet .text n) text)
  exact hkeeps.resolve_left hdeep

end CodeFrame
