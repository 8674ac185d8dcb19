import CodeFrame.Decode.Display
import CodeFrame.Proofs.Decode.Field
import CodeFrame.Proofs.Json.Bytes

/-!
# Display lists that are written and read

What is written of a display list is read as the display list (`decodeDisplay_encodeDisplay`), be it
handed on as characters or as bytes, provided that its whole numbers are such that the reader takes
them. Such numbers are also short enough to be written.
-/

namespace CodeFrame

namespace Decode

/-- Written marks. -/
theorem marks_textReading (marks : List Mark) (room : Nat) :
    Decode.marks (room + 1) (Json.array (marks.map fun m => .str m.word)).textReading =
      .ok marks := by
  rw [Decode.marks, entering]
  apply array_textReading
  intro m _
  rw [Json.textReading]
  exact word_of_ofWord? m.ofWord?_word

/-! ## Rows -/

/-- A kind in front is found. -/
theorem findTag_word (k : RowKind) (room : Nat) (closed : Bool) (ms : List (Option String × Reading)) :
    findTag room closed ((some "kind", .str (some k.word)) :: ms) = .ok k := by
  have htag : tag room (.str (some k.word)) = .ok k := by
    have hword : tagWord room (.str (some k.word)) = pure k.word := rfl
    rw [tag, hword, pure_bind, RowKind.ofWord?_word]
    rfl
  rw [findTag, if_pos rfl, htag]
  rfl

/-- A row is made of the members behind its kind. -/
theorem row_of_members {k : RowKind} {room : Nat} {ms : List (Option String × Reading)} {f : RowFields}
    {l : DisplayLine}
    (hms : members (fun v => skim v room) (RowFields.member k room) {} ms = .ok f)
    (hf : RowFields.finish k f = .ok l) :
    row (room + 1) (.object ((some "kind", .str (some k.word)) :: ms) true) = .ok l := by
  have hkind : RowFields.member k room "kind" = some fun f v => do
      knownTag k room v
      return f := by
    unfold RowFields.member
    exact if_pos rfl
  have hknown : knownTag k room (.str (some k.word)) = .ok () := by
    show (if k.word = k.word then pure () else throw (.mismatch (.unknownTag k.word) []) :
      Except DecodeError Unit) = _
    exact if_pos rfl
  -- the kind comes by twice: it is looked for first, and then read as a member like any other
  have hobject : members (fun v => skim v room) (RowFields.member k room) {}
      ((some "kind", .str (some k.word)) :: ms) = .ok f := by
    have hkept : (do
        knownTag k room (.str (some k.word))
        return {} : Except DecodeError RowFields) = .ok {} := by
      rw [hknown]
      rfl
    rw [members_cons hkind hkept, hms]
  have hvariant : variant room (.object ((some "kind", .str (some k.word)) :: ms) true) = .ok k :=
    findTag_word k room true ms
  rw [row, entering, hvariant]
  show (do
    let fields ← members (fun v => skim v room) (RowFields.member k room) {}
      ((some "kind", .str (some k.word)) :: ms)
    closing true
    RowFields.finish k fields : Except DecodeError DisplayLine) = _
  rw [hobject]
  exact hf

end Decode

/-- The whole numbers in a row. -/
def DisplayLine.integers : DisplayLine → List Int
  | source number _ _ => [number]
  | caption c => [c.first, c.stop]
  | _ => []

open Decode in
/-- A written row is read as the row. -/
theorem row_textReading_toJson {l : DisplayLine} (h : ∀ i ∈ l.integers, fitsText i) (room : Nat) :
    row (room + 2) l.toJson.textReading = .ok l := by
  have hwhole : ∀ i ∈ l.integers, whole (.ofInt i) = .ok i := by
    intro i hi
    rw [whole_ofInt, if_pos (h i hi)]
  cases l with
  | raw t =>
    refine row_of_members (k := .raw) (f := { text := some t }) ?_ rfl
    exact members_cons rfl rfl []
  | blank => exact row_of_members (k := .blank) (f := {}) rfl rfl
  | source n marks t =>
    have hn := hwhole n (by simp [DisplayLine.integers])
    have hmarks := marks_textReading marks room
    refine row_of_members (k := .source)
      (f := { number := some n, marks := some marks, content := some t }) ?_ rfl
    refine (members_cons rfl (by rw [Json.textReading, hn]; rfl) _).trans ?_
    refine (members_cons rfl (by rw [hmarks]; rfl) _).trans ?_
    exact members_cons rfl rfl []
  | caption c =>
    have hfirst := hwhole c.first (by simp [DisplayLine.integers])
    have hstop := hwhole c.stop (by simp [DisplayLine.integers])
    have hrange : Decode.range (room + 1) (Json.array [.int c.first, .int c.stop]).textReading =
        .ok (c.first, c.stop) := pair_whole hfirst hstop
    have hmarks := marks_textReading c.marks room
    have hkind := word_of_ofWord? c.kind.ofWord?_word
    refine row_of_members (k := .caption)
      (f := {
        marks := some c.marks, range := some (c.first, c.stop), label := some c.label
        captionKind := some c.kind }) ?_ rfl
    refine (members_cons rfl (by rw [hmarks]; rfl) _).trans ?_
    refine (members_cons rfl (by rw [hrange]; rfl) _).trans ?_
    refine (members_cons rfl rfl _).trans ?_
    exact members_cons rfl (by rw [Json.textReading, hkind]; rfl) []
  | fold => exact row_of_members (k := .fold) (f := {}) rfl rfl

/-! ## Display lists -/

/-- The rows of a display list are read one after the other. There are three containers more inside it. -/
theorem display_textReading {rows : List DisplayLine}
    (h : ∀ l ∈ rows, ∀ i ∈ l.integers, fitsText i) (room : Nat) :
    Decode.display (room + 4) (displayJson rows).textReading = .ok rows := by
  have hrows : Decode.rows (room + 3) (Json.array (rows.map DisplayLine.toJson)).textReading =
      .ok rows :=
    Decode.array_textReading fun l hl => row_textReading_toJson (h l hl) room
  have hbody : Decode.members (fun v => Decode.skim v (room + 3))
      (fun name => if name = "body" then some fun _ => Decode.rows (room + 3) else none)
      [] [(some "body", (Json.array (rows.map DisplayLine.toJson)).textReading)] = .ok rows :=
    Decode.members_cons (if_pos rfl) hrows []
  show (do
    let fields ← Decode.members (fun v => Decode.skim v (room + 3)) _ [] [(some "body", _)]
    Decode.closing true
    .ok fields : Except DecodeError (List DisplayLine)) = _
  rw [hbody]
  rfl

namespace Json

/-- A list of values has no number too long to be written if none of the values has. -/
theorem longIntOf?_eq_none {vs : List Json} (h : ∀ v ∈ vs, v.longInt? = none) :
    longIntOf? vs = none := by
  induction vs with
  | nil => rw [longIntOf?]
  | cons v vs ih =>
    have hv := h v List.mem_cons_self
    have hrest := ih fun w hw => h w (List.mem_cons_of_mem v hw)
    rw [longIntOf?, hv, hrest]
    rfl

end Json

/-- There are no floats in a display list. -/
theorem floatFree_displayJson (rows : List DisplayLine) : (displayJson rows).floatFree := by
  have hmarks : ∀ marks : List Mark, Json.floatFreeAll (marks.map fun m => .str m.word) := by
    intro marks
    apply Json.floatFreeAll_of_forall
    intro v hv
    obtain ⟨m, -, rfl⟩ := List.mem_map.1 hv
    simp [Json.floatFree]
  have hrows : Json.floatFreeAll (rows.map DisplayLine.toJson) := by
    apply Json.floatFreeAll_of_forall
    intro v hv
    obtain ⟨l, -, rfl⟩ := List.mem_map.1 hv
    cases l <;>
      simp [DisplayLine.toJson, Json.floatFree, Json.floatFreeMembers, Json.floatFreeAll, hmarks]
  simp [displayJson, Json.floatFree, Json.floatFreeMembers, hrows]

/-- Numbers that the reader takes can be written. -/
theorem longInt?_displayJson {rows : List DisplayLine}
    (h : ∀ l ∈ rows, ∀ i ∈ l.integers, fitsDigits i) : (displayJson rows).longInt? = none := by
  have hmarks : ∀ marks : List Mark, Json.longIntOf? (marks.map fun m => .str m.word) = none := by
    intro marks
    apply Json.longIntOf?_eq_none
    intro v hv
    obtain ⟨m, -, rfl⟩ := List.mem_map.1 hv
    simp [Json.longInt?]
  have hrows : Json.longIntOf? (rows.map DisplayLine.toJson) = none := by
    apply Json.longIntOf?_eq_none
    intro v hv
    obtain ⟨l, hl, rfl⟩ := List.mem_map.1 hv
    have hl := h l hl
    cases l <;>
      simp_all [DisplayLine.toJson, DisplayLine.integers, Json.longInt?, Json.longIntIn?,
        Json.longIntOf?]
  simp [displayJson, Json.longInt?, Json.longIntIn?, hrows]

/-- Every display list whose whole numbers the reader takes can be written, and what is written is read
as the display list, from characters and from bytes. There are at most four containers inside each other
in it. -/
theorem decodeDisplay_encodeDisplay {rows : List DisplayLine}
    (h : ∀ l ∈ rows, ∀ i ∈ l.integers, Decode.ReadsWhole i) {room : Nat} (hroom : 4 ≤ room) :
    ∃ text, encodeDisplay rows = .ok text ∧
      decodeDisplay room (Symbol.ofString text) = .ok rows ∧
      decodeDisplay room (Symbol.ofBytes text.toUTF8.data.toList) = .ok rows := by
  obtain ⟨more, rfl⟩ := Nat.exists_eq_add_of_le' hroom
  have hfits : ∀ l ∈ rows, ∀ i ∈ l.integers, fitsText i := by
    intro l hl i hi
    exact (Decode.readsWhole_iff i).1 (h l hl i hi)
  have hlong := longInt?_displayJson fun l hl i hi => fitsDigits_of_fitsText (hfits l hl i hi)
  have hwrite : encodeDisplay rows = .ok (displayJson rows).write := by
    rw [encodeDisplay, Json.write?, hlong]
  have hread : decodeDisplay (more + 4) (Symbol.ofString (displayJson rows).write) = .ok rows := by
    rw [decodeDisplay, decodeText_ofString, Document.read_write (floatFree_displayJson rows),
      Document.decode, display_textReading hfits more]
    rfl
  have hbytes : Symbol.ofBytes (displayJson rows).write.toUTF8.data.toList =
      Symbol.ofString (displayJson rows).write :=
    Symbol.ofBytes_toByteArray _
  exact ⟨_, hwrite, hread, by rw [hbytes]; exact hread⟩

/-- A row of each kind, with characters that are escaped in every way, characters of one to four bytes,
and a number that no word holds. -/
theorem decodeDisplay_encodeDisplay_of_five_rows :
    let rows : List DisplayLine :=
      [.raw "\"\\/\n\x00\x1fé漢😀", .blank, .source (-3) [.start, .through] "a\tb", .fold,
        .caption ⟨[], 0, 10 ^ 30, "", .multilineEnd⟩]
    (∀ l ∈ rows, ∀ i ∈ l.integers, Decode.ReadsWhole i) ∧
      ∃ text, encodeDisplay rows = .ok text ∧
        decodeDisplay 4 (Symbol.ofString text) = .ok rows ∧
        decodeDisplay 4 (Symbol.ofBytes text.toUTF8.data.toList) = .ok rows := by
  intro rows
  have hnumbers : ∀ l ∈ rows, ∀ i ∈ l.integers, Decode.ReadsWhole i := by
    simp only [rows, List.forall_mem_cons, DisplayLine.integers, Decode.readsWhole_iff]
    decide +kernel
  exact ⟨hnumbers, decodeDisplay_encodeDisplay hnumbers (Nat.le_refl 4)⟩

end CodeFrame
