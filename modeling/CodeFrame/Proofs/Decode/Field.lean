import CodeFrame.Decode.Field
import CodeFrame.Proofs.Json.RoundTrip
import Mathlib.Algebra.Group.Int.Defs
import Mathlib.Data.List.Forall2

/-!
# Values that are read back

What a decoder finds in a value of the wanted shape. A whole number is taken if its text is short
enough (`Decode.readsWhole_iff`), an array item by item (`Decode.array_read`), an object member by
member (`Decode.members_cons`).

A value reaches a decoder as a text or as it is (`Medium.read`). The two differ only in their numbers.
-/

namespace CodeFrame

open Decode (Medium)

namespace Decode

/-- What a decoder is given of a value. -/
def Medium.read : Medium → Json → Reading
  | text => Json.textReading
  | value => Json.reading

namespace Medium

variable (m : Medium)

@[simp] theorem read_null : m.read .null = .null := by
  cases m <;> rfl

@[simp] theorem read_str (s : String) : m.read (.str s) = .str (some s) := by
  cases m <;> rfl

theorem read_array (items : List Json) : m.read (.array items) = .array (items.map m.read) true := by
  cases m with
  | text =>
    show Reading.array (Json.textReadings items) true = .array (items.map Json.textReading) true
    rw [Json.textReadings_eq_map]
  | value =>
    show Reading.array (Json.readingAll items) true = .array (items.map Json.reading) true
    rw [Json.readingAll_eq_map]

theorem read_object (members : List (String × Json)) :
    m.read (.object members) = .object (members.map fun (k, v) => (some k, m.read v)) true := by
  cases m with
  | text =>
    show Reading.object (Json.textMembers members) true = _
    rw [Json.textMembers_eq_map]
    rfl
  | value =>
    show Reading.object (Json.readingMembers members) true = _
    rw [Json.readingMembers_eq_map]
    rfl

end Medium

end Decode

/-- A text of characters is read. -/
theorem decodeText_ofString {α : Type} (text : String) (d : Decoder α) :
    decodeText (Symbol.ofString text) d = (Document.read (Symbol.ofString text)).decode d := by
  have hsurrogate : ¬ (Symbol.ofString text).any Symbol.isSurrogate := by
    simp [Symbol.ofString, Symbol.isSurrogate]
  rw [decodeText, if_neg hsurrogate]

/-! ## Whole numbers -/

/-- A word has few digits. -/
theorem fitsText_of_fitsWord {i : Int} (h : fitsWord i) : fitsText i := by
  have hword : 2 ^ 64 < 10 ^ (maxDigits - 1) :=
    calc 2 ^ 64 < 10 ^ 20 := by decide
      _ ≤ 10 ^ (maxDigits - 1) := Nat.pow_le_pow_right (by decide) (by decide)
  have hle : 10 ^ (maxDigits - 1) ≤ 10 ^ maxDigits := Nat.pow_le_pow_right (by decide) (by decide)
  simp only [fitsWord, Nat.pow_eq, Bool.and_eq_true, decide_eq_true_eq] at h
  have habs : i.natAbs ≤ 2 ^ 64 := by omega
  unfold fitsText
  split <;> rw [decide_eq_true_eq, Nat.pow_eq]
  · exact Nat.lt_of_le_of_lt habs hword
  · exact Nat.lt_of_le_of_lt habs (Nat.lt_of_lt_of_le hword hle)

namespace Decode

/-- The reader of whole numbers takes the text of `i`. -/
def ReadsWhole (i : Int) : Prop :=
  ∃ j, (Document.read (Symbol.ofString (toString i))).decode whole = .ok j

/-- A whole number in a text is taken, as itself, if it is short enough. -/
theorem whole_ofInt (i : Int) :
    whole (.ofInt i) = if fitsText i then .ok i else .error (.mismatch .intOutOfRange []) := by
  unfold Reading.ofInt
  by_cases h : fitsWord i
  · rw [if_pos h, if_pos (fitsText_of_fitsWord h)]
    rfl
  · rw [if_neg h]
    rfl

/-- The text of a number is taken if it is short enough. -/
theorem readsWhole_iff (i : Int) : ReadsWhole i ↔ fitsText i := by
  have hwrite : (Json.int i).write = toString i := by
    rw [Json.write, Json.chars, Json.writeInt, String.ofList_toList]
  have hread := Document.read_write (v := .int i) rfl
  rw [hwrite, Json.textReading] at hread
  unfold ReadsWhole
  rw [hread]
  unfold Document.decode
  rw [whole_ofInt]
  by_cases h : fitsText i
  · rw [if_pos h]
    exact ⟨fun _ => h, fun _ => ⟨i, rfl⟩⟩
  · rw [if_neg h]
    constructor
    · rintro ⟨j, hj⟩
      cases hj
    · exact fun hi => absurd hi h

/-- Where a number or `null` is wanted, a number is taken like anywhere. -/
theorem wholeOrNull_ofInt (i : Int) : wholeOrNull (.ofInt i) = (whole (.ofInt i)).map some := by
  unfold Reading.ofInt
  by_cases h : fitsWord i
  · rw [if_pos h]
    rfl
  · rw [if_neg h]
    rfl

/-- A short number is taken, be it in a text or in a value. -/
theorem whole_read (m : Medium) {i : Int} (h : fitsText i) : whole (m.read (.int i)) = .ok i := by
  cases m with
  | text =>
    show whole (.ofInt i) = _
    rw [whole_ofInt, if_pos h]
  | value => rfl

/-- So it is where `null` might stand. -/
theorem wholeOrNull_read (m : Medium) {i : Int} (h : fitsText i) :
    wholeOrNull (m.read (.int i)) = .ok (some i) := by
  cases m with
  | text =>
    show wholeOrNull (.ofInt i) = _
    rw [wholeOrNull_ofInt, whole_ofInt, if_pos h]
    rfl
  | value => rfl

/-! ## Arrays and members -/

/-- Items that are each read as what they stand for. -/
theorem itemsFrom_of_forall₂ {α : Type} {item : Decoder α} {as : List α} {vs : List Reading}
    (h : List.Forall₂ (fun a v => item v = .ok a) as vs) (i : Nat) :
    itemsFrom item i vs = .ok as := by
  induction h generalizing i with
  | nil => rfl
  | cons ha _ ih =>
    rw [itemsFrom, ha, ih (i + 1)]
    rfl

/-- The items of an array are read one after the other. -/
theorem array_read {α : Type} (m : Medium) {item : Decoder α} {as : List α} {vs : List Json}
    (h : List.Forall₂ (fun a v => item (m.read v) = .ok a) as vs) :
    array item (m.read (.array vs)) = .ok as := by
  have has := itemsFrom_of_forall₂ (List.forall₂_map_right_iff.2 h) 0
  rw [m.read_array, array]
  show (do
    let as ← itemsFrom item 0 (vs.map m.read)
    closing true
    return as : Except DecodeError (List α)) = _
  rw [has]
  rfl

/-- The items of a written array are read one after the other. -/
theorem array_textReading {α : Type} {item : Decoder α} {f : α → Json} {as : List α}
    (h : ∀ a ∈ as, item (f a).textReading = .ok a) :
    array item (Json.array (as.map f)).textReading = .ok as :=
  array_read .text (List.forall₂_map_right_iff.2 (List.forall₂_same.2 h))

/-- A known word. -/
theorem word_of_ofWord? {α : Type} {ofWord? : String → Option α} {w : String} {a : α}
    (h : ofWord? w = some a) : word ofWord? (.str (some w)) = .ok a := by
  have htext : text (.str (some w)) = pure w := rfl
  rw [word, htext, pure_bind, h]
  rfl

/-- A written pair of whole numbers. -/
theorem pair_whole {i j : Int} (hi : whole (.ofInt i) = .ok i) (hj : whole (.ofInt j) = .ok j) :
    pair whole (Json.array [.int i, .int j]).textReading = .ok (i, j) := by
  show pair whole (.array [.ofInt i, .ofInt j] true) = _
  rw [pair, hi, hj]
  rfl

/-- A member that has a decoder. -/
theorem members_cons {σ : Type} {pass : Decoder Unit} {member : String → Option (σ → Decoder σ)}
    {name : String} {d : σ → Decoder σ} {fields fields' : σ} {v : Reading}
    (hd : member name = some d) (hv : d fields v = .ok fields')
    (ms : List (Option String × Reading)) :
    members pass member fields ((some name, v) :: ms) = members pass member fields' ms := by
  rw [members]
  simp only [Option.bind_some, hd, Option.map_some, hv]
  rfl

end Decode

end CodeFrame
