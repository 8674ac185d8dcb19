import CodeFrame.Text.Quoted
import CodeFrame.Source.Table

/-!
# Annotations

A remark on a source. It lies nowhere, or starts at an offset and has no end, or reaches from one
offset to another. An `Anchor` holds only positions that make sense, so what is checked on the way in
(`Anchor.ofOffsets`) holds of every annotation.
-/

namespace CodeFrame

/-- How bad a remark is. -/
inductive Severity
  | error
  | warning
  deriving DecidableEq, Repr

/-- A word that names no severity. -/
structure UnknownSeverity where
  word : String
  deriving DecidableEq, Repr

def UnknownSeverity.message (e : UnknownSeverity) : String :=
  quoted e.word ++ " is not a valid Severity"

namespace Severity

/-- The word for a severity. -/
def word : Severity → String
  | error => "error"
  | warning => "warning"

/-- The severity that a word names. -/
def ofWord? (w : String) : Option Severity :=
  if w = "error" then some error else if w = "warning" then some warning else none

/-- The severity that a word names, or the complaint that it names none. -/
def ofWord (w : String) : Except UnknownSeverity Severity :=
  match ofWord? w with
  | some s => .ok s
  | none => .error ⟨w⟩

@[simp] theorem ofWord?_word (s : Severity) : ofWord? s.word = some s := by
  cases s <;> decide

end Severity

/-- Where an annotation lies in the offsets of its source. -/
inductive Anchor
  /-- Nowhere. -/
  | unplaced
  /-- From `start` on, with no end. -/
  | dangling (start : Int) (nonneg : 0 ≤ start)
  /-- From `start` to `stop`. -/
  | span (start stop : Int) (nonneg : 0 ≤ start) (le : start ≤ stop)
  deriving DecidableEq

/-- Offsets that make no anchor. -/
inductive AnchorError
  | stopWithoutStart (stop : Int)
  | negativeStart (start : Int)
  | stopBeforeStart (start stop : Int)
  deriving DecidableEq, Repr

/-- The wording of an anchor error. -/
def AnchorError.message : AnchorError → String
  | stopWithoutStart stop => "Annotation has an end (" ++ toString stop ++ ") but no start"
  | negativeStart start => "Annotation.start cannot be negative (got " ++ toString start ++ ")"
  | stopBeforeStart start stop =>
    "Annotation.end (" ++ toString stop ++ ") < start (" ++ toString start ++ ")"

namespace Anchor

/-- The first offset, of an anchor that has one. -/
def start? : Anchor → Option Int
  | unplaced => none
  | dangling s _ => some s
  | span s _ _ _ => some s

/-- The offset at which the anchor ends, if it ends. -/
def stop? : Anchor → Option Int
  | span _ e _ _ => some e
  | _ => none

/-- The last offset that the anchor mentions. -/
def last? : Anchor → Option Int
  | unplaced => none
  | dangling s _ => some s
  | span _ e _ _ => some e

/-- The anchor with the given first and last offset. -/
def ofOffsets : (start? stop? : Option Int) → Except AnchorError Anchor
  | none, none => .ok unplaced
  | none, some e => .error (.stopWithoutStart e)
  | some s, none => if h : 0 ≤ s then .ok (dangling s h) else .error (.negativeStart s)
  | some s, some e =>
    if h : 0 ≤ s then
      if h' : s ≤ e then .ok (span s e h h') else .error (.stopBeforeStart s e)
    else .error (.negativeStart s)

@[simp] theorem ofOffsets_start?_stop? (a : Anchor) : ofOffsets a.start? a.stop? = .ok a := by
  cases a <;> simp_all [ofOffsets, start?, stop?]

/-- What ends starts somewhere. -/
theorem isSome_start?_of_stop? {a : Anchor} (h : a.stop?.isSome) : a.start?.isSome := by
  cases a with
  | unplaced => cases h
  | dangling s h0 => rfl
  | span s e h0 hle => rfl

/-- The last offset of what ends is its end. -/
theorem last?_of_stop? {a : Anchor} {p : Int} (h : a.stop? = some p) : a.last? = some p := by
  cases a with
  | unplaced => cases h
  | dangling s h0 => cases h
  | span s e h0 hle => exact h

/-- The last offset of what does not end is its start. -/
theorem last?_of_stop?_eq_none {a : Anchor} (h : a.stop? = none) : a.last? = a.start? := by
  cases a with
  | unplaced => rfl
  | dangling s h0 => rfl
  | span s e h0 hle => cases h

theorem start?_nonneg {a : Anchor} {p : Int} (h : a.start? = some p) : 0 ≤ p := by
  cases a with
  | unplaced => cases h
  | dangling s h0 =>
    cases h
    exact h0
  | span s e h0 hle =>
    cases h
    exact h0

theorem last?_nonneg {a : Anchor} {p : Int} (h : a.last? = some p) : 0 ≤ p := by
  cases a with
  | unplaced => cases h
  | dangling s h0 =>
    cases h
    exact h0
  | span s e h0 hle =>
    cases h
    exact Int.le_trans h0 hle

/-- The anchor fits a source that ends at `extent?`. A source without lines fits no offset. -/
def Fits (extent? : Option Int) (a : Anchor) : Prop :=
  ∀ p ∈ a.last?, ∃ e ∈ extent?, p ≤ e

instance (extent? : Option Int) (a : Anchor) : Decidable (a.Fits extent?) :=
  match h : a.last?, extent? with
  | none, _ => isTrue (by simp [Fits, h])
  | some _, none => isFalse (by simp [Fits, h])
  | some p, some e => decidable_of_iff (p ≤ e) (by simp [Fits, h])

end Anchor

/-- A remark on a source, with a code and a label if it has them. -/
structure Annotation where
  severity : Severity
  code : Option String
  label : Option String
  anchor : Anchor
  deriving DecidableEq

end CodeFrame
