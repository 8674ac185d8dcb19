import CodeFrame.Source.Lines
import CodeFrame.Source.Range

/-!
# Line tables

The lines of a source, numbered from a chosen first number, with the offsets they cover. A line takes
one offset for each character and one for its end, and consecutive lines are one further offset
apart, so a line of `n` characters takes `n + 2` offsets and the ranges tile the source.

* `LineTable.ranges`, the range of each line;
* `LineTable.lineIndex`, the line that holds an offset;
* `LineTable.locate`, row and column of an offset.
-/

namespace CodeFrame

/-- The lines of a source and the number of the first one. -/
structure LineTable where
  lines : List String
  firstNumber : Int
  deriving DecidableEq, Repr

/-- An offset outside a source whose last offset is `extent?`. -/
structure OffsetError where
  offset : Int
  extent? : Option Int
  deriving DecidableEq, Repr

/-- An offset as messages write it; `None` stands for a missing one. -/
def offsetText : Option Int → String
  | some p => toString p
  | none => "None"

/-- The wording of an offset error. -/
def OffsetError.message (e : OffsetError) : String :=
  "pos " ++ toString e.offset ++ " out of range [0, " ++ offsetText e.extent? ++ "]"

/-- The ranges of `ls` when the first of them starts at `p`. -/
def rangesFrom (p : Int) : List String → List LineRange
  | [] => []
  | l :: ls => ⟨p, p + l.length + 1⟩ :: rangesFrom (p + l.length + 2) ls

namespace LineTable

/-- The table of a text's lines. -/
def ofText (text : String) (firstNumber : Int) : LineTable :=
  ⟨splitLines text, firstNumber⟩

variable (t : LineTable)

/-- The range of each line. -/
def ranges : List LineRange :=
  rangesFrom 0 t.lines

/-- The last offset of the source; a source without lines has none. -/
def extent? : Option Int :=
  t.ranges.getLast?.map LineRange.last

/-- The number shown for the line at index `i`. -/
def number (i : Int) : Int :=
  t.firstNumber + i

/-- The first offset of the line at index `i`. -/
def start (i : Nat) : Int :=
  ((t.lines.take i).map fun l => (l.length : Int) + 2).foldr (· + ·) 0

/-- The index of the line that holds offset `p`: of the lines that start at `p` or before, the last. -/
def lineIndex (p : Int) : Except OffsetError Nat :=
  match t.extent? with
  | none => .error ⟨p, none⟩
  | some e =>
    if 0 ≤ p ∧ p ≤ e then .ok (t.ranges.countP (fun r => r.first ≤ p) - 1)
    else .error ⟨p, some e⟩

/-- Row and column of offset `p`: rows carry line numbers, columns count from one. -/
def locate (p : Int) : Except OffsetError (Int × Int) := do
  let i ← t.lineIndex p
  return (t.number i, p - t.start i + 1)

/-! ## Small facts -/

@[simp] theorem length_rangesFrom (p : Int) (ls : List String) :
    (rangesFrom p ls).length = ls.length := by
  induction ls generalizing p with
  | nil => rfl
  | cons l ls ih => simp [rangesFrom, ih]

@[simp] theorem length_ranges : t.ranges.length = t.lines.length :=
  length_rangesFrom 0 t.lines

/-- The range at index `i`, from the lengths of the lines before it. -/
theorem getElem?_rangesFrom (p : Int) (ls : List String) (i : Nat) :
    (rangesFrom p ls)[i]? = ls[i]?.map fun l =>
      ⟨p + ((ls.take i).map fun l => (l.length : Int) + 2).foldr (· + ·) 0,
        p + ((ls.take i).map fun l => (l.length : Int) + 2).foldr (· + ·) 0 + l.length + 1⟩ := by
  induction ls generalizing p i with
  | nil => simp [rangesFrom]
  | cons l ls ih =>
    cases i with
    | zero => simp [rangesFrom]
    | succ i =>
      simp only [rangesFrom, List.getElem?_cons_succ, ih, List.take_succ_cons, List.map_cons,
        List.foldr_cons]
      congr 1
      funext m
      simp only [LineRange.mk.injEq]
      constructor <;> omega

/-- The range at index `i` starts where `start` says. -/
theorem getElem?_ranges (i : Nat) :
    t.ranges[i]? = t.lines[i]?.map fun l => ⟨t.start i, t.start i + l.length + 1⟩ := by
  simp [ranges, start, getElem?_rangesFrom]

end LineTable

end CodeFrame
