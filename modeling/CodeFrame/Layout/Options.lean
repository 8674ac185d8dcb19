import CodeFrame.Text.Numeral

/-!
# Layout options

When long runs of lines are folded and what the header says. `LayoutOptions.Request` is what a caller
asks for; `Request.check` refuses numbers that would leave nothing to fold.
-/

namespace CodeFrame

/-- How a snippet is laid out. A run of more than `threshold` lines before a caption is folded to its
first `keepHead` and last `keepTail` lines. -/
structure LayoutOptions where
  fold : Bool := true
  threshold : Nat := 10
  keepHead : Nat := 5
  keepTail : Nat := 2
  resolveLocation : Bool := true
  defaultCode : String := "E0000"
  keep_le : keepHead + keepTail ≤ threshold := by decide
  deriving DecidableEq

namespace LayoutOptions

instance : Inhabited LayoutOptions := ⟨{}⟩

/-- Options as a caller asks for them. -/
structure Request where
  fold : Bool := true
  threshold : Int := 10
  keepHead : Int := 5
  keepTail : Int := 2
  resolveLocation : Bool := true
  defaultCode : String := "E0000"
  deriving DecidableEq, Repr

/-- Why a request is refused. -/
inductive Error
  | negativeContext (keepHead keepTail : Int)
  | lowThreshold (threshold kept : Int)
  deriving DecidableEq, Repr

/-- The wording of a refusal. A sum with too many digits is complained about in its place. -/
def Error.message : Error → String
  | negativeContext h t =>
    "Fold context cannot be negative (got head=" ++ toString h ++ ", tail=" ++ toString t ++ ")"
  | lowThreshold n kept =>
    match numeral? kept with
    | .ok digits =>
      "fold_threshold (" ++ toString n ++ ") must be >= fold_keep_head + fold_keep_tail (" ++ digits ++ ")"
    | .error e => e.message

/-- The options that a request asks for. -/
def Request.check (r : Request) : Except Error LayoutOptions :=
  if h : r.keepHead < 0 ∨ r.keepTail < 0 then .error (.negativeContext r.keepHead r.keepTail)
  else if h' : r.threshold < r.keepHead + r.keepTail then
    .error (.lowThreshold r.threshold (r.keepHead + r.keepTail))
  else .ok {
    fold := r.fold
    threshold := r.threshold.toNat
    keepHead := r.keepHead.toNat
    keepTail := r.keepTail.toNat
    resolveLocation := r.resolveLocation
    defaultCode := r.defaultCode
    keep_le := by omega }

end LayoutOptions

end CodeFrame
