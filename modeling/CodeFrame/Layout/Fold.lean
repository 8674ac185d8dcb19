import CodeFrame.Display.Line
import CodeFrame.Layout.Options

/-!
# Folding

A long run of lines that ends at a caption is cut down to its first and last few lines with a fold
between them. The rows are read once; whenever a caption ends a run that is too long, the middle of
the run is spliced out of the rows kept so far. They are kept with the last one first, so that a
splice costs no more than the run that it shortens.

* `Folding.reverse_close`, what a splice does to the rows in their order.
-/

namespace CodeFrame

/-- The rows kept so far, the last one first, and the number of rows at their end that are no
captions. -/
structure Folding where
  kept : List DisplayLine
  run : Nat
  run_le : run ≤ kept.length
  deriving DecidableEq

namespace Folding

/-- Nothing kept yet. -/
def start : Folding := ⟨[], 0, Nat.le_refl 0⟩

/-- The rows after a caption has ended the run: one fold takes the place of its middle. -/
def close (o : LayoutOptions) (f : Folding) : List DisplayLine :=
  if o.threshold < f.run then
    f.kept.take o.keepTail ++ .fold :: f.kept.drop (f.run - o.keepHead)
  else f.kept

/-- One more row. -/
def step (o : LayoutOptions) (f : Folding) (l : DisplayLine) : Folding :=
  if l.isCaption then ⟨l :: f.close o, 0, Nat.zero_le _⟩
  else ⟨l :: f.kept, f.run + 1, Nat.succ_le_succ f.run_le⟩

/-- The index, in the order of the rows, at which the splice of a run that ends here starts. -/
def spliceStart (o : LayoutOptions) (f : Folding) : Nat :=
  f.kept.length - f.run + o.keepHead

/-- The index before which the splice of a run that ends here stops. -/
def spliceStop (o : LayoutOptions) (f : Folding) : Nat :=
  f.kept.length - o.keepTail

/-- A splice leaves what is before its start and from its stop on. -/
theorem reverse_close {o : LayoutOptions} {f : Folding} (h : o.threshold < f.run) :
    (f.close o).reverse =
      f.kept.reverse.take (f.spliceStart o) ++ .fold :: f.kept.reverse.drop (f.spliceStop o) := by
  have hrun := f.run_le
  have hkeep := o.keep_le
  have hstart : f.kept.length - (f.run - o.keepHead) = f.spliceStart o := by
    rw [spliceStart]
    omega
  rw [close, if_pos h, List.reverse_append, List.reverse_cons, List.reverse_drop, List.reverse_take,
    hstart, spliceStop, List.append_assoc, List.singleton_append]

end Folding

/-- `body` with its long runs before captions folded. -/
def foldBody (o : LayoutOptions) (body : List DisplayLine) : List DisplayLine :=
  if o.fold then (body.foldl (Folding.step o) .start).kept.reverse else body

end CodeFrame
