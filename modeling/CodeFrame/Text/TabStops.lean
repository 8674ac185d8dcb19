import CodeFrame.Text.Blank
import CodeFrame.Text.Width

/-!
# Tab stops

A printed tab fills its line up to the next multiple of eight columns. Other characters take the
columns of their width, and a line feed starts again at column zero.
-/

namespace CodeFrame

/-- The columns that a tab at column `col` fills. -/
def tabWidth (col : Nat) : Nat :=
  8 - col % 8

variable {α : Type} [Printable α]

open Printable (char blanks)

/-- The columns that a row takes. -/
def columns : List α → Nat
  | [] => 0
  | x :: xs => charWidth (char x) + columns xs

/-- `xs` with its tabs filled out, when it starts at column `col`. -/
def expandTabs (col : Nat) : List α → List α
  | [] => []
  | x :: xs =>
    if char x = '\n' then x :: expandTabs 0 xs
    else if char x = '\t' then blanks (tabWidth col) x ++ expandTabs (col + tabWidth col) xs
    else x :: expandTabs (col + charWidth (char x)) xs

@[simp] theorem columns_nil : columns ([] : List α) = 0 := rfl

@[simp] theorem columns_cons (x : α) (xs : List α) :
    columns (x :: xs) = charWidth (char x) + columns xs := rfl

@[simp] theorem columns_append (xs ys : List α) : columns (xs ++ ys) = columns xs + columns ys := by
  induction xs with
  | nil => rw [List.nil_append, columns_nil, Nat.zero_add]
  | cons x xs ih => rw [List.cons_append, columns_cons, columns_cons, ih, Nat.add_assoc]

@[simp] theorem expandTabs_nil (col : Nat) : expandTabs col ([] : List α) = [] := rfl

/-- Text without tabs is printed as it is. -/
theorem expandTabs_of_not_mem {xs : List α} (h : ∀ x ∈ xs, char x ≠ '\t') (col : Nat) :
    expandTabs col xs = xs := by
  induction xs generalizing col with
  | nil => rfl
  | cons x xs ih =>
    obtain ⟨hx, hxs⟩ := List.forall_mem_cons.1 h
    rw [expandTabs, if_neg hx, ih hxs, ih hxs, ite_self]

end CodeFrame
