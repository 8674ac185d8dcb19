/-!
# Lines of a text

Only a line feed separates lines. A carriage return just before the line feed, or at the end of the
text, belongs to the separator. What follows the last line feed is a line unless it is empty.
-/

namespace CodeFrame

/-- The pieces of `cs` between line feeds, without an empty last piece. -/
def pieces : List Char → List (List Char)
  | [] => []
  | c :: cs =>
    if c = '\n' then [] :: pieces cs
    else match pieces cs with
      | [] => [[c]]
      | p :: ps => (c :: p) :: ps

/-- `cs` without a carriage return at its end; at most one is removed. -/
def dropReturn (cs : List Char) : List Char :=
  if cs.getLast? = some '\r' then cs.dropLast else cs

/-- The lines of a text. -/
def splitLines (text : String) : List String :=
  (pieces text.toList).map fun p => String.ofList (dropReturn p)

/-! ## Small facts -/

@[simp] theorem pieces_nil : pieces [] = [] := rfl

@[simp] theorem pieces_lineFeed (cs : List Char) : pieces ('\n' :: cs) = [] :: pieces cs := by
  simp [pieces]

/-- Only the empty text has no pieces. -/
theorem pieces_eq_nil_iff {cs : List Char} : pieces cs = [] ↔ cs = [] := by
  constructor
  · intro h
    cases cs with
    | nil => rfl
    | cons c cs =>
      rw [pieces] at h
      split at h
      · simp at h
      · split at h <;> simp at h
  · rintro rfl
    rfl

/-- No piece contains a line feed. -/
theorem lineFeed_not_mem_of_mem_pieces {cs p : List Char} (h : p ∈ pieces cs) : '\n' ∉ p := by
  induction cs generalizing p with
  | nil => simp at h
  | cons c cs ih =>
    rw [pieces] at h
    split at h
    · rcases List.mem_cons.1 h with rfl | h
      · simp
      · exact ih h
    · rename_i hc
      split at h
      · rw [List.mem_singleton] at h
        subst h
        simpa using Ne.symm hc
      · rename_i q qs hq
        rcases List.mem_cons.1 h with rfl | h
        · have hn := ih (p := q) (by simp [hq])
          simpa [hn] using Ne.symm hc
        · exact ih (by simp [hq, h])

end CodeFrame
