import CodeFrame.Source.Lines
import Mathlib.Data.List.Basic

/-!
# Lines and what separates them

What the lines of a text are can be read off its pieces between line feeds, one after the other.

* `splitLines_append`, a text behind a complete line is split for itself;
* `Written`, the texts that write given lines, with either kind of line end behind each of them;
* `splitLines_of_written`, such a text has these lines, whatever the line ends are.
-/

namespace CodeFrame

/-! ## Pieces -/

/-- A piece ends at the first line feed. -/
theorem pieces_append_lineFeed {l : List Char} (h : '\n' ∉ l) (cs : List Char) :
    pieces (l ++ '\n' :: cs) = l :: pieces cs := by
  induction l with
  | nil => exact pieces_lineFeed cs
  | cons c l ih =>
    have hc : c ≠ '\n' := fun hc => h (hc ▸ List.mem_cons_self)
    have hl : '\n' ∉ l := fun hl => h (List.mem_cons_of_mem c hl)
    rw [List.cons_append, pieces, if_neg hc, ih hl]

/-- Without a line feed a text is one piece. -/
theorem pieces_of_not_mem {l : List Char} (h : '\n' ∉ l) (hne : l ≠ []) : pieces l = [l] := by
  induction l with
  | nil => exact absurd rfl hne
  | cons c l ih =>
    have hc : c ≠ '\n' := fun hc => h (hc ▸ List.mem_cons_self)
    have hl : '\n' ∉ l := fun hl => h (List.mem_cons_of_mem c hl)
    rw [pieces, if_neg hc]
    by_cases hnil : l = []
    · rw [hnil]
      rfl
    · rw [ih hl hnil]

/-- The end of a complete line is a seam: the pieces on its two sides do not depend on each other. -/
theorem pieces_append {cs : List Char} (h : cs = [] ∨ cs.getLast? = some '\n') (ds : List Char) :
    pieces (cs ++ ds) = pieces cs ++ pieces ds := by
  induction cs with
  | nil => rfl
  | cons c cs ih =>
    have hlast : (c :: cs).getLast? = some '\n' := h.resolve_left (List.cons_ne_nil c cs)
    by_cases hnil : cs = []
    · rw [hnil, List.getLast?_singleton, Option.some.injEq] at hlast
      rw [hnil, hlast]
      exact pieces_lineFeed ds
    · rw [List.getLast?_cons_of_ne_nil hnil] at hlast
      have hrest := ih (.inr hlast)
      rw [List.cons_append, pieces, pieces, hrest]
      by_cases hc : c = '\n'
      · rw [if_pos hc, if_pos hc, List.cons_append]
      · -- the character belongs to the first piece of the rest
        obtain ⟨p, ps, hps⟩ := List.exists_cons_of_ne_nil fun hp => hnil (pieces_eq_nil_iff.1 hp)
        rw [if_neg hc, if_neg hc, hps]
        rfl

/-- Behind complete lines the lines of a text are those that it has alone. -/
theorem splitLines_append {text : String} (h : text = "" ∨ text.toList.getLast? = some '\n')
    (text' : String) : splitLines (text ++ text') = splitLines text ++ splitLines text' := by
  have hend : text.toList = [] ∨ text.toList.getLast? = some '\n' := by
    rcases h with rfl | h
    · exact .inl rfl
    · exact .inr h
  unfold splitLines
  rw [String.toList_append, pieces_append hend, List.map_append]

/-! ## Carriage returns -/

theorem dropReturn_concat (l : List Char) : dropReturn (l ++ ['\r']) = l := by
  unfold dropReturn
  rw [List.getLast?_concat, if_pos rfl, List.dropLast_concat]

theorem dropReturn_of_getLast? {l : List Char} (h : l.getLast? ≠ some '\r') : dropReturn l = l :=
  if_neg h

/-! ## Written lines -/

/-- The two kinds of line ends. -/
inductive LineEnd
  | lineFeed
  | returnLineFeed
  deriving DecidableEq, Repr

/-- The characters of a line end. -/
def LineEnd.text : LineEnd → String
  | lineFeed => "\n"
  | returnLineFeed => "\r\n"

/-- A text writes lines if each of them stands there with a line end behind it. The last one may go
without, unless it is empty. -/
inductive Written : List String → String → Prop
  | nil : Written [] ""
  | unterminated {l : String} (h : l ≠ "") : Written [l] l
  | cons {l : String} {ls : List String} {text : String} (e : LineEnd) (h : Written ls text) :
    Written (l :: ls) (l ++ e.text ++ text)

/-- A string that can be a line: nothing in it separates it in two, and nothing at its end is taken for a
part of a line end. -/
def IsLine (l : String) : Prop :=
  '\n' ∉ l.toList ∧ l.toList.getLast? ≠ some '\r'

/-- A line with a line end behind it is split off. -/
theorem splitLines_cons {l : String} (hl : IsLine l) (e : LineEnd) (text : String) :
    splitLines (l ++ e.text ++ text) = l :: splitLines text := by
  obtain ⟨hfeed, hreturn⟩ := hl
  unfold splitLines
  cases e with
  | lineFeed =>
    have htext : (l ++ LineEnd.lineFeed.text ++ text).toList = l.toList ++ '\n' :: text.toList := by
      simp [LineEnd.text]
    rw [htext, pieces_append_lineFeed hfeed, List.map_cons, dropReturn_of_getLast? hreturn,
      String.ofList_toList]
  | returnLineFeed =>
    have htext : (l ++ LineEnd.returnLineFeed.text ++ text).toList =
        (l.toList ++ ['\r']) ++ '\n' :: text.toList := by
      simp [LineEnd.text]
    have hfeed' : '\n' ∉ l.toList ++ ['\r'] := by
      simpa using hfeed
    rw [htext, pieces_append_lineFeed hfeed', List.map_cons, dropReturn_concat, String.ofList_toList]

/-- A text that writes lines is split into these lines. -/
theorem splitLines_of_written {ls : List String} {text : String} (h : Written ls text)
    (hls : ∀ l ∈ ls, IsLine l) : splitLines text = ls := by
  induction h with
  | nil => rfl
  | @unterminated l hne =>
    obtain ⟨hfeed, hreturn⟩ := hls l (List.mem_singleton.2 rfl)
    have hnil : l.toList ≠ [] := by
      intro hnil
      exact hne (String.toList_eq_nil_iff.1 hnil)
    unfold splitLines
    rw [pieces_of_not_mem hfeed hnil, List.map_singleton, dropReturn_of_getLast? hreturn,
      String.ofList_toList]
  | @cons l ls text e _ ih =>
    have hrest := ih fun l' hl' => hls l' (List.mem_cons_of_mem l hl')
    rw [splitLines_cons (hls l List.mem_cons_self), hrest]

end CodeFrame
