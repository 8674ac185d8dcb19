import CodeFrame.Proofs.Json.Numbers
import CodeFrame.Proofs.Json.Strings
import Mathlib.Data.List.Chain

/-!
# The texts of a value are read as the value

A text of a value falls into the tokens of the value, however it is spelled (`Token.tokens_forms`), and
these tokens make the reading machine put the value into its place (`Json.run_tokenList`). So a reader
finds the value and nothing behind it (`Document.read_of_isText`).

Where one token ends and the next begins can be told without a blank between them, except that a whole
number goes on with any digits behind it. Among the tokens of a value only a comma or the end of a
container follows a number (`Json.isChain_tokenList`).
-/

namespace CodeFrame

namespace Token

/-! ## Lexing -/

/-- Does a token follow a complete value? -/
def follows : Token → Bool
  | .comma => true
  | .closeArray => true
  | .closeObject => true
  | _ => false

/-- Is a token a whole number? -/
def isInt : Token → Bool
  | .int _ => true
  | _ => false

/-- `t` can be told from `u` behind it. -/
def Apart (t u : Token) : Prop :=
  t.isInt → u.follows

/-- What is no number can be told from anything behind it. -/
theorem isChain_cons_of_isInt {t : Token} (ht : t.isInt = false) {ts : List Token}
    (hts : ts.IsChain Apart) : (t :: ts).IsChain Apart := by
  refine List.isChain_cons.2 ⟨fun u _ hint => ?_, hts⟩
  rw [ht] at hint
  cases hint

/-- A number ends where the text goes on with a blank, or with a token that follows a value. -/
theorem endsNumber_forms {ts : List Token} {cs : List Char} (h : Forms ts cs)
    (hts : ∀ u ∈ ts.head?, u.follows) : EndsNumber (cs.map .char) := by
  cases h with
  | nil => trivial
  | blank hc _ =>
    simp only [isBlank, Bool.or_eq_true, decide_eq_true_eq, Symbol.char.injEq] at hc
    rcases hc with ((rfl | rfl) | rfl) | rfl <;>
      exact ⟨by decide, by decide, by decide, by decide⟩
  | cons ht _ =>
    have hfollows := hts _ rfl
    cases ht with
    | comma => exact endsNumber_cons (.inl rfl) _
    | closeArray => exact endsNumber_cons (.inr (.inl rfl)) _
    | closeObject => exact endsNumber_cons (.inr (.inr rfl)) _
    | _ => cases hfollows

/-- What stands for a token starts no blank, and is read as the token. -/
theorem next?_form {t : Token} {form : List Char} (h : t.Form form) {s : List Symbol}
    (hs : t.isInt → EndsNumber s) :
    ∃ c cs, form = c :: cs ∧ isBlank (.char c) = false ∧
      next? (.char c) (cs.map .char ++ s) = some (t, s) := by
  cases h with
  | int i => exact next?_writeInt i (hs rfl)
  | minusZero =>
    have hread := number?_toDigits (-1) 0 (hs rfl)
    exact ⟨'-', ['0'], rfl, by decide, hread⟩
  | @str k body hbody =>
    have hread := string?_textForm hbody s
    refine ⟨'"', body ++ ['"'], rfl, by decide, ?_⟩
    rw [List.map_append, List.append_assoc]
    exact hread
  | _ => exact ⟨_, _, rfl, by decide, rfl⟩

/-- One token. -/
theorem tokens_cons {c : Char} {rest after : List Symbol} {t : Token}
    (hblank : isBlank (.char c) = false) (hnext : next? (.char c) rest = some (t, after)) :
    tokens (.char c :: rest) = t :: tokens after := by
  rw [tokens, hblank, if_neg Bool.false_ne_true]
  split
  · rename_i h
    rw [hnext] at h
    cases h
  · rename_i h
    rw [hnext] at h
    cases h
    rfl

/-- A text falls into the tokens that it stands for. -/
theorem tokens_forms {ts : List Token} {cs : List Char} (h : Forms ts cs)
    (hts : ts.IsChain Apart) : tokens (cs.map .char) = ts := by
  induction h with
  | nil => rw [List.map_nil, tokens]
  | blank hc _ ih =>
    rw [List.map_cons, tokens, if_pos hc]
    exact ih hts
  | @cons t ts form cs ht h ih =>
    obtain ⟨hapart, hrest⟩ := List.isChain_cons.1 hts
    have hends : t.isInt → EndsNumber (cs.map .char) :=
      fun hint => endsNumber_forms h fun u hu => hapart u hu hint
    obtain ⟨c, form, rfl, hblank, hnext⟩ := next?_form ht hends
    rw [List.map_append, List.map_cons, List.cons_append, tokens_cons hblank hnext, ih hrest]

end Token

namespace Json

open Token (Apart isChain_cons_of_isInt)

mutual

/-- The tokens of a value can be told apart, also from what follows the value. -/
theorem isChain_tokenList (v : Json) {ts : List Token} (hts : ts.IsChain Apart)
    (hhead : ∀ u ∈ ts.head?, u.follows) : (v.tokenList ++ ts).IsChain Apart := by
  match v with
  | .null => exact isChain_cons_of_isInt rfl hts
  | .bool _ => exact isChain_cons_of_isInt rfl hts
  | .int _ => exact List.isChain_cons.2 ⟨fun u hu _ => hhead u hu, hts⟩
  | .float _ _ => exact isChain_cons_of_isInt rfl hts
  | .str _ => exact isChain_cons_of_isInt rfl hts
  | .array items =>
    have hclose : (.closeArray :: ts).IsChain Apart := isChain_cons_of_isInt rfl hts
    rw [tokenList, List.append_assoc]
    exact isChain_cons_of_isInt rfl (isChain_tokensAll items hclose (by simp [Token.follows]))
  | .object members =>
    have hclose : (.closeObject :: ts).IsChain Apart := isChain_cons_of_isInt rfl hts
    rw [tokenList, List.append_assoc]
    exact isChain_cons_of_isInt rfl (isChain_tokensMembers members hclose (by simp [Token.follows]))

/-- The tokens of items. -/
theorem isChain_tokensAll (items : List Json) {ts : List Token} (hts : ts.IsChain Apart)
    (hhead : ∀ u ∈ ts.head?, u.follows) : (tokensAll items ++ ts).IsChain Apart := by
  match items with
  | [] =>
    rw [tokensAll]
    exact hts
  | [v] =>
    rw [tokensAll]
    exact isChain_tokenList v hts hhead
  | v :: w :: vs =>
    have hrest := isChain_tokensAll (w :: vs) hts hhead
    rw [tokensAll, List.append_assoc]
    exact isChain_tokenList v (isChain_cons_of_isInt rfl hrest) (by simp [Token.follows])

/-- The tokens of members. -/
theorem isChain_tokensMembers (members : List (String × Json)) {ts : List Token}
    (hts : ts.IsChain Apart) (hhead : ∀ u ∈ ts.head?, u.follows) :
    (tokensMembers members ++ ts).IsChain Apart := by
  match members with
  | [] =>
    rw [tokensMembers]
    exact hts
  | [(k, v)] =>
    rw [tokensMembers]
    exact isChain_cons_of_isInt rfl (isChain_cons_of_isInt rfl (isChain_tokenList v hts hhead))
  | (k, v) :: m :: ms =>
    have hrest := isChain_tokensMembers (m :: ms) hts hhead
    rw [tokensMembers, List.append_assoc]
    exact isChain_cons_of_isInt rfl (isChain_cons_of_isInt rfl
      (isChain_tokenList v (isChain_cons_of_isInt rfl hrest) (by simp [Token.follows])))

end

/-! ## Reading -/

mutual

/-- The reading of a value's text. -/
def textReading : Json → Reading
  | .null => .null
  | .bool b => .bool b
  | .int i => .ofInt i
  | .float m e => .ofFloat m e
  | .str s => .str (some s)
  | .array items => .array (textReadings items) true
  | .object members => .object (textMembers members) true

/-- The readings of the texts of `items`. -/
def textReadings : List Json → List Reading
  | [] => []
  | v :: vs => v.textReading :: textReadings vs

/-- The readings of the texts of `members`. -/
def textMembers : List (String × Json) → List (Option String × Reading)
  | [] => []
  | (k, v) :: ms => (some k, v.textReading) :: textMembers ms

end

theorem textReadings_eq_map (items : List Json) : textReadings items = items.map textReading := by
  induction items with
  | nil => rw [textReadings, List.map_nil]
  | cons v vs ih => rw [textReadings, ih, List.map_cons]

theorem textMembers_eq_map (members : List (String × Json)) :
    textMembers members = members.map fun (k, v) => (some k, v.textReading) := by
  induction members with
  | nil => rw [textMembers, List.map_nil]
  | cons m ms ih => rw [textMembers, ih, List.map_cons]

theorem readingAll_eq_map (items : List Json) : readingAll items = items.map reading := by
  induction items with
  | nil => rw [readingAll, List.map_nil]
  | cons v vs ih => rw [readingAll, ih, List.map_cons]

theorem readingMembers_eq_map (members : List (String × Json)) :
    readingMembers members = members.map fun (k, v) => (some k, v.reading) := by
  induction members with
  | nil => rw [readingMembers, List.map_nil]
  | cons m ms ih => rw [readingMembers, ih, List.map_cons]

end Json

namespace Reading

/-- One step of the machine. -/
theorem run_cons {s s' : State} {t : Token} (h : s.next? t = some s') (ts : List Token) :
    run s (t :: ts) = run s' ts := by
  cases s <;> first | cases h | simp only [run, h]

end Reading

namespace Json

open Reading (run run_cons put Frame)

/-- The first item of an array is read like any other. -/
theorem run_arrayStart (v : Json) (vs : List Json) (outer : List Frame) (ts : List Token) :
    run (.arrayStart outer) (tokensAll (v :: vs) ++ ts) =
      run (.value (.array [] :: outer)) (tokensAll (v :: vs) ++ ts) := by
  have hfirst : ∃ more, tokensAll (v :: vs) = v.tokenList ++ more := by
    cases vs with
    | nil => exact ⟨[], by rw [tokensAll, List.append_nil]⟩
    | cons w vs => exact ⟨_, by rw [tokensAll]⟩
  obtain ⟨more, hmore⟩ := hfirst
  rw [hmore, List.append_assoc]
  cases v <;> rw [tokenList] <;> exact (run_cons rfl _).trans (run_cons rfl _).symm

/-- The first member of an object is read like any other. -/
theorem run_objectStart (m : String × Json) (ms : List (String × Json)) (outer : List Frame)
    (ts : List Token) :
    run (.objectStart outer) (tokensMembers (m :: ms) ++ ts) =
      run (.memberStart [] outer) (tokensMembers (m :: ms) ++ ts) := by
  cases ms <;> rw [tokensMembers] <;> exact (run_cons rfl _).trans (run_cons rfl _).symm

/-- A name and its colon. -/
theorem run_name (k : String) (acc : List (Option String × Reading)) (outer : List Frame)
    (ts : List Token) :
    run (.memberStart acc outer) (.str (some k) :: .colon :: ts) =
      run (.value (.object acc (some k) :: outer)) ts :=
  (run_cons rfl _).trans (run_cons rfl ts)

mutual

/-- The tokens of a value put it in its place. -/
theorem run_tokenList (v : Json) (outer : List Frame) (ts : List Token) :
    run (.value outer) (v.tokenList ++ ts) = run (put v.textReading outer) ts := by
  match v with
  | .null =>
    rw [tokenList, textReading]
    exact run_cons rfl ts
  | .bool b =>
    rw [tokenList, textReading]
    exact run_cons rfl ts
  | .int i =>
    rw [tokenList, textReading]
    exact run_cons rfl ts
  | .float m e =>
    rw [tokenList, textReading]
    exact run_cons rfl ts
  | .str k =>
    rw [tokenList, textReading]
    exact run_cons rfl ts
  | .array [] =>
    rw [tokenList, textReading]
    exact (run_cons rfl _).trans (run_cons rfl ts)
  | .array (w :: ws) =>
    -- behind the bracket the array might end, but the token of an item is not its end
    have hitems := run_tokensAll (w :: ws) (List.cons_ne_nil w ws) [] outer ts
    rw [← run_arrayStart] at hitems
    rw [tokenList, textReading, List.append_assoc, List.cons_append]
    exact (run_cons rfl _).trans hitems
  | .object [] =>
    rw [tokenList, textReading]
    exact (run_cons rfl _).trans (run_cons rfl ts)
  | .object (m :: ms) =>
    have hmembers := run_tokensMembers (m :: ms) (List.cons_ne_nil m ms) [] outer ts
    rw [← run_objectStart] at hmembers
    rw [tokenList, textReading, List.append_assoc, List.cons_append]
    exact (run_cons rfl _).trans hmembers

/-- The tokens of items, with those of the array that are behind them. -/
theorem run_tokensAll (items : List Json) (hne : items ≠ []) (acc : List Reading)
    (outer : List Frame) (ts : List Token) :
    run (.value (.array acc :: outer)) (tokensAll items ++ .closeArray :: ts) =
      run (put (.array (acc.reverse ++ textReadings items) true) outer) ts := by
  match items with
  | [] => exact absurd rfl hne
  | [v] =>
    rw [tokensAll, run_tokenList, textReadings, textReadings, ← List.reverse_cons]
    exact run_cons rfl ts
  | v :: w :: vs =>
    -- the items read so far are kept with the last one first
    have hrest := run_tokensAll (w :: vs) (List.cons_ne_nil w vs) (v.textReading :: acc) outer ts
    rw [List.reverse_cons, List.append_assoc] at hrest
    rw [tokensAll, List.append_assoc, run_tokenList, textReadings]
    exact (run_cons rfl _).trans hrest

/-- The tokens of members, with those of the object that are behind them. -/
theorem run_tokensMembers (members : List (String × Json)) (hne : members ≠ [])
    (acc : List (Option String × Reading)) (outer : List Frame) (ts : List Token) :
    run (.memberStart acc outer) (tokensMembers members ++ .closeObject :: ts) =
      run (put (.object (acc.reverse ++ textMembers members) true) outer) ts := by
  match members with
  | [] => exact absurd rfl hne
  | [(k, v)] =>
    have hv := run_tokenList v (.object acc (some k) :: outer) (.closeObject :: ts)
    rw [tokensMembers, textMembers, textMembers, ← List.reverse_cons]
    exact ((run_name k acc outer _).trans hv).trans (run_cons rfl ts)
  | (k, v) :: m :: ms =>
    have hrest := run_tokensMembers (m :: ms) (List.cons_ne_nil m ms)
      ((some k, v.textReading) :: acc) outer ts
    rw [List.reverse_cons, List.append_assoc] at hrest
    have hv := run_tokenList v (.object acc (some k) :: outer)
      (.comma :: (tokensMembers (m :: ms) ++ .closeObject :: ts))
    rw [tokensMembers, textMembers, List.append_assoc]
    exact ((run_name k acc outer _).trans hv).trans ((run_cons rfl _).trans hrest)

end

end Json

/-! ## Texts -/

/-- A reader of a text of a value finds the value, and nothing behind it. -/
theorem Document.read_of_isText {v : Json} {text : String} (h : v.IsText text) :
    Document.read (Symbol.ofString text) = ⟨v.textReading, false⟩ := by
  have hchain : (v.tokenList ++ []).IsChain Token.Apart := v.isChain_tokenList .nil nofun
  rw [List.append_nil] at hchain
  have hlex := Token.tokens_forms h hchain
  have hrun := v.run_tokenList [] []
  rw [List.append_nil] at hrun
  rw [Document.read, Symbol.ofString, hlex, hrun]
  rfl

/-- A reader of a value's compact text finds the value, and nothing behind it. -/
theorem Document.read_write {v : Json} (h : v.floatFree) :
    Document.read (Symbol.ofString v.write) = ⟨v.textReading, false⟩ :=
  Document.read_of_isText (Json.isText_write h)

end CodeFrame
