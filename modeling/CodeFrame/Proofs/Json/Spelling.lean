import CodeFrame.Json.Value

/-!
# The texts of a value

JSON leaves a writer some freedom: blanks between tokens, several ways to write a character inside
quotation marks, and a minus sign in front of zero. `Json.IsText v` holds of every text that says `v`
with its members and items in order. What `Json.write` makes is one of them.

A number with a fraction or an exponent has no text here: what is written as `me` need not be read as
`m` and `e` once `e` has many digits.
-/

namespace CodeFrame

namespace Token

/-! ## Characters inside quotation marks -/

/-- The letters that stand for a character behind a backslash. -/
def letters : List (Char × Char) :=
  [('"', '"'), ('\\', '\\'), ('/', '/'), ('b', '\x08'), ('f', '\x0c'), ('n', '\n'), ('r', '\r'),
    ('t', '\t')]

/-- `d` is a hexadecimal digit for `n`, of either case. -/
def IsHexDigit (n : Nat) (d : Char) : Prop :=
  n < 16 ∧ (d = n.digitChar ∨ d = n.digitChar.toUpper)

/-- The number of a 16-bit unit behind a backslash. -/
inductive UnitForm : Nat → List Char → Prop
  | digits {n₁ n₂ n₃ n₄ : Nat} {d₁ d₂ d₃ d₄ : Char} (h₁ : IsHexDigit n₁ d₁) (h₂ : IsHexDigit n₂ d₂)
      (h₃ : IsHexDigit n₃ d₃) (h₄ : IsHexDigit n₄ d₄) :
      UnitForm (((n₁ * 16 + n₂) * 16 + n₃) * 16 + n₄) ['\\', 'u', d₁, d₂, d₃, d₄]

/-- What may stand for a character. -/
inductive CharForm (c : Char) : List Char → Prop
  /-- The character itself. -/
  | plain (hquote : c ≠ '"') (hslash : c ≠ '\\') (hcontrol : ¬ c < ' ') : CharForm c [c]
  /-- A letter behind a backslash. -/
  | letter {d : Char} (h : (d, c) ∈ letters) : CharForm c ['\\', d]
  /-- Its number, if that is one unit. -/
  | unit {form : List Char} (h : UnitForm c.toNat form) : CharForm c form
  /-- The two units of a surrogate pair. -/
  | pair {m n : Nat} {high low : List Char} (hm : UnitForm m high) (hn : UnitForm n low)
      (hhigh : IsHigh m) (hlow : IsLow n)
      (hcode : c.toNat = 0x10000 + (m - 0xD800) * 0x400 + (n - 0xDC00)) : CharForm c (high ++ low)

/-- What may stand for a text. -/
inductive TextForm : List Char → List Char → Prop
  | nil : TextForm [] []
  | cons {c : Char} {cs form body : List Char} (hc : CharForm c form) (hcs : TextForm cs body) :
      TextForm (c :: cs) (form ++ body)

/-! ## Tokens -/

/-- What may stand for a token. -/
inductive Form : Token → List Char → Prop
  | openArray : Form .openArray ['[']
  | closeArray : Form .closeArray [']']
  | openObject : Form .openObject ['{']
  | closeObject : Form .closeObject ['}']
  | colon : Form .colon [':']
  | comma : Form .comma [',']
  | null : Form .null ['n', 'u', 'l', 'l']
  | yes : Form (.bool true) ['t', 'r', 'u', 'e']
  | no : Form (.bool false) ['f', 'a', 'l', 's', 'e']
  | int (i : Int) : Form (.int i) (Json.writeInt i)
  | minusZero : Form (.int 0) ['-', '0']
  | str {s : String} {body : List Char} (h : TextForm s.toList body) :
      Form (.str (some s)) ('"' :: body ++ ['"'])

/-- What may stand for tokens: a form for each, with blanks in front, between and behind. -/
inductive Forms : List Token → List Char → Prop
  | nil : Forms [] []
  | blank {ts : List Token} {c : Char} {cs : List Char} (hc : isBlank (.char c)) (h : Forms ts cs) :
      Forms ts (c :: cs)
  | cons {t : Token} {ts : List Token} {form cs : List Char} (ht : t.Form form) (h : Forms ts cs) :
      Forms (t :: ts) (form ++ cs)

/-- Forms may follow each other. -/
theorem Forms.append {ts us : List Token} {cs ds : List Char} (h : Forms ts cs)
    (h' : Forms us ds) : Forms (ts ++ us) (cs ++ ds) := by
  induction h with
  | nil => exact h'
  | blank hc _ ih => exact .blank hc ih
  | cons ht _ ih =>
    rw [List.append_assoc]
    exact .cons ht ih

/-- Each of the tokens has a form. -/
theorem Forms.exists_form {ts : List Token} {cs : List Char} (h : Forms ts cs) {t : Token}
    (ht : t ∈ ts) : ∃ form, t.Form form := by
  induction h with
  | nil => cases ht
  | blank _ _ ih => exact ih ht
  | cons hform _ ih =>
    rcases List.mem_cons.1 ht with rfl | hrest
    · exact ⟨_, hform⟩
    · exact ih hrest

/-- One form. -/
theorem Form.single {t : Token} {form : List Char} (h : t.Form form) : Forms [t] form := by
  have hform := Forms.cons h .nil
  rwa [List.append_nil] at hform

/-! ## What is escaped -/

/-- A low unit as it is written. -/
theorem unitForm_low {n : Nat} (h : n < 256) :
    UnitForm n ['\\', 'u', '0', '0', Json.hexDigit (n / 16), Json.hexDigit (n % 16)] := by
  have hzero : IsHexDigit 0 '0' := ⟨by decide, .inl rfl⟩
  have hhigh : IsHexDigit (n / 16) (Json.hexDigit (n / 16)) := ⟨by omega, .inl rfl⟩
  have hlow : IsHexDigit (n % 16) (Json.hexDigit (n % 16)) := ⟨by omega, .inl rfl⟩
  have hn : n = ((0 * 16 + 0) * 16 + n / 16) * 16 + n % 16 := by omega
  conv => arg 1; rw [hn]
  exact .digits hzero hzero hhigh hlow

/-- A character may be escaped. -/
theorem charForm_escape (c : Char) : CharForm c (Json.escape c) := by
  unfold Json.escape
  by_cases hquote : c = '"'
  · rw [if_pos hquote, hquote]
    exact .letter (by decide)
  rw [if_neg hquote]
  by_cases hslash : c = '\\'
  · rw [if_pos hslash, hslash]
    exact .letter (by decide)
  rw [if_neg hslash]
  by_cases hb : c = '\x08'
  · rw [if_pos hb, hb]
    exact .letter (by decide)
  rw [if_neg hb]
  by_cases hf : c = '\x0c'
  · rw [if_pos hf, hf]
    exact .letter (by decide)
  rw [if_neg hf]
  by_cases hn : c = '\n'
  · rw [if_pos hn, hn]
    exact .letter (by decide)
  rw [if_neg hn]
  by_cases hr : c = '\r'
  · rw [if_pos hr, hr]
    exact .letter (by decide)
  rw [if_neg hr]
  by_cases ht : c = '\t'
  · rw [if_pos ht, ht]
    exact .letter (by decide)
  rw [if_neg ht]
  by_cases hlt : c < ' '
  · have hlow : c.toNat < 32 := hlt
    rw [if_pos hlt]
    exact .unit (unitForm_low (by omega))
  · rw [if_neg hlt]
    exact .plain hquote hslash hlt

/-- A text may be escaped character by character. -/
theorem textForm_flatMap_escape (cs : List Char) : TextForm cs (cs.flatMap Json.escape) := by
  induction cs with
  | nil => exact .nil
  | cons c cs ih => exact .cons (charForm_escape c) ih

end Token

namespace Json

open Token (Forms)

mutual

/-- The tokens of a value. -/
def tokenList : Json → List Token
  | .null => [.null]
  | .bool b => [.bool b]
  | .int i => [.int i]
  | .float m e => [.float m e]
  | .str s => [.str (some s)]
  | .array items => .openArray :: tokensAll items ++ [.closeArray]
  | .object members => .openObject :: tokensMembers members ++ [.closeObject]

/-- The tokens of `items`, with commas between them. -/
def tokensAll : List Json → List Token
  | [] => []
  | [v] => v.tokenList
  | v :: w :: vs => v.tokenList ++ .comma :: tokensAll (w :: vs)

/-- The tokens of `members`, with commas between them. -/
def tokensMembers : List (String × Json) → List Token
  | [] => []
  | [(k, v)] => .str (some k) :: .colon :: v.tokenList
  | (k, v) :: m :: ms => .str (some k) :: .colon :: v.tokenList ++ .comma :: tokensMembers (m :: ms)

end

/-- A text says `v`, with its members and items in order. -/
def IsText (v : Json) (text : String) : Prop :=
  Forms v.tokenList text.toList

mutual

/-- Has a value no number with a fraction or an exponent? -/
def floatFree : Json → Bool
  | .float _ _ => false
  | .array items => floatFreeAll items
  | .object members => floatFreeMembers members
  | _ => true

/-- Have `items` no such number? -/
def floatFreeAll : List Json → Bool
  | [] => true
  | v :: vs => v.floatFree && floatFreeAll vs

/-- Have `members` no such number? -/
def floatFreeMembers : List (String × Json) → Bool
  | [] => true
  | (_, v) :: ms => v.floatFree && floatFreeMembers ms

end

/-- A list of values has no floats if none of the values has. -/
theorem floatFreeAll_of_forall {vs : List Json} (h : ∀ v ∈ vs, v.floatFree) : floatFreeAll vs := by
  induction vs with
  | nil => rw [floatFreeAll]
  | cons v vs ih =>
    have hv := h v List.mem_cons_self
    have hrest := ih fun w hw => h w (List.mem_cons_of_mem v hw)
    rw [floatFreeAll, hv, hrest]
    rfl

/-! ## What is written -/

/-- A written string. -/
theorem forms_writeString (k : String) : Forms [.str (some k)] (writeString k) :=
  (Token.Form.str (Token.textForm_flatMap_escape k.toList)).single

mutual

/-- The compact text of a value stands for its tokens. -/
theorem forms_chars (v : Json) (hv : v.floatFree) : Forms v.tokenList v.chars := by
  match v with
  | .null =>
    rw [chars, tokenList]
    exact Token.Form.null.single
  | .bool true =>
    rw [chars, tokenList]
    exact Token.Form.yes.single
  | .bool false =>
    rw [chars, tokenList]
    exact Token.Form.no.single
  | .int i =>
    rw [chars, tokenList]
    exact (Token.Form.int i).single
  | .float _ _ =>
    rw [floatFree] at hv
    cases hv
  | .str k =>
    rw [chars, tokenList]
    exact forms_writeString k
  | .array items =>
    rw [floatFree] at hv
    rw [chars, tokenList]
    exact (Forms.cons .openArray (forms_charsAll items hv)).append Token.Form.closeArray.single
  | .object members =>
    rw [floatFree] at hv
    rw [chars, tokenList]
    exact (Forms.cons .openObject (forms_charsMembers members hv)).append
      Token.Form.closeObject.single

/-- Written items. -/
theorem forms_charsAll (items : List Json) (hitems : floatFreeAll items) :
    Forms (tokensAll items) (charsAll items) := by
  match items with
  | [] =>
    rw [charsAll, tokensAll]
    exact .nil
  | [v] =>
    rw [floatFreeAll, Bool.and_eq_true] at hitems
    rw [charsAll, tokensAll]
    exact forms_chars v hitems.1
  | v :: w :: vs =>
    rw [floatFreeAll, Bool.and_eq_true] at hitems
    have hrest := Forms.cons .comma (forms_charsAll (w :: vs) hitems.2)
    rw [charsAll, tokensAll]
    exact (forms_chars v hitems.1).append hrest

/-- Written members. -/
theorem forms_charsMembers (members : List (String × Json)) (hmembers : floatFreeMembers members) :
    Forms (tokensMembers members) (charsMembers members) := by
  match members with
  | [] =>
    rw [charsMembers, tokensMembers]
    exact .nil
  | [(k, v)] =>
    rw [floatFreeMembers, Bool.and_eq_true] at hmembers
    rw [charsMembers, tokensMembers]
    exact (forms_writeString k).append (.cons .colon (forms_chars v hmembers.1))
  | (k, v) :: m :: ms =>
    rw [floatFreeMembers, Bool.and_eq_true] at hmembers
    have hrest := Forms.cons .comma (forms_charsMembers (m :: ms) hmembers.2)
    have hvalue := Forms.cons .colon (forms_chars v hmembers.1)
    rw [charsMembers, tokensMembers]
    exact ((forms_writeString k).append hvalue).append hrest

end

/-- The compact text of a value is a text of it. -/
theorem isText_write {v : Json} (h : v.floatFree) : v.IsText v.write := by
  rw [IsText, write, String.toList_ofList]
  exact v.forms_chars h

end Json

end CodeFrame
