import CodeFrame.Json.Symbol

/-!
# Tokens of a JSON text

The lexical half of reading JSON. Blanks separate tokens and are dropped. A place where no token
starts becomes the token `fault`, after which nothing is read. A string that holds more than characters
is a token without a text, so that a reader which has no use for the text need not mind.
-/

namespace CodeFrame

/-- The tokens of JSON. A number with a fraction or an exponent is `mantissa * 10 ^ exponent`. A
string has no text if it is not UTF-8. -/
inductive Token
  | openArray
  | closeArray
  | openObject
  | closeObject
  | colon
  | comma
  | null
  | bool (b : Bool)
  | int (i : Int)
  | float (mantissa exponent : Int)
  | str (s : Option String)
  | fault

namespace Token

/-! ## Strings -/

/-- The symbols up to the closing quotation mark, and those after it. -/
def untilQuote : List Symbol → Option (List Symbol × List Symbol)
  | [] => none
  | .char '"' :: rest => some ([], rest)
  | .char '\\' :: s :: rest => (untilQuote rest).map fun (body, after) => (.char '\\' :: s :: body, after)
  | s :: rest => (untilQuote rest).map fun (body, after) => (s :: body, after)

/-- A part of a string: a symbol that stands for itself, or a 16-bit unit given by its number. -/
inductive Part
  | symbol (s : Symbol)
  | unit (n : Nat)

/-- The character that a backslash and `c` stand for. -/
def escaped? : Char → Option Char
  | '"' => some '"'
  | '\\' => some '\\'
  | '/' => some '/'
  | 'b' => some '\x08'
  | 'f' => some '\x0c'
  | 'n' => some '\n'
  | 'r' => some '\r'
  | 't' => some '\t'
  | _ => none

/-- The value of a hexadecimal digit of either case. -/
def hexDigit? : Symbol → Option Nat
  | .char c =>
    if c.isDigit then some (c.toNat - '0'.toNat)
    else if 'a' ≤ c ∧ c ≤ 'f' then some (c.toNat - 'a'.toNat + 10)
    else if 'A' ≤ c ∧ c ≤ 'F' then some (c.toNat - 'A'.toNat + 10)
    else none
  | _ => none

/-- The number written by four hexadecimal digits. -/
def hexUnit? (a b c d : Symbol) : Option Nat := do
  return (((← hexDigit? a) * 16 + (← hexDigit? b)) * 16 + (← hexDigit? c)) * 16 + (← hexDigit? d)

/-- The parts of a string's body; none if it is malformed. -/
def parts? : List Symbol → Option (List Part)
  | [] => some []
  | .char '\\' :: .char 'u' :: a :: b :: c :: d :: rest => do
    let n ← hexUnit? a b c d
    return .unit n :: (← parts? rest)
  | .char '\\' :: .char c :: rest => do
    let c ← escaped? c
    return .symbol (.char c) :: (← parts? rest)
  | .char '\\' :: _ => none
  | .char c :: rest => if c < ' ' then none else (parts? rest).map (.symbol (.char c) :: ·)
  | s :: rest => (parts? rest).map (.symbol s :: ·)

/-- The first unit of a surrogate pair. -/
def IsHigh (n : Nat) : Prop := 0xD800 ≤ n ∧ n < 0xDC00

/-- The second unit of a surrogate pair. -/
def IsLow (n : Nat) : Prop := 0xDC00 ≤ n ∧ n < 0xE000

instance (n : Nat) : Decidable (IsHigh n) := inferInstanceAs (Decidable (_ ∧ _))

instance (n : Nat) : Decidable (IsLow n) := inferInstanceAs (Decidable (_ ∧ _))

/-- The symbols that parts stand for: two units of a surrogate pair make one character, and a
surrogate without its partner makes none. -/
def join? : List Part → Option (List Symbol)
  | [] => some []
  | .symbol s :: rest => (join? rest).map (s :: ·)
  | .unit m :: .unit n :: rest =>
    if IsHigh m ∧ IsLow n then
      (join? rest).map (.char (Char.ofNat (0x10000 + (m - 0xD800) * 0x400 + (n - 0xDC00))) :: ·)
    else if IsHigh m ∨ IsLow m then none
    else (join? (.unit n :: rest)).map (.char (Char.ofNat m) :: ·)
  | .unit m :: rest =>
    if IsHigh m ∨ IsLow m then none
    else (join? rest).map (.char (Char.ofNat m) :: ·)

/-- The symbols that a string's body stands for; none if it holds a control character or an escape
that does not exist. -/
def unescape? (body : List Symbol) : Option (List Symbol) :=
  (parts? body).bind join?

/-- The string after its opening quotation mark, and what follows it. -/
def string? (s : List Symbol) : Option (Token × List Symbol) := do
  let (body, rest) ← untilQuote s
  let ss ← unescape? body
  return (.str ((Symbol.chars? ss).map String.ofList), rest)

/-! ## Numbers -/

/-- The digits at the head of the text, and what follows them. -/
def digits : List Symbol → List Char × List Symbol
  | .char c :: rest => if c.isDigit then (c :: (digits rest).1, (digits rest).2) else ([], .char c :: rest)
  | rest => ([], rest)

/-- The digits at the head of the text, of which there must be one. -/
def someDigits? (s : List Symbol) : Option (List Char × List Symbol) :=
  if (digits s).1 = [] then none else some (digits s)

/-- The whole part of a number: it starts with a zero only if it is zero. -/
def whole? (s : List Symbol) : Option (List Char × List Symbol) := do
  let (ds, rest) ← someDigits? s
  if ds.head? = some '0' ∧ ds ≠ ['0'] then none else return (ds, rest)

/-- The digits after a point, if a point follows. -/
def fraction? : List Symbol → Option (Option (List Char) × List Symbol)
  | .char '.' :: rest => (someDigits? rest).map fun (ds, rest) => (some ds, rest)
  | rest => some (none, rest)

/-- A sign, if one follows. -/
def sign : List Symbol → Int × List Symbol
  | .char '-' :: rest => (-1, rest)
  | .char '+' :: rest => (1, rest)
  | rest => (1, rest)

/-- The number that the digits of an exponent stand for. Once it has five digits, those that follow do
not count: it is beyond every float, or a long mantissa makes up for it. -/
def exponentValue (ds : List Char) : Nat :=
  ds.foldl (fun e d => if e < 10000 then 10 * e + (d.toNat - '0'.toNat) else e) 0

/-- The exponent, if one follows. -/
def exponent? : List Symbol → Option (Option Int × List Symbol)
  | .char c :: rest =>
    if c = 'e' ∨ c = 'E' then
      (someDigits? (sign rest).2).map fun (ds, after) =>
        (some ((sign rest).1 * exponentValue ds), after)
    else some (none, .char c :: rest)
  | rest => some (none, rest)

/-- The number at the head of the text, after its minus sign if `factor` is `-1`. -/
def number? (factor : Int) (s : List Symbol) : Option (Token × List Symbol) := do
  let (ds, s) ← whole? s
  let (fs, s) ← fraction? s
  let (e, s) ← exponent? s
  match fs, e with
  | none, none => return (.int (factor * Nat.ofDigitChars 10 ds 0), s)
  | _, _ =>
    let places := fs.getD []
    return (.float (factor * Nat.ofDigitChars 10 (ds ++ places) 0) (e.getD 0 - places.length), s)

/-! ## The tokens of a text -/

/-- What follows `word` at the head of the text. -/
def after? : List Char → List Symbol → Option (List Symbol)
  | [], s => some s
  | c :: word, .char d :: s => if c = d then after? word s else none
  | _ :: _, _ => none

/-- The blanks of JSON. -/
def isBlank (s : Symbol) : Bool :=
  s = .char ' ' || s = .char '\t' || s = .char '\n' || s = .char '\r'

/-- The token that starts with `s`, and what follows it. -/
def next? (s : Symbol) (rest : List Symbol) : Option (Token × List Symbol) :=
  match s with
  | .char c =>
    match c with
    | '[' => some (.openArray, rest)
    | ']' => some (.closeArray, rest)
    | '{' => some (.openObject, rest)
    | '}' => some (.closeObject, rest)
    | ':' => some (.colon, rest)
    | ',' => some (.comma, rest)
    | 'n' => (after? "ull".toList rest).map (.null, ·)
    | 't' => (after? "rue".toList rest).map (.bool true, ·)
    | 'f' => (after? "alse".toList rest).map (.bool false, ·)
    | '"' => string? rest
    | '-' => number? (-1) rest
    | c => number? 1 (.char c :: rest)
  | _ => none

/-! ## What is left behind a token -/

/-- What stands before the closing quotation mark and what stands after it are parts of the text. -/
theorem untilQuote_subset {s body after : List Symbol} (h : untilQuote s = some (body, after)) :
    body ⊆ s ∧ after <:+ s := by
  fun_induction untilQuote s generalizing body after with
  | case1 => cases h
  | case2 rest =>
    rw [Option.some.injEq, Prod.mk.injEq] at h
    obtain ⟨rfl, rfl⟩ := h
    exact ⟨List.nil_subset _, List.suffix_cons _ _⟩
  | case3 s rest ih =>
    obtain ⟨⟨b, a⟩, hb, he⟩ := Option.map_eq_some_iff.1 h
    rw [Prod.mk.injEq] at he
    obtain ⟨rfl, rfl⟩ := he
    obtain ⟨hbody, hafter⟩ := ih hb
    refine ⟨List.cons_subset_cons _ (List.cons_subset_cons _ hbody), ?_⟩
    exact hafter.trans ((List.suffix_cons _ _).trans (List.suffix_cons _ _))
  | case4 s rest _ _ ih =>
    obtain ⟨⟨b, a⟩, hb, he⟩ := Option.map_eq_some_iff.1 h
    rw [Prod.mk.injEq] at he
    obtain ⟨rfl, rfl⟩ := he
    obtain ⟨hbody, hafter⟩ := ih hb
    exact ⟨List.cons_subset_cons _ hbody, hafter.trans (List.suffix_cons _ _)⟩

theorem string?_suffix {s after : List Symbol} {t : Token} (h : string? s = some (t, after)) :
    after <:+ s := by
  simp only [string?, Option.bind_eq_bind, Option.bind_eq_some_iff] at h
  obtain ⟨⟨body, rest⟩, hquote, ss, -, h⟩ := h
  simp only [Option.pure_def, Option.some.injEq, Prod.mk.injEq] at h
  exact h.2 ▸ (untilQuote_subset hquote).2

theorem map_digits_append (s : List Symbol) : (digits s).1.map .char ++ (digits s).2 = s := by
  induction s with
  | nil => rfl
  | cons s rest ih =>
    cases s with
    | char c =>
      rw [digits]
      split
      · exact congrArg (.char c :: ·) ih
      · rfl
    | _ => rfl

/-- There is a digit, so less is left than was there. -/
theorem someDigits?_suffix {s rest : List Symbol} {ds : List Char}
    (h : someDigits? s = some (ds, rest)) : rest <:+ s.tail := by
  have hs := map_digits_append s
  rw [someDigits?] at h
  split at h
  · cases h
  · rename_i hne
    rw [Option.some.injEq] at h
    rw [h] at hs hne
    obtain ⟨d, ds, rfl⟩ := List.exists_cons_of_ne_nil hne
    rw [← hs]
    exact List.suffix_append _ _

theorem whole?_suffix {s rest : List Symbol} {ds : List Char} (h : whole? s = some (ds, rest)) :
    rest <:+ s.tail := by
  rw [whole?, Option.bind_eq_bind, Option.bind_eq_some_iff] at h
  obtain ⟨⟨ds', rest'⟩, hd, h⟩ := h
  simp only at h
  split at h
  · simp at h
  · simp only [Option.pure_def, Option.some.injEq, Prod.mk.injEq] at h
    exact h.2 ▸ someDigits?_suffix hd

theorem fraction?_suffix {s rest : List Symbol} {fs : Option (List Char)}
    (h : fraction? s = some (fs, rest)) : rest <:+ s := by
  rw [fraction?.eq_def] at h
  split at h
  · obtain ⟨⟨ds, r⟩, hd, he⟩ := Option.map_eq_some_iff.1 h
    simp only [Prod.mk.injEq] at he
    exact he.2 ▸ (someDigits?_suffix hd).trans ((List.tail_suffix _).trans (List.suffix_cons _ _))
  · simp only [Option.some.injEq, Prod.mk.injEq] at h
    exact h.2 ▸ List.suffix_rfl

theorem sign_suffix (s : List Symbol) : (sign s).2 <:+ s := by
  rw [sign.eq_def]
  split
  · exact List.suffix_cons _ _
  · exact List.suffix_cons _ _
  · exact List.suffix_rfl

theorem exponent?_suffix {s rest : List Symbol} {e : Option Int}
    (h : exponent? s = some (e, rest)) : rest <:+ s := by
  rw [exponent?.eq_def] at h
  split at h
  · rename_i c r
    split at h
    · obtain ⟨⟨ds, a⟩, hd, he⟩ := Option.map_eq_some_iff.1 h
      simp only [Prod.mk.injEq] at he
      have hdigits := (someDigits?_suffix hd).trans (List.tail_suffix _)
      exact he.2 ▸ (hdigits.trans (sign_suffix r)).trans (List.suffix_cons _ _)
    · simp only [Option.some.injEq, Prod.mk.injEq] at h
      exact h.2 ▸ List.suffix_rfl
  · simp only [Option.some.injEq, Prod.mk.injEq] at h
    exact h.2 ▸ List.suffix_rfl

theorem number?_suffix {factor : Int} {s rest : List Symbol} {t : Token}
    (h : number? factor s = some (t, rest)) : rest <:+ s.tail := by
  simp only [number?, Option.bind_eq_bind, Option.bind_eq_some_iff] at h
  obtain ⟨⟨ds, s1⟩, h1, ⟨fs, s2⟩, h2, ⟨e, s3⟩, h3, h⟩ := h
  have hs : s3 = rest := by
    simp only at h
    split at h <;> simp_all
  exact hs ▸ (exponent?_suffix h3).trans ((fraction?_suffix h2).trans (whole?_suffix h1))

theorem after?_suffix {word : List Char} {s rest : List Symbol} (h : after? word s = some rest) :
    rest <:+ s := by
  fun_induction after? word s with
  | case1 s =>
    rw [Option.some.injEq] at h
    exact h ▸ List.suffix_rfl
  | case2 c word s ih => exact (ih h).trans (List.suffix_cons _ _)
  | case3 => cases h
  | case4 => cases h

/-- A token leaves what follows it of the text. -/
theorem next?_suffix {s : Symbol} {rest after : List Symbol} {t : Token}
    (h : next? s rest = some (t, after)) : after <:+ rest := by
  rw [next?.eq_def] at h
  split at h
  · split at h
    -- the signs, the words, and then what starts a string or a number
    iterate 6
      · simp only [Option.some.injEq, Prod.mk.injEq] at h
        exact h.2 ▸ List.suffix_rfl
    iterate 3
      · obtain ⟨r, hr, he⟩ := Option.map_eq_some_iff.1 h
        simp only [Prod.mk.injEq] at he
        exact he.2 ▸ after?_suffix hr
    · exact string?_suffix h
    · exact (number?_suffix h).trans (List.tail_suffix _)
    · exact number?_suffix h
  · cases h

end Token

/-- The tokens of a JSON text. -/
def tokens : List Symbol → List Token
  | [] => []
  | s :: rest =>
    if Token.isBlank s then tokens rest
    else match _h : Token.next? s rest with
      | none => [.fault]
      | some (t, after) => t :: tokens after
termination_by s => s.length
decreasing_by
  · simp
  · exact Nat.lt_succ_of_le (Token.next?_suffix _h).length_le

end CodeFrame
