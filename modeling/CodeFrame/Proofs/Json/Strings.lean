import CodeFrame.Proofs.Json.Spelling

/-!
# Strings between quotation marks

A lexer finds the end of a string and undoes its escapes, however the string is spelled
(`Token.string?_textForm`). It takes a string apart before it looks for the characters that the parts
stand for, so the proof follows it: the closing quotation mark, the parts, the characters.
-/

namespace CodeFrame

namespace Token

/-! ## The closing quotation mark -/

/-- A plain character does not end a string. -/
theorem untilQuote_cons {c : Char} (hquote : c ≠ '"') (hslash : c ≠ '\\') {s body after : List Symbol}
    (h : untilQuote s = some (body, after)) :
    untilQuote (.char c :: s) = some (.char c :: body, after) := by
  rw [untilQuote, h]
  · rfl
  · exact fun hc => hquote (Symbol.char.inj hc)
  · exact fun _ _ hc _ => hslash (Symbol.char.inj hc)

/-- Neither does a character behind a backslash. -/
theorem untilQuote_escaped (c : Symbol) {s body after : List Symbol}
    (h : untilQuote s = some (body, after)) :
    untilQuote (.char '\\' :: c :: s) = some (.char '\\' :: c :: body, after) := by
  rw [untilQuote, h]
  rfl

/-- A hexadecimal digit is plain and has its value. -/
theorem IsHexDigit.plain {n : Nat} {d : Char} (h : IsHexDigit n d) :
    d ≠ '"' ∧ d ≠ '\\' ∧ hexDigit? (.char d) = some n := by
  have hlower : ∀ n < 16, n.digitChar ≠ '"' ∧ n.digitChar ≠ '\\' ∧
      hexDigit? (.char n.digitChar) = some n := by decide
  have hupper : ∀ n < 16, n.digitChar.toUpper ≠ '"' ∧ n.digitChar.toUpper ≠ '\\' ∧
      hexDigit? (.char n.digitChar.toUpper) = some n := by decide
  rcases h with ⟨hn, rfl | rfl⟩
  · exact hlower n hn
  · exact hupper n hn

/-- A hexadecimal digit does not end a string. -/
theorem untilQuote_hexDigit {n : Nat} {d : Char} (hd : IsHexDigit n d) {s body after : List Symbol}
    (h : untilQuote s = some (body, after)) :
    untilQuote (.char d :: s) = some (.char d :: body, after) := by
  obtain ⟨hquote, hslash, -⟩ := hd.plain
  exact untilQuote_cons hquote hslash h

/-- A unit does not end a string. -/
theorem untilQuote_unitForm {n : Nat} {form : List Char} (hform : UnitForm n form)
    {s body after : List Symbol} (h : untilQuote s = some (body, after)) :
    untilQuote (form.map .char ++ s) = some (form.map .char ++ body, after) := by
  obtain ⟨h₁, h₂, h₃, h₄⟩ := hform
  refine untilQuote_escaped _ (untilQuote_hexDigit h₁ ?_)
  exact untilQuote_hexDigit h₂ (untilQuote_hexDigit h₃ (untilQuote_hexDigit h₄ h))

/-- What stands for a character does not end a string. -/
theorem untilQuote_charForm {c : Char} {form : List Char} (hform : CharForm c form)
    {s body after : List Symbol} (h : untilQuote s = some (body, after)) :
    untilQuote (form.map .char ++ s) = some (form.map .char ++ body, after) := by
  cases hform with
  | plain hquote hslash _ => exact untilQuote_cons hquote hslash h
  | letter _ => exact untilQuote_escaped _ h
  | unit hunit => exact untilQuote_unitForm hunit h
  | pair hm hn _ _ _ =>
    rw [List.map_append, List.append_assoc, List.append_assoc]
    exact untilQuote_unitForm hm (untilQuote_unitForm hn h)

/-- A string ends at its closing quotation mark. -/
theorem untilQuote_textForm {cs body : List Char} (hbody : TextForm cs body) (rest : List Symbol) :
    untilQuote (body.map .char ++ .char '"' :: rest) = some (body.map .char, rest) := by
  induction hbody with
  | nil => rfl
  | cons hc _ ih =>
    rw [List.map_append, List.append_assoc]
    exact untilQuote_charForm hc ih

/-! ## Parts -/

/-- Parts that stand for a character: the character, its number, or two units of a pair. -/
inductive PartsFor (c : Char) : List Part → Prop
  | symbol : PartsFor c [.symbol (.char c)]
  | unit : PartsFor c [.unit c.toNat]
  | pair {m n : Nat} (hhigh : IsHigh m) (hlow : IsLow n)
      (hcode : c.toNat = 0x10000 + (m - 0xD800) * 0x400 + (n - 0xDC00)) :
      PartsFor c [.unit m, .unit n]

/-- A letter stands for its character, and is not the one in front of a number. -/
theorem escaped?_of_mem_letters :
    ∀ p ∈ letters, escaped? p.1 = some p.2 ∧ p.1 ≠ 'u' := by
  decide

/-- The number of a unit is one part. -/
theorem parts?_unitForm {n : Nat} {form : List Char} (hform : UnitForm n form) {s : List Symbol}
    {ps : List Part} (h : parts? s = some ps) :
    parts? (form.map .char ++ s) = some (.unit n :: ps) := by
  obtain @⟨n₁, n₂, n₃, n₄, d₁, d₂, d₃, d₄, h₁, h₂, h₃, h₄⟩ := hform
  obtain ⟨-, -, hd₁⟩ := h₁.plain
  obtain ⟨-, -, hd₂⟩ := h₂.plain
  obtain ⟨-, -, hd₃⟩ := h₃.plain
  obtain ⟨-, -, hd₄⟩ := h₄.plain
  have hunit : hexUnit? (.char d₁) (.char d₂) (.char d₃) (.char d₄) =
      some (((n₁ * 16 + n₂) * 16 + n₃) * 16 + n₄) := by
    rw [hexUnit?, hd₁, hd₂, hd₃, hd₄]
    rfl
  show parts? (.char '\\' :: .char 'u' :: .char d₁ :: .char d₂ :: .char d₃ :: .char d₄ :: s) = _
  rw [parts?, hunit, h]
  rfl

/-- The parts of what stands for a character. -/
theorem parts?_charForm {c : Char} {form : List Char} (hform : CharForm c form) {s : List Symbol}
    {ps : List Part} (h : parts? s = some ps) :
    ∃ qs, PartsFor c qs ∧ parts? (form.map .char ++ s) = some (qs ++ ps) := by
  cases hform with
  | plain _ hslash hcontrol =>
    refine ⟨_, .symbol, ?_⟩
    show parts? (.char c :: s) = _
    rw [parts?, if_neg hcontrol, h]
    · rfl
    · exact fun _ _ _ _ _ _ hc => hslash hc
    · exact fun _ _ _ hc => hslash hc
    · exact hslash
  | @letter d hd =>
    obtain ⟨hescaped, hu⟩ := escaped?_of_mem_letters _ hd
    refine ⟨_, .symbol, ?_⟩
    show parts? (.char '\\' :: .char d :: s) = _
    rw [parts?, hescaped, h]
    · rfl
    · exact fun _ _ _ _ _ _ hc => hu hc
  | unit hunit => exact ⟨_, .unit, parts?_unitForm hunit h⟩
  | pair hm hn hhigh hlow hcode =>
    refine ⟨_, .pair hhigh hlow hcode, ?_⟩
    rw [List.map_append, List.append_assoc]
    exact parts?_unitForm hm (parts?_unitForm hn h)

/-! ## Characters -/

/-- The number of a character belongs to no surrogate pair. -/
theorem not_isHigh_toNat (c : Char) : ¬ IsHigh c.toNat ∧ ¬ IsLow c.toNat := by
  have hvalid : c.toNat < 0xD800 ∨ 0xDFFF < c.toNat ∧ c.toNat < 0x110000 := c.valid
  unfold IsHigh IsLow
  omega

/-- The number of a character is the character, whatever follows it. -/
theorem join?_unit (c : Char) {ps : List Part} {ss : List Symbol} (h : join? ps = some ss) :
    join? (.unit c.toNat :: ps) = some (.char c :: ss) := by
  obtain ⟨hhigh, hlow⟩ := not_isHigh_toNat c
  -- the unit pairs with nothing, but where it ends shows only in what follows
  have hsingle : ¬ (IsHigh c.toNat ∨ IsLow c.toNat) := not_or.2 ⟨hhigh, hlow⟩
  cases ps with
  | nil =>
    rw [join?, if_neg hsingle, h, Char.ofNat_toNat]
    · rfl
    · simp
  | cons q ps =>
    cases q with
    | symbol s =>
      rw [join?, if_neg hsingle, h, Char.ofNat_toNat]
      · rfl
      · simp
    | unit n =>
      rw [join?, if_neg (fun hc => hhigh hc.1), if_neg hsingle, h, Char.ofNat_toNat]
      rfl

/-- Parts that stand for a character are read as the character. -/
theorem join?_append {c : Char} {qs : List Part} (hqs : PartsFor c qs) {ps : List Part}
    {ss : List Symbol} (h : join? ps = some ss) : join? (qs ++ ps) = some (.char c :: ss) := by
  cases hqs with
  | symbol =>
    show join? (.symbol (.char c) :: ps) = _
    rw [join?, h]
    rfl
  | unit => exact join?_unit c h
  | @pair m n hhigh hlow hcode =>
    show join? (.unit m :: .unit n :: ps) = _
    rw [join?, if_pos ⟨hhigh, hlow⟩, h, ← hcode, Char.ofNat_toNat]
    rfl

/-- The body of a string stands for its characters. -/
theorem unescape?_textForm {cs body : List Char} (hbody : TextForm cs body) :
    unescape? (body.map .char) = some (cs.map .char) := by
  -- the parts exist before any of them is joined, so both are followed at once
  have hparts : ∃ ps, parts? (body.map .char) = some ps ∧ join? ps = some (cs.map .char) := by
    induction hbody with
    | nil => exact ⟨[], rfl, rfl⟩
    | cons hc _ ih =>
      obtain ⟨ps, hps, hjoin⟩ := ih
      obtain ⟨qs, hqs, hcons⟩ := parts?_charForm hc hps
      rw [List.map_append]
      exact ⟨qs ++ ps, hcons, join?_append hqs hjoin⟩
  obtain ⟨ps, hps, hjoin⟩ := hparts
  rw [unescape?, hps]
  exact hjoin

/-- A string is read as its text, however it is spelled. -/
theorem string?_textForm {s : String} {body : List Char} (hbody : TextForm s.toList body)
    (rest : List Symbol) :
    string? (body.map .char ++ .char '"' :: rest) = some (.str (some s), rest) := by
  rw [string?, untilQuote_textForm hbody]
  show (do
    let ss ← unescape? (body.map .char)
    return (.str ((Symbol.chars? ss).map String.ofList), rest) : Option (Token × List Symbol)) = _
  rw [unescape?_textForm hbody]
  show some (Token.str ((Symbol.chars? (s.toList.map .char)).map String.ofList), rest) = _
  rw [Symbol.chars?_map_char, Option.map_some, String.ofList_toList]

end Token

end CodeFrame
