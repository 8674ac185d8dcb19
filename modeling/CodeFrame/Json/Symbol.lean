/-!
# Symbols of a JSON text

A JSON text arrives as code points or as bytes. A code point is a character or a surrogate, which
UTF-8 has no bytes for. Bytes are read as UTF-8; one that belongs to no character stays in its place as
a stray byte, so that a reader can tell whether it ever has to be understood.
-/

namespace CodeFrame

/-- A position of a JSON text: a character, a byte that belongs to no character, or a surrogate. -/
inductive Symbol
  | char (c : Char)
  | stray (b : UInt8)
  /-- The code point `0xD800 + u`. -/
  | surrogate (u : Fin 0x800)
  deriving DecidableEq, Repr

namespace Symbol

/-- Is a position a surrogate? -/
def isSurrogate : Symbol → Bool
  | surrogate _ => true
  | _ => false

/-- The symbols of a text are its characters. -/
def ofString (s : String) : List Symbol :=
  s.toList.map char

/-- The six low bits of a byte that continues a character. -/
def continuation? (b : UInt8) : Option Nat :=
  if 0x80 ≤ b ∧ b < 0xC0 then some (b.toNat - 0x80) else none

/-- The character whose first byte is `b`, at or above `0x80`, and the number of bytes it takes from
`bs`. Overlong forms, surrogates and numbers above the last code point give no character. -/
def wideChar? (b : UInt8) (bs : List UInt8) : Option (Char × Nat) := do
  let (count, lead, least) ←
    if b < 0xC0 then none
    else if b < 0xE0 then some (1, b.toNat - 0xC0, 0x80)
    else if b < 0xF0 then some (2, b.toNat - 0xE0, 0x800)
    else if b < 0xF8 then some (3, b.toNat - 0xF0, 0x10000)
    else none
  let low ← (bs.take count).mapM continuation?
  let code := low.foldl (fun n d => 64 * n + d) lead
  if low.length = count ∧ least ≤ code ∧ code.isValidChar then some (Char.ofNat code, count)
  else none

/-- The symbols of a byte string. -/
def ofBytes : List UInt8 → List Symbol
  | [] => []
  | b :: bs =>
    if b < 0x80 then char (Char.ofNat b.toNat) :: ofBytes bs
    else match wideChar? b bs with
      | some (c, n) => char c :: ofBytes (bs.drop n)
      | none => stray b :: ofBytes bs
termination_by bs => bs.length
decreasing_by all_goals (simp only [List.length_drop, List.length_cons]; omega)

/-- The characters of `ss`, if there is nothing else in it. -/
def chars? : List Symbol → Option (List Char)
  | [] => some []
  | char c :: ss => (chars? ss).map (c :: ·)
  | _ :: _ => none

@[simp] theorem chars?_map_char (cs : List Char) : chars? (cs.map char) = some cs := by
  induction cs with
  | nil => rfl
  | cons c cs ih => simp [chars?, ih]

end Symbol

end CodeFrame
