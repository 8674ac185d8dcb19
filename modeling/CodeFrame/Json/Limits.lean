import CodeFrame.Text.Numeral

/-!
# Limits of numbers in a JSON text

What a reader of numbers can hold: whole numbers of 64 bits, longer ones up to a number of characters
where a whole number is wanted, and otherwise double-precision floats.
-/

namespace CodeFrame

/-- Does `i` fit a signed or an unsigned word of 64 bits? -/
def fitsWord (i : Int) : Bool :=
  -Nat.pow 2 63 ≤ i && i < Nat.pow 2 64

/-- Has the text of `i` at most `maxDigits` characters? A minus sign is one of them. -/
def fitsText (i : Int) : Bool :=
  if i < 0 then i.natAbs < Nat.pow 10 (maxDigits - 1) else i.natAbs < Nat.pow 10 maxDigits

/-- The least magnitude that rounds to no finite float: halfway from the largest float of double
precision to the power of two above it. -/
def floatBound : Nat := Nat.pow 2 1024 - Nat.pow 2 970

/-- Is `mantissa * 10 ^ exponent` beyond every finite float? The first two tests settle small and
large exponents without computing a power. -/
def exceedsFloat (mantissa exponent : Int) : Bool :=
  if mantissa = 0 ∨ (mantissa.natAbs.log2 : Int) < -exponent then false
  else if 309 ≤ exponent then true
  else floatBound * Nat.pow 10 (-exponent).toNat ≤ mantissa.natAbs * Nat.pow 10 exponent.toNat

/-- A number whose text fits has few enough digits. -/
theorem fitsDigits_of_fitsText {i : Int} (h : fitsText i) : fitsDigits i := by
  have hle : 10 ^ (maxDigits - 1) ≤ 10 ^ maxDigits := Nat.pow_le_pow_right (by decide) (by decide)
  rw [fitsText] at h
  rw [fitsDigits]
  split at h <;> rw [decide_eq_true_eq, Nat.pow_eq] at h ⊢
  · exact Nat.lt_of_lt_of_le h hle
  · exact h

end CodeFrame
