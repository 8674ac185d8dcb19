/-!
# Numerals

Whole numbers in decimal digits. A number with too many digits is not written: whoever has to write
one fails instead.
-/

namespace CodeFrame

/-- The most digits that a written number has. -/
def maxDigits : Nat := 4300

/-- Has `i` at most `maxDigits` digits? -/
def fitsDigits (i : Int) : Bool :=
  i.natAbs < Nat.pow 10 maxDigits

/-- A number that has too many digits. -/
structure NumeralError where
  number : Int
  deriving DecidableEq, Repr

/-- The wording of a numeral error. -/
def NumeralError.message (_ : NumeralError) : String :=
  "Exceeds the limit (4300 digits) for integer string conversion; " ++
    "use sys.set_int_max_str_digits() to increase the limit"

/-- The numeral of `i`. -/
def numeral? (i : Int) : Except NumeralError String :=
  if fitsDigits i then .ok (toString i) else .error ⟨i⟩

/-- A numeral is the number in digits, and there is one for every number that fits. -/
theorem numeral?_eq_ok_iff {i : Int} {s : String} :
    numeral? i = .ok s ↔ fitsDigits i ∧ toString i = s := by
  rw [numeral?]
  split <;> simp_all

end CodeFrame
