import CodeFrame.Json.Value

/-!
# Whole numbers in a text

A written whole number is read as the number (`Token.next?_writeInt`), unless what follows it goes on
with it: another digit, a point or an exponent.
-/

namespace CodeFrame

namespace Token

open Json (writeInt)

/-! ## Decimal digits -/

/-- Only zero is written with a zero in front. -/
theorem eq_zero_of_head?_toDigits {n : Nat} (h : (Nat.toDigits 10 n).head? = some '0') : n = 0 := by
  induction n using Nat.strongRecOn with
  | ind n ih =>
    by_cases hlt : n < 10
    · rw [Nat.toDigits_of_lt_base hlt, List.head?_cons, Option.some.injEq] at h
      exact Nat.digitChar_eq_zero.1 h
    · -- the first digit is that of `n / 10`, which is not zero
      obtain ⟨d, ds, hd⟩ :=
        List.exists_cons_of_ne_nil (Nat.toDigits_ne_nil (n := n / 10) (b := 10))
      rw [Nat.toDigits_of_base_le (by decide) (by omega), hd] at h
      have hzero := ih (n / 10) (by omega) (by rw [hd]; exact h)
      omega

/-- The written digits are digits. -/
theorem isDigit_of_mem_toDigits {n : Nat} {c : Char} (h : c ∈ Nat.toDigits 10 n) : c.isDigit :=
  Nat.isDigit_of_mem_toDigits (by decide) (by decide) h

/-! ## Lexing -/

/-- The text does not go on with a number that stands in front of it. -/
def EndsNumber : List Symbol → Prop
  | .char c :: _ => ¬ c.isDigit ∧ c ≠ '.' ∧ c ≠ 'e' ∧ c ≠ 'E'
  | _ => True

/-- Neither a comma nor the end of a container goes on with a number. -/
theorem endsNumber_cons {c : Char} (h : c = ',' ∨ c = ']' ∨ c = '}') (s : List Symbol) :
    EndsNumber (.char c :: s) := by
  rcases h with rfl | rfl | rfl <;> exact ⟨by decide, by decide, by decide, by decide⟩

/-- The digits at the head of a text are those in front of a place where a number ends. -/
theorem digits_append {ds : List Char} (hds : ∀ d ∈ ds, d.isDigit) {s : List Symbol}
    (hs : EndsNumber s) : digits (ds.map .char ++ s) = (ds, s) := by
  induction ds with
  | nil =>
    show digits s = ([], s)
    cases s with
    | nil => rfl
    | cons x s =>
      cases x with
      | char c => rw [digits, if_neg hs.1]
      | _ => rfl
  | cons d ds ih =>
    have hd := hds d List.mem_cons_self
    have hrest := ih fun d' hd' => hds d' (List.mem_cons_of_mem d hd')
    show digits (.char d :: (ds.map .char ++ s)) = _
    rw [digits, if_pos hd, hrest]

/-- A number ends where neither a point nor an exponent follows. -/
theorem fraction?_exponent?_of_endsNumber {s : List Symbol} (hs : EndsNumber s) :
    fraction? s = some (none, s) ∧ exponent? s = some (none, s) := by
  cases s with
  | nil => exact ⟨rfl, rfl⟩
  | cons x s =>
    cases x with
    | char c =>
      obtain ⟨-, hpoint, he, hE⟩ := hs
      constructor
      · rw [fraction?]
        exact fun _ hc => hpoint (Symbol.char.inj (List.cons.inj hc).1)
      · rw [exponent?, if_neg (by simp [he, hE])]
    | _ => exact ⟨rfl, rfl⟩

/-- The digits of a number are read as the number. -/
theorem number?_toDigits (factor : Int) (n : Nat) {s : List Symbol} (hs : EndsNumber s) :
    number? factor ((Nat.toDigits 10 n).map .char ++ s) = some (.int (factor * n), s) := by
  obtain ⟨hfraction, hexponent⟩ := fraction?_exponent?_of_endsNumber hs
  have hdigits := digits_append (fun _ => isDigit_of_mem_toDigits (n := n)) hs
  have hwhole : whole? ((Nat.toDigits 10 n).map .char ++ s) = some (Nat.toDigits 10 n, s) := by
    -- a zero in front would have to stand alone
    have hzero : ¬ ((Nat.toDigits 10 n).head? = some '0' ∧ Nat.toDigits 10 n ≠ ['0']) := by
      rintro ⟨hhead, hne⟩
      rw [eq_zero_of_head?_toDigits hhead, Nat.toDigits_zero] at hne
      exact hne rfl
    rw [whole?, someDigits?, hdigits, if_neg Nat.toDigits_ne_nil]
    exact if_neg hzero
  rw [number?, hwhole]
  simp [hfraction, hexponent]

/-- A digit starts a number. -/
theorem next?_of_isDigit {c : Char} (h : c.isDigit) (rest : List Symbol) :
    next? (.char c) rest = number? 1 (.char c :: rest) := by
  rw [next?]
  all_goals
    rintro rfl
    exact absurd h (by decide)

/-- A digit is no blank. -/
theorem isBlank_of_isDigit {c : Char} (h : c.isDigit) : isBlank (.char c) = false := by
  rw [Bool.eq_false_iff]
  intro hblank
  simp only [isBlank, Bool.or_eq_true, decide_eq_true_eq, Symbol.char.injEq] at hblank
  rcases hblank with ((rfl | rfl) | rfl) | rfl <;> exact absurd h (by decide)

/-- A written whole number is its digits, behind a minus sign if it is negative. -/
theorem writeInt_eq (i : Int) :
    writeInt i =
      if 0 ≤ i then Nat.toDigits 10 i.natAbs else '-' :: Nat.toDigits 10 i.natAbs := by
  show i.repr.toList = _
  rw [Int.repr_eq_if]
  by_cases h : 0 ≤ i
  · have habs : i.toNat = i.natAbs := by omega
    rw [if_pos h, if_pos h, Nat.toList_repr, habs]
  · have habs : (-i).toNat = i.natAbs := by omega
    rw [if_neg h, if_neg h, String.toList_append, Nat.toList_repr, habs]
    rfl

/-- A written whole number starts no blank, and is read as the number. -/
theorem next?_writeInt (i : Int) {s : List Symbol} (hs : EndsNumber s) :
    ∃ c cs, writeInt i = c :: cs ∧ isBlank (.char c) = false ∧
      next? (.char c) (cs.map .char ++ s) = some (.int i, s) := by
  rw [writeInt_eq]
  by_cases h : 0 ≤ i
  · obtain ⟨d, ds, hds⟩ :=
      List.exists_cons_of_ne_nil (Nat.toDigits_ne_nil (n := i.natAbs) (b := 10))
    have hd : d.isDigit := isDigit_of_mem_toDigits (n := i.natAbs) (by rw [hds]; exact List.mem_cons_self)
    have hread := number?_toDigits 1 i.natAbs hs
    have habs : (1 : Int) * i.natAbs = i := by omega
    rw [hds, habs] at hread
    rw [if_pos h]
    refine ⟨d, ds, hds, isBlank_of_isDigit hd, ?_⟩
    rw [next?_of_isDigit hd]
    exact hread
  · have habs : (-1 : Int) * i.natAbs = i := by omega
    have hread := number?_toDigits (-1) i.natAbs hs
    rw [habs] at hread
    rw [if_neg h]
    exact ⟨'-', _, rfl, by decide, hread⟩

/-- A number can be told from how it is written. -/
theorem writeInt_injective {i j : Int} (h : writeInt i = writeInt j) : i = j := by
  have hends : EndsNumber [] := trivial
  obtain ⟨c, cs, hi, -, hreadi⟩ := next?_writeInt i hends
  obtain ⟨d, ds, hj, -, hreadj⟩ := next?_writeInt j hends
  rw [hi, hj, List.cons.injEq] at h
  rw [h.1, h.2, hreadj] at hreadi
  cases hreadi
  rfl

/-- A written whole number has no other signs than digits and minus. -/
theorem isDigit_or_of_mem_writeInt {i : Int} {c : Char} (h : c ∈ writeInt i) :
    c.isDigit ∨ c = '-' := by
  rw [writeInt_eq] at h
  split at h
  · exact .inl (isDigit_of_mem_toDigits h)
  · rcases List.mem_cons.1 h with rfl | h
    · exact .inr rfl
    · exact .inl (isDigit_of_mem_toDigits h)

end Token

end CodeFrame
