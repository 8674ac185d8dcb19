import CodeFrame.Annotation

/-!
# The ranges of a line table tile its source

Line `k` covers the offsets from `start k` up to `start (k + 1)`, so every offset from zero up to the
start behind the last line lies on exactly one line.

* `LineTable.lineOf?`, the line that holds an offset, with `lineOf?_eq_some_iff` and
  `lineOf?_eq_none_iff`;
* `LineTable.fits_iff`, the check of an anchor against the extent in terms of `start`;
* `LineTable.lineIndex_eq_ok`, the search by starts finds that line.
-/

namespace CodeFrame

namespace LineTable

variable (t : LineTable)

/-- The line whose range holds offset `p`. -/
def lineOf? (p : Int) : Option Nat :=
  t.ranges.findIdx? fun r => p ∈ r

/-! ## Starts -/

@[simp] theorem start_zero : t.start 0 = 0 := by
  simp [start]

theorem start_succ {k : Nat} {l : String} (h : t.lines[k]? = some l) :
    t.start (k + 1) = t.start k + l.length + 2 := by
  obtain ⟨hk, rfl⟩ := List.getElem?_eq_some_iff.1 h
  unfold start
  rw [List.take_succ_eq_append_getElem hk, List.map_append, ← List.sum_eq_foldr, ← List.sum_eq_foldr,
    List.sum_append]
  simp only [List.map_cons, List.map_nil, List.sum_cons, List.sum_nil]
  omega

/-- Behind the last line nothing starts later. -/
theorem start_of_length_le {k : Nat} (h : t.lines.length ≤ k) :
    t.start k = t.start t.lines.length := by
  unfold start
  rw [List.take_of_length_le h, List.take_length]

theorem start_le_start_succ (k : Nat) : t.start k ≤ t.start (k + 1) := by
  by_cases hk : k < t.lines.length
  · have h := t.start_succ (List.getElem?_eq_getElem hk)
    omega
  · have hk := t.start_of_length_le (by omega : t.lines.length ≤ k)
    have hsucc := t.start_of_length_le (by omega : t.lines.length ≤ k + 1)
    omega

theorem start_le_start {i k : Nat} (h : i ≤ k) : t.start i ≤ t.start k := by
  induction h with
  | refl => exact Int.le_refl _
  | step _ ih => exact Int.le_trans ih (t.start_le_start_succ _)

theorem start_nonneg (k : Nat) : 0 ≤ t.start k := by
  have h := t.start_le_start (Nat.zero_le k)
  rwa [start_zero] at h

/-- The range of a line reaches up to the start of the next one. -/
theorem getElem?_ranges_of_lt {k : Nat} (h : k < t.lines.length) :
    t.ranges[k]? = some ⟨t.start k, t.start (k + 1) - 1⟩ := by
  have hl := List.getElem?_eq_getElem h
  rw [getElem?_ranges, t.start_succ hl, hl]
  simp only [Option.map_some, Option.some.injEq, LineRange.mk.injEq, true_and]
  omega

/-- Earlier ranges end before later ones begin. -/
theorem ranges_pairwise : t.ranges.Pairwise fun r r' => r.last < r'.first := by
  rw [List.pairwise_iff_getElem]
  intro i k hi hk hik
  rw [length_ranges] at hi hk
  have hri := t.getElem?_ranges_of_lt hi
  have hrk := t.getElem?_ranges_of_lt hk
  rw [(List.getElem?_eq_some_iff.1 hri).2, (List.getElem?_eq_some_iff.1 hrk).2]
  have h := t.start_le_start (by omega : i + 1 ≤ k)
  show t.start (i + 1) - 1 < t.start k
  omega

/-! ## The line of an offset -/

theorem lineOf?_eq_some_iff {p : Int} {k : Nat} :
    t.lineOf? p = some k ↔ k < t.lines.length ∧ t.start k ≤ p ∧ p < t.start (k + 1) := by
  have hmem : ∀ j (hj : j < t.ranges.length),
      (p ∈ t.ranges[j]) ↔ t.start j ≤ p ∧ p < t.start (j + 1) := by
    intro j hj
    have hr := t.getElem?_ranges_of_lt (by simpa using hj : j < t.lines.length)
    rw [(List.getElem?_eq_some_iff.1 hr).2, LineRange.mem_def]
    show t.start j ≤ p ∧ p ≤ t.start (j + 1) - 1 ↔ _
    omega
  unfold lineOf?
  rw [List.findIdx?_eq_some_iff_getElem]
  constructor
  · rintro ⟨hk, hp, -⟩
    exact ⟨by simpa using hk, (hmem k hk).1 (of_decide_eq_true hp)⟩
  · rintro ⟨hk, hp⟩
    refine ⟨by simpa using hk, decide_eq_true ((hmem k _).2 hp), fun j hj hpj => ?_⟩
    -- a line before `k` ends before `k` starts
    have h1 := (hmem j _).1 (of_decide_eq_true hpj)
    have h2 := t.start_le_start (by omega : j + 1 ≤ k)
    omega

/-- Every offset before the end of the last line lies on a line. -/
theorem exists_lineOf? {p : Int} (h0 : 0 ≤ p) (h : p < t.start t.lines.length) :
    ∃ k, t.lineOf? p = some k := by
  -- induction on the number of lines that may still hold `p`
  have hex : ∀ n ≤ t.lines.length, p < t.start n → ∃ k, t.lineOf? p = some k := by
    intro n hn hp
    induction n with
    | zero =>
      rw [start_zero] at hp
      omega
    | succ n ih =>
      by_cases hlt : p < t.start n
      · exact ih (by omega) hlt
      · exact ⟨n, t.lineOf?_eq_some_iff.2 ⟨by omega, by omega, hp⟩⟩
  exact hex _ (Nat.le_refl _) h

theorem lineOf?_eq_none_iff {p : Int} (h0 : 0 ≤ p) :
    t.lineOf? p = none ↔ t.start t.lines.length ≤ p := by
  constructor
  · intro hnone
    by_cases h : t.start t.lines.length ≤ p
    · exact h
    · obtain ⟨k, hk⟩ := t.exists_lineOf? h0 (by omega)
      rw [hnone] at hk
      cases hk
  · intro hle
    cases hk : t.lineOf? p with
    | none => rfl
    | some k =>
      obtain ⟨hk, -, hp⟩ := t.lineOf?_eq_some_iff.1 hk
      have h := t.start_le_start (by omega : k + 1 ≤ t.lines.length)
      omega

/-! ## The extent -/

theorem extent?_eq :
    t.extent? = if t.lines = [] then none else some (t.start t.lines.length - 1) := by
  unfold extent?
  rw [List.getLast?_eq_getElem?, length_ranges]
  by_cases h : t.lines = []
  · rw [if_pos h, getElem?_ranges, h]
    rfl
  · have hpos := List.length_pos_iff.2 h
    rw [if_neg h, t.getElem?_ranges_of_lt (by omega : t.lines.length - 1 < t.lines.length),
      Nat.sub_add_cancel hpos]
    rfl

/-- An anchor fits the source when its last offset lies before the end of the last line. -/
theorem fits_iff {a : Anchor} {p : Int} (hp : a.last? = some p) (h0 : 0 ≤ p) :
    a.Fits t.extent? ↔ p < t.start t.lines.length := by
  unfold Anchor.Fits
  rw [extent?_eq, hp]
  split
  · rename_i h
    simp only [h, List.length_nil, start_zero, Option.mem_some_iff, forall_eq',
      Option.not_mem_none, false_and, exists_false, false_iff]
    omega
  · simp only [Option.mem_some_iff, forall_eq', exists_eq_left']
    omega

/-- Where an anchor that fits starts or ends, there is a line. -/
theorem exists_lineOf?_of_fits {a : Anchor} (hfits : a.Fits t.extent?) {p : Int}
    (hp : a.start? = some p ∨ a.stop? = some p) : ∃ k, t.lineOf? p = some k := by
  cases a with
  | unplaced => rcases hp with hp | hp <;> cases hp
  | dangling start hstart =>
    rw [t.fits_iff rfl hstart] at hfits
    rcases hp with hp | hp <;> cases hp
    exact t.exists_lineOf? hstart hfits
  | span start stop hstart hle =>
    rw [t.fits_iff rfl (by omega)] at hfits
    rcases hp with hp | hp <;> cases hp
    · exact t.exists_lineOf? hstart (by omega)
    · exact t.exists_lineOf? (by omega) hfits

/-! ## Searching by starts -/

/-- The lines that start at an offset of line `k` or before it are those up to `k`. -/
theorem countP_first_le {p : Int} {k : Nat} (h : t.lineOf? p = some k) :
    t.ranges.countP (fun r => r.first ≤ p) = k + 1 := by
  obtain ⟨hk, h1, h2⟩ := t.lineOf?_eq_some_iff.1 h
  have hlen : k + 1 ≤ t.ranges.length := by
    rw [length_ranges]
    omega
  have hfirst : ∀ j (hj : j < t.ranges.length), t.ranges[j].first = t.start j := by
    intro j hj
    have hr := t.getElem?_ranges_of_lt (by simpa using hj : j < t.lines.length)
    rw [(List.getElem?_eq_some_iff.1 hr).2]
  rw [← List.take_append_drop (k + 1) t.ranges, List.countP_append]
  have htake : (t.ranges.take (k + 1)).countP (fun r => r.first ≤ p) = k + 1 := by
    rw [List.countP_eq_length.2, List.length_take, Nat.min_eq_left hlen]
    intro r hr
    obtain ⟨j, hj, rfl⟩ := List.mem_take_iff_getElem.1 hr
    have hle := t.start_le_start (by omega : j ≤ k)
    rw [hfirst]
    exact decide_eq_true (by omega)
  have hdrop : (t.ranges.drop (k + 1)).countP (fun r => r.first ≤ p) = 0 := by
    rw [List.countP_eq_zero]
    intro r hr
    obtain ⟨j, hj, rfl⟩ := List.mem_drop_iff_getElem.1 hr
    have hle := t.start_le_start (by omega : k + 1 ≤ k + 1 + j)
    rw [hfirst]
    simpa using by omega
  rw [htake, hdrop]

theorem lineIndex_eq_ok {p : Int} {k : Nat} (h : t.lineOf? p = some k) :
    t.lineIndex p = .ok k := by
  obtain ⟨hk, h1, h2⟩ := t.lineOf?_eq_some_iff.1 h
  have h0 := t.start_nonneg k
  have hle := t.start_le_start (by omega : k + 1 ≤ t.lines.length)
  have hne : t.lines ≠ [] := List.ne_nil_of_length_pos (by omega)
  unfold lineIndex
  rw [extent?_eq, if_neg hne]
  simp only
  rw [if_pos ⟨by omega, by omega⟩, t.countP_first_le h, Nat.add_sub_cancel]

theorem locate_eq_ok {p : Int} {k : Nat} (h : t.lineOf? p = some k) :
    t.locate p = .ok (t.number k, p - t.start k + 1) := by
  unfold locate
  rw [t.lineIndex_eq_ok h]
  rfl

end LineTable

end CodeFrame
