import CodeFrame.Json.Symbol

/-!
# Texts as bytes

The UTF-8 bytes of a text are read as the characters of the text, so that it is all one to a reader
whether a text arrives as characters or as bytes.

The bytes of a character are given by the digits of its code to the base 64. Each lemma on a character
of more than one byte puts these digits together again.
-/

namespace CodeFrame

namespace Symbol

/-- The low bits of a byte that was made from them. -/
theorem continuation?_ofNat (d : Nat) (h : d < 64) :
    continuation? (UInt8.ofNat (d + 0x80)) = some d := by
  have hb : (UInt8.ofNat (d + 0x80)).toNat = d + 0x80 :=
    UInt8.toNat_ofNat_of_lt' (show d + 0x80 < 256 by omega)
  have hrange : 0x80 ≤ UInt8.ofNat (d + 0x80) ∧ UInt8.ofNat (d + 0x80) < 0xC0 := by
    rw [UInt8.le_iff_toNat_le, UInt8.lt_iff_toNat_lt, hb]
    show 128 ≤ d + 128 ∧ d + 128 < 192
    omega
  rw [continuation?, if_pos hrange, hb]
  rw [Nat.add_sub_cancel]

/-- A character below `0x80` is its one byte. -/
theorem ofBytes_cons_of_lt {b : UInt8} (h : b < 0x80) (bs : List UInt8) :
    ofBytes (b :: bs) = char (Char.ofNat b.toNat) :: ofBytes bs := by
  rw [ofBytes, if_pos h]

/-- Bytes that make a wide character are read as it. -/
theorem ofBytes_cons_of_wideChar? {b : UInt8} {bs : List UInt8} {c : Char} {n : Nat}
    (h : ¬ b < 0x80) (hwide : wideChar? b bs = some (c, n)) :
    ofBytes (b :: bs) = char c :: ofBytes (bs.drop n) := by
  rw [ofBytes, if_neg h, hwide]

/-- The bytes that continue a character are read as the digits that they were made from. -/
theorem mapM_continuation? (ds : List Nat) (hds : ∀ d ∈ ds, d < 64) (bs : List UInt8) :
    ((ds.map (fun d => UInt8.ofNat (d + 0x80)) ++ bs).take ds.length).mapM continuation? = some ds := by
  rw [List.take_left' (by rw [List.length_map])]
  induction ds with
  | nil => rfl
  | cons d ds ih =>
    have hd := continuation?_ofNat d (hds d List.mem_cons_self)
    have hrest := ih fun d' hd' => hds d' (List.mem_cons_of_mem d hd')
    rw [List.map_cons, List.mapM_cons, hd, hrest]
    rfl

/-- The byte that starts a character of `ds.length + 1` bytes, and what a reader finds in it: the high
digit of the code, and the least code that takes so many bytes. -/
def Leads (b : UInt8) (count lead least : Nat) : Prop :=
  count = 1 ∧ b = UInt8.ofNat (lead + 0xC0) ∧ lead < 0x20 ∧ least = 0x80 ∨
  count = 2 ∧ b = UInt8.ofNat (lead + 0xE0) ∧ lead < 0x10 ∧ least = 0x800 ∨
  count = 3 ∧ b = UInt8.ofNat (lead + 0xF0) ∧ lead < 0x08 ∧ least = 0x10000

/-- A character is read from the digits of its code. -/
theorem wideChar?_eq_some {b : UInt8} {lead least : Nat} {ds : List Nat} (c : Char)
    (hlead : Leads b ds.length lead least) (hleast : least ≤ c.toNat)
    (hcode : ds.foldl (fun n d => 64 * n + d) lead = c.toNat) {bs : List UInt8}
    (hlow : (bs.take ds.length).mapM continuation? = some ds) :
    ¬ b < 0x80 ∧ wideChar? b bs = some (c, ds.length) := by
  have hvalid : c.toNat.isValidChar := c.valid
  have h80 : (0x80 : UInt8).toNat = 0x80 := rfl
  have hC0 : (0xC0 : UInt8).toNat = 0xC0 := rfl
  have hE0 : (0xE0 : UInt8).toNat = 0xE0 := rfl
  have hF0 : (0xF0 : UInt8).toNat = 0xF0 := rfl
  have hF8 : (0xF8 : UInt8).toNat = 0xF8 := rfl
  have hnat : ∀ base, b = UInt8.ofNat (lead + base) → lead + base < 256 → b.toNat = lead + base := by
    intro base hb hlt
    rw [hb]
    exact UInt8.toNat_ofNat_of_lt' hlt
  -- the first byte alone decides how many follow it and what they have to come to at least
  unfold wideChar?
  simp only [UInt8.lt_iff_toNat_lt, h80, hC0, hE0, hF0, hF8]
  rcases hlead with ⟨hcount, hb, hlt, hle⟩ | ⟨hcount, hb, hlt, hle⟩ | ⟨hcount, hb, hlt, hle⟩
  · rw [hcount] at hlow
    rw [hnat 0xC0 hb (by omega)]
    rw [if_neg (show ¬ lead + 0xC0 < 0xC0 by omega), if_pos (show lead + 0xC0 < 0xE0 by omega)]
    refine ⟨by omega, ?_⟩
    simp [hlow, hcount, hcode, hvalid, ← hle, hleast]
  · rw [hcount] at hlow
    rw [hnat 0xE0 hb (by omega)]
    rw [if_neg (show ¬ lead + 0xE0 < 0xC0 by omega),
      if_neg (show ¬ lead + 0xE0 < 0xE0 by omega), if_pos (show lead + 0xE0 < 0xF0 by omega)]
    refine ⟨by omega, ?_⟩
    simp [hlow, hcount, hcode, hvalid, ← hle, hleast]
  · rw [hcount] at hlow
    rw [hnat 0xF0 hb (by omega)]
    rw [if_neg (show ¬ lead + 0xF0 < 0xC0 by omega), if_neg (show ¬ lead + 0xF0 < 0xE0 by omega),
      if_neg (show ¬ lead + 0xF0 < 0xF0 by omega), if_pos (show lead + 0xF0 < 0xF8 by omega)]
    refine ⟨by omega, ?_⟩
    simp [hlow, hcount, hcode, hvalid, ← hle, hleast]

/-- The bytes of a character are read as the character. -/
theorem ofBytes_utf8EncodeChar (c : Char) (bs : List UInt8) :
    ofBytes (String.utf8EncodeChar c ++ bs) = char c :: ofBytes bs := by
  have hmax : c.toNat < 0x110000 := by
    have hvalid : c.toNat.isValidChar := c.valid
    rcases hvalid with h | h <;> omega
  -- a character of more than one byte, given by the digits of its code
  have hwide : ∀ {b : UInt8} {lead least : Nat} (ds : List Nat), Leads b ds.length lead least →
      (∀ d ∈ ds, d < 64) → ds.foldl (fun n d => 64 * n + d) lead = c.toNat → least ≤ c.toNat →
      ofBytes (b :: ds.map (fun d => UInt8.ofNat (d + 0x80)) ++ bs) = char c :: ofBytes bs := by
    intro b lead least ds hlead hds hcode hleast
    obtain ⟨hb, hchar⟩ := wideChar?_eq_some c hlead hleast hcode (mapM_continuation? ds hds bs)
    rw [List.cons_append, ofBytes_cons_of_wideChar? hb hchar, List.drop_left' (List.length_map _)]
  have hval : c.val.toNat = c.toNat := rfl
  simp only [String.utf8EncodeChar, hval]
  by_cases h1 : c.toNat ≤ 0x7f
  · have hb : (UInt8.ofNat c.toNat).toNat = c.toNat :=
      UInt8.toNat_ofNat_of_lt' (show c.toNat < 256 by omega)
    have hlt : UInt8.ofNat c.toNat < 0x80 := by
      rw [UInt8.lt_iff_toNat_lt, hb]
      show c.toNat < 128
      omega
    rw [if_pos h1]
    show ofBytes (UInt8.ofNat c.toNat :: bs) = _
    rw [ofBytes_cons_of_lt hlt, hb, Char.ofNat_toNat]
  rw [if_neg h1]
  by_cases h2 : c.toNat ≤ 0x7ff
  · rw [if_pos h2, Nat.mod_eq_of_lt (show c.toNat / 64 < 0x20 by omega)]
    exact hwide [c.toNat % 64] (.inl ⟨rfl, rfl, by omega, rfl⟩) (by simp; omega)
      (by simp; omega) (by omega)
  rw [if_neg h2]
  by_cases h3 : c.toNat ≤ 0xffff
  · rw [if_pos h3, Nat.mod_eq_of_lt (show c.toNat / 4096 < 0x10 by omega)]
    exact hwide [c.toNat / 64 % 64, c.toNat % 64] (.inr (.inl ⟨rfl, rfl, by omega, rfl⟩))
      (by simp; omega) (by simp; omega) (by omega)
  · rw [if_neg h3, Nat.mod_eq_of_lt (show c.toNat / 262144 < 0x08 by omega)]
    exact hwide [c.toNat / 4096 % 64, c.toNat / 64 % 64, c.toNat % 64]
      (.inr (.inr ⟨rfl, rfl, by omega, rfl⟩)) (by simp; omega) (by simp; omega) (by omega)

/-- The bytes of a text are read as its characters. -/
theorem ofBytes_toByteArray (s : String) : ofBytes s.toByteArray.data.toList = ofString s := by
  have hbytes : s.toByteArray.data.toList = s.toList.flatMap String.utf8EncodeChar := by
    rw [← String.utf8Encode_toList, List.utf8Encode, List.toList_data_toByteArray]
  -- by induction over the characters, each with all of its bytes
  rw [hbytes, ofString]
  induction s.toList with
  | nil => rw [List.flatMap_nil, List.map_nil, ofBytes]
  | cons c cs ih => rw [List.flatMap_cons, ofBytes_utf8EncodeChar, ih, List.map_cons]

end Symbol

end CodeFrame
