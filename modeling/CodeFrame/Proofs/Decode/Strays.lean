import CodeFrame.Decode.Snippet

/-!
# Stray bytes and surrogates

A text is refused as not UTF-8 only for a stray byte in it (`Snippet.load_ne_notUtf8`), and for a surrogate
exactly if there is one in it (`Snippet.load_eq_loneSurrogate_iff`). The way from the text to the first of
these errors is followed step by step. A token without a text is a string that holds
more than characters (`exists_of_mem_tokens`). A reading keeps the strings that tokens have
(`Document.read_isUtf8`). And no decoder makes an error about the encoding up (`Decode.Accepts`).
-/

namespace CodeFrame

/-! ## Tokens -/

namespace Token

/-- Escapes stand for characters only. -/
theorem mem_of_parts? {s : Symbol} (hs : ∀ c, s ≠ .char c) {body : List Symbol} {ps : List Part}
    (h : parts? body = some ps) (hmem : .symbol s ∈ ps) : s ∈ body := by
  fun_induction parts? body generalizing ps with
  | case1 =>
    cases h
    cases hmem
  | case2 x y z w rest ih =>
    -- a unit by its number
    simp only [Option.bind_eq_bind, Option.bind_eq_some_iff, Option.pure_def, Option.some.injEq] at h
    obtain ⟨n, -, qs, hqs, rfl⟩ := h
    have hrest := ih hqs (by simpa using hmem)
    simp [hrest]
  | case3 c rest _ ih =>
    -- a letter behind a backslash
    simp only [Option.bind_eq_bind, Option.bind_eq_some_iff, Option.pure_def, Option.some.injEq] at h
    obtain ⟨c', -, qs, hqs, rfl⟩ := h
    have hrest := ih hqs (by simpa [hs c'] using hmem)
    simp [hrest]
  | case4 => cases h
  | case5 => cases h
  | case6 c rest _ _ _ _ ih =>
    obtain ⟨qs, hqs, rfl⟩ := Option.map_eq_some_iff.1 h
    exact List.mem_cons_of_mem _ (ih hqs (by simpa [hs c] using hmem))
  | case7 s' rest _ _ _ _ ih =>
    obtain ⟨qs, hqs, rfl⟩ := Option.map_eq_some_iff.1 h
    rcases List.mem_cons.1 hmem with heq | hmem
    · rw [Part.symbol.injEq] at heq
      exact heq ▸ List.mem_cons_self
    · exact List.mem_cons_of_mem _ (ih hqs hmem)

/-- So do units. -/
theorem mem_of_join? {s : Symbol} (hs : ∀ c, s ≠ .char c) {ps : List Part} {ss : List Symbol}
    (h : join? ps = some ss) (hmem : s ∈ ss) : .symbol s ∈ ps := by
  fun_induction join? ps generalizing ss with
  | case1 =>
    cases h
    cases hmem
  | case2 s' rest ih =>
    obtain ⟨ts, hts, rfl⟩ := Option.map_eq_some_iff.1 h
    rcases List.mem_cons.1 hmem with rfl | hmem
    · exact List.mem_cons_self
    · exact List.mem_cons_of_mem _ (ih hts hmem)
  | case3 m n rest _ ih =>
    obtain ⟨ts, hts, rfl⟩ := Option.map_eq_some_iff.1 h
    have hrest := (List.mem_cons.1 hmem).resolve_left (hs _)
    exact List.mem_cons_of_mem _ (List.mem_cons_of_mem _ (ih hts hrest))
  | case4 => cases h
  | case5 m n rest _ _ ih =>
    obtain ⟨ts, hts, rfl⟩ := Option.map_eq_some_iff.1 h
    have hrest := (List.mem_cons.1 hmem).resolve_left (hs _)
    exact List.mem_cons_of_mem _ (ih hts hrest)
  | case6 => cases h
  | case7 m rest _ _ ih =>
    obtain ⟨ts, hts, rfl⟩ := Option.map_eq_some_iff.1 h
    have hrest := (List.mem_cons.1 hmem).resolve_left (hs _)
    exact List.mem_cons_of_mem _ (ih hts hrest)

theorem exists_of_chars?_eq_none {ss : List Symbol} (h : Symbol.chars? ss = none) :
    ∃ s ∈ ss, ∀ c, s ≠ .char c := by
  induction ss with
  | nil => cases h
  | cons s ss ih =>
    cases s with
    | char c =>
      obtain ⟨s, hmem, hs⟩ := ih (Option.map_eq_none_iff.1 h)
      exact ⟨s, List.mem_cons_of_mem _ hmem, hs⟩
    | _ => exact ⟨_, List.mem_cons_self, nofun⟩

/-- A string has no text only if more than characters stands between its quotation marks. -/
theorem exists_of_string? {s after : List Symbol} (h : string? s = some (.str none, after)) :
    ∃ x ∈ s, ∀ c, x ≠ .char c := by
  simp only [string?, Option.bind_eq_bind, Option.bind_eq_some_iff] at h
  obtain ⟨⟨body, rest⟩, hquote, ss, hss, h⟩ := h
  simp only [Option.pure_def, Option.some.injEq, Prod.mk.injEq, Token.str.injEq,
    Option.map_eq_none_iff] at h
  obtain ⟨x, hmem, hx⟩ := exists_of_chars?_eq_none h.1
  obtain ⟨ps, hps, hjoin⟩ := Option.bind_eq_some_iff.1 hss
  exact ⟨x, (untilQuote_subset hquote).1 (mem_of_parts? hx hps (mem_of_join? hx hjoin hmem)), hx⟩

theorem number?_ne_str {factor : Int} {s after : List Symbol} {t : Token}
    (h : number? factor s = some (t, after)) (text : Option String) : t ≠ .str text := by
  simp only [number?, Option.bind_eq_bind, Option.bind_eq_some_iff] at h
  obtain ⟨⟨ds, s1⟩, -, ⟨fs, s2⟩, -, ⟨e, s3⟩, -, h⟩ := h
  dsimp only at h
  split at h
  · rw [Option.pure_def, Option.some.injEq, Prod.mk.injEq] at h
    exact h.1 ▸ Token.noConfusion
  · rw [Option.pure_def, Option.some.injEq, Prod.mk.injEq] at h
    exact h.1 ▸ Token.noConfusion

/-- A token has no text only if it is such a string. -/
theorem exists_of_next? {s : Symbol} {rest after : List Symbol}
    (h : next? s rest = some (.str none, after)) : ∃ x ∈ rest, ∀ c, x ≠ .char c := by
  have hword : ∀ {u : Token} {word : List Char}, u ≠ .str none →
      (after? word rest).map (u, ·) ≠ some (.str none, after) := by
    intro u word hu h
    obtain ⟨r, -, he⟩ := Option.map_eq_some_iff.1 h
    exact hu (Prod.mk.inj he).1
  rw [next?.eq_def] at h
  split at h
  · split at h
    -- the signs, the words, and then what starts a string or a number
    iterate 6 cases h
    iterate 3 exact absurd h (hword Token.noConfusion)
    · exact exists_of_string? h
    · exact absurd rfl (number?_ne_str h none)
    · exact absurd rfl (number?_ne_str h none)
  · cases h

end Token

/-- In a text of characters, every string has a text. -/
theorem exists_of_mem_tokens {text : List Symbol} (h : .str none ∈ tokens text) :
    ∃ x ∈ text, ∀ c, x ≠ .char c := by
  fun_induction tokens text with
  | case1 => cases h
  | case2 s rest _ ih =>
    obtain ⟨x, hmem, hx⟩ := ih h
    exact ⟨x, List.mem_cons_of_mem _ hmem, hx⟩
  | case3 => simp at h
  | case4 s rest _ t after hnext ih =>
    rcases List.mem_cons.1 h with rfl | h
    · obtain ⟨x, hmem, hx⟩ := Token.exists_of_next? hnext
      exact ⟨x, List.mem_cons_of_mem _ hmem, hx⟩
    · obtain ⟨x, hmem, hx⟩ := ih h
      exact ⟨x, List.mem_cons_of_mem _ ((Token.next?_suffix hnext).subset hmem), hx⟩

/-! ## Readings -/

namespace Reading

/-- All strings that are values in a reading have a text. -/
inductive IsUtf8 : Reading → Prop
  | null : IsUtf8 null
  | bool (b : Bool) : IsUtf8 (bool b)
  | int (i : Int) : IsUtf8 (int i)
  | wide (i : Int) : IsUtf8 (wide i)
  | float (m e : Int) : IsUtf8 (float m e)
  | overflow (m e : Int) : IsUtf8 (overflow m e)
  | str (s : String) : IsUtf8 (str (some s))
  | array {items : List Reading} (closed : Bool) (h : ∀ v ∈ items, IsUtf8 v) :
      IsUtf8 (array items closed)
  | object {members : List (Option String × Reading)} (closed : Bool)
      (h : ∀ m ∈ members, IsUtf8 m.2) : IsUtf8 (object members closed)
  | broken : IsUtf8 broken

theorem isUtf8_ofInt (i : Int) : (ofInt i).IsUtf8 := by
  unfold ofInt
  split
  · exact .int i
  · exact .wide i

theorem isUtf8_ofFloat (m e : Int) : (ofFloat m e).IsUtf8 := by
  unfold ofFloat
  split
  · exact .overflow m e
  · exact .float m e

/-- So it is with what a container holds so far. -/
def Frame.IsUtf8 : Frame → Prop
  | .array items => ∀ v ∈ items, v.IsUtf8
  | .object members _ => ∀ m ∈ members, m.2.IsUtf8

/-- So it is with all that has been read. -/
def State.IsUtf8 : State → Prop
  | .value outer => ∀ f ∈ outer, f.IsUtf8
  | .arrayStart outer => ∀ f ∈ outer, f.IsUtf8
  | .afterItem items outer => ∀ f ∈ Frame.array items :: outer, f.IsUtf8
  | .objectStart outer => ∀ f ∈ outer, f.IsUtf8
  | .memberStart members outer => ∀ f ∈ Frame.object members none :: outer, f.IsUtf8
  | .afterName members name outer => ∀ f ∈ Frame.object members name :: outer, f.IsUtf8
  | .afterMember members outer => ∀ f ∈ Frame.object members none :: outer, f.IsUtf8
  | .done v => v.IsUtf8

variable {v : Reading} {outer : List Frame} {t : Token} {s s' : State}

theorem isUtf8_put (hv : v.IsUtf8) (houter : ∀ f ∈ outer, f.IsUtf8) : (put v outer).IsUtf8 := by
  cases outer with
  | nil => exact hv
  | cons f outer =>
    rw [List.forall_mem_cons] at houter
    cases f with
    | array items =>
      refine List.forall_mem_cons.2 ⟨?_, houter.2⟩
      exact List.forall_mem_cons.2 ⟨hv, houter.1⟩
    | object members name =>
      refine List.forall_mem_cons.2 ⟨?_, houter.2⟩
      exact List.forall_mem_cons.2 ⟨hv, houter.1⟩

theorem isUtf8_array_reverse {items : List Reading} (h : ∀ v ∈ items, v.IsUtf8) (closed : Bool) :
    (array items.reverse closed).IsUtf8 :=
  .array closed fun v hv => h v (List.mem_reverse.1 hv)

theorem isUtf8_object_reverse {members : List (Option String × Reading)}
    (h : ∀ m ∈ members, m.2.IsUtf8) (closed : Bool) : (object members.reverse closed).IsUtf8 :=
  .object closed fun m hm => h m (List.mem_reverse.1 hm)

theorem isUtf8_wrap (hv : v.IsUtf8) (houter : ∀ f ∈ outer, f.IsUtf8) : (wrap v outer).IsUtf8 := by
  induction outer generalizing v with
  | nil => exact hv
  | cons f outer ih =>
    obtain ⟨hf, hrest⟩ := List.forall_mem_cons.1 houter
    cases f with
    | array items => exact ih (isUtf8_array_reverse (List.forall_mem_cons.2 ⟨hv, hf⟩) false) hrest
    | object members name =>
      have hmembers : ∀ m ∈ (name, v) :: members, m.2.IsUtf8 := List.forall_mem_cons.2 ⟨hv, hf⟩
      exact ih (isUtf8_object_reverse hmembers false) hrest

/-! ### Steps -/

theorem isUtf8_start? (houter : ∀ f ∈ outer, f.IsUtf8) (ht : t ≠ .str none)
    (h : start? outer t = some s) : s.IsUtf8 := by
  cases t with
  | null =>
    cases h
    exact isUtf8_put .null houter
  | bool b =>
    cases h
    exact isUtf8_put (.bool b) houter
  | int i =>
    cases h
    exact isUtf8_put (isUtf8_ofInt i) houter
  | float m e =>
    cases h
    exact isUtf8_put (isUtf8_ofFloat m e) houter
  | str text =>
    cases h
    cases text with
    | none =>
      -- the token that `ht` rules out
      exact absurd rfl ht
    | some text => exact isUtf8_put (.str text) houter
  | openArray =>
    cases h
    exact houter
  | openObject =>
    cases h
    exact houter
  | _ => cases h

theorem isUtf8_named? {members : List (Option String × Reading)} (hmembers : ∀ m ∈ members, m.2.IsUtf8)
    (houter : ∀ f ∈ outer, f.IsUtf8) (h : named? members outer t = some s) : s.IsUtf8 := by
  cases t with
  | str name =>
    cases h
    exact List.forall_mem_cons.2 ⟨hmembers, houter⟩
  | _ => cases h

/-- One more token. -/
theorem State.IsUtf8.next? (hs : s.IsUtf8) (ht : t ≠ .str none) (h : s.next? t = some s') :
    s'.IsUtf8 := by
  rw [State.next?.eq_def] at h
  -- one case for each token that a state takes
  split at h
  · exact isUtf8_start? hs ht h
  · cases h
    exact isUtf8_put (.array true (by simp)) hs
  · refine isUtf8_start? (List.forall_mem_cons.2 ⟨?_, hs⟩) ht h
    exact List.forall_mem_nil _
  · cases h
    obtain ⟨hitems, houter⟩ := List.forall_mem_cons.1 hs
    exact isUtf8_put (isUtf8_array_reverse hitems true) houter
  · cases h
    exact hs
  · cases h
    exact isUtf8_put (.object true (by simp)) hs
  · exact isUtf8_named? (List.forall_mem_nil _) hs h
  · obtain ⟨hmembers, houter⟩ := List.forall_mem_cons.1 hs
    exact isUtf8_named? hmembers houter h
  · cases h
    exact hs
  · cases h
    obtain ⟨hmembers, houter⟩ := List.forall_mem_cons.1 hs
    exact isUtf8_put (isUtf8_object_reverse hmembers true) houter
  · cases h
    exact hs
  · cases h

/-- The end of the text. -/
theorem State.IsUtf8.cut (hs : s.IsUtf8) : s.cut.IsUtf8 := by
  rw [State.cut.eq_def]
  split
  · exact .broken
  · obtain ⟨hitems, houter⟩ := List.forall_mem_cons.1 hs
    exact isUtf8_wrap (isUtf8_array_reverse hitems false) houter
  · obtain ⟨hmembers, houter⟩ := List.forall_mem_cons.1 hs
    exact isUtf8_wrap (isUtf8_object_reverse hmembers false) houter
  · exact isUtf8_wrap (.array false (by simp)) hs
  · obtain ⟨hitems, houter⟩ := List.forall_mem_cons.1 hs
    exact isUtf8_wrap (isUtf8_array_reverse hitems false) houter
  · exact isUtf8_wrap (.object false (by simp)) hs
  iterate 3
    · obtain ⟨hmembers, houter⟩ := List.forall_mem_cons.1 hs
      exact isUtf8_wrap (isUtf8_object_reverse hmembers false) houter
  · exact hs

/-- A token that does not fit. -/
theorem State.IsUtf8.refuse (hs : s.IsUtf8) (t : Token) : (s.refuse t).IsUtf8 := by
  rw [State.refuse.eq_def]
  split
  · exact hs.cut
  · exact isUtf8_wrap .broken hs
  · exact hs.cut

/-- All tokens. -/
theorem State.IsUtf8.run (hs : s.IsUtf8) {ts : List Token} (hts : .str none ∉ ts) :
    (Reading.run s ts).value.IsUtf8 := by
  fun_induction Reading.run s ts with
  | case1 ts v => exact hs
  | case2 s _ => exact hs.cut
  | case3 s t ts s' hdone hnext ih =>
    rw [List.mem_cons, not_or] at hts
    exact ih (hs.next? (Ne.symm hts.1) hnext) hts.2
  | case4 s t ts hdone hnext => exact hs.refuse t

end Reading

/-- A text of characters has no strings without a text. -/
theorem Document.read_isUtf8 {text : List Symbol} (h : ∀ x ∈ text, ∃ c, x = .char c) :
    (Document.read text).value.IsUtf8 := by
  have hstart : (Reading.State.value []).IsUtf8 := List.forall_mem_nil _
  refine hstart.run ?_
  intro hnone
  obtain ⟨x, hmem, hx⟩ := exists_of_mem_tokens hnone
  obtain ⟨c, hc⟩ := h x hmem
  exact hx c hc

/-! ## Decoders -/

/-- Is an error about the encoding of a text? -/
def DecodeError.isOfEncoding : DecodeError → Bool
  | notUtf8 => true
  | loneSurrogate => true
  | _ => false

namespace Decode

/-- What is found is not this error about the encoding of a text. -/
def Clean {α : Type} (bad : DecodeError) (r : Except DecodeError α) : Prop :=
  bad.isOfEncoding → r ≠ .error bad

/-- The decoder refuses no value for a stray byte where there is none, and none at all for a surrogate. -/
def Accepts {α : Type} (bad : DecodeError) (d : Decoder α) : Prop :=
  ∀ v : Reading, (bad = .notUtf8 → v.IsUtf8) → Clean bad (d v)

section

variable {α β σ : Type} {bad : DecodeError}

theorem clean_ok (a : α) : Clean bad (.ok a) :=
  fun _ h => nomatch h

/-- An error that is not about the encoding is none of those that are. -/
theorem clean_error {e : DecodeError} (he : e.isOfEncoding = false) :
    Clean bad (.error e : Except DecodeError α) := by
  rintro hbad h
  rw [← Except.error.inj h, he] at hbad
  cases hbad

theorem clean_mismatch (cause : Mismatch) (path : List PathStep) :
    Clean bad (.error (.mismatch cause path) : Except DecodeError α) :=
  clean_error rfl

theorem Clean.bind {r : Except DecodeError α} {f : α → Except DecodeError β} (hr : Clean bad r)
    (hf : ∀ a, Clean bad (f a)) : Clean bad (r >>= f) := by
  cases r with
  | ok a => exact hf a
  | error e =>
    intro hbad h
    exact hr hbad (congrArg Except.error (Except.error.inj h))

theorem Clean.map {r : Except DecodeError α} (hr : Clean bad r) (f : α → β) : Clean bad (r.map f) := by
  cases r with
  | ok a => exact clean_ok _
  | error e =>
    intro hbad h
    exact hr hbad (congrArg Except.error (Except.error.inj h))

theorem Clean.within {r : Except DecodeError α} (hr : Clean bad r) (step : PathStep) :
    Clean bad (within step r) := by
  cases r with
  | ok a => exact clean_ok a
  | error e =>
    cases e with
    | mismatch cause path => exact clean_mismatch cause _
    | _ => exact fun hbad h => hr hbad (congrArg Except.error (Except.error.inj h))

/-! ### Scalars -/

theorem clean_unlike (shape : Shape) (v : Reading) :
    Clean bad (.error (v.unlike shape) : Except DecodeError α) := by
  have hkind : Clean bad v.kind := by
    unfold Reading.kind
    cases v with
    | wide i =>
      dsimp only
      split
      · exact clean_mismatch _ _
      · exact clean_ok _
    | broken => exact clean_error rfl
    | overflow m e => exact clean_mismatch _ _
    | _ => exact clean_ok _
  unfold Reading.unlike
  cases hv : v.kind with
  | ok k => exact clean_mismatch _ _
  | error e =>
    intro hbad h
    rw [Except.error.injEq] at h
    exact hkind hbad (h ▸ hv)

/-- A string has a text unless there is a stray byte in it. -/
theorem clean_strText {s? : Option String} (h : bad = .notUtf8 → (Reading.str s?).IsUtf8) :
    Clean bad (strText s?) := by
  cases s? with
  | some s => exact clean_ok s
  | none =>
    intro _ hbad
    cases h (Except.error.inj hbad).symm

theorem clean_wideInt (i : Int) : Clean bad (wideInt i) := by
  unfold wideInt
  split
  · exact clean_ok i
  · exact clean_mismatch _ _

theorem accepts_text : Accepts bad text := by
  intro v hv
  cases v with
  | str s? => exact clean_strText hv
  | _ => exact clean_unlike _ _

theorem accepts_textOrNull : Accepts bad textOrNull := by
  intro v hv
  cases v with
  | null => exact clean_ok _
  | str s? => exact (clean_strText hv).map _
  | _ => exact clean_unlike _ _

theorem accepts_whole : Accepts bad whole := by
  intro v _
  cases v with
  | int i => exact clean_ok i
  | wide i => exact clean_wideInt i
  | _ => exact clean_unlike _ _

theorem accepts_wholeOrNull : Accepts bad wholeOrNull := by
  intro v _
  cases v with
  | null => exact clean_ok _
  | int i => exact clean_ok _
  | wide i => exact (clean_wideInt i).map _
  | _ => exact clean_unlike _ _

theorem accepts_word (ofWord? : String → Option α) : Accepts bad (word ofWord?) := by
  intro v hv
  refine (accepts_text v hv).bind ?_
  intro w
  cases ofWord? w with
  | some a => exact clean_ok a
  | none => exact clean_mismatch _ _

/-! ### Containers -/

theorem clean_closing (closed : Bool) : Clean bad (closing closed) := by
  unfold closing
  split
  · exact clean_ok ()
  · exact clean_error rfl

mutual

/-- Whoever passes over a value does not mind stray bytes at all. -/
theorem clean_skim (v : Reading) (room : Nat) : Clean bad (skim v room) := by
  match v, room with
  | .array _ _, 0 => exact clean_error rfl
  | .object _ _, 0 => exact clean_error rfl
  | .array items closed, room + 1 =>
    exact (clean_skimAll items room).bind fun _ => clean_closing closed
  | .object ms closed, room + 1 =>
    exact (clean_skimMembers ms room).bind fun _ => clean_closing closed
  | .broken, _ =>
    rw [skim]
    exact clean_error rfl
  | .null, _ | .bool _, _ | .int _, _ | .wide _, _ | .float _ _, _ | .overflow _ _, _ | .str _, _ =>
    rw [skim]
    · exact clean_ok ()
    all_goals nofun

theorem clean_skimAll (items : List Reading) (room : Nat) : Clean bad (skimAll items room) := by
  match items with
  | [] => exact clean_ok ()
  | v :: vs => exact (clean_skim v room).bind fun _ => clean_skimAll vs room

theorem clean_skimMembers (ms : List (Option String × Reading)) (room : Nat) :
    Clean bad (skimMembers ms room) := by
  match ms with
  | [] => exact clean_ok ()
  | (_, v) :: ms => exact (clean_skim v room).bind fun _ => clean_skimMembers ms room

end

theorem clean_itemsFrom {item : Decoder α} (hitem : Accepts bad item) {vs : List Reading}
    (hvs : bad = .notUtf8 → ∀ v ∈ vs, v.IsUtf8) (i : Nat) : Clean bad (itemsFrom item i vs) := by
  induction vs generalizing i with
  | nil => exact clean_ok []
  | cons v vs ih =>
    have hall := fun hbad => List.forall_mem_cons.1 (hvs hbad)
    refine ((hitem v fun hbad => (hall hbad).1).within (.item i)).bind ?_
    intro a
    exact (ih (fun hbad => (hall hbad).2) (i + 1)).bind fun as => clean_ok _

theorem Accepts.entering {d : (room : Nat) → Decoder α} (hd : ∀ room, Accepts bad (d room)) (k : Kind)
    (room : Nat) : Accepts bad (entering k d room) := by
  intro v hv
  cases room with
  | zero =>
    show Clean bad (if v.opens k then .error .tooDeep else d 0 v)
    split
    · exact clean_error rfl
    · exact hd 0 v hv
  | succ room => exact hd room v hv

theorem Accepts.array {item : Decoder α} (hitem : Accepts bad item) : Accepts bad (array item) := by
  intro v hv
  cases v with
  | array items closed =>
    have hitems : bad = .notUtf8 → ∀ v ∈ items, v.IsUtf8 := fun hbad => by
      cases hv hbad with
      | array _ h => exact h
    refine (clean_itemsFrom hitem hitems 0).bind ?_
    intro as
    exact (clean_closing closed).bind fun _ => clean_ok as
  | _ => exact clean_unlike _ _

variable {pass : Decoder Unit} {member : String → Option (σ → Decoder σ)}

theorem clean_members (hpass : ∀ v, Clean bad (pass v))
    (hmember : ∀ name d, member name = some d → ∀ fields, Accepts bad (d fields))
    {ms : List (Option String × Reading)} (hms : bad = .notUtf8 → ∀ m ∈ ms, m.2.IsUtf8) (fields : σ) :
    Clean bad (members pass member fields ms) := by
  induction ms generalizing fields with
  | nil => exact clean_ok fields
  | cons m ms ih =>
    obtain ⟨name, v⟩ := m
    have hall := fun hbad => List.forall_mem_cons.1 (hms hbad)
    rw [members.eq_def]
    dsimp only
    split
    · -- a member that has a name and is known
      rename_i k d hname
      obtain ⟨name', -, hd⟩ := Option.bind_eq_some_iff.1 hname
      obtain ⟨d', hd', he⟩ := Option.map_eq_some_iff.1 hd
      rw [Prod.mk.injEq] at he
      obtain ⟨rfl, rfl⟩ := he
      refine ((hmember name' d' hd' fields v fun hbad => (hall hbad).1).within _).bind ?_
      exact fun fields' => ih (fun hbad => (hall hbad).2) fields'
    · exact (hpass v).bind fun _ => ih (fun hbad => (hall hbad).2) fields

theorem accepts_object {finish : σ → Except DecodeError α} {start : σ} (hpass : ∀ v, Clean bad (pass v))
    (hmember : ∀ name d, member name = some d → ∀ fields, Accepts bad (d fields))
    (hfinish : ∀ fields, Clean bad (finish fields)) : Accepts bad (object pass start member finish) := by
  intro v hv
  cases v with
  | object ms closed =>
    have hms : bad = .notUtf8 → ∀ m ∈ ms, m.2.IsUtf8 := fun hbad => by
      cases hv hbad with
      | object _ h => exact h
    refine (clean_members hpass hmember hms start).bind ?_
    intro fields
    exact (clean_closing closed).bind fun _ => hfinish fields
  | _ => exact clean_unlike _ _

theorem clean_required (name : String) (a? : Option α) : Clean bad (required name a?) := by
  cases a? with
  | some a => exact clean_ok a
  | none => exact clean_mismatch _ _

end

/-! ### Snippets -/

theorem clean_pass (m : Medium) (room : Nat) (v : Reading) : Clean bad (m.pass room v) := by
  cases m with
  | text => exact clean_skim v room
  | value => exact clean_ok ()

theorem accepts_annotation (m : Medium) (room : Nat) : Accepts bad (Decode.annotation m room) := by
  refine Accepts.entering (fun room => ?_) .object room
  refine accepts_object (clean_pass m room) ?_ ?_
  · intro name d hd fields v hv
    unfold AnnotationFields.member at hd
    split at hd
    · cases hd
      exact (accepts_word _ v hv).bind fun _ => clean_ok _
    · cases hd
      exact (accepts_textOrNull v hv).bind fun _ => clean_ok _
    · cases hd
      exact (accepts_textOrNull v hv).bind fun _ => clean_ok _
    · cases hd
      exact (accepts_wholeOrNull v hv).bind fun _ => clean_ok _
    · cases hd
      exact (accepts_wholeOrNull v hv).bind fun _ => clean_ok _
    · cases hd
  · intro fields
    refine (clean_required _ _).bind ?_
    intro severity
    split
    · exact clean_ok _
    · exact clean_mismatch _ _

theorem accepts_annotations (m : Medium) (room : Nat) : Accepts bad (Decode.annotations m room) :=
  Accepts.entering (fun room => Accepts.array <| accepts_annotation m room) .array room

theorem accepts_snippet (m : Medium) (room : Nat) : Accepts bad (snippet m room) := by
  refine Accepts.entering (fun room => ?_) .object room
  refine accepts_object (clean_pass m room) ?_ ?_
  · intro name d hd fields v hv
    unfold SnippetFields.member at hd
    split at hd
    · cases hd
      exact (accepts_text v hv).bind fun _ => clean_ok _
    · cases hd
      exact (accepts_whole v hv).bind fun _ => clean_ok _
    · cases hd
      exact (accepts_textOrNull v hv).bind fun _ => clean_ok _
    · cases hd
      exact (accepts_annotations m room v hv).bind fun _ => clean_ok _
    · cases hd
      exact (accepts_wholeOrNull v hv).bind fun _ => clean_ok _
    · cases hd
      exact (accepts_wholeOrNull v hv).bind fun _ => clean_ok _
    · cases hd
  · intro fields
    refine (clean_required _ _).bind ?_
    intro source
    dsimp only
    split
    · exact clean_ok _
    · exact clean_mismatch _ _

end Decode

namespace Snippet

variable {room : Nat} {text : List Symbol}

/-- A text without surrogates is refused for its encoding only where it has a stray byte. -/
theorem clean_load {bad : DecodeError} (hsurrogate : ∀ u, .surrogate u ∉ text)
    (hstray : bad = .notUtf8 → ∀ b, .stray b ∉ text) : Decode.Clean bad (load room text) := by
  have hread : ¬ text.any Symbol.isSurrogate := by
    intro hany
    obtain ⟨x, hx, his⟩ := List.any_eq_true.1 hany
    cases x with
    | surrogate u => exact hsurrogate u hx
    | _ => cases his
  have hchars : bad = .notUtf8 → ∀ x ∈ text, ∃ c, x = .char c := by
    intro hbad x hx
    cases x with
    | char c => exact ⟨c, rfl⟩
    | stray b => exact absurd hx (hstray hbad b)
    | surrogate u => exact absurd hx (hsurrogate u)
  unfold load decodeText
  rw [if_neg hread]
  refine (Decode.accepts_snippet .text room _ fun hbad => Document.read_isUtf8 (hchars hbad)).bind ?_
  intro s
  split
  · exact Decode.clean_error rfl
  · exact Decode.clean_ok s

theorem load_of_surrogate {u : Fin 0x800} (hu : .surrogate u ∈ text) :
    load room text = .error .loneSurrogate :=
  if_pos (List.any_eq_true.2 ⟨_, hu, rfl⟩)

/-- A text is refused for a surrogate exactly if there is one in it. -/
theorem load_eq_loneSurrogate_iff :
    load room text = .error .loneSurrogate ↔ ∃ u, .surrogate u ∈ text := by
  constructor
  · intro hload
    by_cases hsurrogate : ∃ u, .surrogate u ∈ text
    · exact hsurrogate
    · exact absurd hload (clean_load (not_exists.1 hsurrogate) (fun hbad => nomatch hbad) rfl)
  · rintro ⟨u, hu⟩
    exact load_of_surrogate hu

/-- A text without stray bytes is never refused as not UTF-8. -/
theorem load_ne_notUtf8 (h : ∀ b, .stray b ∉ text) : load room text ≠ .error .notUtf8 := by
  by_cases hsurrogate : ∃ u, .surrogate u ∈ text
  · rw [load_eq_loneSurrogate_iff.2 hsurrogate]
    exact fun h => nomatch h
  · exact clean_load (not_exists.1 hsurrogate) (fun _ => h) rfl

end Snippet

end CodeFrame
