import CodeFrame.Text.Word

/-!
# Patterns in text

Patterns of characters, with parts that are marked where they are found. A pattern tries its ways to
match in order and the first one counts. What follows a pattern decides with it: `Pattern.first` is
given the rest of the match as a function of the offset that it starts at, and goes on to the next way
where that function fails.
-/

namespace CodeFrame

/-- A stretch of a text that a pattern has marked. -/
structure Marked where
  first : Nat
  stop : Nat
  mark : String
  deriving DecidableEq, Repr

/-- A match: the offset behind it, and what is marked in it. -/
structure Match where
  stop : Nat
  marked : List Marked := []
  deriving DecidableEq, Repr

/-! ## Walking through a text -/

section

variable (text : Array Char) (isIn : Char → Bool)

/-- Is there a character of the class at offset `i`? -/
def isAt (i : Nat) : Bool :=
  if h : i < text.size then isIn text[i] else false

/-- Is there a character of the class just before offset `i`? -/
def isBefore (i : Nat) : Bool :=
  i ≠ 0 && isAt text isIn (i - 1)

/-- Is offset `i` the edge of a word? -/
def isWordEdge (i : Nat) : Bool :=
  isBefore text isWordChar i != isAt text isWordChar i

/-- The offset behind as many characters of the class as there are, but at most `most`. -/
def pass : (most i : Nat) → Nat
  | 0, i => i
  | most + 1, i => if isAt text isIn i then pass most (i + 1) else i

variable {α : Type} (k : Nat → Option α)

/-- The first success of `k` at `i`, or behind up to `most` more characters of the class. -/
def firstAhead : (most i : Nat) → Option α
  | 0, i => k i
  | most + 1, i =>
    match k i with
    | some r => some r
    | none => if isAt text isIn i then firstAhead most (i + 1) else none

/-- The first success of `k` at `i + most`, or at an offset before it, but not before `i`. -/
def firstBehind (i : Nat) : (most : Nat) → Option α
  | 0 => k i
  | most + 1 =>
    match k (i + most + 1) with
    | some r => some r
    | none => firstBehind i most

/-- The offsets behind at least `least` and at most `most` steps, the farthest one first, before those
that have been reached. -/
def reached (step : Nat → Option Nat) : (least most i : Nat) → List Nat → List Nat
  | least, 0, i, is => if least = 0 then i :: is else is
  | least, most + 1, i, is =>
    let is := if least = 0 then i :: is else is
    match step i with
    | none => is
    | some j => reached step (least - 1) most j is

end

/-! ## Patterns -/

/-- A pattern of characters. -/
inductive Pattern
  /-- Nothing. -/
  | empty
  /-- One character of a class. -/
  | one (isIn : Char → Bool)
  /-- Characters of a class, at least `least` and, if there is a limit, at most `most`; as many as
  possible, or as few. -/
  | run (least : Nat) (most : Option Nat) (isLazy : Bool) (isIn : Char → Bool)
  | seq (a b : Pattern)
  | alt (a b : Pattern)
  /-- A pattern over and over, at least `least` times and, if there is a limit, at most `most` times;
  as often as possible. Each time only its first match counts, and nothing in it is marked. -/
  | times (least : Nat) (most : Option Nat) (a : Pattern)
  /-- A pattern whose stretch is marked, unless it is empty. -/
  | marked (mark : String) (a : Pattern)
  /-- The edge of a word, or an offset that is none. -/
  | edge (isEdge : Bool)
  /-- An offset that is not behind a character of a class. -/
  | notBehind (isIn : Char → Bool)

namespace Pattern

/-- The first match of a pattern from offset `i` on that `k` can complete. Repetitions without a limit
are as many as there are characters, for each of them takes one at least. -/
def first (text : Array Char) : Pattern → Nat → (Nat → Option Match) → Option Match
  | empty, i, k => k i
  | one isIn, i, k => if isAt text isIn i then k (i + 1) else none
  | run least most isLazy isIn, i, k =>
    let limit := most.getD text.size
    let j := pass text isIn (if isLazy then least else limit) i
    if j < i + least then none
    else if isLazy then firstAhead text isIn k (limit - least) j
    else firstBehind k (i + least) (j - (i + least))
  | seq a b, i, k => a.first text i fun j => b.first text j k
  | alt a b, i, k =>
    match a.first text i k with
    | some m => some m
    | none => b.first text i k
  | times least most a, i, k =>
    let step := fun j => (a.first text j fun l => some ⟨l, []⟩).map Match.stop
    (reached step least (most.getD text.size) i []).findSome? k
  | marked mark a, i, k =>
    a.first text i fun j =>
      match k j with
      | some m => some (if i < j then { m with marked := ⟨i, j, mark⟩ :: m.marked } else m)
      | none => none
  | edge isEdge, i, k => if isWordEdge text i = isEdge then k i else none
  | notBehind isIn, i, k => if isBefore text isIn i then none else k i

/-- The match of a pattern from offset `i` on. -/
def matchAt? (a : Pattern) (text : Array Char) (i : Nat) : Option Match :=
  a.first text i fun j => some ⟨j, []⟩

/-- What a pattern marks from offset `i` on, match after match. A match that takes no character is
passed over. -/
def findFrom (a : Pattern) (text : Array Char) (i : Nat) : List Marked :=
  if _hi : i < text.size then
    match a.matchAt? text i with
    | none => findFrom a text (i + 1)
    | some m =>
      if _hm : i < m.stop then m.marked ++ findFrom a text m.stop else findFrom a text (i + 1)
  else []
termination_by text.size - i

/-- What a pattern marks in a text. -/
def find (a : Pattern) (text : Array Char) : List Marked :=
  a.findFrom text 0

/-! ## Common forms -/

/-- Patterns one behind the other. -/
def all : List Pattern → Pattern
  | [] => empty
  | [a] => a
  | a :: as => seq a (all as)

/-- The first of some patterns that matches. -/
def any : List Pattern → Pattern
  | [] => one fun _ => false
  | [a] => a
  | a :: as => alt a (any as)

/-- One of the characters of a text. -/
def oneOf (s : String) : Pattern :=
  let cs := s.toList
  one fun c => cs.any (· == c)

/-- A text. -/
def text (s : String) : Pattern :=
  all (s.toList.map fun c => one (· == c))

/-- A pattern or nothing. -/
def optional (a : Pattern) : Pattern :=
  alt a empty

/-- Any number of characters of a class. -/
def many (isIn : Char → Bool) : Pattern :=
  run 0 none false isIn

/-- Characters of a class, at least one. -/
def oneOrMore (isIn : Char → Bool) : Pattern :=
  run 1 none false isIn

/-- From `least` to `most` characters of a class. -/
def between (least most : Nat) (isIn : Char → Bool) : Pattern :=
  run least (some most) false isIn

/-- As few characters of a class as possible. -/
def few (isIn : Char → Bool) : Pattern :=
  run 0 none true isIn

end Pattern

end CodeFrame
