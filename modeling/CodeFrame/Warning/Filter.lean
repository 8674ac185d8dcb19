import CodeFrame.Warning.Category

/-!
# Filters

What becomes of a warning is decided by filters, and by what they have let pass before. The latest filter
that covers a warning says what is done with it. Where a warning is to be shown only once for its place,
for its module, or at all, it is remembered, and an equal one is dropped.
-/

namespace CodeFrame

/-- What a filter does with the warnings that it covers. -/
inductive Action
  | always
  | ignore
  | error
  /-- They are shown once for each line. -/
  | default
  /-- They are shown once for each module. -/
  | module
  /-- They are shown once. -/
  | once
  deriving DecidableEq, Repr

/-- What becomes of a warning. -/
inductive Verdict
  | shown
  | dropped
  /-- It is raised as an error. -/
  | raised
  deriving DecidableEq, Repr

/-- Where a warning comes from. `registry` is the name of the memory for warnings from there; without
one, only those that are shown once at all are remembered. -/
structure Place where
  module : String
  line : Int
  registry : Option String
  deriving DecidableEq, Repr

/-- What filters look at. -/
structure Occurrence where
  category : Category
  text : String
  place : Place
  deriving DecidableEq, Repr

/-- A filter: its action, and what it covers. -/
structure Filter where
  action : Action
  category : Category := .plain .general
  text : String → Bool := fun _ => true
  module : String → Bool := fun _ => true
  line : Option Int := none

/-- Does a filter cover a warning? -/
def Filter.covers (f : Filter) (o : Occurrence) : Bool :=
  o.category.isA f.category && f.text o.text && f.module o.place.module &&
    f.line.all (· = o.place.line)

/-- What is remembered of a warning; without a line, it stands for all lines. -/
structure Trace where
  registry : Option String
  category : Category
  text : String
  line : Option Int
  deriving DecidableEq, Repr

namespace Occurrence

/-- The trace of a warning on its line. -/
def onLine (o : Occurrence) : Trace :=
  ⟨o.place.registry, o.category, o.text, some o.place.line⟩

/-- The trace of a warning on any line. -/
def anywhere (o : Occurrence) : Trace :=
  ⟨o.place.registry, o.category, o.text, none⟩

end Occurrence

/-- Filters, the latest first, what is done with warnings that none of them covers, and the traces of
warnings since a filter was added. -/
structure Filters where
  list : List Filter := []
  otherwise : Action := .default
  seen : List Trace := []

namespace Filters

/-- More filters, of which `f` is the latest. -/
def add (fs : Filters) (f : Filter) : Filters :=
  { fs with list := f :: fs.list, seen := [] }

/-- What is done with a warning. -/
def action (fs : Filters) (o : Occurrence) : Action :=
  ((fs.list.find? fun f => f.covers o).map Filter.action).getD fs.otherwise

/-- The line of a warning is remembered, if there is a memory for it. -/
def noteLine (fs : Filters) (o : Occurrence) : Filters :=
  if o.place.registry.isSome then { fs with seen := o.onLine :: fs.seen } else fs

/-- A warning is shown, unless one like it has been. -/
def showFirst (fs : Filters) (o : Occurrence) : Verdict × Filters :=
  if o.anywhere ∈ fs.seen then (.dropped, fs)
  else (.shown, { fs with seen := o.anywhere :: fs.seen })

/-- What becomes of a warning that is not remembered on its line. -/
def judge (fs : Filters) (o : Occurrence) : Verdict × Filters :=
  match fs.action o with
  | .always => (.shown, fs)
  | .ignore => (.dropped, fs)
  | .error => (.raised, fs)
  | .default => (.shown, fs.noteLine o)
  | .module => if o.place.registry.isSome then (fs.noteLine o).showFirst o else (.shown, fs)
  | .once => (fs.noteLine o).showFirst o

/-- What becomes of a warning, and the filters afterwards. -/
def ask (fs : Filters) (o : Occurrence) : Verdict × Filters :=
  if o.place.registry.isSome ∧ o.onLine ∈ fs.seen then (.dropped, fs) else fs.judge o

end Filters

end CodeFrame
