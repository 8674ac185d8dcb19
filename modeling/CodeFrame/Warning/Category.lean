import CodeFrame.Layout.Body

/-!
# Warnings and their categories

A warning is a layout warning, a whole snippet, or a text of some other category. Categories form a
tree: layout and diagnostic warnings are warnings of this library, and all are warnings.
-/

namespace CodeFrame

/-- The categories of warnings that are only a text. -/
inductive Topic
  | general
  | user
  | deprecation
  /-- The warnings of this library. -/
  | own
  deriving DecidableEq, Repr

/-- The categories of warnings. -/
inductive Category
  | plain (topic : Topic)
  | layout
  | diagnostic
  deriving DecidableEq, Repr

namespace Category

/-- The name of a category as it is shown. -/
def name : Category → String
  | plain .general => "Warning"
  | plain .user => "UserWarning"
  | plain .deprecation => "DeprecationWarning"
  | plain .own => "SnipframeWarning"
  | layout => "LayoutWarning"
  | diagnostic => "DiagnosticWarning"

/-- Is `c` the category `d`, or somewhere below it? -/
def isA (c d : Category) : Bool :=
  match d with
  | plain .general => true
  | plain .own => c = plain .own || c = layout || c = diagnostic
  | d => c = d

end Category

/-- A warning. -/
inductive Warning
  | layout (w : LayoutWarning)
  | diagnostic (s : Snippet)
  | plain (topic : Topic) (message : String)
  deriving DecidableEq

/-- The category of a warning. -/
def Warning.category : Warning → Category
  | layout _ => .layout
  | diagnostic _ => .diagnostic
  | plain topic _ => .plain topic

/-- What is shown: a warning, or a text without one. -/
inductive Notice
  | text (message : String)
  | warning (w : Warning)
  deriving DecidableEq

/-- Where a warning was raised. -/
structure Site where
  file : String
  line : Int
  content : Option String := none
  deriving DecidableEq, Repr

end CodeFrame
