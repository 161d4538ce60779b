import SqlBuilder.Text.Blank
import SqlBuilder.Text.Upper
import SqlBuilder.Error

namespace SqlBuilder

/-!
# Words that a caller may choose

An operator or a sort direction comes as text and would be a way to smuggle SQL into a statement, so
only listed ones pass, and what is written is the listed text.

* `Operator`, `Operator.parse?` — comparison operators, in any case and with any blanks between
  words;
* `Direction`, `Direction.parse?` — sort directions, in any case and with blanks around;
* `Operator.check`, `Direction.check` — the same with the error for a text that is not listed.
-/

/-- A comparison operator. -/
inductive Operator where
  | equal
  | unequal
  | less
  | greater
  | atMost
  | atLeast
  | differs
  | bitAnd
  | bitOr
  | bitXor
  | shiftLeft
  | shiftRight
  | like
  | notLike
  deriving DecidableEq, Repr

namespace Operator

/-- The operators, in the order in which they are listed to callers. -/
def all : List Operator :=
  [equal, unequal, less, greater, atMost, atLeast, differs, bitAnd, bitOr, bitXor, shiftLeft,
   shiftRight, like, notLike]

/-- The SQL text. -/
def text : Operator → String
  | equal => "="
  | unequal => "!="
  | less => "<"
  | greater => ">"
  | atMost => "<="
  | atLeast => ">="
  | differs => "<>"
  | bitAnd => "&"
  | bitOr => "|"
  | bitXor => "^"
  | shiftLeft => "<<"
  | shiftRight => ">>"
  | like => "LIKE"
  | notLike => "NOT LIKE"

/-- A text in upper case, its words one space apart. -/
def normalize (s : String) : List Char :=
  Text.upperOf ([' '].intercalate (Text.wordsOf s.toList))

/-- The operator that a text names. -/
def parse? (s : String) : Option Operator := all.find? fun o => o.text.toList == normalize s

/-- The operator that a text names, or the mistake. -/
def check (s : String) : Except Misuse Operator :=
  match parse? s with
  | some o => .ok o
  | none => .error (.unknownOperator s)

end Operator

/-- A sort direction. -/
inductive Direction where
  | ascending
  | descending
  deriving DecidableEq, Repr

namespace Direction

/-- The SQL text. -/
def text : Direction → String
  | ascending => "ASC"
  | descending => "DESC"

/-- The direction that a text names. -/
def parse? (s : String) : Option Direction :=
  [ascending, descending].find? fun d =>
    d.text.toList == Text.upperOf (Text.trim s).toList

/-- The direction that a text names, or the mistake. -/
def check (s : String) : Except Misuse Direction :=
  match parse? s with
  | some d => .ok d
  | none => .error (.unknownDirection s)

end Direction

end SqlBuilder
