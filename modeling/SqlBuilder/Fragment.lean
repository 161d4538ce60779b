import SqlBuilder.Bind.Basic

namespace SqlBuilder

/-!
# Raw fragments and columns

* `Fragment` — SQL text of the caller's own, with the values for its question marks;
* `Column` — a name, which is quoted, or a fragment, which is not.
-/

/-- SQL text that is written as it stands. Each `?` stands for the next of the values. -/
structure Fragment where
  text : String := ""
  binds : List Bind := []
  deriving DecidableEq

namespace Fragment

/-- The same text and the same values. -/
def same (f g : Fragment) : Bool := f.text == g.text && Bind.sameAll f.binds g.binds

/-- The fragment with one more value. -/
def bind (f : Fragment) (b : Bind) : Fragment := { f with binds := f.binds ++ [b] }

end Fragment

/-- A reference to a column or a table. -/
inductive Column where
  | name (s : String)
  | raw (f : Fragment)
  deriving DecidableEq

namespace Column

/-- The values that a column brings along. -/
def binds : Column → List Bind
  | .name _ => []
  | .raw f => f.binds

/-- The same name, or the same fragment. -/
def same : Column → Column → Bool
  | .name s, .name t => s == t
  | .raw f, .raw g => f.same g
  | _, _ => false

end Column

end SqlBuilder
