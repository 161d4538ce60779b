import SqlBuilder.Calendar
import SqlBuilder.Numeral.Binary

namespace SqlBuilder

open Numeral

/-!
# Bound values

* `Bind` — a scalar that travels beside the text of a statement and never inside it;
* `Bind.same` — equality of kind and content; floats compare as numbers.
-/

/-- A scalar for one place of a statement. -/
inductive Bind where
  | text (s : String)
  | int64 (i : Int64)
  | int32 (i : Int32)
  | int16 (i : Int16)
  | float64 (x : Binary64)
  | float32 (x : Binary32)
  | bool (b : Bool)
  | bytes (bs : List UInt8)
  | dateTime (d : DateTime)
  | null
  deriving DecidableEq

namespace Bind

/-- Equal kinds and equal contents. A NaN is not the same as itself, and `0.0` is the same as
    `-0.0`. -/
def same : Bind → Bind → Bool
  | .float64 x, .float64 y => x.sameNumber y
  | .float32 x, .float32 y => x.sameNumber y
  | a, b => a == b

/-- Lists of the same length with the same values. -/
def sameAll : List Bind → List Bind → Bool
  | [], [] => true
  | a :: as, b :: bs => a.same b && sameAll as bs
  | _, _ => false

end Bind

end SqlBuilder
