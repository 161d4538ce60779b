import SqlBuilder.Bind.Basic
import SqlBuilder.Numeral.Layout
import SqlBuilder.Text.Quoted

namespace SqlBuilder.Bind

open Numeral

/-!
# Bound values in log records

A value is shown by its kind and, in parentheses, its content: `Int64(1)`, `String("Jack")`, `Null`.

* `displayLayout` — the written form of floats;
* `display`, `displayAll` — a value, and a list of values in brackets.
-/

/-- Floats are positional from `0.0001` up to below `10 ^ 16`. -/
def displayLayout : Layout := ⟨-4, 16, false, .up⟩

/-- The text of a float. -/
def displayDatum (f : Format) : Datum → String
  | .nan => "NaN"
  | .infinite negative => if negative then "-inf" else "inf"
  | .finite negative m q => displayLayout.text f negative m q

/-- A value with its kind. -/
def display : Bind → String
  | .text s => "String(" ++ Text.quoted s ++ ")"
  | .int64 i => "Int64(" ++ toString i.toInt ++ ")"
  | .int32 i => "Int32(" ++ toString i.toInt ++ ")"
  | .int16 i => "Int16(" ++ toString i.toInt ++ ")"
  | .float64 x => "Float64(" ++ displayDatum double x.datum ++ ")"
  | .float32 x => "Float32(" ++ displayDatum single x.datum ++ ")"
  | .bool b => "Bool(" ++ (if b then "true" else "false") ++ ")"
  | .bytes bs => "Bytes([" ++ ", ".intercalate (bs.map fun b => toString b.toNat) ++ "])"
  | .dateTime d => "DateTime(" ++ d.text ++ ")"
  | .null => "Null"

/-- A list of values. -/
def displayAll (bs : List Bind) : String := "[" ++ ", ".intercalate (bs.map display) ++ "]"

end SqlBuilder.Bind
