import SqlBuilder.Bind.Basic
import SqlBuilder.Json.Parser
import SqlBuilder.Json.Printer

namespace SqlBuilder.Bind

open Numeral

/-!
# Bound values as tagged JSON

A value is an object with one member, named for its kind: `{"Int64":5}`. Null is the text
`"Null"`.

* `print` — the text of a value; a float that is not finite becomes `null`;
* `ofJson?`, `parse?` — the value of a tree and of a text. Integers must fit their kind, floats may
  be written as integers, and exactly one tag is allowed.
-/

/-! ### Writing -/

/-- An object with one member. -/
def member (tag : String) (content : List Char) : List Char :=
  '\x7b' :: Json.stringText tag ++ ':' :: content ++ ['\x7d']

/-- Numbers with commas between them, in brackets. -/
def byteChars (bs : List UInt8) : List Char :=
  '[' :: [','].intercalate (bs.map fun b => digitsOf b.toNat) ++ [']']

/-- The characters of a value. -/
def chars : Bind → List Char
  | .text s => member "String" (Json.stringText s)
  | .int64 i => member "Int64" (integerText i.toInt)
  | .int32 i => member "Int32" (integerText i.toInt)
  | .int16 i => member "Int16" (integerText i.toInt)
  | .float64 x => member "Float64" (Json.datumText Json.floatLayout double x.datum)
  | .float32 x => member "Float32" (Json.datumText Json.singleLayout single x.datum)
  | .bool b => member "Bool" (Json.bool b).chars
  | .bytes bs => member "Bytes" (byteChars bs)
  | .dateTime d => member "DateTime" (Json.stringText d.text)
  | .null => Json.stringText "Null"

/-- The text of a value. -/
def print (b : Bind) : String := String.ofList b.chars

/-! ### Reading -/

/-- An integer from `low` up to below `high`. -/
def integerIn? (low high : Int) : Json → Option Int
  | .number (.integer i _) => if low ≤ i ∧ i < high then some i else none
  | _ => none

/-- A byte. -/
def byte? (j : Json) : Option UInt8 := (integerIn? 0 256 j).map fun i => UInt8.ofNat i.toNat

/-- A list of bytes. -/
def bytes? : Json → Option (List UInt8)
  | .array items => items.mapM byte?
  | _ => none

/-- The double nearest to a number. -/
def double? : Json → Option Binary64
  | .number (.integer i _) => some (.ofInt i)
  | .number (.float x) => some x
  | _ => none

/-- The single nearest to a number. -/
def single? : Json → Option Binary32
  | .number (.integer i _) => some (.ofInt i)
  | .number (.float x) => some x.toBinary32
  | _ => none

/-- A text. -/
def text? : Json → Option String
  | .string s => some s
  | _ => none

/-- A truth value. -/
def bool? : Json → Option Bool
  | .bool b => some b
  | _ => none

/-- The value of a content under its tag. -/
def ofMember? (tag : String) (content : Json) : Option Bind :=
  match tag with
  | "String" => (text? content).map .text
  | "Int64" =>
    (integerIn? (-9223372036854775808) 9223372036854775808 content).map fun i =>
      .int64 (Int64.ofInt i)
  | "Int32" =>
    (integerIn? (-2147483648) 2147483648 content).map fun i => .int32 (Int32.ofInt i)
  | "Int16" => (integerIn? (-32768) 32768 content).map fun i => .int16 (Int16.ofInt i)
  | "Float64" => (double? content).map .float64
  | "Float32" => (single? content).map .float32
  | "Bool" => (bool? content).map .bool
  | "Bytes" => (bytes? content).map .bytes
  | "DateTime" => ((text? content).bind DateTime.parse?).map .dateTime
  | "Null" => match content with
    | .null => some .null
    | _ => none
  | _ => none

/-- The value of a tree. -/
def ofJson? : Json → Option Bind
  | .string "Null" => some .null
  | .object [(tag, content)] => ofMember? tag content
  | _ => none

/-- The value of a text. -/
def parse? (s : String) : Option Bind := (Json.parse? s).bind ofJson?

end SqlBuilder.Bind
