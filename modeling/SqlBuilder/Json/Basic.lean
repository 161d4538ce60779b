import SqlBuilder.Numeral.Binary

namespace SqlBuilder

open Numeral

/-!
# JSON values

* `Json.Number` — an integer of the 64-bit ranges, signed or unsigned, or a float;
* `Json` — a value; the members of an object are in the order of their text;
* `Json.depth` — how deep a value is nested;
* `Json.Integral`, `Json.Sorted` — values without floats, and values whose objects are maps;
* `Json.canonical` — the value with the members of every object sorted, the last one of a key kept.
-/

/-- A number. Integers outside the two 64-bit ranges are floats. -/
inductive Json.Number where
  | integer (i : Int) (range : -9223372036854775808 ≤ i ∧ i < 18446744073709551616)
  | float (x : Binary64)
  deriving DecidableEq

/-- A JSON value. -/
inductive Json where
  | null
  | bool (b : Bool)
  | number (n : Json.Number)
  | string (s : String)
  | array (items : List Json)
  | object (members : List (String × Json))

/-- The number as a signed 64-bit integer, if it is one. -/
def Json.Number.int64? : Json.Number → Option Int64
  | .integer i _ => if i < 9223372036854775808 then some (Int64.ofInt i) else none
  | .float _ => none

/-- The number as a double, for an integer the nearest one. -/
def Json.Number.float64? : Json.Number → Option Binary64
  | .integer i _ => some (.ofInt i)
  | .float x => some x

namespace Json

mutual

/-- How deep arrays and objects stand in each other. -/
def depth : Json → Nat
  | .array items => itemDepth items + 1
  | .object members => memberDepth members + 1
  | .null | .bool _ | .number _ | .string _ => 0

/-- The greatest `depth` of the items. -/
def itemDepth : List Json → Nat
  | [] => 0
  | j :: js => max j.depth (itemDepth js)

/-- The greatest `depth` of the members. -/
def memberDepth : List (String × Json) → Nat
  | [] => 0
  | (_, v) :: ms => max v.depth (memberDepth ms)

end

/-- No float stands in the value. -/
inductive Integral : Json → Prop
  | null : Integral .null
  | bool (b : Bool) : Integral (.bool b)
  | integer (i : Int) (range) : Integral (.number (.integer i range))
  | string (s : String) : Integral (.string s)
  | array {items : List Json} : (∀ j ∈ items, Integral j) → Integral (.array items)
  | object {members : List (String × Json)} : (∀ m ∈ members, Integral m.2) →
      Integral (.object members)

/-- The objects are maps: each key stands once, and the keys ascend. -/
inductive Sorted : Json → Prop
  | null : Sorted .null
  | bool (b : Bool) : Sorted (.bool b)
  | number (n : Number) : Sorted (.number n)
  | string (s : String) : Sorted (.string s)
  | array {items : List Json} : (∀ j ∈ items, Sorted j) → Sorted (.array items)
  | object {members : List (String × Json)} : (members.map Prod.fst).Pairwise (· < ·) →
      (∀ m ∈ members, Sorted m.2) → Sorted (.object members)

/-- Puts a member in front of the first greater key, unless its key is there already. -/
def insertMember (key : String) (value : Json) : List (String × Json) → List (String × Json)
  | [] => [(key, value)]
  | (k, v) :: ms =>
    if key < k then (key, value) :: (k, v) :: ms
    else if key = k then (k, v) :: ms
    else (k, v) :: insertMember key value ms

mutual

/-- The value with sorted objects; of members with one key the last counts. -/
def canonical : Json → Json
  | .array items => .array (canonicalItems items)
  | .object members => .object (canonicalMembers members)
  | .null => .null
  | .bool b => .bool b
  | .number n => .number n
  | .string s => .string s

/-- `canonical` of every item. -/
def canonicalItems : List Json → List Json
  | [] => []
  | j :: js => j.canonical :: canonicalItems js

/-- The members in ascending order of their keys. -/
def canonicalMembers : List (String × Json) → List (String × Json)
  | [] => []
  | (k, v) :: ms => insertMember k v.canonical (canonicalMembers ms)

end

end Json

end SqlBuilder
