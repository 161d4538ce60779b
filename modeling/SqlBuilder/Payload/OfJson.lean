import SqlBuilder.Json.Printer
import SqlBuilder.Payload.Basic

namespace SqlBuilder

open Numeral

/-!
# Payloads from JSON

The conversion is asked for with a function `print` that writes JSON.

* `Json.scalar`, `Json.toBind` — the scalar for a JSON value; arrays and objects become their text;
* `Json.scalar_eq_ok` — every value has one;
* `Payload.convert` — the payload of an object, a failure for any other value;
* `Payload.ofJson` — the conversion with the text that `Json.display` writes.
-/

namespace Json

variable (print : Json → String)

/-- The scalar for the value of a column. A number that is neither a signed 64-bit integer nor a
    double is refused. -/
def scalar (column : String) : Json → Except Failure Bind
  | .null => .ok .null
  | .bool b => .ok (.bool b)
  | .number n =>
    match n.int64? with
    | some i => .ok (.int64 i)
    | none =>
      match n.float64? with
      | some x => .ok (.float64 x)
      | none => .error (.invalidData (column ++ ": " ++ print (.number n)))
  | .string s => .ok (.text s)
  | j => .ok (.text (print j))

/-- The scalar for a value. Integers beyond the signed range become floats. -/
def toBind : Json → Bind
  | .null => .null
  | .bool b => .bool b
  | .number (.integer i _) =>
    if i < 9223372036854775808 then .int64 (Int64.ofInt i) else .float64 (Binary64.ofInt i)
  | .number (.float x) => .float64 x
  | .string s => .text s
  | j => .text (print j)

/-- No number is refused, for each one is a double. -/
theorem scalar_eq_ok (column : String) (j : Json) :
    j.scalar print column = .ok (j.toBind print) := by
  cases j with
  | number n =>
    cases n with
    | float x => rfl
    | integer i range =>
      rw [scalar, toBind, Number.int64?]
      split
      · rename_i hk
        split at hk <;> simp_all
      · rename_i hk
        split at hk <;> simp_all [Number.float64?]
  | _ => rfl

/-- The text of a value whose objects are maps. -/
def display (j : Json) : String := j.canonical.print

end Json

namespace Payload

variable (print : Json → String)

/-- The payload of the members of an object. -/
def ofMembers (members : List (String × Json)) : Payload :=
  ofList (members.map fun (key, value) => (key, .bind (value.toBind print)))

/-- The payload of an object. -/
def convert : Json → Except Failure Payload
  | .object members =>
    members.foldlM (fun p m => do
      let b ← m.2.scalar print m.1
      return p.set m.1 (.bind b)) (ofList [])
  | j => .error (.invalidData ("expected a JSON object, got: " ++ print j))

/-- An object always has a payload. -/
theorem convert_object (members : List (String × Json)) :
    convert print (.object members) = .ok (ofMembers print members) := by
  have hmembers : convert print (.object members) =
      .ok (members.foldl (fun p m => p.set m.1 (.bind (m.2.toBind print))) {}) := by
    rw [convert]
    simp only [Json.scalar_eq_ok]
    exact List.foldlM_pure
  rw [hmembers, ofMembers, ofList, List.foldl_map]

/-- The payload of an object. -/
def ofJson : Json → Except Failure Payload := convert Json.display

theorem ofJson_object (members : List (String × Json)) :
    ofJson (.object members) = .ok (ofMembers Json.display members) := convert_object _ members

end Payload

end SqlBuilder
