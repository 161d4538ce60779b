import SqlBuilder.Bind.Tagged
import SqlBuilder.Json.Grammar
import SqlBuilder.Payload.OfJson

namespace SqlBuilder

open Numeral

/-!
# Libraries for JSON and for dates

JSON, dates and bound values are written and read by libraries.  A library is a set of functions
here, and what is relied on has a name, so that a theorem can say which of it it needs.

* `Json.Tagged`, `Bind.Exact` — the trees that stand for a value under its tag;
* `Codec` — the functions of the libraries;
* `Codec.Compact` — values are written without blanks;
* `Codec.ReadsJson` — every text of a value is read, up to a depth;
* `Codec.TaggedForm` — bound values are written and read as tagged trees;
* `Codec.IsoDates` — dates are written and read in their usual form;
* `Codec.own` — the functions of this library.
-/

/-! ### Tagged trees -/

/-- The tree of a byte. -/
def Json.ofByte (b : UInt8) : Json :=
  .number (.integer b.toNat ⟨by omega, by have := b.toNat_lt; omega⟩)

/-- The tree is the value under its tag, where `date` says which texts stand for a date.  The
    content of an integer is the integer itself, and not one that wraps to it.  Which float a
    number is, is left open. -/
inductive Json.Tagged (date : String → DateTime → Prop) : Json → Bind → Prop
  | null : Tagged date (.string "Null") .null
  | nullMember : Tagged date (.object [("Null", .null)]) .null
  | text (s : String) : Tagged date (.object [("String", .string s)]) (.text s)
  | int64 {k : Int64} {i : Int} {range} : k.toInt = i →
      Tagged date (.object [("Int64", .number (.integer i range))]) (.int64 k)
  | int32 {k : Int32} {i : Int} {range} : k.toInt = i →
      Tagged date (.object [("Int32", .number (.integer i range))]) (.int32 k)
  | int16 {k : Int16} {i : Int} {range} : k.toInt = i →
      Tagged date (.object [("Int16", .number (.integer i range))]) (.int16 k)
  | float64 (n : Json.Number) (x : Binary64) :
      Tagged date (.object [("Float64", .number n)]) (.float64 x)
  | float32 (n : Json.Number) (x : Binary32) :
      Tagged date (.object [("Float32", .number n)]) (.float32 x)
  | bool (b : Bool) : Tagged date (.object [("Bool", .bool b)]) (.bool b)
  | bytes {items : List Json} {bs : List UInt8} : bs.map ofByte = items →
      Tagged date (.object [("Bytes", .array items)]) (.bytes bs)
  | dateTime {s : String} {d : DateTime} : date s d →
      Tagged date (.object [("DateTime", .string s)]) (.dateTime d)

/-- The value is no float, and a date is an ordinary one. -/
def Bind.Exact : Bind → Prop
  | .float64 _ | .float32 _ => False
  | .dateTime d => d.Ordinary
  | _ => True

/-- No float stands in the tree of an exact value. -/
theorem Json.Tagged.integral {date : String → DateTime → Prop} {j : Json} {b : Bind}
    (h : j.Tagged date b) (hb : b.Exact) : j.Integral := by
  have hmember : ∀ {tag : String} {j : Json}, j.Integral → (Json.object [(tag, j)]).Integral :=
    fun hj => .object (List.forall_mem_singleton.2 hj)
  cases h with
  | null => exact .string "Null"
  | nullMember => exact hmember .null
  | text s => exact hmember (.string s)
  | int64 _ | int32 _ | int16 _ => exact hmember (.integer _ _)
  | float64 _ _ | float32 _ _ => cases hb
  | bool b => exact hmember (.bool b)
  | @bytes _ bs hitems =>
    subst hitems
    refine hmember (.array fun j hj => ?_)
    obtain ⟨b, _, rfl⟩ := List.mem_map.1 hj
    exact .integer _ _
  | dateTime _ => exact hmember (.string _)

/-! ### Libraries -/

/-- What libraries for JSON and for dates can do. -/
structure Codec where
  /-- Writes a value. -/
  print : Json → String
  /-- Reads a value. -/
  parse? : String → Option Json
  /-- How deep a value may be nested to be read, if there is a limit. -/
  limit : Option Nat
  /-- The float that the text of a number is read as. -/
  float : List Char → Binary64
  /-- Writes a date. -/
  dateText : DateTime → String
  /-- Reads a date. -/
  date? : String → Option DateTime
  /-- Writes a bound value. -/
  printBind : Bind → String
  /-- Reads a bound value. -/
  parseBind? : String → Option Bind

namespace Codec

variable (c : Codec)

/-- Maps without floats are written without blanks, and with no escape that is not needed. -/
def Compact : Prop := ∀ j : Json, j.Sorted → j.Integral → c.print j = j.print

/-- A text of a map without floats is read as the map, unless that is nested too deep. -/
def ReadsJson : Prop :=
  ∀ (s : String) (j : Json), Json.IsText c.float s j → j.Sorted → j.Integral →
    (c.parse? s = some j ↔ ∀ n ∈ c.limit, j.depth ≤ n)

/-- Bound values are trees under a tag.  One that is exact is written without blanks and read from
    every text of its trees, and no other text is read. -/
structure TaggedForm : Prop where
  written : ∀ b : Bind, b.Exact →
    ∃ j : Json, j.Tagged (fun s d => c.dateText d = s) b ∧ c.printBind b = j.print
  read : ∀ (s : String) (j : Json) (b : Bind), Json.IsText c.float s j → b.Exact →
    j.Tagged (fun s d => c.date? s = some d) b → c.parseBind? s = some b
  tagged : ∀ (s : String) (j : Json) (b : Bind), Json.IsText c.float s j →
    c.parseBind? s = some b → j.Tagged (fun s d => c.date? s = some d) b

/-- Ordinary dates are written in their usual form, with a fraction of 0, 3, 6 or 9 digits, and are
    read from it with any fraction of up to nine. -/
structure IsoDates : Prop where
  written : ∀ d : DateTime, d.Ordinary → c.dateText d = d.text
  read : ∀ (s : String) (d : DateTime), d.Ordinary → d.IsText s → c.date? s = some d

/-- The functions of this library. -/
def own : Codec where
  print := Json.display
  parse? s := (Json.parse? s).map Json.canonical
  limit := some Json.maxDepth
  float := Json.floatOf
  dateText := DateTime.text
  date? := DateTime.parse?
  printBind := Bind.print
  parseBind? := Bind.parse?

end Codec

end SqlBuilder
