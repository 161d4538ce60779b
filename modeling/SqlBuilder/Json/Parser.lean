import SqlBuilder.Json.Grammar
import SqlBuilder.Numeral.Scaling

namespace SqlBuilder.Json

open Numeral

/-!
# Reading JSON

Every reader takes the characters in front and answers what it read with the rest.

* `string?` — a text after its opening quote; an escaped surrogate without its partner is refused;
* `number?` — a number; one beyond the largest float is refused;
* `value?` — a value, with a bound on the steps;
* `parse?` — a text that is one value and blanks; a value that is nested too deep is refused.
-/

/-- The rest after the blanks in front. -/
def skip (cs : List Char) : List Char := cs.dropWhile isSpace

/-! ### Texts -/

/-- A step of a quoted text: a character, or a 16-bit unit that was escaped by its number. -/
inductive Unit16 where
  | char (c : Char)
  | unit (n : Nat)
  deriving DecidableEq, Repr

/-- The steps of a text up to its closing quote. Controls must be escaped. -/
def units? : List Char → Option (List Unit16 × List Char)
  | '"' :: cs => some ([], cs)
  | '\\' :: 'u' :: a :: b :: c :: d :: cs => do
    let n ← hexValue4? a b c d
    let (us, rest) ← units? cs
    return (.unit n :: us, rest)
  | '\\' :: e :: cs => do
    let c ← shortEscape? e
    let (us, rest) ← units? cs
    return (.char c :: us, rest)
  | c :: cs =>
    if c < ' ' then none
    else do
      let (us, rest) ← units? cs
      return (.char c :: us, rest)
  | [] => none

/-- The characters of the steps of a text. -/
def joinUnits? : List Unit16 → Option (List Char)
  | [] => some []
  | .char c :: us => (joinUnits? us).map (c :: ·)
  | .unit h :: .unit l :: us =>
    if isHighSurrogate h then
      if isLowSurrogate l then
        (joinUnits? us).map (ofSurrogates h l :: ·)
      else none
    else if isLowSurrogate h then none
    else (joinUnits? (.unit l :: us)).map (Char.ofNat h :: ·)
  | .unit n :: us =>
    if isHighSurrogate n || isLowSurrogate n then none
    else (joinUnits? us).map (Char.ofNat n :: ·)

/-- A text after its opening quote. -/
def string? (cs : List Char) : Option (String × List Char) := do
  let (us, rest) ← units? cs
  return (String.ofList (← joinUnits? us), rest)

/-! ### Numbers -/

/-- The digits in front, and the rest. -/
def digits (cs : List Char) : List Char × List Char :=
  (cs.takeWhile Char.isDigit, cs.dropWhile Char.isDigit)

/-- The whole part: no zero in front of other digits. -/
def whole? (cs : List Char) : Option (List Char × List Char) :=
  match digits cs with
  | ([], _) => none
  | ('0' :: _ :: _, _) => none
  | (ds, rest) => some (ds, rest)

/-- The digits after a point, if there is one. -/
def point? : List Char → Option (Option (List Char) × List Char)
  | '.' :: cs =>
    match digits cs with
    | ([], _) => none
    | (ds, rest) => some (some ds, rest)
  | cs => some (none, cs)

/-- The digits of an exponent after its sign. -/
def power? (negative : Bool) (cs : List Char) : Option (Option Int × List Char) :=
  match digits cs with
  | ([], _) => none
  | (ds, rest) => some (some (if negative then -(valueOf ds : Int) else valueOf ds), rest)

/-- The exponent, if there is one. -/
def exponent? : List Char → Option (Option Int × List Char)
  | 'e' :: '-' :: cs | 'E' :: '-' :: cs => power? true cs
  | 'e' :: '+' :: cs | 'E' :: '+' :: cs => power? false cs
  | 'e' :: cs | 'E' :: cs => power? false cs
  | cs => some (none, cs)

/-- The significand that takes up digits as long as it fits 64 bits, and how many digits are
    left over. -/
def gather (significand : Nat) : List Char → Nat × Nat
  | [] => (significand, 0)
  | d :: ds =>
    let more := 10 * significand + digitValue d
    if more < 18446744073709551616 then gather more ds else (significand, ds.length + 1)

/-- The float of a whole part, a fraction and an exponent. Digits that do not fit the significand
    count as zeros of the whole part, and are dropped from the fraction. -/
def float? (negative : Bool) (whole fraction : List Char) (exponent : Int) : Option Number :=
  let (s, left) := gather 0 whole
  let (significand, dropped) := gather s fraction
  let scale : Int := left - ((fraction.length : Int) - dropped)
  (Binary64.ofScaled? negative significand (exponent + scale)).map .float

/-- The number of a whole part alone: an integer if one of the 64-bit ranges has it. `-0` is a
    float. -/
def integer? (negative : Bool) (whole : List Char) : Option Number :=
  let n := valueOf whole
  let i : Int := if negative then -n else n
  if h : (-9223372036854775808 ≤ i ∧ i < 18446744073709551616) ∧ ¬ (negative ∧ n = 0) then
    some (.integer i h.1)
  else float? negative whole [] 0

/-- The sign in front, and the rest. -/
def minus : List Char → Bool × List Char
  | '-' :: cs => (true, cs)
  | cs => (false, cs)

/-- The number of its parts. Only a whole part alone can be an integer. -/
def ofParts? (negative : Bool) (whole : List Char) : Option (List Char) → Option Int → Option Number
  | none, none => integer? negative whole
  | fraction, exponent => float? negative whole (fraction.getD []) (exponent.getD 0)

/-- A number. -/
def number? (cs : List Char) : Option (Number × List Char) := do
  let (negative, cs) := minus cs
  let (whole, cs) ← whole? cs
  let (fraction, cs) ← point? cs
  let (exponent, cs) ← exponent? cs
  let number ← ofParts? negative whole fraction exponent
  return (number, cs)

/-- The float that the text of a number is read as. -/
def floatOf (cs : List Char) : Binary64 :=
  match number? cs with
  | some (.float x, _) => x
  | _ => .ofInt 0

/-! ### Values -/

mutual

/-- A value after blanks, in at most so many steps. -/
def value? : Nat → List Char → Option (Json × List Char)
  | 0, _ => none
  | steps + 1, cs =>
    match skip cs with
    | 'n' :: 'u' :: 'l' :: 'l' :: rest => some (.null, rest)
    | 't' :: 'r' :: 'u' :: 'e' :: rest => some (.bool true, rest)
    | 'f' :: 'a' :: 'l' :: 's' :: 'e' :: rest => some (.bool false, rest)
    | '"' :: rest => (string? rest).map fun (s, rest) => (.string s, rest)
    | '[' :: rest =>
      match skip rest with
      | ']' :: rest => some (.array [], rest)
      | rest => (items? steps rest).map fun (items, rest) => (.array items, rest)
    | '\x7b' :: rest =>
      match skip rest with
      | '\x7d' :: rest => some (.object [], rest)
      | rest => (members? steps rest).map fun (members, rest) => (.object members, rest)
    | rest => (number? rest).map fun (n, rest) => (.number n, rest)

/-- One or more items up to the closing bracket. -/
def items? : Nat → List Char → Option (List Json × List Char)
  | 0, _ => none
  | steps + 1, cs => do
    let (item, rest) ← value? steps cs
    match skip rest with
    | ',' :: rest =>
      let (items, rest) ← items? steps rest
      return (item :: items, rest)
    | ']' :: rest => return ([item], rest)
    | _ => none

/-- One or more members up to the closing brace. -/
def members? : Nat → List Char → Option (List (String × Json) × List Char)
  | 0, _ => none
  | steps + 1, cs =>
    match skip cs with
    | '"' :: rest => do
      let (key, rest) ← string? rest
      match skip rest with
      | ':' :: rest =>
        let (value, rest) ← value? steps rest
        match skip rest with
        | ',' :: rest =>
          let (members, rest) ← members? steps rest
          return ((key, value) :: members, rest)
        | '\x7d' :: rest => return ([(key, value)], rest)
        | _ => none
      | _ => none
    | _ => none

end

/-- How deep a value may be nested. -/
def maxDepth : Nat := 127

/-- The value that a text is. Two steps for each character are enough. -/
def parse? (s : String) : Option Json := do
  let cs := s.toList
  let (value, rest) ← value? (2 * cs.length + 2) cs
  if (skip rest).isEmpty ∧ value.depth ≤ maxDepth then some value else none

end SqlBuilder.Json
