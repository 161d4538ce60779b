import SqlBuilder.Numeral.Digits
import SqlBuilder.Numeral.Shortest

namespace SqlBuilder.Numeral

/-!
# The written form of a float

* `Layout` — the decisions of a written form: where positional writing starts and ends, whether a
  positive exponent has a sign, which of two nearest decimals is taken;
* `Layout.text` — the form of a finite datum; an integral value keeps `.0` in positional writing.
-/

/-- The decisions of a written form. Positional are the numbers from `10 ^ least` up to below
    `10 ^ limit`. -/
structure Layout where
  least : Int
  limit : Int
  signedExponent : Bool
  tie : Tie
  deriving Repr

/-- The digits without zeros at the end, and how many were cut. -/
def cutZeros (ds : List Char) : List Char × Nat :=
  let kept := (ds.reverse.dropWhile (· == '0')).reverse
  (kept, ds.length - kept.length)

namespace Layout

/-- `ds` with the point after the digit of weight `10 ^ 0`; the first digit has weight
    `10 ^ lead`. -/
def positional (ds : List Char) (lead : Int) : List Char :=
  if lead < 0 then '0' :: '.' :: (List.replicate (-lead - 1).toNat '0' ++ ds)
  else
    let whole := lead.toNat + 1
    if ds.length ≤ whole then ds ++ List.replicate (whole - ds.length) '0' ++ ['.', '0']
    else ds.take whole ++ '.' :: ds.drop whole

/-- One digit before the point, and the exponent `lead` after an `e`. -/
def scientific (l : Layout) (ds : List Char) (lead : Int) : List Char :=
  let mantissa := match ds with
    | [] => []
    | [d] => [d]
    | d :: rest => d :: '.' :: rest
  let sign := if lead < 0 then ['-'] else if l.signedExponent then ['+'] else []
  mantissa ++ 'e' :: (sign ++ digitsOf lead.natAbs)

/-- The form of a decimal other than zero. -/
def decimal (l : Layout) (d : Decimal) : List Char :=
  let (ds, cut) := cutZeros (digitsOf d.digits)
  let lead : Int := d.exponent + cut + ds.length - 1
  if l.least ≤ lead ∧ lead < l.limit then positional ds lead else l.scientific ds lead

/-- The form of a finite datum. -/
def text (l : Layout) (f : Format) (negative : Bool) (m : Nat) (q : Int) : String :=
  let body := if m = 0 then ['0', '.', '0'] else l.decimal (shortest f l.tie m q)
  String.ofList (if negative then '-' :: body else body)

end Layout

end SqlBuilder.Numeral
