import SqlBuilder.Numeral.Binary

namespace SqlBuilder.Numeral

/-!
# The shortest decimal that reads back

The reals that round to a float form an interval around it. Of all decimals in that interval the
ones with the fewest digits are wanted, and of those the one nearest to the float.

* `Decimal` — a decimal `digits · 10 ^ exponent`;
* `Interval.ofDatum` — the interval of a positive float;
* `shortest` — tries 1, 2, … digits; on each grid only the two neighbours of the float can win.
-/

/-- The number `digits · 10 ^ exponent`. -/
structure Decimal where
  digits : Nat
  exponent : Int
  deriving DecidableEq, Repr

/-- Which of two equally near decimals is taken. -/
inductive Tie where
  | toEven
  | up
  deriving DecidableEq, Repr

/-- The reals that round to a float: from `low` over `value` to `high`, all in units of
    `1 / den`. The ends belong to it when `closed`. -/
structure Interval where
  low : Nat
  value : Nat
  high : Nat
  den : Nat
  closed : Bool
  deriving Repr

namespace Interval

/-- The interval of `m · 2 ^ q`. Below a power of two the floats lie twice as dense. -/
def ofDatum (f : Format) (m : Nat) (q : Int) : Interval :=
  let up := twoTo (q - 2).toNat
  let below := if m = twoTo f.fraction ∧ f.minExponent < q then 1 else 2
  { low := (4 * m - below) * up
    value := 4 * m * up
    high := (4 * m + 2) * up
    den := twoTo (2 - q).toNat
    closed := m % 2 == 0 }

/-- `num / den` lies in the interval. -/
def holds (i : Interval) (num den : Nat) : Bool :=
  if i.closed then i.low * den ≤ num * i.den && num * i.den ≤ i.high * den
  else i.low * den < num * i.den && num * i.den < i.high * den

end Interval

/-- The greatest `k` with `10 ^ k ≤ num / den`, for positive arguments. -/
def floorLog10 (num den : Nat) : Int :=
  let guess := Format.floorLog2 num den * 30103 / 100000
  let reaches (k : Int) : Bool := den * tenTo k.toNat ≤ num * tenTo (-k).toNat
  if reaches (guess + 1) then guess + 1 else if reaches guess then guess else guess - 1

/-- The neighbour of the float on the grid of step `10 ^ k` that lies in its interval, the nearer
    one if both do. -/
def neighbour (i : Interval) (tie : Tie) (k : Int) : Option Decimal :=
  let num := i.value * tenTo (-k).toNat
  let den := i.den * tenTo k.toNat
  let below := num / den
  let inside (n : Nat) : Bool := i.holds (n * tenTo k.toNat) (tenTo (-k).toNat)
  let twice := 2 * (num % den)
  let takesAbove : Bool :=
    if twice = den then tie == .up || below % 2 == 1 else den < twice
  match inside below, inside (below + 1) with
  | true, true => some ⟨if takesAbove then below + 1 else below, k⟩
  | true, false => some ⟨below, k⟩
  | false, true => some ⟨below + 1, k⟩
  | false, false => none

/-- The first hit on ever finer grids; seventeen digits always suffice. -/
def firstHit (i : Interval) (tie : Tie) (k : Int) : Nat → Decimal
  | 0 => ⟨0, 0⟩
  | fuel + 1 => (neighbour i tie k).getD (firstHit i tie (k - 1) fuel)

/-- The shortest decimal that reads back as the positive float `m · 2 ^ q`. -/
def shortest (f : Format) (tie : Tie) (m : Nat) (q : Int) : Decimal :=
  let i := Interval.ofDatum f m q
  firstHit i tie (floorLog10 i.value i.den) 17

end SqlBuilder.Numeral
