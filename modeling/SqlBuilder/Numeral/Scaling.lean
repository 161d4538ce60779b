import SqlBuilder.Numeral.Binary

namespace SqlBuilder.Numeral

/-!
# Floats from decimal significand and exponent

A decimal is read in steps that round one by one: the significand becomes a float, and is then
multiplied or divided by a power of ten that is a float itself. The result can differ from the
nearest float in its last place.

* `Binary64.multiplied`, `Binary64.divided` — a float times and over a power of ten;
* `Binary64.ofScaled?` — the float of `± significand · 10 ^ exponent`, none beyond the largest one.
-/

namespace Binary64

/-- The float is a zero. -/
def isZero (x : Binary64) : Bool :=
  match x.datum with
  | .finite _ m _ => m == 0
  | _ => false

/-- The float is an infinity. -/
def isInfinite (x : Binary64) : Bool :=
  match x.datum with
  | .infinite _ => true
  | _ => false

/-- The magnitude of a finite float as a fraction. -/
def fraction (x : Binary64) : Nat × Nat :=
  match x.datum with
  | .finite _ m q => (m * twoTo q.toNat, twoTo (-q).toNat)
  | _ => (0, 1)

/-- The greatest exponent of ten that is a float. -/
def maxPower : Nat := 308

/-- The float nearest to `10 ^ k`. -/
def power (k : Nat) : Binary64 := nearest false (tenTo k) 1

/-- The magnitude of `x` times `10 ^ k`, rounded. -/
def multiplied (x : Binary64) (k : Nat) : Binary64 :=
  let (a, b) := x.fraction
  let (c, d) := (power k).fraction
  nearest false (a * c) (b * d)

/-- The magnitude of `x` over `10 ^ k`, rounded. -/
def divided (x : Binary64) (k : Nat) : Binary64 :=
  let (a, b) := x.fraction
  let (c, d) := (power k).fraction
  nearest false (a * d) (b * c)

/-- `x` over `10 ^ k`, in steps of the greatest power; a zero stays as it is. -/
def dividedSteps : Nat → Binary64 → Nat → Binary64
  | 0, x, _ => x
  | steps + 1, x, k =>
    if k ≤ maxPower then x.divided k
    else if x.isZero then x
    else dividedSteps steps (x.divided maxPower) (k - maxPower)

/-- `significand · 10 ^ exponent`; none if it is beyond the largest float. -/
def ofPositive? (significand : Nat) (exponent : Int) : Option Binary64 :=
  let x := nearest false significand 1
  let k := exponent.natAbs
  if exponent < 0 then some (dividedSteps (k / maxPower + 1) x k)
  else if k ≤ maxPower then
    let y := x.multiplied k
    if y.isInfinite then none else some y
  else if x.isZero then some x
  else none

/-- The float with a sign bit. -/
def withSign (negative : Bool) (x : Binary64) : Binary64 :=
  if negative then ⟨x.word ||| 0x8000000000000000⟩ else x

/-- `± significand · 10 ^ exponent`; none if it is beyond the largest float. -/
def ofScaled? (negative : Bool) (significand : Nat) (exponent : Int) : Option Binary64 :=
  (ofPositive? significand exponent).map (withSign negative)

end Binary64

end SqlBuilder.Numeral
