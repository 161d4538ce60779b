import SqlBuilder.Numeral.Power

namespace SqlBuilder.Numeral

/-!
# Binary floating point as words

A float is kept as its word, so that a NaN keeps its payload and every fact about it is a fact about
natural numbers.

* `Format` — an interchange format: the sizes of fraction and exponent;
* `Format.decode` — the datum of a word: NaN, an infinity, or `± m · 2 ^ q`;
* `Format.encode` — the word nearest to a fraction, ties to the even significand;
* `Binary64`, `Binary32` — words of the two formats, with the equality of floats, `sameNumber`.
-/

/-- An interchange format with `fraction` stored significand bits and `exponent` exponent bits. -/
structure Format where
  fraction : Nat
  exponent : Nat
  deriving DecidableEq, Repr

/-- Double precision. -/
def double : Format := ⟨52, 11⟩

/-- Single precision. -/
def single : Format := ⟨23, 8⟩

/-- What a word stands for; a finite datum is `± m · 2 ^ q`. -/
inductive Datum where
  | nan
  | infinite (negative : Bool)
  | finite (negative : Bool) (m : Nat) (q : Int)
  deriving DecidableEq, Repr

namespace Format

/-- The exponent field of infinities and NaNs, all ones. -/
def topField (f : Format) : Nat := twoTo f.exponent - 1

/-- The exponent `q` of the subnormal numbers and of the first binade. -/
def minExponent (f : Format) : Int := 2 - twoTo (f.exponent - 1) - f.fraction

/-- The sign bit of a word. -/
def isNegative (f : Format) (w : Nat) : Bool := w / twoTo (f.fraction + f.exponent) % 2 == 1

/-- The word without its sign bit. -/
def magnitude (f : Format) (w : Nat) : Nat := w % twoTo (f.fraction + f.exponent)

/-- The datum of a word. -/
def decode (f : Format) (w : Nat) : Datum :=
  let field := f.magnitude w / twoTo f.fraction
  let stored := w % twoTo f.fraction
  if field = f.topField then
    if stored = 0 then .infinite (f.isNegative w) else .nan
  else if field = 0 then .finite (f.isNegative w) stored f.minExponent
  else .finite (f.isNegative w) (twoTo f.fraction + stored) (f.minExponent + field - 1)

/-- The magnitude of positive infinity. -/
def infinity (f : Format) : Nat := f.topField * twoTo f.fraction

/-- `num / den` rounded to an integer, ties to the even one. -/
def roundHalfEven (num den : Nat) : Nat :=
  let quotient := num / den
  let twice := 2 * (num % den)
  if twice < den then quotient
  else if den < twice then quotient + 1
  else quotient + quotient % 2

/-- The greatest `k` with `2 ^ k ≤ num / den`, for positive arguments. -/
def floorLog2 (num den : Nat) : Int :=
  let k : Int := (num.log2 : Int) - den.log2
  if den * twoTo k.toNat ≤ num * twoTo (-k).toNat then k else k - 1

/-- The magnitude of the word nearest to `num / den`. The significand of the binade is rounded
    once; a carry out of it lands on the next binade, and past the last one on infinity. -/
def encodeMagnitude (f : Format) (num den : Nat) : Nat :=
  if num = 0 then 0
  else
    let q := max f.minExponent (floorLog2 num den - f.fraction)
    let m := roundHalfEven (num * twoTo (-q).toNat) (den * twoTo q.toNat)
    min f.infinity ((q - f.minExponent).toNat * twoTo f.fraction + m)

/-- The word nearest to `± num / den`. -/
def encode (f : Format) (negative : Bool) (num den : Nat) : Nat :=
  (if negative then twoTo (f.fraction + f.exponent) else 0) + f.encodeMagnitude num den

end Format

/-- A double-precision float, as its word. -/
structure Binary64 where
  word : UInt64
  deriving DecidableEq, Repr

/-- A single-precision float, as its word. -/
structure Binary32 where
  word : UInt32
  deriving DecidableEq, Repr

/-- The equality of floats: a NaN equals nothing, the two zeros are equal. -/
def Datum.sameNumber : Datum → Datum → Bool
  | .nan, _ => false
  | _, .nan => false
  | .finite _ 0 _, .finite _ 0 _ => true
  | a, b => a == b

namespace Binary64

/-- The datum of a word. -/
def datum (x : Binary64) : Datum := double.decode x.word.toNat

/-- The float nearest to `± num / den`. -/
def nearest (negative : Bool) (num den : Nat) : Binary64 :=
  ⟨(double.encode negative num den).toUInt64⟩

/-- The float nearest to an integer. -/
def ofInt (i : Int) : Binary64 := nearest (i < 0) i.natAbs 1

/-- The equality of floats. -/
def sameNumber (x y : Binary64) : Bool := x.datum.sameNumber y.datum

end Binary64

namespace Binary32

/-- The datum of a word. -/
def datum (x : Binary32) : Datum := single.decode x.word.toNat

/-- The float nearest to `± num / den`. -/
def nearest (negative : Bool) (num den : Nat) : Binary32 :=
  ⟨(single.encode negative num den).toUInt32⟩

/-- The float nearest to an integer. -/
def ofInt (i : Int) : Binary32 := nearest (i < 0) i.natAbs 1

/-- The equality of floats. -/
def sameNumber (x y : Binary32) : Bool := x.datum.sameNumber y.datum

end Binary32

/-- The single nearest to a double. -/
def Binary64.toBinary32 (x : Binary64) : Binary32 :=
  match x.datum with
  | .nan => ⟨0x7FC00000⟩
  | .infinite negative => ⟨if negative then 0xFF800000 else 0x7F800000⟩
  | .finite negative m q => .nearest negative (m * twoTo q.toNat) (twoTo (-q).toNat)

end SqlBuilder.Numeral
