namespace SqlBuilder.Numeral

/-!
# Decimal digits

* `digitsOf` — the digits of a natural number;
* `valueOf` — the number that digits stand for;
* `IsDigits` — a run of digits, whatever number it stands for.
-/

/-- The decimal digits of a natural number, `0` for zero. -/
def digitsOf (n : Nat) : List Char := Nat.toDigits 10 n

/-- The value of a digit. -/
def digitValue (d : Char) : Nat := d.toNat - '0'.toNat

/-- The number that a run of digits stands for. -/
def valueOf (ds : List Char) : Nat := ds.foldl (fun n d => 10 * n + digitValue d) 0

/-- One or more digits. -/
def IsDigits (ds : List Char) : Prop := ds ≠ [] ∧ ∀ c ∈ ds, c.isDigit = true

/-- The digits of an integer, after a sign if it is negative. -/
def integerText (i : Int) : List Char :=
  if i < 0 then '-' :: digitsOf i.natAbs else digitsOf i.natAbs

end SqlBuilder.Numeral
