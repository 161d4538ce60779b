namespace SqlBuilder.Text

/-!
# Character classes as ranges of code points

A class is a list of closed ranges in ascending order.

* `Ranges.contains` — membership of a character.
-/

/-- A set of characters, as closed ranges of code points. -/
abbrev Ranges := List (Nat × Nat)

/-- Some range of `rs` holds the code point of `c`. -/
def Ranges.contains (rs : Ranges) (c : Char) : Bool :=
  rs.any fun r => r.1 ≤ c.toNat && c.toNat ≤ r.2

end SqlBuilder.Text
