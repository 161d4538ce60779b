namespace SqlBuilder.Numeral

/-!
# Powers of two and of ten

* `twoTo`, `tenTo` — the powers that binary and decimal numerals are made of.
-/

/-- The power of two. -/
def twoTo (k : Nat) : Nat := Nat.pow 2 k

/-- The power of ten. -/
def tenTo (k : Nat) : Nat := Nat.pow 10 k

end SqlBuilder.Numeral
