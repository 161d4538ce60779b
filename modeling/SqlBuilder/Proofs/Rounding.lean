import SqlBuilder.Proofs.Conversion

namespace SqlBuilder

open Numeral

/-!
# Integers in payloads

An integer of the signed 64-bit range is bound as it is.  One beyond becomes a float, and floats of
that size are `2 ^ 11` apart.

* `Format.mul_roundHalfEven_eq_iff`, `Format.near_roundHalfEven` — rounding to a multiple;
* `Datum.Denotes`, `Bind.Denotes` — a float and a scalar that stand for an integer;
* `datum_ofInt_denotes` — the integer that the float of a large integer stands for;
* `Json.boundInteger`, `Json.denotes_toBind_iff` — the integer that is bound for an integer;
* `rounding` — which integers are bound as they are, and which ones are bound alike.
-/

namespace Numeral.Format

/-! ### Rounding to a multiple -/

/-- Multiples are not rounded. -/
theorem mul_roundHalfEven_eq_iff (num : Nat) {den : Nat} (h : 0 < den) :
    den * roundHalfEven num den = num ↔ den ∣ num := by
  constructor
  · intro heq
    exact ⟨_, heq.symm⟩
  · rintro ⟨k, rfl⟩
    have hquotient : den * k / den = k := Nat.mul_div_cancel_left k h
    simp [roundHalfEven, hquotient, h]

/-- No multiple is nearer. -/
theorem near_roundHalfEven (num : Nat) {den : Nat} (h : 0 < den) :
    2 * (den * roundHalfEven num den) ≤ 2 * num + den ∧
      2 * num ≤ 2 * (den * roundHalfEven num den) + den := by
  have hsplit : den * (num / den) + num % den = num := Nat.div_add_mod num den
  have hmod : num % den < den := Nat.mod_lt num h
  have hnext : den * (num / den + 1) = den * (num / den) + den := Nat.mul_succ ..
  simp only [roundHalfEven]
  split
  · omega
  · split
    · omega
    · -- Half way between two multiples the even one is taken.
      rcases Nat.mod_two_eq_zero_or_one (num / den) with heven | hodd
      · rw [heven, Nat.add_zero]
        omega
      · rw [hodd]
        omega

/-! ### Doubles from `2 ^ 63` up to `2 ^ 64` -/

/-- A significand of this binade, or the carry out of it, is read as itself. -/
theorem decode_large {m : Nat} (hm : 4503599627370496 ≤ m ∧ m ≤ 9007199254740992) :
    double.decode (1085 * 4503599627370496 + m) =
      if m < 9007199254740992 then .finite false m 11 else .finite false 4503599627370496 12 := by
  have hmin : double.minExponent = -1074 := by decide
  have htop : double.topField = 2047 := by decide
  have hfraction : twoTo double.fraction = 4503599627370496 := by decide
  have hsign : twoTo (double.fraction + double.exponent) = 9223372036854775808 := by decide
  have hmagnitude : (1085 * 4503599627370496 + m) % 9223372036854775808 =
      1085 * 4503599627370496 + m := Nat.mod_eq_of_lt (by omega)
  have hpositive : (1085 * 4503599627370496 + m) / 9223372036854775808 = 0 :=
    Nat.div_eq_of_lt (by omega)
  simp only [decode, magnitude, isNegative, hmin, htop, hfraction, hsign, hmagnitude, hpositive]
  by_cases hcarry : m < 9007199254740992
  · have hfield : (1085 * 4503599627370496 + m) / 4503599627370496 = 1086 := by omega
    have hstored : (1085 * 4503599627370496 + m) % 4503599627370496 = m - 4503599627370496 := by
      omega
    have hrestored : 4503599627370496 + (m - 4503599627370496) = m := by omega
    rw [hfield, hstored, hrestored, if_pos hcarry]
    rfl
  · obtain rfl : m = 9007199254740992 := by omega
    rfl

variable {n : Nat} (h : 9223372036854775808 ≤ n ∧ n < 18446744073709551616)

include h

theorem floorLog2_large : floorLog2 n 1 = 63 := by
  have hlog : n.log2 = 63 := (Nat.log2_eq_iff (by omega)).2 h
  have hone : (1 : Nat).log2 = 0 := by decide
  have hle : 1 * twoTo 63 ≤ n * twoTo 0 := by
    rw [show twoTo 63 = 9223372036854775808 from rfl, show twoTo 0 = 1 from rfl]
    omega
  rw [floorLog2, hlog, hone]
  exact if_pos hle

/-- The significand counts multiples of `2 ^ 11`. -/
theorem roundHalfEven_large :
    4503599627370496 ≤ roundHalfEven n 2048 ∧ roundHalfEven n 2048 ≤ 9007199254740992 := by
  have hnear := near_roundHalfEven n (show 0 < 2048 by decide)
  omega

theorem encodeMagnitude_large :
    double.encodeMagnitude n 1 = 1085 * 4503599627370496 + roundHalfEven n 2048 := by
  have hbound := roundHalfEven_large h
  have hmin : double.minExponent = -1074 := by decide
  have hinfinity : double.infinity = 2047 * 4503599627370496 := by decide
  have hfraction : twoTo double.fraction = 4503599627370496 := by decide
  have hq : max double.minExponent (floorLog2 n 1 - double.fraction) = 11 := by
    rw [floorLog2_large h, hmin]
    decide
  have hnum : n * twoTo (-11 : Int).toNat = n := Nat.mul_one n
  have hden : 1 * twoTo (11 : Int).toNat = 2048 := by decide
  have hbinade : ((11 : Int) - double.minExponent).toNat = 1085 := by decide
  rw [encodeMagnitude, if_neg (by omega), hq]
  simp only [hnum, hden, hbinade, hfraction, hinfinity]
  omega

end Numeral.Format

/-! ### Integers that scalars stand for -/

/-- A finite datum is an integer. -/
def Numeral.Datum.Denotes : Datum → Int → Prop
  | .finite negative m q, i =>
    (if negative then -(m : Int) else m) * twoTo q.toNat = i * twoTo (-q).toNat
  | _, _ => False

/-- A scalar is a number, and the number is this integer. -/
def Bind.Denotes : Bind → Int → Prop
  | .int64 k, i => k.toInt = i
  | .int32 k, i => k.toInt = i
  | .int16 k, i => k.toInt = i
  | .float64 x, i => x.datum.Denotes i
  | .float32 x, i => x.datum.Denotes i
  | _, _ => False

variable {i : Int} (h : 9223372036854775808 ≤ i ∧ i < 18446744073709551616)

include h

theorem word_ofInt_large : (Binary64.ofInt i).word.toNat =
    1085 * 4503599627370496 + Format.roundHalfEven i.natAbs 2048 := by
  have hn : 9223372036854775808 ≤ i.natAbs ∧ i.natAbs < 18446744073709551616 := by omega
  have hbound := Format.roundHalfEven_large hn
  have hpositive : decide (i < 0) = false := by
    rw [decide_eq_false_iff_not]
    omega
  rw [Binary64.ofInt, Binary64.nearest, hpositive, Format.encode, Format.encodeMagnitude_large hn,
    if_neg Bool.false_ne_true, Nat.zero_add]
  exact Nat.mod_eq_of_lt (by omega)

/-- The float of a large integer is the nearest multiple of `2 ^ 11`. -/
theorem datum_ofInt_denotes (j : Int) :
    (Binary64.ofInt i).datum.Denotes j ↔ j = 2048 * Format.roundHalfEven i.natAbs 2048 := by
  have hbound := Format.roundHalfEven_large (n := i.natAbs) (by omega)
  have hbefore : twoTo (11 : Int).toNat = 2048 ∧ twoTo (-11 : Int).toNat = 1 := by decide
  have hafter : twoTo (12 : Int).toNat = 4096 ∧ twoTo (-12 : Int).toNat = 1 := by decide
  rw [Binary64.datum, word_ofInt_large h, Format.decode_large hbound]
  split
  · rw [Datum.Denotes, if_neg Bool.false_ne_true, hbefore.1, hbefore.2]
    omega
  · rw [Datum.Denotes, if_neg Bool.false_ne_true, hafter.1, hafter.2]
    omega

omit h

/-- Large integers have the same float exactly if the same multiple is nearest. -/
theorem ofInt_eq_ofInt_iff {j : Int} (hi : 9223372036854775808 ≤ i ∧ i < 18446744073709551616)
    (hj : 9223372036854775808 ≤ j ∧ j < 18446744073709551616) :
    Binary64.ofInt i = Binary64.ofInt j ↔
      Format.roundHalfEven i.natAbs 2048 = Format.roundHalfEven j.natAbs 2048 := by
  have hword : Binary64.ofInt i = Binary64.ofInt j ↔
      (Binary64.ofInt i).word.toNat = (Binary64.ofInt j).word.toNat := by
    rw [UInt64.toNat_inj, Binary64.mk.injEq]
  rw [hword, word_ofInt_large hi, word_ofInt_large hj]
  omega

/-! ### Integers that are bound -/

namespace Json

/-- The integer that is bound for an integer. -/
def boundInteger (i : Int) : Int :=
  if i < 9223372036854775808 then i else 2048 * Format.roundHalfEven i.natAbs 2048

/-- The bound integer is exact below `2 ^ 63`, and for the multiples of `2 ^ 11` above. -/
theorem boundInteger_eq_self_iff (i : Int) :
    boundInteger i = i ↔ i < 9223372036854775808 ∨ 2048 ∣ i := by
  have hexact := Format.mul_roundHalfEven_eq_iff i.natAbs (show 0 < 2048 by decide)
  rw [boundInteger]
  split
  · simp [*]
  · omega

/-- It is at most half way to the next multiple. -/
theorem near_boundInteger (i : Int) :
    i - 1024 ≤ boundInteger i ∧ boundInteger i ≤ i + 1024 := by
  have hnear := Format.near_roundHalfEven i.natAbs (show 0 < 2048 by decide)
  rw [boundInteger]
  split
  · omega
  · omega

variable (print : Json → String)

theorem denotes_toBind_iff (i : Int) (range) (j : Int) :
    ((Json.number (.integer i range)).toBind print).Denotes j ↔ j = boundInteger i := by
  rw [toBind, boundInteger]
  split
  · rename_i hsmall
    have hexact : (Int64.ofInt i).toInt = i := Int64.toInt_ofInt_of_le range.1 hsmall
    rw [Bind.Denotes, hexact, eq_comm]
  · exact datum_ofInt_denotes (by omega) j

/-- Integers are bound alike exactly if the same integer is bound for them. -/
theorem toBind_eq_toBind_iff (i j : Int) (range) (range') :
    (Json.number (.integer i range)).toBind print =
        (Json.number (.integer j range')).toBind print ↔
      boundInteger i = boundInteger j := by
  constructor
  · intro h
    rw [← denotes_toBind_iff print j range', ← h]
    exact (denotes_toBind_iff print i range _).2 rfl
  · intro h
    have hrange := Format.roundHalfEven_large (n := i.natAbs)
    have hrange' := Format.roundHalfEven_large (n := j.natAbs)
    rw [boundInteger, boundInteger] at h
    rw [toBind, toBind]
    -- An integer on one side of `2 ^ 63` is not rounded to the other side.
    by_cases hi : i < 9223372036854775808
    · by_cases hj : j < 9223372036854775808
      · rw [if_pos hi, if_pos hj] at h
        rw [h]
      · rw [if_pos hi, if_neg hj] at h
        omega
    · by_cases hj : j < 9223372036854775808
      · rw [if_neg hi, if_pos hj] at h
        omega
      · rw [if_neg hi, if_neg hj] at h
        have hfloat := (ofInt_eq_ofInt_iff (i := i) (j := j) (by omega) (by omega)).2 (by omega)
        rw [if_neg hi, if_neg hj, hfloat]

/-- The last member of a key is this integer. -/
def HoldsInteger (members : List (String × Json)) (key : String) (i : Int) : Prop :=
  ∃ range, members.reverse.lookup key = some (.number (.integer i range))

end Json

open Json (HoldsInteger boundInteger)

/-- **Rounding.**  An object becomes a payload whatever its integers are, and a scalar is bound for
    each of them.  The scalar is of the integer kind below `2 ^ 63`.  It stands for the integer
    itself there and for the multiples of `2 ^ 11` beyond.  For every other integer it stands for
    the nearest such multiple.  So two integers, in one object or in two, are bound alike exactly
    if they are equal or rounded to the same multiple. -/
theorem rounding (members : List (String × Json)) :
    ∃ p, Payload.ofJson (.object members) = .ok p ∧
      (∀ key i, HoldsInteger members key i → ∃ b, p.get? key = some (.bind b) ∧
        ((∃ k, b = .int64 k) ↔ i < 9223372036854775808) ∧
        (b.Denotes i ↔ i < 9223372036854775808 ∨ 2048 ∣ i) ∧
        (∀ j, b.Denotes j ↔ j = boundInteger i) ∧
        i - 1024 ≤ boundInteger i ∧ boundInteger i ≤ i + 1024) ∧
      ∀ (others : List (String × Json)) (q : Payload) (key other : String) (i j : Int),
        Payload.ofJson (.object others) = .ok q →
        HoldsInteger members key i → HoldsInteger others other j →
          (p.get? key = q.get? other ↔ boundInteger i = boundInteger j) := by
  have hget : ∀ {members : List (String × Json)} {key : String} {i : Int} {range},
      members.reverse.lookup key = some (.number (.integer i range)) →
        (Payload.ofMembers Json.display members).get? key =
          some (.bind ((Json.number (.integer i range)).toBind Json.display)) := by
    intro members key i range h
    rw [Payload.get?_ofMembers, h]
    rfl
  refine ⟨Payload.ofMembers Json.display members, Payload.ofJson_object members, ?_, ?_⟩
  · rintro key i ⟨range, h⟩
    have hdenotes := Json.denotes_toBind_iff Json.display i range
    refine ⟨_, hget h, ?_, ?_, hdenotes, Json.near_boundInteger i⟩
    · rw [Json.toBind]
      split <;> simp [*]
    · rw [hdenotes, eq_comm, Json.boundInteger_eq_self_iff]
  · rintro others q key other i j hq ⟨range, h⟩ ⟨range', h'⟩
    rw [Payload.ofJson_object] at hq
    cases hq
    rw [hget h, hget h', Option.some.injEq, Value.bind.injEq]
    exact Json.toBind_eq_toBind_iff Json.display i j range range'

/-- Two integers beyond the signed range. -/
def unsignedIds : List (String × Json) :=
  [("a", .number (.integer 9223372036854775808 (by decide))),
   ("b", .number (.integer 9223372036854775809 (by decide)))]

/-- Integers that a text holds exactly may be bound alike, and one of them as another integer. -/
theorem rounded_unsignedIds :
    Json.parse? "\x7b\"a\":9223372036854775808,\"b\":9223372036854775809\x7d" =
        some (.object unsignedIds) ∧
      ∃ p b, Payload.ofJson (.object unsignedIds) = .ok p ∧
        p.get? "a" = some (.bind b) ∧ p.get? "b" = some (.bind b) ∧
        b.Denotes 9223372036854775808 ∧ ¬ b.Denotes 9223372036854775809 := by
  have hprint : "\x7b\"a\":9223372036854775808,\"b\":9223372036854775809\x7d" =
      (Json.object unsignedIds).print := by decide +kernel
  have hintegral : (Json.object unsignedIds).Integral := by
    refine .object fun m hm => ?_
    simp only [unsignedIds, List.mem_cons, List.not_mem_nil, or_false] at hm
    rcases hm with rfl | rfl <;> exact .integer _ _
  have hfirst : (Payload.ofMembers Json.display unsignedIds).get? "a" =
      some (.bind (.float64 (Binary64.ofInt 9223372036854775808))) := by
    rw [Payload.get?_ofMembers]
    rfl
  have hsecond : (Payload.ofMembers Json.display unsignedIds).get? "b" =
      some (.bind (.float64 (Binary64.ofInt 9223372036854775809))) := by
    rw [Payload.get?_ofMembers]
    rfl
  have halike : Binary64.ofInt 9223372036854775809 = Binary64.ofInt 9223372036854775808 := by
    decide +kernel
  have hdenotes := datum_ofInt_denotes (i := 9223372036854775808) (by decide)
  have htext : Json.IsText Json.floatOf (Json.object unsignedIds).print (.object unsignedIds) :=
    Json.isText_print hintegral
  have hread := Json.parse?_of_integral htext hintegral
  rw [← hprint, if_pos (by decide)] at hread
  refine ⟨hread, _, _, Payload.ofJson_object unsignedIds, hfirst, halike ▸ hsecond,
    (hdenotes _).2 (by decide +kernel), fun h => ?_⟩
  exact absurd ((hdenotes _).1 h) (by decide +kernel)

end SqlBuilder
