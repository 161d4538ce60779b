import SqlBuilder.Calendar

namespace SqlBuilder.DateTime

open Numeral Text

/-!
# Dates that are written can be read

The form fixes how many digits a part has, so the reader, which takes up to as many, takes them all
and no more.

* `isNumber_padded`, `fractionText_fractionText`, `isText_text` — what is written has the form;
* `number?_isNumber` — a number of full width is read, whatever follows;
* `part?_isNumber`, `year?_isNumber`, `fraction?_eq` — the parts are read;
* `parse?_isText` — every text of a date is read as the date.
-/

/-! ### Writing -/

theorem isDigit_of_mem_padded {width n : Nat} {c : Char} (h : c ∈ padded width n) :
    c.isDigit = true := by
  rcases List.mem_append.1 h with hzero | hdigit
  · rw [List.eq_of_mem_replicate hzero]
    decide
  · exact Nat.isDigit_of_mem_toDigits (by decide) (by decide) hdigit

theorem padded_ne_nil (width n : Nat) : padded width n ≠ [] :=
  List.append_ne_nil_of_right_ne_nil _ Nat.toDigits_ne_nil

/-- A number that fits is as wide as it is asked to be. -/
theorem length_padded {width n : Nat} (hwidth : 0 < width) (hn : n < tenTo width) :
    (padded width n).length = width := by
  have hdigits : (digitsOf n).length ≤ width :=
    (Nat.length_toDigits_le_iff (by decide) hwidth).2 hn
  rw [padded, List.length_append, List.length_replicate]
  omega

/-- Zeros in front do not count. -/
theorem valueOf_padded (width n : Nat) : valueOf (padded width n) = n := by
  have hzeros : ∀ k ds, valueOf (List.replicate k '0' ++ ds) = valueOf ds := by
    intro k ds
    induction k with
    | zero => rfl
    | succ k ih => exact ih
  rw [padded, hzeros]
  exact Nat.ofDigitChars_toDigits (by decide) (by decide)

theorem isNumber_padded {width n : Nat} (hwidth : 0 < width) (hn : n < tenTo width) :
    IsNumber width (padded width n) n where
  length := length_padded hwidth hn
  digits _ := isDigit_of_mem_padded
  value := valueOf_padded width n

/-- The fraction is written in the coarsest unit that is exact. -/
theorem fractionText_fractionText {n : Nat} (hn : n < 1000000000) :
    FractionText (fractionText n) n := by
  -- A run of 3, 6 or 9 digits counts units of the matching power of ten.
  have hpoint : ∀ width k, 0 < width → width ≤ 9 → k < tenTo width → k * tenTo (9 - width) = n →
      FractionText ('.' :: padded width k) n := by
    rintro width k hwidth hle hk rfl
    have hlength := length_padded hwidth hk
    have hdigits : IsDigits (padded width k) :=
      ⟨padded_ne_nil width k, fun _ => isDigit_of_mem_padded⟩
    have htext := FractionText.digits hdigits (by omega)
    rwa [valueOf_padded, hlength] at htext
  rw [fractionText]
  split
  · rename_i hzero
    rw [hzero]
    exact .none
  · split
    · have hmillis : n / 1000000 * tenTo (9 - 3) = n := by
        rw [show tenTo (9 - 3) = 1000000 from rfl]
        omega
      exact hpoint 3 _ (by decide) (by decide) (show n / 1000000 < 1000 by omega) hmillis
    · split
      · have hmicros : n / 1000 * tenTo (9 - 6) = n := by
          rw [show tenTo (9 - 6) = 1000 from rfl]
          omega
        exact hpoint 6 _ (by decide) (by decide) (show n / 1000 < 1000000 by omega) hmicros
      · exact hpoint 9 _ (by decide) (by decide) hn (Nat.mul_one n)

/-- Only the twelve months have days, and none has more than 31. -/
theorem daysInMonth_bounds {year : Int} {month : Nat} (h : 1 ≤ daysInMonth year month) :
    month ≤ 12 ∧ daysInMonth year month ≤ 31 := by
  by_cases htwo : month = 2
  · rw [daysInMonth, if_pos htwo]
    split <;> omega
  · by_cases hshort : month ∈ [4, 6, 9, 11]
    · rw [daysInMonth, if_neg htwo, if_pos hshort]
      simp only [List.mem_cons, List.not_mem_nil, or_false] at hshort
      omega
    · by_cases hyear : 1 ≤ month ∧ month ≤ 12
      · rw [daysInMonth, if_neg htwo, if_neg hshort, if_pos hyear]
        exact ⟨hyear.2, Nat.le_refl 31⟩
      · rw [daysInMonth, if_neg htwo, if_neg hshort, if_neg hyear] at h
        exact absurd h (by decide)

/-- What is written for an ordinary date is a text of it. -/
theorem isText_text {d : DateTime} (h : d.Ordinary) : d.IsText d.text := by
  obtain ⟨hyear, _⟩ := h
  obtain ⟨hmonth, hdays⟩ := daysInMonth_bounds (Nat.le_trans d.day_range.1 d.day_range.2)
  have hday := d.day_range.2
  obtain ⟨hhour, hminute, hsecond, hnanosecond⟩ := d.time_range
  have htwo : ∀ {n : Nat}, n < 100 → IsNumber 2 (padded 2 n) n :=
    fun hn => isNumber_padded (by decide) hn
  rw [text, yearText, if_pos hyear]
  exact .intro hyear.1 (isNumber_padded (by decide) (show d.year.natAbs < 10000 by omega))
    (htwo (by omega)) (htwo (by omega)) (htwo (by omega)) (htwo (by omega)) (htwo (by omega))
    (fractionText_fractionText hnanosecond)

/-! ### Reading -/

/-- A run of digits is its own longest one. -/
theorem takeWhile_digits {ds : List Char} (hds : ∀ c ∈ ds, c.isDigit = true) :
    ds.takeWhile Char.isDigit = ds := by
  have hwhole : (ds ++ []).takeWhile Char.isDigit = ds ++ [].takeWhile Char.isDigit :=
    List.takeWhile_append_of_pos hds
  rwa [List.append_nil, List.takeWhile_nil, List.append_nil] at hwhole

theorem skipBlanks_cons {c : Char} (hc : isBlank c = false) (cs : List Char) :
    skipBlanks (c :: cs) = c :: cs := by
  rw [skipBlanks, List.dropWhile_cons, if_neg (by simp [hc])]

/-- A digit is no blank and no sign. -/
theorem digitStart {c : Char} (h : c.isDigit = true) : isBlank c = false ∧ c ∉ ['-', '+'] := by
  have hall : ∀ n < 58, (Char.ofNat n).isDigit = true →
      isBlank (Char.ofNat n) = false ∧ Char.ofNat n ∉ ['-', '+'] := by
    decide
  have hsmall : c.toNat < 58 := Nat.lt_succ_of_le (Char.isDigit_iff_toNat.1 h).2
  have hc := hall c.toNat hsmall
  rw [Char.ofNat_toNat] at hc
  exact hc h

/-- Digits are no blanks and have no sign in front. -/
theorem IsNumber.eq_cons {width n : Nat} {ds : List Char} (h : IsNumber (width + 1) ds n) :
    ∃ c cs, ds = c :: cs ∧ isBlank c = false ∧ c ∉ ['-', '+'] := by
  obtain ⟨c, cs, rfl⟩ := List.exists_cons_of_length_eq_add_one h.length
  exact ⟨c, cs, rfl, digitStart (h.digits c List.mem_cons_self)⟩

/-- A number of full width is read, whatever follows. -/
theorem number?_isNumber {width n : Nat} {ds : List Char} (h : IsNumber (width + 1) ds n)
    (rest : List Char) : number? (width + 1) (ds ++ rest) = some (n, rest) := by
  obtain ⟨c, cs, hcs, _⟩ := h.eq_cons
  have htaken : ((ds ++ rest).take (width + 1)).takeWhile Char.isDigit = ds := by
    rw [← h.length, List.take_left, takeWhile_digits h.digits]
  rw [number?]
  simp only [htaken]
  rw [if_neg (by simp [hcs]), List.drop_left, h.value]

theorem part?_isNumber {n : Nat} {ds : List Char} (h : IsNumber 2 ds n) (rest : List Char) :
    part? 2 (ds ++ rest) = some (n, rest) := by
  obtain ⟨c, cs, hcs, hblank, _⟩ := h.eq_cons
  have hskip : skipBlanks (ds ++ rest) = ds ++ rest := by
    rw [hcs, List.cons_append, skipBlanks_cons hblank]
  rw [part?, hskip, number?_isNumber h]

theorem year?_isNumber {n : Nat} {ds : List Char} (h : IsNumber 4 ds n) (rest : List Char) :
    year? (ds ++ rest) = some ((n : Int), rest) := by
  obtain ⟨c, cs, hcs, hblank, hsign⟩ := h.eq_cons
  have hskip : skipBlanks (ds ++ rest) = c :: (cs ++ rest) := by
    rw [hcs, List.cons_append, skipBlanks_cons hblank]
  have hnumber := number?_isNumber h rest
  rw [hcs, List.cons_append] at hnumber
  simp only [List.mem_cons, List.not_mem_nil, or_false, not_or] at hsign
  rw [year?, hskip]
  -- Without a sign the reader takes four digits and no more.
  split
  · rename_i heq
    exact absurd (List.cons.inj heq).1 hsign.1
  · rename_i heq
    exact absurd (List.cons.inj heq).1 hsign.2
  · rw [hnumber]
    rfl

theorem mark?_cons {c : Char} (hc : isBlank c = false) (rest : List Char) :
    mark? c (c :: rest) = some rest := by
  rw [mark?, skipBlanks_cons hc]
  exact if_pos rfl

/-- As many digits as are left out of a fraction are put in as zeros. -/
theorem fraction?_eq {text : List Char} {n : Nat} (h : FractionText text n) :
    fraction? text = some (n, []) := by
  cases h with
  | none => rfl
  | @digits ds hds hlength =>
    have htaken : (ds.take 9).takeWhile Char.isDigit = ds := by
      rw [List.take_of_length_le hlength, takeWhile_digits hds.2]
    rw [fraction?]
    simp only [htaken]
    rw [if_neg (by simpa using hds.1), List.drop_length, List.dropWhile_nil]

/-- The parts of a date are a date. -/
theorem ofParts?_parts (d : DateTime) :
    ofParts? d.year d.month d.day d.hour d.minute d.second d.nanosecond = some d := by
  rw [ofParts?, dif_pos d.year_range, dif_pos d.day_range, dif_pos d.time_range]

/-- Every text of a date is read as the date. -/
theorem parse?_isText {s : String} {d : DateTime} (h : d.IsText s) : parse? s = some d := by
  obtain ⟨hpositive, hyear, hmonth, hday, hhour, hminute, hsecond, hfraction⟩ := h
  have hdash : isBlank '-' = false := by decide
  have hcolon : isBlank ':' = false := by decide
  have ht : isBlank 'T' = false := by decide
  rw [parse?, String.toList_ofList]
  simp only [List.append_assoc, List.cons_append, year?_isNumber hyear, Option.bind_eq_bind,
    Option.bind_some, mark?_cons hdash, mark?_cons hcolon, mark?_cons ht, part?_isNumber hmonth,
    part?_isNumber hday, part?_isNumber hhour, part?_isNumber hminute, part?_isNumber hsecond,
    fraction?_eq hfraction, Int.natAbs_of_nonneg hpositive]
  exact ofParts?_parts d

end SqlBuilder.DateTime
