import SqlBuilder.Text.Blank
import SqlBuilder.Numeral.Digits
import SqlBuilder.Numeral.Power

namespace SqlBuilder

open Text
open Numeral (IsDigits digitsOf tenTo valueOf)

/-!
# Calendar dates with a time of day

* `DateTime` — a day of the proleptic Gregorian calendar and a time without a zone;
* `DateTime.text` — `2024-02-29T23:59:59`, with a fraction of 0, 3, 6 or 9 digits;
* `DateTime.IsText` — the texts of that form, with up to nine digits of a fraction;
* `DateTime.parse?` — reads that form, and looser spellings of it: blanks around the parts, one
  digit where two are usual, a sign before the year, any number of fraction digits.
-/

/-- A year is a leap year of the Gregorian calendar. -/
def isLeapYear (year : Int) : Bool :=
  year % 4 == 0 && (year % 100 != 0 || year % 400 == 0)

/-- The days of a month; 0 for a month outside 1 … 12. -/
def daysInMonth (year : Int) (month : Nat) : Nat :=
  if month = 2 then if isLeapYear year then 29 else 28
  else if month ∈ [4, 6, 9, 11] then 30
  else if 1 ≤ month ∧ month ≤ 12 then 31
  else 0

/-- A day and a time of day. Second 60 is a leap second. -/
structure DateTime where
  year : Int
  month : Nat
  day : Nat
  hour : Nat
  minute : Nat
  second : Nat
  nanosecond : Nat
  year_range : -262143 ≤ year ∧ year ≤ 262142
  day_range : 1 ≤ day ∧ day ≤ daysInMonth year month
  time_range : hour < 24 ∧ minute < 60 ∧ second ≤ 60 ∧ nanosecond < 1000000000
  deriving DecidableEq

namespace DateTime

/-- The date and time of these parts, if there is one. -/
def ofParts? (year : Int) (month day hour minute second nanosecond : Nat) : Option DateTime :=
  if hy : -262143 ≤ year ∧ year ≤ 262142 then
    if hd : 1 ≤ day ∧ day ≤ daysInMonth year month then
      if ht : hour < 24 ∧ minute < 60 ∧ second ≤ 60 ∧ nanosecond < 1000000000 then
        some ⟨year, month, day, hour, minute, second, nanosecond, hy, hd, ht⟩
      else none
    else none
  else none

/-! ### Writing -/

/-- The digits of `n`, with zeros in front up to `width`. -/
def padded (width n : Nat) : List Char :=
  let ds := digitsOf n
  List.replicate (width - ds.length) '0' ++ ds

/-- A year of four digits has no sign; any other one has. -/
def yearText (year : Int) : List Char :=
  if 0 ≤ year ∧ year ≤ 9999 then padded 4 year.natAbs
  else (if year < 0 then '-' else '+') :: padded 4 year.natAbs

/-- The fraction in whole milli-, micro- or nanoseconds, the coarsest that is exact. -/
def fractionText (nanosecond : Nat) : List Char :=
  if nanosecond = 0 then []
  else if nanosecond % 1000000 = 0 then '.' :: padded 3 (nanosecond / 1000000)
  else if nanosecond % 1000 = 0 then '.' :: padded 6 (nanosecond / 1000)
  else '.' :: padded 9 nanosecond

/-- The written form, such as `2024-02-29T23:59:59.123`. -/
def text (d : DateTime) : String :=
  String.ofList <|
    yearText d.year ++ '-' :: padded 2 d.month ++ '-' :: padded 2 d.day ++
    'T' :: padded 2 d.hour ++ ':' :: padded 2 d.minute ++ ':' :: padded 2 d.second ++
    fractionText d.nanosecond

/-! ### The written form -/

/-- The year has four digits, and the second is no leap second. -/
def Ordinary (d : DateTime) : Prop := (0 ≤ d.year ∧ d.year ≤ 9999) ∧ d.second < 60

/-- So many digits, and the number they stand for. -/
structure IsNumber (width : Nat) (ds : List Char) (n : Nat) : Prop where
  length : ds.length = width
  digits : ∀ c ∈ ds, c.isDigit = true
  value : valueOf ds = n

/-- A fraction of a second in nanoseconds. -/
inductive FractionText : List Char → Nat → Prop
  | none : FractionText [] 0
  | digits {ds : List Char} : IsDigits ds → ds.length ≤ 9 →
      FractionText ('.' :: ds) (valueOf ds * tenTo (9 - ds.length))

/-- A text of the date, with all digits of its parts. -/
inductive IsText (d : DateTime) : String → Prop
  | intro {year month day hour minute second fraction : List Char} :
      0 ≤ d.year → IsNumber 4 year d.year.natAbs → IsNumber 2 month d.month →
      IsNumber 2 day d.day → IsNumber 2 hour d.hour → IsNumber 2 minute d.minute →
      IsNumber 2 second d.second → FractionText fraction d.nanosecond →
      IsText d (String.ofList
        (year ++ '-' :: month ++ '-' :: day ++ 'T' :: hour ++ ':' :: minute ++ ':' :: second ++
          fraction))

/-! ### Reading -/

/-- The rest after the blanks in front. -/
def skipBlanks (cs : List Char) : List Char := cs.dropWhile isBlank

/-- At least one and at most `width` digits, and the rest. -/
def number? (width : Nat) (cs : List Char) : Option (Nat × List Char) :=
  let ds := (cs.take width).takeWhile Char.isDigit
  if ds.isEmpty then none else some (valueOf ds, cs.drop ds.length)

/-- A number that may follow blanks. -/
def part? (width : Nat) (cs : List Char) : Option (Nat × List Char) := number? width (skipBlanks cs)

/-- A year: at most four digits, or a sign and any number of digits. -/
def year? (cs : List Char) : Option (Int × List Char) :=
  match skipBlanks cs with
  | '-' :: rest => (number? rest.length rest).map fun (n, r) => (-(n : Int), r)
  | '+' :: rest => (number? rest.length rest).map fun (n, r) => ((n : Int), r)
  | rest => (number? 4 rest).map fun (n, r) => ((n : Int), r)

/-- The mark `c`, which may follow blanks. -/
def mark? (c : Char) (cs : List Char) : Option (List Char) :=
  match skipBlanks cs with
  | d :: rest => if d = c then some rest else none
  | [] => none

/-- A fraction in nanoseconds; digits after the ninth are passed over. -/
def fraction? : List Char → Option (Nat × List Char)
  | '.' :: cs =>
    let ds := (cs.take 9).takeWhile Char.isDigit
    if ds.isEmpty then none
    else some (valueOf ds * tenTo (9 - ds.length), (cs.drop ds.length).dropWhile Char.isDigit)
  | cs => some (0, cs)

/-- Reads a date and time; nothing but blanks may follow. -/
def parse? (s : String) : Option DateTime := do
  let (year, cs) ← year? s.toList
  let (month, cs) ← part? 2 (← mark? '-' cs)
  let (day, cs) ← part? 2 (← mark? '-' cs)
  let (hour, cs) ← part? 2 (← mark? 'T' cs)
  let (minute, cs) ← part? 2 (← mark? ':' cs)
  let (second, cs) ← part? 2 (← mark? ':' cs)
  let (nanosecond, cs) ← fraction? cs
  if (skipBlanks cs).isEmpty then ofParts? year month day hour minute second nanosecond else none

end DateTime

end SqlBuilder
