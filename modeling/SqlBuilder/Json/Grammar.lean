import SqlBuilder.Json.Basic
import SqlBuilder.Numeral.Digits

namespace SqlBuilder.Json

open Numeral

/-!
# The grammar of JSON

Which texts stand for which value, without a reader.  A value has many texts: blanks may stand
between its parts, and a character can be written by its number.  The integers of the two 64-bit
ranges are numbers by themselves.  Which float any other number is taken for is not a matter of the
grammar, but of whoever reads it, and so it is a parameter here.

* `Blank` — blanks between the parts of a text;
* `CharText`, `QuotedText` — a character and a text in quotes;
* `NumberText` — a number;
* `Part`, `Spells` — the parts of a text, down to its values;
* `IsText` — a text of a value.
-/

/-- Blanks between the parts of a text. -/
def isSpace (c : Char) : Bool := c == ' ' || c == '\n' || c == '\t' || c == '\r'

/-- Nothing but blanks. -/
def Blank (gap : List Char) : Prop := ∀ c ∈ gap, isSpace c = true

/-! ### Quoted texts -/

/-- The value of a hexadecimal digit. -/
def hexValue? (c : Char) : Option Nat :=
  if '0' ≤ c ∧ c ≤ '9' then some (c.toNat - '0'.toNat)
  else if 'a' ≤ c ∧ c ≤ 'f' then some (c.toNat - 'a'.toNat + 10)
  else if 'A' ≤ c ∧ c ≤ 'F' then some (c.toNat - 'A'.toNat + 10)
  else none

/-- The value of four hexadecimal digits. -/
def hexValue4? (a b c d : Char) : Option Nat := do
  return 4096 * (← hexValue? a) + 256 * (← hexValue? b) + 16 * (← hexValue? c) + (← hexValue? d)

/-- The character of a short escape. -/
def shortEscape? : Char → Option Char
  | '"' => some '"'
  | '\\' => some '\\'
  | '/' => some '/'
  | 'b' => some '\x08'
  | 'f' => some '\x0c'
  | 'n' => some '\n'
  | 'r' => some '\r'
  | 't' => some '\t'
  | _ => none

/-- A unit that opens a surrogate pair. -/
def isHighSurrogate (n : Nat) : Bool := 0xD800 ≤ n && n < 0xDC00

/-- A unit that closes a surrogate pair. -/
def isLowSurrogate (n : Nat) : Bool := 0xDC00 ≤ n && n < 0xE000

/-- The character of a surrogate pair. -/
def ofSurrogates (h l : Nat) : Char := Char.ofNat (0x10000 + 0x400 * (h - 0xD800) + (l - 0xDC00))

/-- A character inside quotes.  Quotes, backslashes and controls need an escape, and every character
    may have one. -/
inductive CharText : List Char → Char → Prop
  | plain {c : Char} : ' ' ≤ c → c ≠ '"' → c ≠ '\\' → CharText [c] c
  | short {e c : Char} : shortEscape? e = some c → CharText ['\\', e] c
  | unit {a b c d : Char} {n : Nat} : hexValue4? a b c d = some n → isHighSurrogate n = false →
      isLowSurrogate n = false → CharText ['\\', 'u', a, b, c, d] (Char.ofNat n)
  | pair {a b c d a' b' c' d' : Char} {h l : Nat} : hexValue4? a b c d = some h →
      isHighSurrogate h = true → hexValue4? a' b' c' d' = some l → isLowSurrogate l = true →
      CharText ['\\', 'u', a, b, c, d, '\\', 'u', a', b', c', d'] (ofSurrogates h l)

/-- Characters inside quotes. -/
inductive CharsText : List Char → List Char → Prop
  | nil : CharsText [] []
  | cons {text rest : List Char} {c : Char} {cs : List Char} : CharText text c →
      CharsText rest cs → CharsText (text ++ rest) (c :: cs)

/-- A text in quotes. -/
inductive QuotedText : List Char → String → Prop
  | intro {text : List Char} {s : String} : CharsText text s.toList →
      QuotedText ('"' :: (text ++ ['"'])) s

/-! ### Numbers -/

/-- The digits after the point of a number, if it has one. -/
inductive FractionText : List Char → Prop
  | none : FractionText []
  | digits {ds : List Char} : IsDigits ds → FractionText ('.' :: ds)

/-- The exponent of a number, if it has one. -/
inductive ExponentText : List Char → Prop
  | none : ExponentText []
  | digits {mark : Char} {sign ds : List Char} : mark ∈ ['e', 'E'] →
      sign ∈ [[], ['+'], ['-']] → IsDigits ds → ExponentText (mark :: (sign ++ ds))

/-- A number.  The whole part has no zero in front of other digits.  What is not an integer of the
    64-bit ranges is a float, `-0` among them. -/
inductive NumberText (float : List Char → Binary64) : List Char → Number → Prop
  | integer (i : Int) (range) : NumberText float (integerText i) (.integer i range)
  | float {sign fraction exponent text : List Char} {n : Nat} : sign ∈ [[], ['-']] →
      FractionText fraction → ExponentText exponent →
      text = sign ++ (digitsOf n ++ (fraction ++ exponent)) →
      (∀ i : Int, -9223372036854775808 ≤ i ∧ i < 18446744073709551616 → text ≠ integerText i) →
      NumberText float text (.float (float text))

/-! ### Values -/

/-- A part of a text. -/
inductive Part where
  /-- A value. -/
  | value (j : Json)
  /-- A value with blanks around it. -/
  | padded (j : Json)
  /-- Items with commas between them. -/
  | items (js : List Json)
  /-- A key, a colon and a value. -/
  | member (key : String) (j : Json)
  /-- Members with commas between them. -/
  | members (ms : List (String × Json))

/-- The text of a part. -/
inductive Spells (float : List Char → Binary64) : List Char → Part → Prop
  | null : Spells float ['n', 'u', 'l', 'l'] (.value .null)
  | bool_true : Spells float ['t', 'r', 'u', 'e'] (.value (.bool true))
  | bool_false : Spells float ['f', 'a', 'l', 's', 'e'] (.value (.bool false))
  | number {text : List Char} {n : Number} : NumberText float text n →
      Spells float text (.value (.number n))
  | string {text : List Char} {s : String} : QuotedText text s →
      Spells float text (.value (.string s))
  | emptyArray {gap : List Char} : Blank gap →
      Spells float ('[' :: (gap ++ [']'])) (.value (.array []))
  | array {text : List Char} {items : List Json} : Spells float text (.items items) →
      Spells float ('[' :: (text ++ [']'])) (.value (.array items))
  | emptyObject {gap : List Char} : Blank gap →
      Spells float ('\x7b' :: (gap ++ ['\x7d'])) (.value (.object []))
  | object {text : List Char} {members : List (String × Json)} :
      Spells float text (.members members) →
      Spells float ('\x7b' :: (text ++ ['\x7d'])) (.value (.object members))
  | padded {before text after : List Char} {j : Json} : Blank before →
      Spells float text (.value j) → Blank after →
      Spells float (before ++ (text ++ after)) (.padded j)
  | lastItem {text : List Char} {j : Json} : Spells float text (.padded j) →
      Spells float text (.items [j])
  | nextItem {text rest : List Char} {j : Json} {items : List Json} :
      Spells float text (.padded j) → Spells float rest (.items items) →
      Spells float (text ++ ',' :: rest) (.items (j :: items))
  | member {before quoted between text : List Char} {key : String} {j : Json} : Blank before →
      QuotedText quoted key → Blank between → Spells float text (.padded j) →
      Spells float (before ++ (quoted ++ (between ++ ':' :: text))) (.member key j)
  | lastMember {text : List Char} {key : String} {j : Json} :
      Spells float text (.member key j) → Spells float text (.members [(key, j)])
  | nextMember {text rest : List Char} {key : String} {j : Json}
      {members : List (String × Json)} : Spells float text (.member key j) →
      Spells float rest (.members members) →
      Spells float (text ++ ',' :: rest) (.members ((key, j) :: members))

/-- A text of a value, which blanks may stand around. -/
def IsText (float : List Char → Binary64) (s : String) (j : Json) : Prop :=
  Spells float s.toList (.padded j)

/-- The value that an integer of any size is written for. -/
def ofInteger (float : List Char → Binary64) (i : Int) : Json :=
  if range : -9223372036854775808 ≤ i ∧ i < 18446744073709551616 then .number (.integer i range)
  else .number (.float (float (integerText i)))

end SqlBuilder.Json
