import SqlBuilder.Json.Basic
import SqlBuilder.Numeral.Digits
import SqlBuilder.Numeral.Layout

namespace SqlBuilder.Json

open Numeral

/-!
# Writing JSON

The text has no blanks.

* `floatLayout`, `singleLayout` — the written form of floats;
* `escaped` — a character inside quotes;
* `chars`, `print` — the text of a value.
-/

/-- Doubles are positional from `0.00001` up to below `10 ^ 16`. -/
def floatLayout : Layout := ⟨-5, 16, true, .toEven⟩

/-- Singles are positional from `0.000001` up to below `10 ^ 13`. -/
def singleLayout : Layout := ⟨-6, 13, true, .toEven⟩

/-- A float, `null` if it is not finite. -/
def datumText (l : Layout) (f : Format) : Datum → List Char
  | .finite negative m q => (l.text f negative m q).toList
  | _ => ['n', 'u', 'l', 'l']

/-- A lower-case hexadecimal digit. -/
def hexDigit (n : Nat) : Char := Nat.digitChar n

/-- A character inside quotes. Quotes, backslashes and controls are escaped, all else stays. -/
def escaped (c : Char) : List Char :=
  if c = '"' then ['\\', '"']
  else if c = '\\' then ['\\', '\\']
  else if c = '\x08' then ['\\', 'b']
  else if c = '\x0c' then ['\\', 'f']
  else if c = '\n' then ['\\', 'n']
  else if c = '\r' then ['\\', 'r']
  else if c = '\t' then ['\\', 't']
  else if c < ' ' then ['\\', 'u', '0', '0', hexDigit (c.toNat / 16), hexDigit (c.toNat % 16)]
  else [c]

/-- A text in quotes. -/
def stringText (s : String) : List Char := '"' :: s.toList.flatMap escaped ++ ['"']

/-- A number. -/
def Number.text : Number → List Char
  | .integer i _ => integerText i
  | .float x => datumText floatLayout double x.datum

mutual

/-- The text of a value. -/
def chars : Json → List Char
  | .null => ['n', 'u', 'l', 'l']
  | .bool true => ['t', 'r', 'u', 'e']
  | .bool false => ['f', 'a', 'l', 's', 'e']
  | .number n => n.text
  | .string s => stringText s
  | .array items => '[' :: itemChars items ++ [']']
  | .object members => '\x7b' :: memberChars members ++ ['\x7d']

/-- Items with commas between them. -/
def itemChars : List Json → List Char
  | [] => []
  | [j] => j.chars
  | j :: js => j.chars ++ ',' :: itemChars js

/-- Members with commas between them. -/
def memberChars : List (String × Json) → List Char
  | [] => []
  | [(k, v)] => stringText k ++ ':' :: v.chars
  | (k, v) :: ms => stringText k ++ ':' :: v.chars ++ ',' :: memberChars ms

end

/-- The text of a value. -/
def print (j : Json) : String := String.ofList j.chars

end SqlBuilder.Json
