import SqlBuilder.Text.Unprintable
import SqlBuilder.Text.Extending

namespace SqlBuilder.Text

/-!
# Quoted display of texts

The form in which messages show a text: between double quotes, with all that a reader could not see
spelled out.

* `quotedChar` — one character: `\"`, `\\`, `\0`, `\t`, `\r`, `\n`, a hexadecimal code point for
  what does not print or joins its neighbour, and itself otherwise;
* `quoted`, `quotedList` — a text, and a list of texts in brackets.
-/

/-- A code point in lower-case hexadecimal. -/
def hexadecimal (n : Nat) : List Char := Nat.toDigits 16 n

/-- The display of a character inside quotes. An apostrophe stays as it is. -/
def quotedChar (c : Char) : List Char :=
  if c = '"' then ['\\', '"']
  else if c = '\\' then ['\\', '\\']
  else if c = '\x00' then ['\\', '0']
  else if c = '\t' then ['\\', 't']
  else if c = '\r' then ['\\', 'r']
  else if c = '\n' then ['\\', 'n']
  else if ' ' ≤ c ∧ c ≤ '~' then [c]
  else if isExtending c || isUnprintable c then
    '\\' :: 'u' :: '\x7b' :: hexadecimal c.toNat ++ ['\x7d']
  else [c]

/-- The display of a text. -/
def quoted (s : String) : String := String.ofList ('"' :: s.toList.flatMap quotedChar ++ ['"'])

/-- The display of a list of texts. -/
def quotedList (ss : List String) : String := "[" ++ ", ".intercalate (ss.map quoted) ++ "]"

end SqlBuilder.Text
