import Nif.Text.Printable
import Nif.Text.Combining

/-!
**Text between double quotes, with every character that does not show written as an escape.**

There are two styles. Diagnostics quote text with braces around the hexadecimal code of what does
not show; names that are stored with a terminator also escape the apostrophe, and write an ASCII
control character as two hexadecimal digits.

* `Style.escape`: the written form of one character.
* `quote`: a whole text in the style of diagnostics; `quoteName`: in the style of stored names.
-/

namespace Nif.Text

/-- What the styles of quoting differ in. -/
structure Style where
  /-- The apostrophe is escaped too. -/
  escapesApostrophe : Bool
  /-- The written form of an ASCII control character that has no letter of its own. -/
  control : Char → String

/-- A number in lower-case hexadecimal digits, without leading zeros. -/
def hexadecimal (n : Nat) : String := String.ofList (Nat.toDigits 16 n)

/-- The code point between braces. -/
def codePoint (c : Char) : String := "\\u\x7b" ++ hexadecimal c.toNat ++ "\x7d"

/-- The low byte as exactly two hexadecimal digits. -/
def hexByte (n : Nat) : String :=
  String.ofList [Nat.digitChar (n / 16 % 16), Nat.digitChar (n % 16)]

def Style.diagnostic : Style where
  escapesApostrophe := false
  control := codePoint

def Style.name : Style where
  escapesApostrophe := true
  control := fun c => "\\x" ++ hexByte c.toNat

/-- A character with an escape letter of its own takes it; any other that does not show, and any
mark that would join the character before it, is written by its code. -/
def Style.escape (style : Style) (c : Char) : String :=
  match c with
  | '\x00' => "\\0"
  | '\t' => "\\t"
  | '\n' => "\\n"
  | '\r' => "\\r"
  | '"' => "\\\""
  | '\\' => "\\\\"
  | '\'' => if style.escapesApostrophe then "\\'" else "'"
  | c =>
    if c.toNat < 0x20 || c.toNat = 0x7F then style.control c
    else if isExtendingMark c || !isPrintable c then codePoint c
    else c.toString

def Style.quote (style : Style) (text : String) : String :=
  "\"" ++ String.join (text.toList.map style.escape) ++ "\""

/-- The text as diagnostics quote it. -/
def quote (text : String) : String := Style.diagnostic.quote text

/-- The text as stored names are quoted. -/
def quoteName (text : String) : String := Style.name.quote text

end Nif.Text
