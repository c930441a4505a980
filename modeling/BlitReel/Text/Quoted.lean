import BlitReel.Text.Printable

/-!
# Quotations

Names and texts appear in messages between quotes. Printable characters stand for themselves, the
quote and the backslash are escaped, control characters have short or numeric escapes, and a stray
octet is written with its number.
-/

namespace BlitReel.Quoted

/-- The `width` low hexadecimal digits of `n`. -/
def hexDigits : Nat → Nat → List Char
  | 0, _ => []
  | width + 1, n => hexDigits width (n / 16) ++ [Octets.hexDigit n]

/-- The letter that follows the backslash for a control character that has one. -/
def shortEscape? (c : Char) : Option Char :=
  match c.toNat with
  | 7 => some 'a'
  | 8 => some 'b'
  | 9 => some 't'
  | 10 => some 'n'
  | 11 => some 'v'
  | 12 => some 'f'
  | 13 => some 'r'
  | _ => none

/-- A character inside a quotation that `quote` delimits. -/
def escapeChar (quote c : Char) : List Char :=
  if c == quote || c == '\\' then ['\\', c]
  else if Printable.isPrintable c then [c]
  else match shortEscape? c with
    | some l => ['\\', l]
    | none =>
      if c.toNat < 0x20 || c.toNat == 0x7F then '\\' :: 'x' :: hexDigits 2 c.toNat
      else if c.toNat < 0x10000 then '\\' :: 'u' :: hexDigits 4 c.toNat
      else '\\' :: 'U' :: hexDigits 8 c.toNat

/-- A rune inside a quotation. -/
def escapeRune (quote : Char) : Rune → List Char
  | .char c => escapeChar quote c
  | .stray b => '\\' :: 'x' :: Octets.hexPair b

/-- An octet string between double quotes. -/
def octets (s : Octets) : String :=
  String.ofList ('"' :: (Utf8.runes s).flatMap (escapeRune '"') ++ ['"'])

/-- A text between double quotes. -/
def text (s : String) : String :=
  String.ofList ('"' :: s.toList.flatMap (escapeChar '"') ++ ['"'])

/-- The character whose number is the octet, between single quotes. -/
def octet (b : UInt8) : String :=
  String.ofList ('\'' :: escapeChar '\'' (Char.ofNat b.toNat) ++ ['\''])

end BlitReel.Quoted
