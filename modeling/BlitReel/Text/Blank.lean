import BlitReel.Text.Utf8

/-!
# Blanks

The white space characters of Unicode separate the words of a header line and are trimmed from the
ends of what users type.
-/

namespace BlitReel.Blank

/-- White space: the ASCII blanks, next line, no-break space and the Unicode space separators. -/
def isBlank (c : Char) : Bool :=
  let n := c.toNat
  (9 ≤ n && n ≤ 13) || n == 0x20 || n == 0x85 || n == 0xA0 || n == 0x1680
    || (0x2000 ≤ n && n ≤ 0x200A) || n == 0x2028 || n == 0x2029 || n == 0x202F || n == 0x205F || n == 0x3000

/-- Whether a rune is white space. A stray octet is not. -/
def isBlankRune : Rune → Bool
  | .char c => isBlank c
  | .stray _ => false

/-- The octets of a sequence of runes. -/
def spell (rs : List Rune) : Octets := rs.flatMap Rune.octets

/-- Without the white space at either end. -/
def trim (s : Octets) : Octets :=
  let front := (Utf8.runes s).dropWhile isBlankRune
  spell (front.reverse.dropWhile isBlankRune).reverse

/-- Finish the current word, which is kept in reverse; there may be none. -/
def closeWord (cur : List Rune) (done : List Octets) : List Octets :=
  if cur.isEmpty then done else spell cur.reverse :: done

/-- Take one more rune into the current word, or finish the word at white space. -/
def wordStep : List Rune × List Octets → Rune → List Rune × List Octets
  | (cur, done), r => if isBlankRune r then ([], closeWord cur done) else (r :: cur, done)

/-- The maximal runs of runes that are not white space. -/
def words (s : Octets) : List Octets :=
  let (cur, done) := (Utf8.runes s).foldl wordStep ([], [])
  (closeWord cur done).reverse

end BlitReel.Blank
