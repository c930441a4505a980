import BlitReel.Text.Utf8

/-!
# Characters of a settings file

A settings file is UTF-8, or UTF-16 with a byte order mark. Control characters other than tab, line
feed, carriage return and next line are not allowed anywhere in it. An empty file reads as one
empty line.
-/

namespace BlitReel.Yaml

/-- Why a settings file cannot be read. -/
inductive Fault where
  /-- The octets are no text, or a character is not allowed. -/
  | character
  /-- The characters form no token here. -/
  | token
  /-- The tokens form no node here. -/
  | node
  /-- An alias names no anchor. -/
  | anchor
  deriving DecidableEq

/-- Characters that may occur. -/
def isAllowed (c : Char) : Bool :=
  let n := c.toNat
  n == 0x09 || n == 0x0A || n == 0x0D || (0x20 ≤ n && n ≤ 0x7E) || n == 0x85
    || (0xA0 ≤ n && n ≤ 0xFFFD) || 0x10000 ≤ n

/-- The characters of UTF-8 octets. -/
def utf8Characters (s : Octets) : Except Fault (List Char) :=
  (Utf8.runes s).mapM fun
    | .char c => .ok c
    | .stray _ => .error .character

/-- The 16-bit units of octets in the given order. -/
def units (bigEndian : Bool) : Octets → List Nat → Except Fault (List Nat)
  | [], done => .ok done.reverse
  | [_], _ => .error .character
  | a :: b :: rest, done =>
    units bigEndian rest ((if bigEndian then a.toNat * 256 + b.toNat else b.toNat * 256 + a.toNat) :: done)

/-- The characters of UTF-16 units; surrogates must come in pairs. -/
def utf16Characters : List Nat → List Char → Except Fault (List Char)
  | [], done => .ok done.reverse
  | u :: rest, done =>
    if 0xD800 ≤ u && u < 0xDC00 then
      match rest with
      | v :: rest =>
        if 0xDC00 ≤ v && v < 0xE000 then
          utf16Characters rest (Char.ofNat ((u - 0xD800) * 1024 + (v - 0xDC00) + 0x10000) :: done)
        else .error .character
      | [] => .error .character
    else if 0xDC00 ≤ u && u < 0xE000 then .error .character
    else utf16Characters rest (Char.ofNat u :: done)

/-- The characters of a settings file. -/
def characters (data : Octets) : Except Fault (List Char) := do
  let cs ← match data with
    | [] => pure ['\n']
    | 0xFF :: 0xFE :: rest => do utf16Characters (← units false rest []) []
    | 0xFE :: 0xFF :: rest => do utf16Characters (← units true rest []) []
    | 0xEF :: 0xBB :: 0xBF :: rest => utf8Characters rest
    | s => utf8Characters s
  if cs.all isAllowed then return cs else throw .character

end BlitReel.Yaml
