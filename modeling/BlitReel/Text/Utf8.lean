import BlitReel.Text.Octets

/-!
# UTF-8

An octet string is a sequence of runes: characters and, where the octets start no valid
sequence, stray octets, one at a time. `Utf8.runes` is that reading, `Utf8.text` the text in
which every stray octet has become U+FFFD.
-/

namespace BlitReel

/-- What stands at a place of an octet string: a character, or an octet that starts none. -/
inductive Rune where
  | char (c : Char)
  | stray (b : UInt8)
  deriving DecidableEq, Inhabited

namespace Rune

/-- The octets of a rune. -/
def octets : Rune → Octets
  | .char c => String.utf8EncodeChar c
  | .stray b => [b]

/-- A rune as a character: a stray octet reads as U+FFFD. -/
def toChar : Rune → Char
  | .char c => c
  | .stray _ => '�'

end Rune

namespace Utf8

/-- Whether an octet continues a sequence. -/
def isContinuation (b : UInt8) : Bool := 0x80 ≤ b && b ≤ 0xBF

/-- The low six bits that a continuation octet carries. -/
def payload (b : UInt8) : Nat := b.toNat % 64

/-- The character that an octet string starts with, and how many octets it takes. Overlong forms,
surrogates and numbers above U+10FFFF are no characters. -/
def head? : Octets → Option (Char × Nat)
  | [] => none
  | b0 :: rest =>
    if b0 < 0x80 then some (Char.ofNat b0.toNat, 1)
    else match rest with
      | [] => none
      | b1 :: rest =>
        if !isContinuation b1 then none
        else if 0xC2 ≤ b0 && b0 ≤ 0xDF then some (Char.ofNat (b0.toNat % 32 * 64 + payload b1), 2)
        else match rest with
          | [] => none
          | b2 :: rest =>
            if !isContinuation b2 then none
            else if 0xE0 ≤ b0 && b0 ≤ 0xEF then
              let n := b0.toNat % 16 * 4096 + payload b1 * 64 + payload b2
              if n < 0x800 || (0xD800 ≤ n && n ≤ 0xDFFF) then none else some (Char.ofNat n, 3)
            else match rest with
              | [] => none
              | b3 :: _ =>
                if !isContinuation b3 || !(0xF0 ≤ b0 && b0 ≤ 0xF4) then none
                else
                  let n := b0.toNat % 8 * 262144 + payload b1 * 4096 + payload b2 * 64 + payload b3
                  if n < 0x10000 || 0x10FFFF < n then none else some (Char.ofNat n, 4)

/-- The runes of an octet string, after `skip` octets of it that belong to the rune before, put in
front of `done` in reverse. -/
def runesAux : Octets → Nat → List Rune → List Rune
  | [], _, done => done
  | _ :: rest, skip + 1, done => runesAux rest skip done
  | b :: rest, 0, done =>
    match head? (b :: rest) with
    | some (c, n) => runesAux rest (n - 1) (.char c :: done)
    | none => runesAux rest 0 (.stray b :: done)

/-- The runes of an octet string. -/
def runes (s : Octets) : List Rune := (runesAux s 0 []).reverse

/-- The octets of a character. -/
def encode (c : Char) : Octets := String.utf8EncodeChar c

/-- The text of an octet string, with U+FFFD for each stray octet. -/
def text (s : Octets) : String := String.ofList ((runes s).map Rune.toChar)

/-- Whether an octet string is valid UTF-8. -/
def valid (s : Octets) : Bool :=
  (runes s).all fun
    | .char _ => true
    | .stray _ => false

/-- The text of an octet string that is valid UTF-8. -/
def text? (s : Octets) : Option String := if valid s then some (text s) else none

end Utf8

end BlitReel
