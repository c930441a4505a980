import BlitReel.Number.Layout
import BlitReel.Template.Spec

/-!
# Values in messages

A template is filled with texts, whole numbers and doubles. Each kind knows some verbs;
`Value.form?` is the form of a value under a verb, if it has one, and `Value.describe` what stands
in the message when it has none.
-/

namespace BlitReel.Template

/-- A value that a message shows. -/
inductive Value where
  | text (s : String)
  | int (n : Int64)
  | float (x : Float)

/-! ## Texts -/

/-- A character inside a quotation that holds only ASCII. -/
def escapeAscii (quote c : Char) : List Char :=
  if c == quote || c == '\\' || c.toNat < 0x80 then Quoted.escapeChar quote c
  else if c.toNat < 0x10000 then '\\' :: 'u' :: Quoted.hexDigits 4 c.toNat
  else '\\' :: 'U' :: Quoted.hexDigits 8 c.toNat

/-- A character inside a quotation, in ASCII alone when the plus flag asks for it. -/
def Spec.escape (s : Spec) (quote c : Char) : List Char :=
  if s.plus then escapeAscii quote c else Quoted.escapeChar quote c

/-- The character that delimits a text quoted as it stands. -/
def backquote : Char := Char.ofNat 0x60

/-- Whether a text can be quoted as it stands. -/
def standsQuoted (t : List Char) : Bool :=
  t.all fun c => c.toNat != 0xFEFF && (c == '\t' || c.toNat ≥ 0x20) && c != backquote && c.toNat != 0x7F

/-- A quoted text. -/
def Spec.quotedText (s : Spec) (t : List Char) : List Char :=
  let t := s.cut t
  if s.sharp && standsQuoted t then s.pad (backquote :: t ++ [backquote])
  else s.pad ('"' :: t.flatMap (s.escape '"') ++ ['"'])

/-- Upper case of the letters of a number. -/
def upper (t : List Char) : List Char := t.map Char.toUpper

/-- The octets of a text in hexadecimal. -/
def Spec.hexText (s : Spec) (t : String) : List Char :=
  let octets := Octets.ofString t
  let octets := match s.precision? with
    | none => octets
    | some n => octets.take n
  let mark := if s.sharp then ['0', 'x'] else []
  let pairs := octets.map Octets.hexPair
  let body := if s.space then ([' '].intercalate (pairs.map (mark ++ ·)))
    else if pairs.isEmpty then [] else mark ++ pairs.flatten
  s.pad body

/-- The form of a text under a verb. -/
def textForm? (s : Spec) (verb : Char) (t : String) : Option (List Char) :=
  match verb with
  | 'v' => some (if s.verbatim then s.quotedText t.toList else s.pad (s.cut t.toList))
  | 's' => some (s.pad (s.cut t.toList))
  | 'q' => some (s.quotedText t.toList)
  | 'x' => some (s.hexText t)
  | 'X' => some (upper (s.hexText t))
  | _ => none

/-! ## Whole numbers -/

/-- A whole number in a base. A precision and the zero flag both ask for zeros in front, and the
precision wins. `mark` is what the base puts before the digits. -/
def Spec.integer (s : Spec) (base : Nat) (mark : List Char → List Char) (n : Int) : List Char :=
  let sign := s.sign (n < 0)
  let least := match s.precision? with
    | some p => p
    | none => if s.zero && !s.minus then s.width?.getD 0 - sign.length else 0
  if s.precision? == some 0 && n == 0 then s.padBlank []
  else
    let ds := Nat.toDigits base n.natAbs
    let ds := List.replicate (least - ds.length) '0' ++ ds
    s.padBlank (sign ++ mark ds)

/-- What the sharp flag puts before digits of a base. -/
def Spec.baseMark (s : Spec) (base : Nat) (ds : List Char) : List Char :=
  if !s.sharp then ds
  else match base with
    | 2 => '0' :: 'b' :: ds
    | 8 => if ds.head? == some '0' then ds else '0' :: ds
    | 16 => '0' :: 'x' :: ds
    | _ => ds

/-- The character with a number, U+FFFD when there is none. -/
def character (n : Int) : Char :=
  if 0 ≤ n && n ≤ 0x10FFFF && !(0xD800 ≤ n && n ≤ 0xDFFF) then Char.ofNat n.toNat else '�'

/-- A number as a code point, `U+0041`; the number counts modulo `2 ^ 64`. -/
def Spec.codePoint (s : Spec) (n : Int64) : List Char :=
  let u := n.toUInt64.toNat
  let ds := upper (Nat.toDigits 16 u)
  let least := max 4 (s.precision?.getD 0)
  let shown := if s.sharp && u ≤ 0x10FFFF && Printable.isPrintable (Char.ofNat u) then
      [' ', '\'', Char.ofNat u, '\''] else []
  s.padBlank ('U' :: '+' :: (List.replicate (least - ds.length) '0' ++ ds ++ shown))

/-- The form of a whole number under a verb. -/
def intForm? (s : Spec) (verb : Char) (n : Int64) : Option (List Char) :=
  match verb with
  | 'v' | 'd' => some (s.integer 10 (s.baseMark 10) n.toInt)
  | 'b' => some (s.integer 2 (s.baseMark 2) n.toInt)
  | 'o' => some (s.integer 8 (s.baseMark 8) n.toInt)
  | 'O' => some (s.integer 8 (fun ds => '0' :: 'o' :: s.baseMark 8 ds) n.toInt)
  | 'x' => some (s.integer 16 (s.baseMark 16) n.toInt)
  | 'X' => some (upper (s.integer 16 (s.baseMark 16) n.toInt))
  | 'c' => some (s.pad [character n.toInt])
  | 'q' => some (s.pad ('\'' :: s.escape '\'' (character n.toInt) ++ ['\'']))
  | 'U' => some (s.codePoint n)
  | _ => none

/-! ## Doubles -/

/-- A magnitude with an exponent; without a precision it has the fewest digits. -/
def exponential (m : Nat) (q : Int) (places? : Option Nat) : List Char :=
  match places? with
  | some places => (Decimal.significant m q (places + 1)).scientific places 2 'e'
  | none =>
    let d := if m == 0 then ⟨[], 0⟩ else Decimal.shortest m q
    d.scientific (d.digits.length - 1) 2 'e'

/-- A magnitude with `count` significant digits, zeros at the end left out, in whichever notation
suits its size. -/
def general (m : Nat) (q : Int) (count : Nat) : List Char :=
  let count := max count 1
  let d := Decimal.significant m q count
  let d : Decimal := if m == 0 then ⟨[], 0⟩ else ⟨Decimal.trimZeros d.digits, d.point⟩
  let used := d.digits.length
  let limit : Int := if count > used && (used : Int) ≥ d.point then used else count
  let e := d.point - 1
  if e < -4 || e ≥ limit then d.scientific (min count used - 1) 2 'e'
  else d.positional d.neededPlaces

/-- A magnitude as a power of two. -/
def binary (m : Nat) (q : Int) : List Char :=
  Nat.toDigits 10 m ++ 'p' :: Decimal.exponentText 1 q

/-- A magnitude in hexadecimal with a binary exponent. -/
def hexadecimal (m : Nat) (q : Int) (places? : Option Nat) : List Char :=
  let size := m.log2
  -- sixty bits after the leading one
  let full := if m == 0 then 0 else m <<< (60 - size)
  let e : Int := if m == 0 then 0 else q + size
  let (full, e) := match places? with
    | some places =>
      if places < 15 then
        let unit := 1 <<< (60 - 4 * places)
        let n := Binary64.roundRatio full unit * unit
        if n ≥ 0x2000000000000000 then (n / 2, e + 1) else (n, e)
      else (full, e)
    | none => (full, e)
  let fraction := Quoted.hexDigits 15 (full % 0x1000000000000000)
  let fraction := match places? with
    | some places => fraction.take places ++ List.replicate (places - 15) '0'
    | none => (fraction.reverse.dropWhile (· == '0')).reverse
  let lead := ['0', 'x', Nat.digitChar (full >>> 60)]
  lead ++ (if fraction.isEmpty then [] else '.' :: fraction) ++ 'p' :: Decimal.exponentText 2 e

/-- The shortest or rounded text of a magnitude under a verb in lower case. -/
def magnitude? (verb : Char) (m : Nat) (q : Int) (precision? : Option Nat) : Option (List Char) :=
  match verb with
  | 'v' | 'g' => some (match precision? with
      | none => NumberLayout.message.writeMagnitude m q
      | some p => general m q p)
  | 'e' => some (exponential m q (some (precision?.getD 6)))
  | 'f' =>
    let places := precision?.getD 6
    let ds := Decimal.naturalDigits (Decimal.fixedUnits m q places)
    some (Decimal.positional ⟨ds, (ds.length : Int) - places⟩ places)
  | 'b' => some (binary m q)
  | 'x' => some (hexadecimal m q precision?)
  | _ => none

/-- With the sharp flag a point always stands, and zeros keep `least` significant digits. -/
def withPoint (least : Int) (hex : Bool) (t : List Char) : List Char :=
  let isTail (c : Char) : Bool := c == 'p' || (!hex && c == 'e')
  let body := t.takeWhile (!isTail ·)
  let tail := t.dropWhile (!isTail ·)
  let digits := (body.filter (· != '.')).dropWhile (· == '0')
  let hasPoint := body.contains '.'
  let used : Int := digits.length + (if !hasPoint && body == ['0'] then 1 else 0)
  body ++ (if hasPoint then [] else ['.']) ++ List.replicate (least - used).toNat '0' ++ tail

/-- A magnitude with its sign, brought to the width: zeros go between the two. -/
def Spec.signed (s : Spec) (negative : Bool) (t : List Char) : List Char :=
  let sign := s.sign negative
  if s.zero && !s.minus && !sign.isEmpty then
    sign ++ List.replicate (s.width?.getD 0 - (t.length + sign.length)) '0' ++ t
  else s.pad (sign ++ t)

/-- The form of a double under a verb. -/
def floatForm? (s : Spec) (verb : Char) (x : Float) : Option (List Char) :=
  let small := if verb == 'F' then 'f' else if verb == 'E' || verb == 'G' || verb == 'X' then verb.toLower else verb
  let restore (t : List Char) : List Char := if verb == 'E' || verb == 'G' || verb == 'X' then upper t else t
  match magnitude? small 0 0 none with
  | none => none
  | some _ =>
    match Binary64.shape x with
    | .nan => some (s.padBlank ((if s.plus then ['+'] else if s.space then [' '] else []) ++ "NaN".toList))
    | .infinite negative =>
      some (s.padBlank ((if negative then '-' else if s.space && !s.plus then ' ' else '+') :: "Inf".toList))
    | .finite negative m q =>
      (magnitude? small m q s.precision?).map fun t =>
        let t := if s.sharp && small != 'b' then
            let least : Int := match small, s.precision? with
              | 'v', p? | 'g', p? => (p?.getD 6 : Nat)
              | 'x', p? => if verb == 'X' then 0 else (p?.getD 6 : Nat)
              | _, _ => 0
            withPoint least (small == 'x') t
          else t
        s.signed negative (restore t)

/-! ## All kinds -/

namespace Value

/-- The name of a value's kind. -/
def kind : Value → String
  | .text _ => "string"
  | .int _ => "int"
  | .float _ => "float64"

/-- The form of a value under a verb that its kind knows. -/
def form? (s : Spec) (verb : Char) : Value → Option (List Char)
  | .text t => textForm? s verb t
  | .int n => intForm? s verb n
  | .float x => floatForm? s verb x

/-- A value with its kind. -/
def describe (s : Spec) (v : Value) : List Char :=
  v.kind.toList ++ '=' :: (v.form? s 'v').getD []

/-- The form of a value under a verb, or a note that its kind does not know the verb. -/
def form (s : Spec) (verb : Char) (v : Value) : List Char :=
  if verb == 'T' then s.pad (s.cut v.kind.toList)
  else (v.form? s verb).getD ('%' :: '!' :: verb :: '(' :: v.describe s ++ [')'])

end Value

end BlitReel.Template
