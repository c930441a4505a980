import BlitReel.Json.Value
import BlitReel.Text.Utf8

/-!
# Reading documents

A pushdown machine reads one value: its stack holds the arrays and objects that are still open, and
each step consumes at least one octet. `Json.readFirst` stops after the first value, `Json.read`
wants nothing but blanks after it.
-/

namespace BlitReel.Json

/-- Why octets are no document. -/
inductive SyntaxFault where
  | unexpected
  | ended
  | tooDeep
  deriving DecidableEq

/-- How messages speak of a document that is not well formed or does not fit. -/
def malformed : String := "malformed document"

/-- The greatest number of open arrays and objects. -/
def maxDepth : Nat := 10000

/-- The blanks between tokens. -/
def isSpace (b : UInt8) : Bool := b == 0x20 || b == 0x09 || b == 0x0A || b == 0x0D

/-- Where a string literal stands: between characters, after a backslash, or inside a numbered
escape with so many digits to come. -/
inductive LiteralState where
  | plain
  | escape
  | digits (left : Nat)

/-- The raw octets of a string literal whose opening quote has been read, and what follows the
closing quote. -/
def takeLiteral : Octets → LiteralState → Octets → Except SyntaxFault (Octets × Octets)
  | [], _, _ => .error .ended
  | b :: rest, .plain, done =>
    if b == 0x22 then .ok (done.reverse, rest)
    else if b == 0x5C then takeLiteral rest .escape (b :: done)
    else if b < 0x20 then .error .unexpected
    else takeLiteral rest .plain (b :: done)
  | b :: rest, .escape, done =>
    if b == 0x75 then takeLiteral rest (.digits 4) (b :: done)
    else if b ∈ [0x22, 0x5C, 0x2F, 0x62, 0x66, 0x6E, 0x72, 0x74] then
      takeLiteral rest .plain (b :: done)
    else .error .unexpected
  | b :: rest, .digits left, done =>
    if (Octets.hexValue? b).isNone then .error .unexpected
    else takeLiteral rest (if left ≤ 1 then .plain else .digits (left - 1)) (b :: done)

/-- The value of a character that is a hexadecimal digit. -/
def hexChar (c : Char) : Nat := (Octets.hexValue? (UInt8.ofNat c.toNat)).getD 0

/-- The number that four hexadecimal digits spell. -/
def hexQuad (a b c d : Char) : Nat :=
  ((hexChar a * 16 + hexChar b) * 16 + hexChar c) * 16 + hexChar d

/-- Whether a number is half of a surrogate pair. -/
def isSurrogate (n : Nat) : Bool := 0xD800 ≤ n && n < 0xE000

/-- The character of a surrogate pair. -/
def joinSurrogates (hi lo : Nat) : Option Char :=
  if 0xD800 ≤ hi && hi < 0xDC00 && 0xDC00 ≤ lo && lo < 0xE000 then
    some (Char.ofNat ((hi - 0xD800) * 1024 + (lo - 0xDC00) + 0x10000))
  else none

/-- The character that a one-letter escape stands for. -/
def escapeLetter (c : Char) : Char :=
  match c with
  | 'b' => Char.ofNat 8
  | 'f' => Char.ofNat 12
  | 'n' => '\n'
  | 'r' => '\r'
  | 't' => '\t'
  | c => c

/-- U+FFFD for a surrogate that found no partner. -/
def flush (half : Option Nat) (done : List Char) : List Char :=
  if half.isSome then '�' :: done else done

/-- A numbered escape after `half`, a surrogate that waits for its partner. -/
def numbered (half : Option Nat) (n : Nat) (done : List Char) : Option Nat × List Char :=
  match half.bind (joinSurrogates · n) with
  | some c => (none, c :: done)
  | none =>
    if isSurrogate n then (some n, flush half done) else (none, Char.ofNat n :: flush half done)

/-- The characters that a checked literal stands for, in reverse before `done`. A surrogate without
its partner becomes U+FFFD. -/
def unescape : List Char → Option Nat → List Char → List Char
  | '\\' :: 'u' :: a :: b :: c :: d :: rest, half, done =>
    let (half, done) := numbered half (hexQuad a b c d) done
    unescape rest half done
  | '\\' :: c :: rest, half, done => unescape rest none (escapeLetter c :: flush half done)
  | c :: rest, half, done => unescape rest none (c :: flush half done)
  | [], half, done => flush half done

/-- The text of a checked literal. -/
def literalText (raw : Octets) : String :=
  String.ofList (unescape ((Utf8.runes raw).map Rune.toChar) none []).reverse

/-- The digits at the front, and what follows. -/
def spanDigits (s : Octets) : Octets × Octets := s.span Octets.isDigit

/-- The whole part of a number: one zero, or digits that start with another. -/
def takeWhole : Octets → Option (Octets × Octets)
  | 0x30 :: rest => some ([0x30], rest)
  | s => match spanDigits s with
    | ([], _) => none
    | r => some r

/-- The fraction of a number, if there is one. -/
def takeFraction : Octets → Option (Octets × Octets)
  | 0x2E :: rest => match spanDigits rest with
    | ([], _) => none
    | (ds, rest) => some (0x2E :: ds, rest)
  | s => some ([], s)

/-- The exponent of a number, if there is one. -/
def takePower : Octets → Option (Octets × Octets)
  | b :: rest =>
    if b == 0x65 || b == 0x45 then
      let (sign, rest) := match rest with
        | 0x2B :: r => ([0x2B], r)
        | 0x2D :: r => ([0x2D], r)
        | r => (([] : Octets), r)
      match spanDigits rest with
      | ([], _) => none
      | (ds, rest) => some (b :: sign ++ ds, rest)
    else some ([], b :: rest)
  | [] => some ([], [])

/-- The number at the front, and what follows. -/
def takeNumber (s : Octets) : Option (Octets × Octets) := do
  let (sign, s) := match s with
    | 0x2D :: r => ([0x2D], r)
    | r => (([] : Octets), r)
  let (whole, s) ← takeWhole s
  let (fraction, s) ← takeFraction s
  let (power, s) ← takePower s
  return (sign ++ whole ++ fraction ++ power, s)

/-- An array or object that is still open. -/
inductive Open where
  | items (done : List Json)
  | members (done : List (String × Json)) (key : String)

/-- What must come next. -/
inductive Need where
  | value
  | valueOrClose
  | key
  | keyOrClose
  | colon
  | separator

/-- The machine between two steps. -/
structure Reading where
  stack : List Open := []
  need : Need := .value

/-- What a step leads to. -/
inductive Step where
  | more (state : Reading) (rest : Octets)
  | done (value : Json) (rest : Octets)
  | fault (f : SyntaxFault)

/-- Hand a finished value to what encloses it. -/
def deliver (stack : List Open) (v : Json) (rest : Octets) : Step :=
  match stack with
  | [] => .done v rest
  | .items done :: outer => .more ⟨.items (v :: done) :: outer, .separator⟩ rest
  | .members done key :: outer => .more ⟨.members ((key, v) :: done) key :: outer, .separator⟩ rest

/-- Open an array or object. -/
def push (stack : List Open) (inner : Open) (need : Need) (rest : Octets) : Step :=
  if stack.length < maxDepth then .more ⟨inner :: stack, need⟩ rest else .fault .tooDeep

/-- The fault for octets that differ from a word: they may have ended too early. -/
def wordFault (word : Octets) (s : Octets) : SyntaxFault :=
  if s.isPrefixOf word then .ended else .unexpected

/-- A word with a fixed meaning. -/
def takeWord (stack : List Open) (word : String) (v : Json) (s : Octets) : Step :=
  let w := Octets.ofString word
  if w.isPrefixOf s then deliver stack v (s.drop w.length) else .fault (wordFault w s)

/-- The fault for octets that start like a number and are none. -/
def numberFault (s : Octets) : SyntaxFault :=
  if s.all fun b => Octets.isDigit b || b ∈ [0x2B, 0x2D, 0x2E, 0x65, 0x45] then .ended else .unexpected

/-- Begin a value whose first octet is `b`. -/
def beginValue (stack : List Open) (b : UInt8) (rest : Octets) : Step :=
  if b == 0x7B then push stack (.members [] "") .keyOrClose rest
  else if b == 0x5B then push stack (.items []) .valueOrClose rest
  else if b == 0x22 then
    match takeLiteral rest .plain [] with
    | .ok (raw, rest) => deliver stack (.string (literalText raw)) rest
    | .error f => .fault f
  else if b == 0x74 then takeWord stack "true" (.bool true) (b :: rest)
  else if b == 0x66 then takeWord stack "false" (.bool false) (b :: rest)
  else if b == 0x6E then takeWord stack "null" .null (b :: rest)
  else if b == 0x2D || Octets.isDigit b then
    match takeNumber (b :: rest) with
    | some (literal, rest) => deliver stack (.number (Utf8.text literal)) rest
    | none => .fault (numberFault (b :: rest))
  else .fault .unexpected

/-- Read the key of a member. -/
def beginKey (stack : List Open) (b : UInt8) (rest : Octets) : Step :=
  if b == 0x22 then
    match takeLiteral rest .plain [], stack with
    | .ok (raw, rest), .members done _ :: outer =>
      .more ⟨.members done (literalText raw) :: outer, .colon⟩ rest
    | .ok _, _ => .fault .unexpected
    | .error f, _ => .fault f
  else .fault .unexpected

/-- Close the innermost array or object with `b`. -/
def close (stack : List Open) (b : UInt8) (rest : Octets) : Step :=
  match stack with
  | .items done :: outer =>
    if b == 0x5D then deliver outer (.array done.reverse) rest else .fault .unexpected
  | .members done _ :: outer =>
    if b == 0x7D then deliver outer (.object done.reverse) rest else .fault .unexpected
  | [] => .fault .unexpected

/-- One step on octets that do not start with a blank. -/
def step (state : Reading) (b : UInt8) (rest : Octets) : Step :=
  match state.need with
  | .value => beginValue state.stack b rest
  | .valueOrClose => if b == 0x5D then close state.stack b rest else beginValue state.stack b rest
  | .key => beginKey state.stack b rest
  | .keyOrClose => if b == 0x7D then close state.stack b rest else beginKey state.stack b rest
  | .colon => if b == 0x3A then .more { state with need := .value } rest else .fault .unexpected
  | .separator =>
    if b == 0x2C then
      match state.stack with
      | .items _ :: _ => .more { state with need := .value } rest
      | .members .. :: _ => .more { state with need := .key } rest
      | [] => .fault .unexpected
    else close state.stack b rest

/-- Run the machine for at most `fuel` steps. -/
def run : Nat → Reading → Octets → Except SyntaxFault (Json × Octets)
  | 0, _, _ => .error .ended
  | fuel + 1, state, s =>
    match s.dropWhile isSpace with
    | [] => .error .ended
    | b :: rest =>
      match step state b rest with
      | .more state rest => run fuel state rest
      | .done v rest => .ok (v, rest)
      | .fault f => .error f

/-- The first value, and what follows it. -/
def readFirst (s : Octets) : Except SyntaxFault (Json × Octets) := run (s.length + 1) {} s

/-- The one value that the octets spell. -/
def read (s : Octets) : Except SyntaxFault Json := do
  let (v, rest) ← readFirst s
  if rest.all isSpace then return v else throw .unexpected

end BlitReel.Json
