import BlitReel.Yaml.Token.Basic

/-!
# Scalars of a settings file

Plain, quoted and block scalars. Line breaks inside plain and quoted scalars are folded: one break
becomes a space, and of more breaks the first is dropped.
-/

namespace BlitReel.Yaml.Lexer

/-- Blanks and line breaks between two pieces of a scalar. -/
structure Gap where
  /-- A line break has been passed. -/
  broken : Bool := false
  blanks : List Char := []
  first : List Char := []
  more : List Char := []

/-- What a gap contributes to the text. -/
def Gap.text (g : Gap) : List Char :=
  if g.broken then
    if g.first.head? == some '\n' then if g.more.isEmpty then [' '] else g.more
    else g.first ++ g.more
  else g.blanks

/-- Pass blanks and line breaks. After a break, a tab before column `least` is a fault. -/
def passGap (least : Int) : Nat → Lexer → Gap → Except Fault (Lexer × Gap)
  | 0, s, g => .ok (s, g)
  | fuel + 1, s, g =>
    if isBlank s.here then
      if g.broken && (s.mark.column : Int) < least && s.here == '\t' then .error .token
      else passGap least fuel s.skip (if g.broken then g else { g with blanks := g.blanks ++ [s.here] })
    else if isBreak s.here then
      let (b, s) := s.takeBreak
      passGap least fuel s
        (if g.broken then { g with more := g.more ++ b }
         else { broken := true, first := b, more := g.more })
    else .ok (s, g)

/-- Whether a character ends a plain scalar, given the one after it. -/
def endsPlain (inFlow : Bool) (c next : Char) : Bool :=
  (c == ':' && isBlankOrEnd next)
    || (inFlow && (c == ',' || c == '?' || c == '[' || c == ']' || c == '\x7b' || c == '\x7d'))

/-- The piece of a plain scalar up to a blank or an end. -/
def plainPiece (inFlow : Bool) : List Char → List Char → List Char
  | [], done => done.reverse
  | c :: rest, done =>
    if isBlankOrEnd c || endsPlain inFlow c (rest.headD endMark) then done.reverse
    else plainPiece inFlow rest (c :: done)

/-- The pieces of a plain scalar, with the text so far in reverse. -/
def plainPieces (least : Int) : Nat → Lexer → List Char → Gap → Except Fault (List Char × Bool × Lexer)
  | 0, s, done, g => .ok (done.reverse, g.broken, s)
  | fuel + 1, s, done, g =>
    if s.atDocumentIndicator || s.here == '#' then .ok (done.reverse, g.broken, s)
    else
      let piece := plainPiece (s.flow > 0) s.rest []
      let done := if piece.isEmpty then done else piece.reverse ++ g.text.reverse ++ done
      let g := if piece.isEmpty then g else {}
      let s := s.skipMany piece.length
      if !(isBlank s.here || isBreak s.here) then .ok (done.reverse, g.broken, s)
      else do
        let (s, g) ← passGap least (s.rest.length + 1) s g
        if s.flow == 0 && (s.mark.column : Int) < least then return (done.reverse, g.broken, s)
        else plainPieces least fuel s done g

/-- A plain scalar. After one that ends with a line break a key may follow. -/
def takePlain (s : Lexer) : Except Fault (String × Lexer) := do
  let (text, broken, s) ← plainPieces (s.indent + 1) (s.rest.length + 1) s [] {}
  return (String.ofList text, if broken then { s with keyAllowed := true } else s)

/-- The characters that short escapes stand for. -/
def shortEscapes : List (Char × Nat) :=
  [('0', 0), ('a', 7), ('b', 8), ('t', 9), ('\t', 9), ('n', 10), ('v', 11), ('f', 12), ('r', 13), ('e', 27),
    (' ', 32), ('"', 34), ('\'', 39), ('\\', 92), ('N', 0x85), ('_', 0xA0), ('L', 0x2028), ('P', 0x2029)]

/-- How many digits a numbered escape has. -/
def escapeDigits : Char → Nat
  | 'x' => 2
  | 'u' => 4
  | 'U' => 8
  | _ => 0

/-- The value of a hexadecimal digit. -/
def hexDigit? (c : Char) : Option Nat :=
  if c.toNat < 128 then Octets.hexValue? (UInt8.ofNat c.toNat) else none

/-- The number that `n` hexadecimal digits spell. -/
def hexNumber? : Nat → List Char → Nat → Option Nat
  | 0, _, acc => some acc
  | _ + 1, [], _ => none
  | n + 1, c :: rest, acc =>
    match hexDigit? c with
    | some d => hexNumber? n rest (acc * 16 + d)
    | none => none

/-- The character of an escape that the lexer stands at. -/
def takeEscape (s : Lexer) : Except Fault (Char × Lexer) :=
  let c := s.ahead 1
  match shortEscapes.lookup c with
  | some n => .ok (Char.ofNat n, s.skipMany 2)
  | none =>
    let n := escapeDigits c
    if n == 0 then .error .token
    else
      let s := s.skipMany 2
      match hexNumber? n s.rest 0 with
      | none => .error .token
      | some v =>
        if (0xD800 ≤ v && v ≤ 0xDFFF) || v > 0x10FFFF then .error .token
        else .ok (Char.ofNat v, s.skipMany n)

/-- The characters of a quoted scalar up to a blank, an end or the closing quote, put before `done`
in reverse. The flag says that an escaped line break ended it. -/
def quotedPiece (single : Bool) : Nat → Lexer → List Char → Except Fault (List Char × Bool × Lexer)
  | 0, s, done => .ok (done, false, s)
  | fuel + 1, s, done =>
    let c := s.here
    if isBlankOrEnd c then .ok (done, false, s)
    else if single then
      if c == '\'' then
        if s.ahead 1 == '\'' then quotedPiece single fuel (s.skipMany 2) ('\'' :: done)
        else .ok (done, false, s)
      else quotedPiece single fuel s.skip (c :: done)
    else if c == '"' then .ok (done, false, s)
    else if c == '\\' then
      if isBreak (s.ahead 1) then .ok (done, true, s.skip.skipBreak)
      else do
        let (e, s) ← takeEscape s
        quotedPiece single fuel s (e :: done)
    else quotedPiece single fuel s.skip (c :: done)

/-- The pieces of a quoted scalar whose opening quote has been passed. -/
def quotedPieces (single : Bool) : Nat → Lexer → List Char → Except Fault (List Char × Lexer)
  | 0, _, _ => .error .token
  | fuel + 1, s, done =>
    if s.atDocumentIndicator || isEnd s.here then .error .token
    else do
      let (done, escaped, s) ← quotedPiece single (s.rest.length + 1) s done
      if s.here == (if single then '\'' else '"') then return (done.reverse, s.skip)
      else
        let (s, g) ← passGap (-1) (s.rest.length + 1) s { broken := escaped }
        quotedPieces single fuel s (g.text.reverse ++ done)

/-- A quoted scalar. -/
def takeQuoted (single : Bool) (s : Lexer) : Except Fault (String × Lexer) := do
  let (text, s) ← quotedPieces single (s.rest.length + 1) s.skip []
  return (String.ofList text, s)

/-- What happens to line breaks at the end of a block scalar. -/
inductive Chomping where
  | clip
  | strip
  | keep
  deriving DecidableEq

/-- A chomping indicator. -/
def chomping? (c : Char) : Option Chomping :=
  if c == '+' then some .keep else if c == '-' then some .strip else none

/-- An indentation indicator; zero is a fault. -/
def takeIncrement (s : Lexer) : Except Fault (Nat × Lexer) :=
  if s.here.isDigit then
    if s.here == '0' then .error .token else .ok (s.here.toNat - 48, s.skip)
  else .ok (0, s)

/-- The indicators after the bar, in either order. -/
def blockHeader (s : Lexer) : Except Fault (Chomping × Nat × Lexer) :=
  match chomping? s.here with
  | some c => do
    let (n, s) ← takeIncrement s.skip
    return (c, n, s)
  | none => do
    let (n, s) ← takeIncrement s
    if n == 0 then return (.clip, 0, s)
    else match chomping? s.here with
      | some c => return (c, n, s.skip)
      | none => return (.clip, n, s)

/-- Pass indentation and empty lines: the breaks and the greatest column reached. -/
def blockBreaks (indent : Int) : Nat → Lexer → List Char → Nat → Except Fault (List Char × Nat × Lexer)
  | 0, s, breaks, reached => .ok (breaks, reached, s)
  | fuel + 1, s, breaks, reached =>
    let room := if indent == 0 then s.rest.length else (indent - s.mark.column).toNat
    let spaces := (s.rest.take room).takeWhile (· == ' ')
    let s := s.skipMany spaces.length
    let reached := max reached s.mark.column
    if (indent == 0 || (s.mark.column : Int) < indent) && s.here == '\t' then .error .token
    else if !isBreak s.here then .ok (breaks, reached, s)
    else
      let (b, s) := s.takeBreak
      blockBreaks indent fuel s (breaks ++ b) reached

/-- The indentation of a block scalar: the given one, or the one found in its first lines. -/
def blockIndent (given found : Int) (outer : Int) : Int :=
  if given == 0 then max (max found (outer + 1)) 1 else given

/-- The lines of a block scalar. `first` is the break that ended the line before, `breaks` the
breaks of empty lines since. -/
def blockLines (literal : Bool) (indent : Int) :
    Nat → Lexer → List Char → List Char → List Char → Bool → Except Fault (List Char × List Char × List Char × Lexer)
  | 0, s, done, first, breaks, _ => .ok (done, first, breaks, s)
  | fuel + 1, s, done, first, breaks, indented =>
    if (s.mark.column : Int) == indent && !isEnd s.here then
      let blank := isBlank s.here
      let joint :=
        if !literal && !indented && !blank && first.head? == some '\n' then
          if breaks.isEmpty then [' '] else []
        else first
      let (line, s) := s.takeWhile fun c => !isBreakOrEnd c
      let done := line.reverse ++ breaks.reverse ++ joint.reverse ++ done
      let (first, s) := s.takeBreak
      match blockBreaks indent (s.rest.length + 1) s [] 0 with
      | .error f => .error f
      | .ok (breaks, _, s) => blockLines literal indent fuel s done first breaks blank
    else .ok (done, first, breaks, s)

/-- A block scalar. -/
def takeBlock (literal : Bool) (s : Lexer) : Except Fault (String × Lexer) := do
  let (chomping, increment, s) ← blockHeader s.skip
  let s := s.skipBlanks
  let s := if s.here == '#' then s.skipLineRest else s
  if !isBreakOrEnd s.here then throw .token
  let s := s.skipBreak
  let given : Int := if increment == 0 then 0
    else if s.indent ≥ 0 then s.indent + increment else increment
  let (breaks, reached, s) ← blockBreaks given (s.rest.length + 1) s [] 0
  let indent := blockIndent given reached s.indent
  let (done, first, breaks, s) ← blockLines literal indent (s.rest.length + 1) s [] [] breaks false
  let tail := match chomping with
    | .strip => []
    | .clip => first
    | .keep => first ++ breaks
  return (String.ofList (done.reverse ++ tail), s)

end BlitReel.Yaml.Lexer
