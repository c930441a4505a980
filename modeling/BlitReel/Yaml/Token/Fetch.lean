import BlitReel.Yaml.Token.Scalar

/-!
# Cutting tokens

`Lexer.fetch` cuts the next token. A colon may turn an earlier place into a key, so that the tokens
of a key are inserted before tokens already cut; therefore `Lexer.peek` cuts ahead until the first
token in the queue is settled, and always two tokens beyond it.
-/

namespace BlitReel.Yaml.Lexer

/-- The deepest nesting of flow collections and of block collections. -/
def maxNesting : Nat := 10000

/-- Whether a place may still be a key: it is on the current line and not too far back. A required
key that has become impossible is a fault. -/
def keyValid (s : Lexer) (k : SimpleKey) : Except Fault Bool :=
  if !k.possible then .ok false
  else if k.mark.line < s.mark.line || k.mark.index + 1024 < s.mark.index then
    if k.required then .error .token else .ok false
  else .ok true

/-- Give up the place of the innermost level as a key. -/
def removeKey (s : Lexer) : Except Fault Lexer :=
  match s.keys with
  | k :: rest =>
    if k.possible && k.required then .error .token
    else .ok { s with keys := { k with possible := false } :: rest }
  | [] => .ok s

/-- Remember the current place as one where a key may begin. -/
def saveKey (s : Lexer) : Except Fault Lexer :=
  if s.keyAllowed then do
    let key : SimpleKey := {
      possible := true
      required := s.flow == 0 && s.indent == (s.mark.column : Int)
      number := s.taken + s.queue.length
      mark := s.mark }
    let s ← s.removeKey
    return { s with keys := key :: s.keys.drop 1 }
  else .ok s

/-- Open a block collection at a column, if it is deeper than the current one. The token goes before
the one with the given number, or to the end. -/
def rollIndent (column : Int) (number? : Option Nat) (t : Token) (s : Lexer) : Except Fault Lexer :=
  if s.flow > 0 || s.indent ≥ column then .ok s
  else
    let s := { s with indents := s.indent :: s.indents, indent := column }
    if s.indents.length > maxNesting then .error .token
    else .ok (match number? with
      | some n => s.insert n t
      | none => s.push t)

/-- Close the block collections that are deeper than a column. -/
def closeBlocks (column : Int) : List Int → Lexer → Lexer
  | [], s => s
  | outer :: rest, s =>
    if s.indent > column then
      closeBlocks column rest { s.push .blockEnd with indent := outer, indents := rest }
    else s

/-- Close the block collections that are deeper than a column, unless in a flow collection. -/
def unrollIndent (column : Int) (s : Lexer) : Lexer :=
  if s.flow > 0 then s else closeBlocks column s.indents s

/-- Pass blanks, comments and line breaks up to the next token. -/
def skipToToken : Nat → Lexer → Lexer
  | 0, s => s
  | fuel + 1, s =>
    let s := if s.mark.column == 0 && s.here.toNat == 0xFEFF then s.skip else s
    let tabs := s.flow > 0 || !s.keyAllowed
    let s := (s.takeWhile fun c => c == ' ' || (tabs && c == '\t')).2
    let s := if s.here == '#' then s.skipLineRest else s
    if isBreak s.here then
      let s := s.skipBreak
      skipToToken fuel (if s.flow == 0 then { s with keyAllowed := true } else s)
    else s

/-- Pass a comment that follows a token on its line. -/
def skipLineComment (s : Lexer) : Lexer :=
  if s.newlines > 0 then s
  else
    let blanks := s.rest.takeWhile isBlank
    if blanks.length < 512 && s.ahead blanks.length == '#' then s.skipLineRest else s

/-- End the stream: all block collections are closed. -/
def fetchEnd (s : Lexer) : Except Fault Lexer := do
  let s := if s.mark.column == 0 then s
    else { s with mark := { s.mark with column := 0, line := s.mark.line + 1 } }
  let s ← (s.unrollIndent (-1)).removeKey
  return { s with keyAllowed := false }.push .streamEnd

/-- The start or end of a document. -/
def fetchIndicator (t : Token) (s : Lexer) : Except Fault Lexer := do
  let s ← (s.unrollIndent (-1)).removeKey
  return ({ s with keyAllowed := false }.skipMany 3).push t

/-- One or two digits of a version. -/
def takeVersionPart (s : Lexer) : Except Fault (Nat × Lexer) :=
  let (ds, s) := s.takeWhile Char.isDigit
  if ds.isEmpty || ds.length > 2 then .error .token
  else .ok (ds.foldl (fun n c => n * 10 + (c.toNat - 48)) 0, s)

/-- The handle of a tag. In a directive it must be complete. -/
def takeHandle (directive : Bool) (s : Lexer) : Except Fault (List Char × Lexer) :=
  if s.here != '!' then .error .token
  else
    let (word, s) := s.skip.takeWhile isWordChar
    if s.here == '!' then .ok ('!' :: word ++ ['!'], s.skip)
    else if directive && !word.isEmpty then .error .token
    else .ok ('!' :: word, s)

/-- Characters of tags besides those of words. -/
def isTagPunctuation (c : Char) : Bool :=
  c ∈ [';', '/', '?', ':', '@', '&', '=', '+', '$', ',', '.', '!', '~', '*', '\'', '(', ')', '[', ']']

/-- How many octets follow the first one of a character. -/
def trailingCount (b : Nat) : Option Nat :=
  if b < 0x80 then some 0
  else if 0xC0 ≤ b && b < 0xE0 then some 1
  else if 0xE0 ≤ b && b < 0xF0 then some 2
  else if 0xF0 ≤ b && b < 0xF8 then some 3
  else none

/-- An octet written as a percent sign and two digits. -/
def percentOctet? (s : Lexer) : Option Nat :=
  if s.here == '%' then hexNumber? 2 (s.rest.drop 1) 0 else none

/-- Trailing octets of a character, after `done` in reverse. -/
def takeTrailing : Nat → Lexer → Octets → Except Fault (Octets × Lexer)
  | 0, s, done => .ok (done, s)
  | n + 1, s, done =>
    match percentOctet? s with
    | some b => if 0x80 ≤ b && b < 0xC0 then takeTrailing n (s.skipMany 3) (UInt8.ofNat b :: done) else .error .token
    | none => .error .token

/-- A character written with percent signs. -/
def takePercent (s : Lexer) : Except Fault (Octets × Lexer) :=
  match percentOctet? s with
  | none => .error .token
  | some b =>
    match trailingCount b with
    | none => .error .token
    | some n => do
      let (bs, s) ← takeTrailing n (s.skipMany 3) [UInt8.ofNat b]
      return (bs.reverse, s)

/-- The octets of a tag, in reverse before `done`. -/
def tagOctets : Nat → Lexer → Octets → Except Fault (Octets × Lexer)
  | 0, s, done => .ok (done, s)
  | fuel + 1, s, done =>
    let c := s.here
    if c == '%' then do
      let (bs, s) ← takePercent s
      tagOctets fuel s (bs.reverse ++ done)
    else if isWordChar c || isTagPunctuation c then
      tagOctets fuel s.skip (UInt8.ofNat c.toNat :: done)
    else .ok (done, s)

/-- A tag or what follows its handle; it may be empty only after something. -/
def takeTagText (head : List Char) (s : Lexer) : Except Fault (String × Lexer) := do
  let start := (Octets.ofString (String.ofList (head.drop 1))).reverse
  let (bs, s') ← tagOctets (s.rest.length + 1) s start
  if head.isEmpty && s'.rest.length == s.rest.length then throw .token
  return (Utf8.text bs.reverse, s')

/-- The rest of a directive line. -/
def endDirective (s : Lexer) : Except Fault Lexer :=
  let s := s.skipBlanks
  let s := if s.here == '#' then s.skipLineRest else s
  if isBreakOrEnd s.here then .ok s.skipBreak else .error .token

/-- A directive: the version, or a handle for tags. -/
def fetchDirective (s : Lexer) : Except Fault Lexer := do
  let s ← (s.unrollIndent (-1)).removeKey
  let s := { s with keyAllowed := false }.skip
  let (name, s) := s.takeWhile isWordChar
  if name.isEmpty || !isBlankOrEnd s.here then throw .token
  let s := s.skipBlanks
  if name == ['Y', 'A', 'M', 'L'] then
    let (major, s) ← takeVersionPart s
    if s.here != '.' then throw .token
    let (minor, s) ← takeVersionPart s.skip
    return (← endDirective s).push (.version major minor)
  else if name == ['T', 'A', 'G'] then
    let (handle, s) ← takeHandle true s
    if !isBlank s.here then throw .token
    let (lead, s) ← takeTagText [] s.skipBlanks
    if !isBlankOrEnd s.here then throw .token
    return (← endDirective s).push (.tagDirective (String.ofList handle) lead)
  else throw .token

/-- Open a flow collection. -/
def fetchFlowStart (t : Token) (s : Lexer) : Except Fault Lexer := do
  let s ← s.saveKey
  let s := { s with keys := {} :: s.keys, flow := s.flow + 1, keyAllowed := true }
  if s.flow > maxNesting then throw .token
  return s.skip.push t

/-- Close a flow collection. -/
def fetchFlowEnd (t : Token) (s : Lexer) : Except Fault Lexer := do
  let s ← s.removeKey
  let s := if s.flow > 0 then { s with flow := s.flow - 1, keys := s.keys.drop 1 } else s
  return ({ s with keyAllowed := false }.skip).push t

/-- The comma in a flow collection. -/
def fetchFlowEntry (s : Lexer) : Except Fault Lexer := do
  let s ← s.removeKey
  return ({ s with keyAllowed := true }.skip).push .flowEntry

/-- The dash of a block sequence. -/
def fetchBlockEntry (s : Lexer) : Except Fault Lexer := do
  if s.flow == 0 && !s.keyAllowed then throw .token
  let s ← s.rollIndent s.mark.column none .blockSequenceStart
  let s ← s.removeKey
  return ({ s with keyAllowed := true }.skip).push .blockEntry

/-- The question mark before a key. -/
def fetchKey (s : Lexer) : Except Fault Lexer := do
  if s.flow == 0 && !s.keyAllowed then throw .token
  let s ← s.rollIndent s.mark.column none .blockMappingStart
  let s ← s.removeKey
  return ({ s with keyAllowed := s.flow == 0 }.skip).push .key

/-- The colon before a value. If a key was possible before it, that is its key. -/
def fetchValue (s : Lexer) : Except Fault Lexer := do
  let k := s.keys.headD {}
  if ← s.keyValid k then
    let s := s.insert k.number .key
    let s ← s.rollIndent k.mark.column (some k.number) .blockMappingStart
    let s := { s with keys := { k with possible := false } :: s.keys.drop 1, keyAllowed := false }
    return s.skip.push .value
  else
    let s := { s with keys := { k with possible := false } :: s.keys.drop 1 }
    if s.flow == 0 && !s.keyAllowed then throw .token
    let s ← s.rollIndent s.mark.column none .blockMappingStart
    return ({ s with keyAllowed := s.flow == 0 }.skip).push .value

/-- An anchor or alias. -/
def fetchName (token : String → Token) (s : Lexer) : Except Fault Lexer := do
  let s ← s.saveKey
  let (name, s) := ({ s with keyAllowed := false }.skip).takeWhile isWordChar
  let c := s.here
  if name.isEmpty || !(isBlankOrEnd c || c ∈ ['?', ':', ',', ']', '\x7d', '%', '@', Char.ofNat 0x60]) then
    throw .token
  return s.push (token (String.ofList name))

/-- A tag. -/
def fetchTag (s : Lexer) : Except Fault Lexer := do
  let s ← s.saveKey
  let s := { s with keyAllowed := false }
  let (handle, suffix, s) ←
    if s.ahead 1 == '<' then do
      let (text, s) ← takeTagText [] (s.skipMany 2)
      if s.here != '>' then throw .token
      pure ("", text, s.skip)
    else do
      let (handle, s) ← takeHandle false s
      if handle.length > 1 && handle.getLast? == some '!' then
        let (text, s) ← takeTagText [] s
        pure (String.ofList handle, text, s)
      else
        let (text, s) ← takeTagText handle s
        pure (if text.isEmpty then ("", "!", s) else ("!", text, s))
  if !isBlankOrEnd s.here then throw .token
  return s.push (.tag handle suffix)

/-- A quoted scalar. -/
def fetchQuoted (single : Bool) (s : Lexer) : Except Fault Lexer := do
  let s ← s.saveKey
  let (text, s) ← takeQuoted single { s with keyAllowed := false }
  return s.push (.scalar text (if single then .singleQuoted else .doubleQuoted))

/-- A block scalar. -/
def fetchBlock (literal : Bool) (s : Lexer) : Except Fault Lexer := do
  let s ← s.removeKey
  let (text, s) ← takeBlock literal { s with keyAllowed := true }
  return s.push (.scalar text (if literal then .literal else .folded))

/-- A plain scalar. -/
def fetchPlain (s : Lexer) : Except Fault Lexer := do
  let s ← s.saveKey
  let (text, s) ← takePlain { s with keyAllowed := false }
  return s.push (.scalar text .plain)

/-- Characters that begin no plain scalar, dash, question mark and colon apart. -/
def isIndicator (c : Char) : Bool :=
  c ∈ [',', '[', ']', '\x7b', '\x7d', '#', '&', '*', '!', '|', '>', '\'', '"', '%', '@', Char.ofNat 0x60]

/-- Whether a plain scalar may begin with `c`, given the character after it. -/
def beginsPlain (inFlow : Bool) (c next : Char) : Bool :=
  !(isBlankOrEnd c || c == '-' || c == '?' || c == ':' || isIndicator c)
    || (c == '-' && !isBlank next)
    || (!inFlow && (c == '?' || c == ':') && !isBlankOrEnd next)

/-- Cut a token that begins with the current character, inside a document. -/
def fetchContent (s : Lexer) : Except Fault Lexer :=
  let c := s.here
  let next := s.ahead 1
  let inFlow := s.flow > 0
  if c == '[' then s.fetchFlowStart .flowSequenceStart
  else if c == '\x7b' then s.fetchFlowStart .flowMappingStart
  else if c == ']' then s.fetchFlowEnd .flowSequenceEnd
  else if c == '\x7d' then s.fetchFlowEnd .flowMappingEnd
  else if c == ',' then s.fetchFlowEntry
  else if c == '-' && isBlankOrEnd next then s.fetchBlockEntry
  else if c == '?' && (inFlow || isBlankOrEnd next) then s.fetchKey
  else if c == ':' && (inFlow || isBlankOrEnd next) then s.fetchValue
  else if c == '*' then s.fetchName .alias
  else if c == '&' then s.fetchName .anchor
  else if c == '!' then s.fetchTag
  else if c == '|' && !inFlow then s.fetchBlock true
  else if c == '>' && !inFlow then s.fetchBlock false
  else if c == '\'' then s.fetchQuoted true
  else if c == '"' then s.fetchQuoted false
  else if beginsPlain inFlow c next then s.fetchPlain
  else .error .token

/-- Cut the next token. -/
def fetch (s : Lexer) : Except Fault Lexer := do
  if !s.started then
    return { s with indent := -1, keys := [{}], keyAllowed := true, started := true }.push .streamStart
  let s := skipToToken (s.rest.length + 1) s
  let s := s.unrollIndent s.mark.column
  if isEnd s.here then s.fetchEnd
  else if s.mark.column == 0 && s.here == '%' then s.fetchDirective
  else if s.atIndicator '-' then s.fetchIndicator .documentStart
  else if s.atIndicator '.' then s.fetchIndicator .documentEnd
  else do
    let s ← s.fetchContent
    return if s.queue.getLast? == some .blockEntry then s else s.skipLineComment

/-- Whether the first token of the queue may still turn out to be the start of a key. -/
def headUnsettled (s : Lexer) : Except Fault Bool :=
  match s.keys.find? fun k => k.possible && k.number == s.taken with
  | some k => s.keyValid k
  | none => .ok false

/-- Cut tokens until the first one is settled and two more are there. -/
def fill : Nat → Lexer → Except Fault Lexer
  | 0, _ => .error .token
  | fuel + 1, s => do
    if s.queue.length > 2 && !(← s.headUnsettled) then return s
    fill fuel (← s.fetch)

/-- The first token. -/
def peek (s : Lexer) : Except Fault (Token × Lexer) := do
  let s ← fill (s.rest.length + 16) s
  return (s.queue.headD .streamEnd, s)

/-- Take the first token away. -/
def drop (s : Lexer) : Lexer := { s with queue := s.queue.drop 1, taken := s.taken + 1 }

end BlitReel.Yaml.Lexer
