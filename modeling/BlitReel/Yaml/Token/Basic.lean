import BlitReel.Yaml.Character

/-!
# Tokens of a settings file

The tokens, and the lexer that cuts characters into them: where it stands, which indentations and
flow collections are open, and which earlier places may turn out to be keys once a colon follows.
-/

namespace BlitReel.Yaml

/-- How a scalar is written. -/
inductive ScalarStyle where
  | plain
  | singleQuoted
  | doubleQuoted
  | literal
  | folded
  deriving DecidableEq

/-- A token. -/
inductive Token where
  | streamStart
  | streamEnd
  | version (major minor : Nat)
  | tagDirective (handle lead : String)
  | documentStart
  | documentEnd
  | blockSequenceStart
  | blockMappingStart
  | blockEnd
  | flowSequenceStart
  | flowSequenceEnd
  | flowMappingStart
  | flowMappingEnd
  | blockEntry
  | flowEntry
  | key
  | value
  | alias (name : String)
  | anchor (name : String)
  | tag (handle suffix : String)
  | scalar (text : String) (style : ScalarStyle)
  deriving DecidableEq, Inhabited

/-- A place in the file. -/
structure Mark where
  index : Nat := 0
  line : Nat := 0
  column : Nat := 0
  deriving DecidableEq, Inhabited

/-- A place where a key without indicator may have begun. -/
structure SimpleKey where
  possible : Bool := false
  /-- Without a colon there the block mapping would be broken. -/
  required : Bool := false
  /-- The number of the token that began there. -/
  number : Nat := 0
  mark : Mark := {}
  deriving Inhabited

/-- The state of the lexer. -/
structure Lexer where
  rest : List Char
  mark : Mark := {}
  /-- Line breaks since the last character that is no blank. -/
  newlines : Nat := 0
  /-- Tokens that have been cut and not yet taken. -/
  queue : List Token := []
  /-- The number of tokens taken. -/
  taken : Nat := 0
  started : Bool := false
  indent : Int := -1
  indents : List Int := []
  keyAllowed : Bool := false
  /-- One place for each open flow collection, the innermost first, and one for the block level. -/
  keys : List SimpleKey := []
  flow : Nat := 0

namespace Lexer

/-- What a character past the end reads as. -/
def endMark : Char := Char.ofNat 0

/-- The character `n` places ahead. -/
def ahead (s : Lexer) (n : Nat) : Char := s.rest.getD n endMark

/-- The next character. -/
def here (s : Lexer) : Char := s.rest.headD endMark

/-- A space or tab. -/
def isBlank (c : Char) : Bool := c == ' ' || c == '\t'

/-- A line break. -/
def isBreak (c : Char) : Bool :=
  c == '\n' || c == '\r' || c.toNat == 0x85 || c.toNat == 0x2028 || c.toNat == 0x2029

/-- The end of the file. -/
def isEnd (c : Char) : Bool := c == endMark

/-- A line break or the end. -/
def isBreakOrEnd (c : Char) : Bool := isBreak c || isEnd c

/-- A blank, a line break or the end. -/
def isBlankOrEnd (c : Char) : Bool := isBlank c || isBreakOrEnd c

/-- Characters of anchors and handles. -/
def isWordChar (c : Char) : Bool := c.isAlphanum || c == '_' || c == '-'

/-- Pass one character that is no line break. -/
def skip (s : Lexer) : Lexer :=
  match s.rest with
  | [] => s
  | c :: r => { s with
      rest := r
      newlines := if isBlank c then s.newlines else 0
      mark := { s.mark with index := s.mark.index + 1, column := s.mark.column + 1 } }

/-- Pass `n` characters that are no line breaks. -/
def skipMany (n : Nat) (s : Lexer) : Lexer := n.repeat skip s

/-- Pass one line break, and give the text it stands for. -/
def takeBreak (s : Lexer) : List Char × Lexer :=
  let pass (n : Nat) (r : List Char) : Lexer := { s with
    rest := r
    newlines := s.newlines + 1
    mark := ⟨s.mark.index + n, s.mark.line + 1, 0⟩ }
  match s.rest with
  | '\r' :: '\n' :: r => (['\n'], pass 2 r)
  | c :: r =>
    if c.toNat == 0x2028 || c.toNat == 0x2029 then ([c], pass 1 r)
    else if isBreak c then (['\n'], pass 1 r)
    else ([], s)
  | [] => ([], s)

/-- Pass one line break. -/
def skipBreak (s : Lexer) : Lexer := s.takeBreak.2

/-- Pass the characters up to the first that fails `p`, and give them. None may be a line break. -/
def takeWhile (p : Char → Bool) (s : Lexer) : List Char × Lexer :=
  let cs := s.rest.takeWhile p
  (cs, s.skipMany cs.length)

/-- Pass blanks. -/
def skipBlanks (s : Lexer) : Lexer := (s.takeWhile isBlank).2

/-- Pass what is left of the line. -/
def skipLineRest (s : Lexer) : Lexer := (s.takeWhile fun c => !isBreakOrEnd c).2

/-- Put a token at the end of the queue. -/
def push (t : Token) (s : Lexer) : Lexer := { s with queue := s.queue ++ [t] }

/-- Put a token before the one with the given number. -/
def insert (number : Nat) (t : Token) (s : Lexer) : Lexer :=
  let i := number - s.taken
  { s with queue := s.queue.take i ++ t :: s.queue.drop i }

/-- Three of the given character at the start of a line, followed by a blank or an end. -/
def atIndicator (c : Char) (s : Lexer) : Bool :=
  s.mark.column == 0 && s.ahead 0 == c && s.ahead 1 == c && s.ahead 2 == c && isBlankOrEnd (s.ahead 3)

/-- At a document start or end. -/
def atDocumentIndicator (s : Lexer) : Bool := s.atIndicator '-' || s.atIndicator '.'

end Lexer

end BlitReel.Yaml
