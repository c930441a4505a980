import BlitReel.Json.Value
import BlitReel.Text.Quoted

/-!
# Writing documents

Text is written so that it may stand inside a web page: besides quotes, backslashes and control
characters, the characters `<`, `>`, `&` and the two Unicode line separators are escaped.
-/

namespace BlitReel.Json

/-- A character inside a string literal. -/
def writeChar (c : Char) : List Char :=
  match c with
  | '"' => ['\\', '"']
  | '\\' => ['\\', '\\']
  | '\n' => ['\\', 'n']
  | '\r' => ['\\', 'r']
  | '\t' => ['\\', 't']
  | c =>
    if c.toNat == 8 then ['\\', 'b']
    else if c.toNat == 12 then ['\\', 'f']
    else if c.toNat < 0x20 || c == '<' || c == '>' || c == '&' || c.toNat == 0x2028 || c.toNat == 0x2029 then
      '\\' :: 'u' :: Quoted.hexDigits 4 c.toNat
    else [c]

/-- A string literal. -/
def writeText (s : String) : List Char := '"' :: s.toList.flatMap writeChar ++ ['"']

/-- A line break and two spaces for each level. -/
def newline (level : Nat) : List Char := '\n' :: List.replicate (2 * level) ' '

/-- Join parts with a separator. -/
def joinWith (sep : List Char) (parts : List (List Char)) : List Char :=
  (parts.intersperse sep).flatten

mutual

/-- A value without blanks. -/
def compactChars : Json → List Char
  | .null => ['n', 'u', 'l', 'l']
  | .bool true => ['t', 'r', 'u', 'e']
  | .bool false => ['f', 'a', 'l', 's', 'e']
  | .number literal => literal.toList
  | .string s => writeText s
  | .array items => '[' :: joinWith [','] (compactItems items) ++ [']']
  | .object members => '\x7b' :: joinWith [','] (compactMembers members) ++ ['\x7d']

/-- The items of an array without blanks. -/
def compactItems : List Json → List (List Char)
  | [] => []
  | v :: rest => compactChars v :: compactItems rest

/-- The members of an object without blanks. -/
def compactMembers : List (String × Json) → List (List Char)
  | [] => []
  | (k, v) :: rest => (writeText k ++ ':' :: compactChars v) :: compactMembers rest

end

mutual

/-- A value at a level of indentation, one item or member a line. -/
def indentedChars (level : Nat) : Json → List Char
  | .array items =>
    if items.isEmpty then ['[', ']']
    else
      '[' :: newline (level + 1) ++ joinWith (',' :: newline (level + 1)) (indentedItems (level + 1) items)
        ++ newline level ++ [']']
  | .object members =>
    if members.isEmpty then ['\x7b', '\x7d']
    else
      '\x7b' :: newline (level + 1)
        ++ joinWith (',' :: newline (level + 1)) (indentedMembers (level + 1) members)
        ++ newline level ++ ['\x7d']
  | .null => ['n', 'u', 'l', 'l']
  | .bool true => ['t', 'r', 'u', 'e']
  | .bool false => ['f', 'a', 'l', 's', 'e']
  | .number literal => literal.toList
  | .string s => writeText s

/-- The items of an array, indented. -/
def indentedItems (level : Nat) : List Json → List (List Char)
  | [] => []
  | v :: rest => indentedChars level v :: indentedItems level rest

/-- The members of an object, indented. -/
def indentedMembers (level : Nat) : List (String × Json) → List (List Char)
  | [] => []
  | (k, v) :: rest => (writeText k ++ ':' :: ' ' :: indentedChars level v) :: indentedMembers level rest

end

/-- A value on one line. -/
def compact (j : Json) : String := String.ofList (compactChars j)

/-- A value over several lines, indented by two spaces. -/
def indented (j : Json) : String := String.ofList (indentedChars 0 j)

end BlitReel.Json
