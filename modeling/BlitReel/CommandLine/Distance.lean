/-!
# The distance of words

The least number of characters to insert, take away or change that turns one word into another. It
finds the names that a user may have meant.
-/

namespace BlitReel.CommandLine

/-- The rest of a row of distances, right of `left`. The row above starts with the distance
diagonally above. -/
def rowRest (c : Char) : List Char → List Nat → Nat → List Nat
  | d :: word, diagonal :: above :: more, left =>
    let here := min (min (above + 1) (left + 1)) (if c == d then diagonal else diagonal + 1)
    here :: rowRest c word (above :: more) here
  | _, _, _ => []

/-- The row of distances for one more character, below a row. -/
def nextRow (word : List Char) (row : List Nat) (c : Char) : List Nat :=
  let left := row.headD 0 + 1
  left :: rowRest c word row left

/-- The distance of two words. -/
def distance (a b : List Char) : Nat :=
  (a.foldl (nextRow b) (List.range (b.length + 1))).getLastD 0

end BlitReel.CommandLine
