/-!
# Documents

A document is a JSON value. Numbers keep their spelling and objects the order and the repetitions
of their members, because what a reader makes of them depends on both.
-/

namespace BlitReel

/-- A JSON value. -/
inductive Json where
  | null
  | bool (b : Bool)
  | number (literal : String)
  | string (s : String)
  | array (items : List Json)
  | object (members : List (String × Json))
  deriving Inhabited

namespace Json

/-- The number that spells a whole number. -/
def ofInt (n : Int) : Json := .number (toString n)

/-- The number that spells a natural. -/
def ofNat (n : Nat) : Json := .number (toString n)

/-- The last member of that very name. -/
def member? (j : Json) (name : String) : Option Json :=
  match j with
  | .object members => (members.reverse.find? (·.1 == name)).map (·.2)
  | _ => none

end Json

end BlitReel
