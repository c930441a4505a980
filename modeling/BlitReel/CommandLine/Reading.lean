import BlitReel.CommandLine.Spec

/-!
# Reading command lines

Arguments are taken one after the other. An argument that starts with two dashes is a long flag, with
its value behind an equals sign or in the next argument; one that starts with one dash is a cluster of
short flags, the last of which may be followed by its value; two dashes alone say that only operands
follow. Of a flag that is given twice the last value counts.
-/

namespace BlitReel.CommandLine

/-- What has been read of a command line. -/
structure Reading where
  /-- A flag whose value comes next. -/
  awaiting? : Option Flag := none
  operandsOnly : Bool := false
  values : List (String × Value) := []
  operands : List Octets := []

namespace Reading

/-- Two dashes. -/
def dashes : Octets := Octets.ofString "--"

/-- Whether an argument looks like a flag; one dash alone does not. -/
def looksLikeFlag (s : Octets) : Bool := s.head? == some 0x2D && s.length > 1

/-- The names that may have been meant: those that start with what was given, or are not far off. -/
def closeTo (spec : Spec) (spelling : Octets) : List String :=
  let given := Utf8.text spelling
  (spec.allFlags.flatMap Flag.spellings).filter fun name =>
    name.startsWith given || distance name.toList given.toList ≤ 2

/-- A flag that the program does not have. -/
def unknown (spec : Spec) (spelling : Octets) : Fault := .unknownFlag spelling (closeTo spec spelling)

/-- Set a flag. -/
def put (r : Reading) (f : Flag) (v : Value) : Reading :=
  { r with awaiting? := none, values := r.values ++ [(f.name, v)] }

/-- Give a flag a value. -/
def assign (r : Reading) (f : Flag) (s : Octets) : Except Fault Reading := (f.read s).map (r.put f)

/-- Take an operand. -/
def takeOperand (spec : Spec) (r : Reading) (s : Octets) : Except Fault Reading :=
  if r.operands.length < spec.operands.length then .ok { r with operands := r.operands ++ [s] }
  else .error (.unexpected s)

/-- Take a long flag, without its dashes. -/
def takeLong (spec : Spec) (r : Reading) (s : Octets) : Except Fault Reading :=
  let name := s.takeWhile (· != 0x3D)
  let value? := if name.length < s.length then some (s.drop (name.length + 1)) else none
  match spec.allFlags.find? fun f => Octets.ofString f.name == name with
  | none => .error (unknown spec (dashes ++ name))
  | some f =>
    match value?, f.kind with
    | some v, _ => r.assign f v
    | none, .switch => .ok (r.put f (.switch true))
    | none, _ => .ok { r with awaiting? := some f }

/-- Take a cluster of short flags, without its dash. -/
def takeCluster (spec : Spec) (r : Reading) : Octets → Except Fault Reading
  | [] => .ok r
  | b :: tail =>
    match spec.allFlags.find? fun f => f.short?.map (fun c => c.toNat) == some b.toNat with
    | none => .error (unknown spec [0x2D, b])
    | some f =>
      if f.kind == .switch then takeCluster spec (r.put f (.switch true)) tail
      else if tail.isEmpty then .ok { r with awaiting? := some f }
      else r.assign f tail

/-- Take an argument. -/
def take (spec : Spec) (r : Reading) (s : Octets) : Except Fault Reading :=
  match r.awaiting? with
  | some f => if looksLikeFlag s then .error (.noValue f (some s)) else r.assign f s
  | none =>
    if r.operandsOnly then takeOperand spec r s
    else if s == dashes then .ok { r with operandsOnly := true }
    else if dashes.isPrefixOf s then takeLong spec r (s.drop 2)
    else if looksLikeFlag s then takeCluster spec r (s.drop 1)
    else takeOperand spec r s

/-- The operands that are missing. -/
def missing (spec : Spec) (r : Reading) : List String :=
  ((spec.operands.drop r.operands.length).filter (·.required)).map (·.name)

/-- The last value of a flag. -/
def last? (r : Reading) (name : String) : Option Value := (r.values.reverse.find? (·.1 == name)).map (·.2)

/-- Whether a switch is on. -/
def isOn (r : Reading) (name : String) : Bool :=
  match r.last? name with
  | some (.switch b) => b
  | _ => false

/-- The whole number that a flag was given. -/
def int? (r : Reading) (name : String) : Option Int64 :=
  match r.last? name with
  | some (.int n) => some n
  | _ => none

/-- The number that a flag was given. -/
def float? (r : Reading) (name : String) : Option Float :=
  match r.last? name with
  | some (.float x) => some x
  | _ => none

/-- The text that a flag was given. -/
def text? (r : Reading) (name : String) : Option Octets :=
  match r.last? name with
  | some (.text s) => some s
  | _ => none

/-- The operand at a place. -/
def operand? (r : Reading) (i : Nat) : Option Octets := r.operands[i]?

/-- Whether the user asks for help. -/
def wantsHelp (r : Reading) : Bool := (r.last? helpFlag.name).isSome

end Reading

/-- Read a command line. One who asks for help need not give operands. -/
def read (spec : Spec) (arguments : List Octets) : Except Fault Reading := do
  let r ← arguments.foldlM (Reading.take spec) {}
  match r.awaiting? with
  | some f => throw (.noValue f none)
  | none =>
    let names := r.missing spec
    if r.wantsHelp || names.isEmpty then return r else throw (.missing names)

/-- What a program writes about a faulty command line: its name stands before the first line, and the
others are set in below it. -/
def complaint (program message : String) : String :=
  let leader := program ++ ": error: "
  let indent := String.ofList (List.replicate leader.length ' ')
  match (dropLineEnds message).splitOn "\n" with
  | [] => leader ++ "\n"
  | first :: rest => leader ++ first ++ "\n" ++ String.join (rest.map fun line => indent ++ line ++ "\n")
where
  dropLineEnds (s : String) : String := String.ofList (s.toList.reverse.dropWhile (· == '\n')).reverse

end BlitReel.CommandLine
