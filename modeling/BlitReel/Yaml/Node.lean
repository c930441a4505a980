import BlitReel.Yaml.Token.Fetch

/-!
# Nodes of a settings file

The first document of a file as a tree of scalars, sequences and mappings. An alias refers to an
anchored node by number; the nodes that have one are kept in a table beside the tree, because a
node may contain an alias to itself.
-/

namespace BlitReel.Yaml

/-- A node. The tag of a scalar is empty when it has none or the non-specific one. -/
inductive Node where
  | scalar (tag text : String) (style : ScalarStyle)
  | sequence (items : List Node)
  | mapping (pairs : List (Node × Node))
  | alias (name : String) (target : Nat)
  deriving Inhabited

/-- The first document of a file. -/
structure Document where
  root : Node
  /-- The anchored nodes by number. -/
  anchored : List (Nat × Node)

/-- The state of reading nodes. -/
structure Reading where
  lexer : Lexer
  /-- Handles of tags and what they stand for. -/
  handles : List (String × String) := []
  /-- The latest node of each anchor name. -/
  anchors : List (String × Nat) := []
  anchored : List (Nat × Node) := []
  next : Nat := 0

/-- Reading nodes. -/
abbrev Reader := StateT Reading (Except Fault)

namespace Reader

/-- The next token. -/
def peek : Reader Token := do
  let r ← get
  let (t, lexer) ← r.lexer.peek
  set { r with lexer }
  return t

/-- Take the next token away, and give the one after it. -/
def advance : Reader Token := do
  modify fun r => { r with lexer := r.lexer.drop }
  peek

/-- Take the next token away. -/
def drop : Reader Unit := modify fun r => { r with lexer := r.lexer.drop }

/-- Fail because the tokens form no node here. -/
def bad {α : Type} : Reader α := throw .node

/-- A scalar that is not written. -/
def empty : Node := .scalar "" "" .plain

/-- The tag that a handle and a suffix name. -/
def resolveTag (handle suffix : String) : Reader String := do
  if handle.isEmpty then return suffix
  match (← get).handles.lookup handle with
  | some lead => if (lead ++ suffix).isEmpty then bad else return lead ++ suffix
  | none => bad

/-- Give an anchor name to the node that begins here. -/
def bindAnchor (name? : Option String) : Reader (Option Nat) :=
  match name? with
  | none => return none
  | some name => do
    let r ← get
    set { r with anchors := (name, r.next) :: r.anchors, next := r.next + 1 }
    return some r.next

/-- Record a finished node under its number. -/
def finish (id? : Option Nat) (n : Node) : Reader Node := do
  match id? with
  | some id => modify fun r => { r with anchored := (id, n) :: r.anchored }
  | none => pure ()
  return n

/-- Anchor and tag before a node, in either order, and the token after them. -/
def properties : Reader (Option String × Option (String × String) × Token) := do
  match ← peek with
  | .anchor a => match ← advance with
    | .tag h s => return (some a, some (h, s), ← advance)
    | t => return (some a, none, t)
  | .tag h s => match ← advance with
    | .anchor a => return (some a, some (h, s), ← advance)
    | t => return (none, some (h, s), t)
  | t => return (none, none, t)

mutual

/-- A node. In a block mapping a sequence may stand at the indentation of its key. -/
def node : Nat → Bool → Bool → Reader Node
  | 0, _, _ => bad
  | fuel + 1, block, indentless => do
    match ← peek with
    | .alias name =>
      match (← get).anchors.lookup name with
      | some id =>
        drop
        return .alias name id
      | none => throw .anchor
    | _ =>
      let (anchor?, tag?, t) ← properties
      let tag ← match tag? with
        | some (h, s) => resolveTag h s
        | none => pure ""
      let id? ← bindAnchor anchor?
      match t with
      | .blockEntry =>
        if indentless then finish id? (.sequence (← indentlessItems fuel []))
        else if anchor?.isSome || !tag.isEmpty then finish id? (.scalar (if tag == "!" then "" else tag) "" .plain)
        else bad
      | .scalar text style =>
        drop
        finish id? (.scalar (if tag == "!" then "" else tag) text style)
      | .flowSequenceStart =>
        drop
        finish id? (.sequence (← flowItems fuel true []))
      | .flowMappingStart =>
        drop
        finish id? (.mapping (← flowPairs fuel true []))
      | .blockSequenceStart =>
        if block then
          drop
          finish id? (.sequence (← blockItems fuel []))
        else bad
      | .blockMappingStart =>
        if block then
          drop
          finish id? (.mapping (← blockPairs fuel []))
        else bad
      | _ =>
        if anchor?.isSome || !tag.isEmpty then finish id? (.scalar (if tag == "!" then "" else tag) "" .plain)
        else bad

/-- The items of a block sequence. -/
def blockItems : Nat → List Node → Reader (List Node)
  | 0, _ => bad
  | fuel + 1, done => do
    match ← peek with
    | .blockEntry =>
      match ← advance with
      | .blockEntry | .blockEnd => blockItems fuel (empty :: done)
      | _ => blockItems fuel ((← node fuel true false) :: done)
    | .blockEnd =>
      drop
      return done.reverse
    | _ => bad

/-- The items of a sequence at the indentation of its key. -/
def indentlessItems : Nat → List Node → Reader (List Node)
  | 0, _ => bad
  | fuel + 1, done => do
    match ← peek with
    | .blockEntry =>
      match ← advance with
      | .blockEntry | .key | .value | .blockEnd => indentlessItems fuel (empty :: done)
      | _ => indentlessItems fuel ((← node fuel true false) :: done)
    | _ => return done.reverse

/-- The pairs of a block mapping. -/
def blockPairs : Nat → List (Node × Node) → Reader (List (Node × Node))
  | 0, _ => bad
  | fuel + 1, done => do
    match ← peek with
    | .key =>
      let k ← match ← advance with
        | .key | .value | .blockEnd => pure empty
        | _ => node fuel true true
      let v ← blockValue fuel
      blockPairs fuel ((k, v) :: done)
    | .blockEnd =>
      drop
      return done.reverse
    | _ => bad

/-- The value after the key of a block mapping. -/
def blockValue : Nat → Reader Node
  | 0 => bad
  | fuel + 1 => do
    match ← peek with
    | .value =>
      match ← advance with
      | .key | .value | .blockEnd => return empty
      | _ => node fuel true true
    | _ => return empty

/-- The items of a flow sequence; an item may be a single pair. -/
def flowItems : Nat → Bool → List Node → Reader (List Node)
  | 0, _, _ => bad
  | fuel + 1, first, done => do
    let t ← peek
    if t == .flowSequenceEnd then
      drop
      return done.reverse
    let t ← if first then pure t
      else if t == .flowEntry then advance
      else bad
    match t with
    | .key => flowItems fuel false ((← flowSinglePair fuel) :: done)
    | .flowSequenceEnd =>
      drop
      return done.reverse
    | _ => flowItems fuel false ((← node fuel false false) :: done)

/-- A pair that is an item of a flow sequence. -/
def flowSinglePair : Nat → Reader Node
  | 0 => bad
  | fuel + 1 => do
    let k ← match ← advance with
      | .value | .flowEntry | .flowSequenceEnd => do
        drop
        pure empty
      | _ => node fuel false false
    let v ← match ← peek with
      | .value => match ← advance with
        | .flowEntry | .flowSequenceEnd => pure empty
        | _ => node fuel false false
      | _ => pure empty
    return .mapping [(k, v)]

/-- The pairs of a flow mapping. -/
def flowPairs : Nat → Bool → List (Node × Node) → Reader (List (Node × Node))
  | 0, _, _ => bad
  | fuel + 1, first, done => do
    let t ← peek
    if t == .flowMappingEnd then
      drop
      return done.reverse
    let t ← if first then pure t
      else if t == .flowEntry then advance
      else bad
    match t with
    | .key =>
      let k ← match ← advance with
        | .value | .flowEntry | .flowMappingEnd => pure empty
        | _ => node fuel false false
      let v ← match ← peek with
        | .value => match ← advance with
          | .flowEntry | .flowMappingEnd => pure empty
          | _ => node fuel false false
        | _ => pure empty
      flowPairs fuel false ((k, v) :: done)
    | .flowMappingEnd =>
      drop
      return done.reverse
    | _ =>
      let k ← node fuel false false
      flowPairs fuel false ((k, empty) :: done)

end

/-- Handles that are always known. -/
def standardHandles : List (String × String) := [("!", "!"), ("!!", "tag:yaml.org,2002:")]

/-- The directives before a document. The version may be given once and is 1.1, and no handle may
be given twice. -/
def directives : Nat → Bool → List (String × String) → Reader (List (String × String))
  | 0, _, _ => bad
  | fuel + 1, versioned, handles => do
    match ← peek with
    | .version major minor =>
      if versioned || major != 1 || minor != 1 then bad
      else
        drop
        directives fuel true handles
    | .tagDirective handle lead =>
      if (handles.lookup handle).isSome then bad
      else
        drop
        directives fuel versioned (handles ++ [(handle, lead)])
    | _ => return handles ++ standardHandles

/-- What a document contains, after its start has been read. -/
def content (fuel : Nat) : Reader Node := do
  match ← peek with
  | .version .. | .tagDirective .. | .documentStart | .documentEnd | .streamEnd => return empty
  | _ => node fuel true false

/-- The first document, if there is one. What follows its end is looked at only as far as the lexer
cuts ahead. -/
def document (fuel : Nat) : Reader (Option Node) := do
  match ← peek with
  | .streamStart => drop
  | _ => bad
  match ← peek with
  | .streamEnd => return none
  | .version .. | .tagDirective .. | .documentStart =>
    let handles ← directives fuel false []
    modify fun r => { r with handles }
    match ← peek with
    | .documentStart => drop
    | _ => bad
    let n ← content fuel
    let _ ← peek
    return some n
  | _ =>
    modify fun r => { r with handles := standardHandles }
    let n ← node fuel true false
    let _ ← peek
    return some n

end Reader

/-- The first document of a file; none when the file is empty. -/
def read (data : Octets) : Except Fault (Option Document) := do
  let cs ← characters data
  let (root?, r) ← (Reader.document (10 * (cs.length + 10))).run { lexer := { rest := cs } }
  return root?.map (⟨·, r.anchored⟩)

end BlitReel.Yaml
