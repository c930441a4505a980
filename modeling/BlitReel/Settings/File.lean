import BlitReel.Files.FileTree
import BlitReel.Settings.Basic
import BlitReel.Timestamp
import BlitReel.Yaml.Resolve

/-!
# Settings files

A settings file is a mapping whose keys name settings. A value of the wrong type is a fault, but
the other keys still count; a repeated key spoils the whole mapping. Merged mappings give values for
keys that the mapping itself does not have.
-/

namespace BlitReel.Settings

open Yaml (Node Meaning)

/-- Settings while a file is read over them. -/
structure Filling where
  value : Settings
  /-- Nothing was of the wrong type. -/
  sound : Bool := true
  /-- Reading stopped where the file could not be understood. -/
  stopped : Bool := false

/-- The whole number that a meaning can stand for; a fraction is cut off. -/
def wholeNumber? : Meaning → Option Int64
  | .int n => if n < 0x8000000000000000 then some (Int64.ofInt n) else none
  | .float x => if x ≤ 9223372036854775808.0 then some (Binary64.toWord x) else none
  | _ => none

/-- The number that a meaning can stand for. -/
def number? : Meaning → Option Float
  | .int n => some (Float.ofInt n)
  | .float x => some x
  | _ => none

/-- The truth value that a meaning can stand for; several words of consent and refusal do. -/
def truth? : Meaning → Option Bool
  | .bool b => some b
  | .text s =>
    if s ∈ ["y", "Y", "yes", "Yes", "YES", "on", "On", "ON"].map Octets.ofString then some true
    else if s ∈ ["n", "N", "no", "No", "NO", "off", "Off", "OFF"].map Octets.ofString then some false
    else none
  | _ => none

/-- The text that a scalar can stand for: its meaning if that is a text, else its spelling. -/
def words (spelling : String) : Meaning → Octets
  | .text s => s
  | _ => Octets.ofString spelling

/-- Set one setting from a scalar that is not null. -/
def setScalar (s : Settings) (name spelling : String) (m : Meaning) : Option Settings :=
  match name with
  | "width" => (wholeNumber? m).map ({ s with width := · })
  | "height" => (wholeNumber? m).map ({ s with height := · })
  | "fps" => (number? m).map ({ s with fps := · })
  | "slug" => some { s with slug := words spelling m }
  | "start" => some { s with start := words spelling m }
  | "duration" => some { s with duration := words spelling m }
  | "workers" => (wholeNumber? m).map ({ s with workers := some · })
  | "ffmpeg_path" => some { s with ffmpegPath := words spelling m }
  | "log_level" => some { s with logLevel := words spelling m }
  | "debug" => (truth? m).map ({ s with debug := · })
  | "preview" => (truth? m).map ({ s with preview := · })
  | "preview_scale" => (wholeNumber? m).map ({ s with previewScale := · })
  | "listen" => some { s with listen := words spelling m }
  | "root" => some { s with root := words spelling m }
  | _ => some s

/-- The names of settings. -/
def names : List String :=
  ["width", "height", "fps", "slug", "start", "duration", "workers", "ffmpeg_path", "log_level", "debug",
    "preview", "preview_scale", "listen", "root"]

/-- A mark by which two keys of a mapping count as the same: its kind of node and its spelling. -/
def keyMark : Node → Nat × String
  | .scalar _ text _ => (0, text)
  | .sequence _ => (1, "")
  | .mapping _ => (2, "")
  | .alias name _ => (3, name)

/-- Whether a mark occurs twice. -/
def repeats : List (Nat × String) → Bool
  | [] => false
  | m :: rest => rest.contains m || repeats rest

/-- Whether a key asks for other mappings to be merged in. -/
def isMerge : Node → Bool
  | .scalar tag text style =>
    text == "<<" && ((tag.isEmpty && style == .plain) || (!tag.isEmpty && Yaml.Kind.ofTag tag == .merge))
  | _ => false

/-- What a key turns out to be. -/
inductive Key where
  | named (name : String)
  | absent
  | wrong
  | stop

/-- The key that a node is. -/
def keyOf (anchored : List (Nat × Node)) : Nat → List Nat → Node → Key
  | 0, _, _ => .stop
  | _ + 1, _, .scalar tag text style =>
    match Yaml.meaning? tag text style with
    | none => .stop
    | some .null => .absent
    | some m => .named (Utf8.text (words text m))
  | fuel + 1, seen, .alias _ id =>
    if seen.contains id then .stop
    else match anchored.lookup id with
      | some n => keyOf anchored fuel (id :: seen) n
      | none => .stop
  | _ + 1, _, _ => .wrong

/-- Set one setting from the node of its value. -/
def setNode (anchored : List (Nat × Node)) (f : Filling) (name : String) : Nat → List Nat → Node → Filling
  | 0, _, _ => { f with stopped := true }
  | _ + 1, _, .scalar tag text style =>
    match Yaml.meaning? tag text style with
    | none => { f with stopped := true }
    | some .null => f
    | some m =>
      match setScalar f.value name text m with
      | some value => { f with value }
      | none => { f with sound := false }
  | fuel + 1, seen, .alias _ id =>
    if seen.contains id then { f with stopped := true }
    else match anchored.lookup id with
      | some n => setNode anchored f name fuel (id :: seen) n
      | none => { f with stopped := true }
  | _ + 1, _, _ => { f with sound := false }

/-- The passage through the pairs of a mapping. -/
structure Passage where
  filling : Filling
  /-- Keys that a mapping which merges this one in already has, when there is one. -/
  taken : Option (List String)
  /-- Settings that this mapping has set. -/
  done : List String := []

/-- Take one pair of a mapping. -/
def takePair (anchored : List (Nat × Node)) (fuel : Nat) (p : Passage) (pair : Node × Node) : Passage :=
  if p.filling.stopped || isMerge pair.1 then p
  else match keyOf anchored fuel [] pair.1 with
    | .stop => { p with filling := { p.filling with stopped := true } }
    | .absent => p
    | .wrong => { p with filling := { p.filling with sound := false } }
    | .named name =>
      if (p.taken.getD []).contains name then p
      else
        let p := { p with taken := p.taken.map (name :: ·) }
        if !names.contains name then p
        else if p.done.contains name then { p with filling := { p.filling with sound := false } }
        else { p with
          filling := setNode anchored p.filling name fuel [] pair.2
          done := name :: p.done }

/-- The node that a mapping asks to merge in. -/
def mergeNode? (pairs : List (Node × Node)) : Option Node :=
  (pairs.reverse.find? fun pair => isMerge pair.1).map (·.2)

/-- The names of keys that are texts. -/
def keyNames (anchored : List (Nat × Node)) (fuel : Nat) (pairs : List (Node × Node)) : List String :=
  pairs.filterMap fun pair => match keyOf anchored fuel [] pair.1 with
    | .named name => some name
    | _ => none

mutual

/-- Fill settings from a mapping and what it merges in. -/
def fillMapping (anchored : List (Nat × Node)) :
    Nat → List Nat → List (Node × Node) → Filling → Option (List String) → Filling × Option (List String)
  | 0, _, _, f, taken => ({ f with stopped := true }, taken)
  | fuel + 1, seen, pairs, f, taken =>
    if repeats (pairs.map (keyMark ·.1)) then ({ f with sound := false }, taken)
    else
      let p := pairs.foldl (takePair anchored fuel) { filling := f, taken := taken }
      match mergeNode? pairs with
      | none => (p.filling, p.taken)
      | some n =>
        if p.filling.stopped then (p.filling, p.taken)
        else
          let keys := p.taken.getD (keyNames anchored fuel pairs)
          let (f, keys) := merge anchored fuel seen n p.filling keys
          (f, p.taken.map fun _ => keys)

/-- Merge in a mapping, an alias of one, or a sequence of those. -/
def merge (anchored : List (Nat × Node)) :
    Nat → List Nat → Node → Filling → List String → Filling × List String
  | 0, _, _, f, keys => ({ f with stopped := true }, keys)
  | fuel + 1, seen, .sequence items, f, keys => mergeAll anchored fuel seen items f keys
  | fuel + 1, seen, n, f, keys => mergeOne anchored fuel seen n f keys

/-- Merge in mappings and aliases of mappings, one after the other. -/
def mergeAll (anchored : List (Nat × Node)) :
    Nat → List Nat → List Node → Filling → List String → Filling × List String
  | 0, _, _, f, keys => ({ f with stopped := true }, keys)
  | _ + 1, _, [], f, keys => (f, keys)
  | fuel + 1, seen, n :: rest, f, keys =>
    let (f, keys) := mergeOne anchored fuel seen n f keys
    if f.stopped then (f, keys) else mergeAll anchored fuel seen rest f keys

/-- Merge in a mapping or an alias of one. -/
def mergeOne (anchored : List (Nat × Node)) :
    Nat → List Nat → Node → Filling → List String → Filling × List String
  | 0, _, _, f, keys => ({ f with stopped := true }, keys)
  | fuel + 1, seen, .mapping pairs, f, keys =>
    let (f, taken) := fillMapping anchored fuel seen pairs f (some keys)
    (f, taken.getD keys)
  | fuel + 1, seen, .alias _ id, f, keys =>
    if seen.contains id then ({ f with stopped := true }, keys)
    else match anchored.lookup id with
      | some (.mapping pairs) =>
        let (f, taken) := fillMapping anchored fuel (id :: seen) pairs f (some keys)
        (f, taken.getD keys)
      | _ => ({ f with stopped := true }, keys)
  | _ + 1, _, _, f, keys => ({ f with stopped := true }, keys)

end

/-- Fill settings from the root of a document. -/
def fillRoot (anchored : List (Nat × Node)) (fuel : Nat) (f : Filling) : Node → Filling
  | .mapping pairs => (fillMapping anchored fuel [] pairs f none).1
  | .scalar tag text style =>
    match Yaml.meaning? tag text style with
    | none => { f with stopped := true }
    | some .null => f
    | some _ => { f with sound := false }
  | _ => { f with sound := false }

/-- How messages speak of a settings file that is not well formed or does not fit. -/
def malformed : String := "malformed settings"

/-- Read a settings file over settings. What was read before a fault counts. -/
def overlay (s : Settings) (data : Octets) : Settings × Bool :=
  match Yaml.read data with
  | .error _ => (s, false)
  | .ok none => (s, true)
  | .ok (some d) =>
    let f := fillRoot d.anchored (data.length + 100) ⟨s, true, false⟩ d.root
    (f.value, f.sound && !f.stopped)

/-- Load the settings file at a path over the defaults. -/
def load (t : FileTree) (path : Octets) : Settings × Except Failure Unit :=
  match t.content path with
  | .error f => ({}, .error (f.within ("config: read " ++ Utf8.text path)))
  | .ok data =>
    match overlay {} data with
    | (s, true) => (s, .ok ())
    | (s, false) => (s, .error ⟨.settings, "config: parse " ++ Utf8.text path ++ ": " ++ malformed⟩)

end BlitReel.Settings
