import BlitReel.Template.Value

/-!
# Message templates

A template is a text with directives such as `%d`, `%.2f` or `%-8s`, each of which stands for a
value. `Template.fill` is the message. A template never fails: directives without a value, values
without a directive and verbs that a value does not know leave a note in the message.
-/

namespace BlitReel.Template

/-- The place reached in a template. -/
structure Cursor where
  rest : List Char
  /-- The number of the next value. -/
  next : Nat := 0
  /-- Whether the last thing read was a value number such as `[3]`. -/
  numbered : Bool := false
  /-- Whether all value numbers of the directive could be used. -/
  sound : Bool := true
  /-- Whether any directive had a value number. -/
  reordered : Bool := false

/-- The greatest width or precision that counts. -/
def limit : Nat := 1000000

/-- The decimal number in front, and what follows it. A number that is too long swallows all. -/
def number (cs : List Char) : Option Nat × List Char :=
  let ds := cs.takeWhile Char.isDigit
  let rec value : List Char → Nat → Option Nat
    | [], n => some n
    | d :: ds, n => if n > limit then none else value ds (n * 10 + (d.toNat - 48))
  if ds.isEmpty then (none, cs)
  else match value ds 0 with
    | some n => (some n, cs.drop ds.length)
    | none => (none, [])

/-- The value number in brackets: what it counts from one, if it is a number, and the rest. -/
def bracketed (cs : List Char) : Option Nat × List Char :=
  let inside := (cs.drop 1).takeWhile (· != ']')
  if cs.length < 3 || inside.length + 1 == cs.length then (none, cs.drop 1)
  else
    let rest := cs.drop (inside.length + 2)
    match number inside with
    | (some n, []) => (some n, rest)
    | _ => (none, rest)

namespace Cursor

/-- Read a value number, if one stands here. -/
def valueNumber (c : Cursor) (count : Nat) : Cursor :=
  if c.rest.head? != some '[' then { c with numbered := false }
  else
    let c := { c with reordered := true }
    match bracketed c.rest with
    | (some n, rest) =>
      if 1 ≤ n && n ≤ count then { c with rest, next := n - 1, numbered := true }
      else { c with rest, sound := false, numbered := true }
    | (none, rest) => { c with rest, sound := false, numbered := false }

/-- The whole number that `*` takes from the values, within the limit. -/
def starred (c : Cursor) (values : List Value) : Option Int × Cursor :=
  let c := { c with rest := c.rest.drop 1, numbered := false }
  match values[c.next]? with
  | none => (none, c)
  | some v =>
    let c := { c with next := c.next + 1 }
    match v with
    | .int n => if n.toInt.natAbs > limit then (none, c) else (some n.toInt, c)
    | _ => (none, c)

/-- The width of a directive, with the note it leaves. -/
def width (c : Cursor) (values : List Value) (s : Spec) : Spec × List Char × Cursor :=
  if c.rest.head? == some '*' then
    match c.starred values with
    | (none, c) => (s, "%!(BADWIDTH)".toList, c)
    | (some n, c) =>
      if n < 0 then ({ s with width? := some n.natAbs, minus := true, zero := false }, [], c)
      else ({ s with width? := some n.toNat }, [], c)
  else
    let (width?, rest) := number c.rest
    ({ s with width? }, [], { c with rest, sound := c.sound && !(c.numbered && width?.isSome) })

/-- The precision of a directive, with the note it leaves. -/
def precision (c : Cursor) (values : List Value) (s : Spec) : Spec × List Char × Cursor :=
  if c.rest.head? != some '.' then (s, [], c)
  else
    let c := { c with rest := c.rest.drop 1, sound := c.sound && !c.numbered }
    let c := c.valueNumber values.length
    if c.rest.head? == some '*' then
      match c.starred values with
      | (some (.ofNat n), c) => ({ s with precision? := some n }, [], c)
      | (_, c) => (s, "%!(BADPREC)".toList, c)
    else
      let (n?, rest) := number c.rest
      ({ s with precision? := some (n?.getD 0) }, [], { c with rest })

end Cursor

/-- The flags in front, and what follows them. -/
def flags : List Char → Spec → Spec × List Char
  | [], s => (s, [])
  | c :: rest, s =>
    match c with
    | '#' => flags rest { s with sharp := true }
    | '0' => flags rest { s with zero := !s.minus }
    | '+' => flags rest { s with plus := true }
    | '-' => flags rest { s with minus := true, zero := false }
    | ' ' => flags rest { s with space := true }
    | _ => (s, c :: rest)

/-- The verb `v` reads the sharp and plus flags in its own way. -/
def Spec.forVerb (s : Spec) (verb : Char) : Spec :=
  if verb == 'v' || verb == 'w' then { s with verbatim := s.sharp, sharp := false, plus := false } else s

/-- The text of the directive that starts after a percent sign, and the place after it. -/
def directive (values : List Value) (c : Cursor) : List Char × Cursor :=
  let (s, rest) := flags c.rest {}
  let c := { c with rest, sound := true }.valueNumber values.length
  let (s, note, c) := c.width values s
  let (s, note', c) := c.precision values s
  let c := if c.numbered then c else c.valueNumber values.length
  let notes := note ++ note'
  match c.rest with
  | [] => (notes ++ "%!(NOVERB)".toList, c)
  | verb :: rest =>
    let c := { c with rest }
    let complain (what : String) : List Char := '%' :: '!' :: verb :: what.toList
    if verb == '%' then (notes ++ ['%'], c)
    else if !c.sound then (notes ++ complain "(BADINDEX)", c)
    else match values[c.next]? with
      | none => (notes ++ complain "(MISSING)", c)
      | some v => (notes ++ v.form (s.forVerb verb) verb, { c with next := c.next + 1 })

/-- The message up to the end of the template, in reverse, and the place reached. Every directive
takes at least its percent sign, so the length of the template is fuel enough. -/
def fillAux (values : List Value) : Nat → Cursor → List Char → List Char × Cursor
  | 0, c, done => (done, c)
  | fuel + 1, c, done =>
    match c.rest with
    | [] => (done, c)
    | '%' :: rest =>
      let (t, c) := directive values { c with rest }
      fillAux values fuel c (t.reverse ++ done)
    | ch :: rest => fillAux values fuel { c with rest } (ch :: done)

/-- The message of a template filled with values. -/
def fill (template : String) (values : List Value) : String :=
  let cs := template.toList
  let (done, c) := fillAux values cs.length { rest := cs } []
  let left := values.drop c.next
  let extra := if c.reordered || left.isEmpty then []
    else "%!(EXTRA ".toList ++ [',', ' '].intercalate (left.map (Value.describe {})) ++ [')']
  String.ofList (done.reverse ++ extra)

end BlitReel.Template
