import Mathlib
import BlitReel.Proofs.Json.Number

/-!
# Documents are read back

`Json.Fits` says that a value can be written so that it is read back: its numbers are spelled as numbers
and its nesting is within bounds. The reader takes the indented text of such a value step by step and
hands the value on (`Fits.reads`), so `Json.read` gives back the value that was written.
-/

namespace BlitReel.Json

open Octets (ofChars)

/-- Every number is spelled as one, and at most so many arrays and objects stand inside each other. -/
inductive Fits : Nat → Json → Prop
  | null (room : Nat) : Fits room .null
  | bool (room : Nat) (b : Bool) : Fits room (.bool b)
  | number (room : Nat) {literal : String} (spelled : IsNumber literal.toList) : Fits room (.number literal)
  | string (room : Nat) (s : String) : Fits room (.string s)
  | array {room : Nat} {items : List Json} (each : ∀ v ∈ items, Fits room v) : Fits (room + 1) (.array items)
  | object {room : Nat} {members : List (String × Json)} (each : ∀ m ∈ members, Fits room m.2) :
      Fits (room + 1) (.object members)

/-- The machine after a step. -/
def resume (fuel : Nat) : Step → Except SyntaxFault (Json × Octets)
  | .more state rest => run fuel state rest
  | .done v rest => .ok (v, rest)
  | .fault f => .error f

theorem run_succ {state : Reading} {s : Octets} {b : UInt8} {rest : Octets} (fuel : Nat)
    (next : s.dropWhile isSpace = b :: rest) : run (fuel + 1) state s = resume fuel (step state b rest) := by
  rw [run, next]
  rfl

/-- One step on an octet that is no blank. -/
theorem run_cons (state : Reading) {b : UInt8} (solid : isSpace b = false) (rest : Octets) (fuel : Nat) :
    run (fuel + 1) state (b :: rest) = resume fuel (step state b rest) :=
  run_succ fuel (by simp [solid])

/-- Blanks before a token do not count. -/
theorem run_blanks {bs : Octets} (blank : ∀ b ∈ bs, isSpace b = true) (fuel : Nat) (state : Reading) (s : Octets) :
    run fuel state (bs ++ s) = run fuel state s := by
  cases fuel with
  | zero => rfl
  | succ fuel => rw [run, run, List.dropWhile_append_of_pos blank]

theorem run_space (fuel : Nat) (state : Reading) (s : Octets) : run fuel state (0x20 :: s) = run fuel state s :=
  run_blanks (show ∀ b ∈ ([0x20] : Octets), isSpace b = true by simp [isSpace]) fuel state s

theorem isSpace_newline (level : Nat) : ∀ b ∈ ofChars (newline level), isSpace b = true := by
  have line : ofChars (newline level) = 0x0A :: List.replicate (2 * level) 0x20 := by
    have spaces (n : Nat) : ofChars (List.replicate n ' ') = List.replicate n 0x20 := by
      induction n with
      | zero => rfl
      | succ n ih =>
        rw [List.replicate_succ, Octets.ofChars_cons, ih]
        rfl
    rw [newline, Octets.ofChars_cons, spaces]
    rfl
  rw [line]
  intro b mem
  rcases List.mem_cons.1 mem with rfl | mem
  · decide
  · rw [List.eq_of_mem_replicate mem]
    decide

/-- The characters are read as the value wherever a value is wanted and there is room for it. -/
structure Reads (room : Nat) (cs : List Char) (j : Json) : Prop where
  first : ∃ b tail, ofChars cs = b :: tail ∧ isSpace b = false ∧ b ≠ 0x5D
  run : ∀ stack : List Open, stack.length + room ≤ maxDepth → ∃ n ≤ (ofChars cs).length, ∀ fuel rest, Stops rest →
    Json.run (fuel + n) ⟨stack, .value⟩ (ofChars cs ++ rest) = resume fuel (deliver stack j rest)

/-- A value that is read in one step. -/
theorem Reads.of_step {room : Nat} {cs : List Char} {j : Json} {b : UInt8} {tail : Octets}
    (octets : ofChars cs = b :: tail)
    (solid : isSpace b = false) (opens : b ≠ 0x5D)
    (step : ∀ stack rest, Stops rest → beginValue stack b (tail ++ rest) = deliver stack j rest) : Reads room cs j := by
  refine ⟨⟨b, tail, octets, solid, opens⟩, fun stack _ => ⟨1, by rw [octets]; simp, fun fuel rest stop => ?_⟩⟩
  rw [octets, List.cons_append, run_cons _ solid, ← step stack rest stop]
  rfl

theorem reads_string (room : Nat) (s : String) : Reads room (writeText s) (.string s) := by
  have octets : ofChars (writeText s) = 0x22 :: (ofChars (s.toList.flatMap writeChar) ++ [0x22]) := by
    rw [writeText, List.cons_append, Octets.ofChars_cons, Octets.ofChars_append]
    rfl
  refine .of_step octets (by decide) (by decide) fun stack rest _ => ?_
  have taken := takeLiteral_write s.toList rest []
  rw [List.reverse_nil, List.nil_append] at taken
  rw [List.append_assoc, List.singleton_append, beginValue, if_neg (by decide), if_neg (by decide), if_pos (by decide),
    taken]
  simp only [literalText_write]

theorem reads_number (room : Nat) {literal : String} (spelled : IsNumber literal.toList) :
    Reads room literal.toList (.number literal) := by
  obtain ⟨b, tail, octets, first⟩ := spelled.first
  have other {x : UInt8} (minus : x ≠ 0x2D) (digit : Octets.isDigit x = false) : b ≠ x := by
    rintro rfl
    rcases first with same | isDigit
    · exact minus same
    · rw [digit] at isDigit
      cases isDigit
  have solid : isSpace b = false := by
    simp [isSpace, other (x := 0x20) (by decide) (by decide), other (x := 0x09) (by decide) (by decide),
      other (x := 0x0A) (by decide) (by decide), other (x := 0x0D) (by decide) (by decide)]
  refine .of_step octets solid (other (by decide) (by decide)) fun stack rest stop => ?_
  have taken := spelled.takeNumber stop
  rw [octets, List.cons_append] at taken
  have text : Utf8.text (b :: tail) = literal := by rw [← octets, Octets.ofChars_toList, Utf8.text_ofString]
  have starts : (b == 0x2D || Octets.isDigit b) = true := by simpa using first
  have apart {x : UInt8} (minus : x ≠ 0x2D) (digit : Octets.isDigit x = false) : ¬ (b == x) = true := by
    simpa using other minus digit
  rw [beginValue, if_neg (apart (by decide) (by decide)), if_neg (apart (by decide) (by decide)),
    if_neg (apart (by decide) (by decide)), if_neg (apart (by decide) (by decide)),
    if_neg (apart (by decide) (by decide)), if_neg (apart (by decide) (by decide)), if_pos starts, taken]
  simp only [text]

theorem reads_null (room : Nat) : Reads room ['n', 'u', 'l', 'l'] .null := by
  have octets : ofChars ['n', 'u', 'l', 'l'] = 0x6E :: [0x75, 0x6C, 0x6C] := rfl
  exact .of_step octets (by decide) (by decide) fun _ _ _ => rfl

theorem reads_true (room : Nat) : Reads room ['t', 'r', 'u', 'e'] (.bool true) := by
  have octets : ofChars ['t', 'r', 'u', 'e'] = 0x74 :: [0x72, 0x75, 0x65] := rfl
  exact .of_step octets (by decide) (by decide) fun _ _ _ => rfl

theorem reads_false (room : Nat) : Reads room ['f', 'a', 'l', 's', 'e'] (.bool false) := by
  have octets : ofChars ['f', 'a', 'l', 's', 'e'] = 0x66 :: [0x61, 0x6C, 0x73, 0x65] := rfl
  exact .of_step octets (by decide) (by decide) fun _ _ _ => rfl

/-! Arrays and objects. -/

theorem joinWith_cons (sep p : List Char) (ps : List (List Char)) :
    joinWith sep (p :: ps) = p ++ ps.flatMap (sep ++ ·) := by
  rw [joinWith]
  induction ps generalizing p with
  | nil => simp
  | cons q ps ih =>
    rw [List.intersperse_cons_cons, List.flatten_cons, List.flatten_cons, ih q, List.flatMap_cons, List.append_assoc]

theorem indentedItems_eq (level : Nat) (items : List Json) :
    indentedItems level items = items.map (indentedChars level) := by
  induction items with
  | nil => rw [indentedItems, List.map_nil]
  | cons v items ih => rw [indentedItems, List.map_cons, ih]

/-- A member on a line. -/
def memberChars (level : Nat) (m : String × Json) : List Char := writeText m.1 ++ ':' :: ' ' :: indentedChars level m.2

theorem indentedMembers_eq (level : Nat) (members : List (String × Json)) :
    indentedMembers level members = members.map (memberChars level) := by
  induction members with
  | nil => rw [indentedMembers, List.map_nil]
  | cons m members ih =>
    obtain ⟨k, v⟩ := m
    rw [indentedMembers, List.map_cons, ih, memberChars]

theorem stops_newline (level : Nat) (rest : Octets) : Stops (ofChars (newline level) ++ rest) := by
  intro b mem
  obtain rfl : 0x0A = b := Option.some.inj mem
  decide

/-- In an array a value may come first. -/
theorem run_valueOrClose (fuel : Nat) (stack : List Open) {b : UInt8} (solid : isSpace b = false) (opens : b ≠ 0x5D)
    (rest : Octets) : run fuel ⟨stack, .valueOrClose⟩ (b :: rest) = run fuel ⟨stack, .value⟩ (b :: rest) := by
  cases fuel with
  | zero => rfl
  | succ fuel =>
    rw [run_cons _ solid, run_cons _ solid]
    simp only [step, if_neg (show ¬ (b == 0x5D) = true by simpa using opens)]

/-- The machine goes on from one state to another within as many steps as octets. -/
def Passes (cs : List Char) (state state' : Reading) : Prop :=
  ∃ n ≤ (ofChars cs).length, ∀ fuel rest, Stops rest →
    run (fuel + n) state (ofChars cs ++ rest) = run fuel state' rest

theorem passes_nil (state : Reading) : Passes [] state state := ⟨0, Nat.le_refl 0, fun _ _ _ => rfl⟩

theorem Passes.trans {cs ds : List Char} {a b c : Reading} (first : Passes cs a b) (second : Passes ds b c)
    (stop : ∀ rest, Stops rest → Stops (ofChars ds ++ rest)) : Passes (cs ++ ds) a c := by
  obtain ⟨m, bound, run⟩ := first
  obtain ⟨n, bound', run'⟩ := second
  refine ⟨n + m, by simp; omega, fun fuel rest stops => ?_⟩
  rw [Octets.ofChars_append, List.append_assoc, ← Nat.add_assoc, run _ _ (stop rest stops), run' _ _ stops]

/-- A line break before what is read. -/
theorem Passes.newline {cs : List Char} {a b : Reading} (h : Passes cs a b) (level : Nat) :
    Passes (newline level ++ cs) a b := by
  obtain ⟨n, bound, run⟩ := h
  refine ⟨n, by simp; omega, fun fuel rest stop => ?_⟩
  rw [Octets.ofChars_append, List.append_assoc, run_blanks (isSpace_newline level), run fuel rest stop]

/-- A comma before what is read. -/
theorem Passes.comma {cs : List Char} {stack : List Open} {need : Need} {b : Reading} (h : Passes cs ⟨stack, need⟩ b)
    (wants : ∀ rest, step ⟨stack, .separator⟩ 0x2C rest = .more ⟨stack, need⟩ rest) :
    Passes (',' :: cs) ⟨stack, .separator⟩ b := by
  obtain ⟨n, bound, run⟩ := h
  have octets : ofChars (',' :: cs) = 0x2C :: ofChars cs := rfl
  refine ⟨n + 1, by rw [octets]; simp; omega, fun fuel rest stop => ?_⟩
  rw [octets, List.cons_append, ← Nat.add_assoc, run_cons _ (by decide), wants, resume, run fuel rest stop]

/-- A value inside an array. -/
theorem passes_item {room : Nat} {cs : List Char} {v : Json} (reads : Reads room cs v) {outer : List Open}
    (bound : outer.length + 1 + room ≤ maxDepth) (done : List Json) :
    Passes cs ⟨.items done :: outer, .value⟩ ⟨.items (v :: done) :: outer, .separator⟩ := by
  obtain ⟨n, steps, run⟩ := reads.run (.items done :: outer) (by simpa using bound)
  exact ⟨n, steps, run⟩

/-- A member inside an object. -/
theorem passes_member {room level : Nat} {k : String} {v : Json} (reads : Reads room (indentedChars level v) v)
    {outer : List Open} (bound : outer.length + 1 + room ≤ maxDepth) (done : List (String × Json)) (key : String) :
    Passes (memberChars level (k, v)) ⟨.members done key :: outer, .key⟩
      ⟨.members ((k, v) :: done) k :: outer, .separator⟩ := by
  obtain ⟨n, steps, run⟩ := reads.run (.members done k :: outer) (by simpa using bound)
  have octets : ofChars (memberChars level (k, v)) =
      0x22 :: (ofChars (k.toList.flatMap writeChar) ++ 0x22 :: 0x3A :: 0x20 :: ofChars (indentedChars level v)) := by
    rw [memberChars, writeText, List.cons_append, List.cons_append, Octets.ofChars_cons, List.append_assoc,
      Octets.ofChars_append]
    rfl
  refine ⟨n + 2, by rw [octets]; simp; omega, fun fuel rest stop => ?_⟩
  have taken := takeLiteral_write k.toList (0x3A :: 0x20 :: (ofChars (indentedChars level v) ++ rest)) []
  rw [List.reverse_nil, List.nil_append] at taken
  have name : step ⟨.members done key :: outer, .key⟩ 0x22 (ofChars (k.toList.flatMap writeChar) ++
      0x22 :: 0x3A :: 0x20 :: (ofChars (indentedChars level v) ++ rest)) =
        .more ⟨.members done k :: outer, .colon⟩ (0x3A :: 0x20 :: (ofChars (indentedChars level v) ++ rest)) := by
    simp only [step, beginKey, taken, literalText_write]
    rfl
  rw [octets, show fuel + (n + 2) = fuel + n + 1 + 1 by omega, List.cons_append, run_cons _ (by decide),
    List.append_assoc]
  simp only [List.cons_append]
  rw [name, resume, run_cons _ (by decide)]
  change Json.run (fuel + n) ⟨.members done k :: outer, .value⟩ (0x20 :: (ofChars (indentedChars level v) ++ rest)) = _
  rw [run_space, run fuel rest stop]
  rfl

/-- What follows an item or member is nothing or a comma. -/
theorem stops_tail {α : Type} (level : Nat) (text : α → List Char) (xs : List α) (rest : Octets) (stop : Stops rest) :
    Stops (ofChars ((xs.map text).flatMap ((',' :: newline level) ++ ·)) ++ rest) := by
  cases xs with
  | nil => exact stop
  | cons x xs =>
    intro b mem
    obtain rfl : 0x2C = b := Option.some.inj mem
    decide

/-- The items after the first one. -/
theorem passes_items {room level : Nat} {items : List Json} (each : ∀ v ∈ items, Reads room (indentedChars level v) v)
    {outer : List Open} (bound : outer.length + 1 + room ≤ maxDepth) (done : List Json) :
    Passes ((items.map (indentedChars level)).flatMap ((',' :: newline level) ++ ·))
      ⟨.items done :: outer, .separator⟩ ⟨.items (items.reverse ++ done) :: outer, .separator⟩ := by
  induction items generalizing done with
  | nil => exact passes_nil _
  | cons v items ih =>
    have order : (v :: items).reverse ++ done = items.reverse ++ v :: done := by simp
    rw [List.map_cons, List.flatMap_cons, order]
    have item := ((passes_item (each v (by simp)) bound done).newline level).comma fun _ => rfl
    exact item.trans (ih (fun w hw => each w (by simp [hw])) (v :: done)) fun rest => stops_tail level _ items rest

/-- The members after the first one. -/
theorem passes_members {room level : Nat} {members : List (String × Json)}
    (each : ∀ m ∈ members, Reads room (indentedChars level m.2) m.2) {outer : List Open}
    (bound : outer.length + 1 + room ≤ maxDepth) (done : List (String × Json)) (key : String) :
    ∃ last, Passes ((members.map (memberChars level)).flatMap ((',' :: newline level) ++ ·))
      ⟨.members done key :: outer, .separator⟩ ⟨.members (members.reverse ++ done) last :: outer, .separator⟩ := by
  induction members generalizing done key with
  | nil => exact ⟨key, passes_nil _⟩
  | cons m members ih =>
    obtain ⟨k, v⟩ := m
    have order : ((k, v) :: members).reverse ++ done = members.reverse ++ (k, v) :: done := by simp
    obtain ⟨last, rest⟩ := ih (fun w hw => each w (by simp [hw])) ((k, v) :: done) k
    refine ⟨last, ?_⟩
    rw [List.map_cons, List.flatMap_cons, order]
    have member := ((passes_member (k := k) (v := v) (each (k, v) (by simp)) bound done key).newline level).comma
      fun _ => rfl
    exact member.trans rest fun rest => stops_tail level _ members rest

/-- The first value of an array comes where the array could also be closed. -/
theorem Passes.valueOrClose {cs : List Char} {stack : List Open} {c : Reading} (h : Passes cs ⟨stack, .value⟩ c)
    (first : ∃ b tail, ofChars cs = b :: tail ∧ isSpace b = false ∧ b ≠ 0x5D) : Passes cs ⟨stack, .valueOrClose⟩ c := by
  obtain ⟨n, bound, run⟩ := h
  obtain ⟨b, tail, octets, solid, opens⟩ := first
  refine ⟨n, bound, fun fuel rest stop => ?_⟩
  rw [← run fuel rest stop, octets, List.cons_append, run_valueOrClose _ _ solid opens]

/-- The first member of an object comes where the object could also be closed. -/
theorem Passes.keyOrClose {level : Nat} {m : String × Json} {stack : List Open} {c : Reading}
    (h : Passes (memberChars level m) ⟨stack, .key⟩ c) : Passes (memberChars level m) ⟨stack, .keyOrClose⟩ c := by
  obtain ⟨n, bound, run⟩ := h
  refine ⟨n, bound, fun fuel rest stop => ?_⟩
  rw [← run fuel rest stop]
  change Json.run _ _ (0x22 :: _) = Json.run _ _ (0x22 :: _)
  cases fuel + n with
  | zero => rfl
  | succ fuel =>
    rw [run_cons _ (by decide), run_cons _ (by decide)]
    rfl

/-- An array or object is read when its body is. -/
theorem Reads.of_body {room level : Nat} {a z : Char} {b e : UInt8} {body : List Char} {j : Json} {inner : Open}
    {need : Need} (starts : ofChars [a] = [b]) (ends : ofChars [z] = [e])
    (opens : b = 0x5B ∧ inner = .items [] ∧ need = .valueOrClose ∨
      b = 0x7B ∧ inner = .members [] "" ∧ need = .keyOrClose)
    (passes : ∀ stack : List Open, stack.length + 1 + room ≤ maxDepth → ∃ inner',
      Passes body ⟨inner :: stack, need⟩ ⟨inner' :: stack, .separator⟩ ∧
        ∀ rest, step ⟨inner' :: stack, .separator⟩ e rest = deliver stack j rest) (solid : isSpace e = false) :
    Reads (room + 1) (a :: body ++ newline level ++ [z]) j := by
  have octets : ofChars (a :: body ++ newline level ++ [z]) =
      b :: (ofChars body ++ (ofChars (newline level) ++ [e])) := by
    rw [Octets.ofChars_append, Octets.ofChars_append, ← List.singleton_append, Octets.ofChars_append, starts, ends]
    simp
  have first : isSpace b = false ∧ b ≠ 0x5D := by
    rcases opens with ⟨rfl, -⟩ | ⟨rfl, -⟩ <;> decide
  refine ⟨⟨b, _, octets, first⟩, fun stack bound => ?_⟩
  obtain ⟨inner', ⟨n, steps, run⟩, closes⟩ := passes stack (by omega)
  refine ⟨n + 2, by rw [octets]; simp; omega, fun fuel rest stop => ?_⟩
  have push : step ⟨stack, .value⟩ b (ofChars body ++ (ofChars (newline level) ++ e :: rest)) =
      .more ⟨inner :: stack, need⟩ (ofChars body ++ (ofChars (newline level) ++ e :: rest)) := by
    rcases opens with ⟨rfl, rfl, rfl⟩ | ⟨rfl, rfl, rfl⟩
    · change push stack (.items []) .valueOrClose _ = _
      rw [push, if_pos (by omega)]
    · change push stack (.members [] "") .keyOrClose _ = _
      rw [push, if_pos (by omega)]
  rw [octets, show fuel + (n + 2) = fuel + 1 + n + 1 by omega]
  simp only [List.cons_append, List.append_assoc, List.nil_append]
  rw [run_cons _ first.1, push, resume, run _ _ (stops_newline level _), run_blanks (isSpace_newline level),
    run_cons _ solid, closes]

/-- Two brackets with nothing between them. -/
theorem reads_empty {room : Nat} {cs : List Char} {j : Json} {b e : UInt8} {inner : Open} {need : Need}
    (octets : ofChars cs = [b, e]) (solid : isSpace b = false) (opens : b ≠ 0x5D) (solid' : isSpace e = false)
    (push : ∀ stack rest, beginValue stack b rest = push stack inner need rest)
    (close : ∀ stack rest, step ⟨inner :: stack, need⟩ e rest = deliver stack j rest) : Reads (room + 1) cs j := by
  refine ⟨⟨b, [e], octets, solid, opens⟩, fun stack bound => ⟨2, by rw [octets]; simp, fun fuel rest _ => ?_⟩⟩
  have begins : step ⟨stack, .value⟩ b (e :: rest) = .more ⟨inner :: stack, need⟩ (e :: rest) := by
    change beginValue stack b (e :: rest) = _
    rw [push, Json.push, if_pos (by omega)]
  change run (fuel + 1 + 1) _ _ = _
  rw [octets]
  change run (fuel + 1 + 1) _ (b :: e :: rest) = _
  rw [run_cons _ solid, begins, resume, run_cons _ solid', close]

theorem reads_array {room level : Nat} {items : List Json}
    (each : ∀ v ∈ items, Reads room (indentedChars (level + 1) v) v) :
    Reads (room + 1) (indentedChars level (.array items)) (.array items) := by
  rw [indentedChars]
  cases items with
  | nil =>
    have octets : ofChars ['[', ']'] = [0x5B, 0x5D] := rfl
    exact reads_empty octets (by decide) (by decide) (by decide) (fun _ _ => rfl) fun _ _ => rfl
  | cons v items =>
    rw [if_neg (by simp), indentedItems_eq, List.map_cons, joinWith_cons, List.cons_append]
    refine .of_body rfl rfl (Or.inl ⟨rfl, rfl, rfl⟩) (fun stack bound => ⟨.items ((v :: items).reverse ++ []), ?_, ?_⟩)
      (by decide)
    · have order : (v :: items).reverse ++ [] = items.reverse ++ [v] := by simp
      have first := each v (by simp)
      rw [order]
      refine (((passes_item first bound []).valueOrClose first.first).trans
        (passes_items (fun w hw => each w (by simp [hw])) bound [v]) fun rest => ?_).newline (level + 1)
      exact stops_tail (level + 1) _ items rest
    · intro rest
      change deliver stack (.array ((v :: items).reverse ++ []).reverse) rest = _
      simp

theorem reads_object {room level : Nat} {members : List (String × Json)}
    (each : ∀ m ∈ members, Reads room (indentedChars (level + 1) m.2) m.2) :
    Reads (room + 1) (indentedChars level (.object members)) (.object members) := by
  rw [indentedChars]
  cases members with
  | nil =>
    have octets : ofChars ['\x7b', '\x7d'] = [0x7B, 0x7D] := rfl
    exact reads_empty octets (by decide) (by decide) (by decide) (fun _ _ => rfl) fun _ _ => rfl
  | cons m members =>
    obtain ⟨k, v⟩ := m
    rw [if_neg (by simp), indentedMembers_eq, List.map_cons, joinWith_cons, List.cons_append]
    refine .of_body rfl rfl (Or.inr ⟨rfl, rfl, rfl⟩) (fun stack bound => ?_) (by decide)
    obtain ⟨last, rest⟩ := passes_members (fun w (hw : w ∈ members) => each w (by simp [hw])) bound [(k, v)] k
    refine ⟨.members (members.reverse ++ [(k, v)]) last, ?_, fun rest => ?_⟩
    · have first := passes_member (k := k) (v := v) (each (k, v) (by simp)) bound [] ""
      exact (first.keyOrClose.trans rest fun rest => stops_tail (level + 1) _ members rest).newline (level + 1)
    · change deliver stack (.object (members.reverse ++ [(k, v)]).reverse) rest = _
      simp

/-- The indented text of a value is read as that value. -/
theorem Fits.reads {room : Nat} {j : Json} (h : Fits room j) (level : Nat) : Reads room (indentedChars level j) j := by
  induction h generalizing level with
  | null room =>
    rw [indentedChars]
    exact reads_null room
  | bool room b =>
    cases b with
    | true =>
      rw [indentedChars]
      exact reads_true room
    | false =>
      rw [indentedChars]
      exact reads_false room
  | number room spelled =>
    rw [indentedChars]
    exact reads_number room spelled
  | string room s =>
    rw [indentedChars]
    exact reads_string room s
  | array each ih => exact reads_array fun v mem => ih v mem (level + 1)
  | object each ih => exact reads_object fun m mem => ih m mem (level + 1)

/-- What was written is read back. -/
theorem read_indented {room : Nat} {j : Json} (h : Fits room j) (bound : room ≤ maxDepth) :
    read (Octets.ofString j.indented) = .ok j := by
  obtain ⟨n, steps, run⟩ := (h.reads 0).run [] (by simpa using bound)
  have octets : Octets.ofString j.indented = ofChars (indentedChars 0 j) := by
    rw [indented, Octets.ofString_ofList]
    rfl
  have first : readFirst (ofChars (indentedChars 0 j)) = .ok (j, []) := by
    have whole := run ((ofChars (indentedChars 0 j)).length + 1 - n) [] (by simp [Stops])
    rw [List.append_nil, Nat.sub_add_cancel (by omega)] at whole
    exact whole
  rw [read, octets, first]
  rfl

end BlitReel.Json
