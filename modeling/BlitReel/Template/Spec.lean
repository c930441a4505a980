import BlitReel.Text.Quoted

/-!
# What a directive asks for

A directive of a message template asks for a value in some form: flags, a least width, a precision
and a verb. `Spec.pad` brings a text to the width.
-/

namespace BlitReel.Template

/-- The flags, width and precision of a directive. -/
structure Spec where
  plus : Bool := false
  minus : Bool := false
  sharp : Bool := false
  space : Bool := false
  zero : Bool := false
  /-- The verb is `v` and the sharp flag was given: texts are then quoted. -/
  verbatim : Bool := false
  width? : Option Nat := none
  precision? : Option Nat := none
  deriving DecidableEq

namespace Spec

/-- Fill of the given length: zeros only on the left and when asked for, blanks otherwise. -/
def fill (s : Spec) (count : Nat) : List Char :=
  List.replicate count (if s.zero && !s.minus then '0' else ' ')

/-- A text brought to the width. -/
def pad (s : Spec) (t : List Char) : List Char :=
  match s.width? with
  | none => t
  | some width =>
    let missing := s.fill (width - t.length)
    if s.minus then t ++ missing else missing ++ t

/-- A text brought to the width with blanks. -/
def padBlank (s : Spec) (t : List Char) : List Char := { s with zero := false }.pad t

/-- A text cut to the precision. -/
def cut (s : Spec) (t : List Char) : List Char :=
  match s.precision? with
  | none => t
  | some n => t.take n

/-- The sign that stands before a magnitude. -/
def sign (s : Spec) (negative : Bool) : List Char :=
  if negative then ['-'] else if s.plus then ['+'] else if s.space then [' '] else []

end Spec

end BlitReel.Template
