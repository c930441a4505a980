import BlitReel.Text.Utf8

/-!
# Failures

A failure is a message and a cause. Layers put words before the message; the cause stays, because
callers tell failures apart by it.
-/

namespace BlitReel

/-- Why an operation failed, as far as callers tell failures apart. -/
inductive Cause where
  | invalidOptions
  | decoderNotFound
  | noFrames
  | truncatedTail
  /-- The decoder ended with an exit code and these last octets of its error output. -/
  | decoderExit (code : Int64) (stderr : Octets)
  | cancelled
  /-- A document that is not well formed or does not fit. -/
  | document
  /-- A settings file that is not well formed or does not fit. -/
  | settings
  /-- A picture file of a known kind that is broken. -/
  | picture
  /-- A movie file that is broken. -/
  | movie
  | notExist
  /-- The operation has no result at all: an index or a size out of range. -/
  | collapse
  | other
  deriving DecidableEq

/-- A failed operation. -/
structure Failure where
  cause : Cause := .other
  message : String
  deriving DecidableEq

namespace Failure

/-- The same failure with words before its message. -/
def within (context : String) (f : Failure) : Failure :=
  { f with message := context ++ ": " ++ f.message }

/-- A failure that nobody tells apart from others. -/
def plain (message : String) : Failure := { message }

/-- The decoder ended with a code other than zero, or was stopped. -/
def decoderExit (code : Int64) (stderr : Octets) : Failure :=
  let said := if stderr.isEmpty then "" else ": " ++ Utf8.text stderr
  ⟨.decoderExit code stderr, "nfp: decoder exited with code " ++ toString code.toInt ++ said⟩

/-- The run was called off. -/
def cancelled : Failure := ⟨.cancelled, "context canceled"⟩

end Failure

/-- A computation that has no result: what an index or a size would have had to be. -/
inductive Collapse where
  /-- An index outside a sequence of the given length. -/
  | index (i : Int) (size : Nat)
  /-- A sequence of a length that cannot be had. -/
  | length
  /-- Room for a number of items that cannot be had. -/
  | capacity
  /-- A part that was taken to be there. -/
  | absent
  /-- Any other refusal, in words. -/
  | words (message : String)
  deriving DecidableEq

namespace Collapse

/-- The wording of a collapse. -/
def message : Collapse → String
  | .index i size =>
    if i < 0 then s!"runtime error: index out of range [{i}]"
    else s!"runtime error: index out of range [{i}] with length {size}"
  | .length => "runtime error: makeslice: len out of range"
  | .capacity => "runtime error: makeslice: cap out of range"
  | .absent => "runtime error: invalid memory address or nil pointer dereference"
  | .words m => m

/-- A collapse as a failure. -/
def toFailure (c : Collapse) : Failure := ⟨.collapse, c.message⟩

end Collapse

/-- The greatest number of octets that a sequence may take. -/
def maxAllocation : Int := 0x1000000000000

end BlitReel
