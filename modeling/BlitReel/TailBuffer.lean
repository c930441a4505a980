import BlitReel.Failure

/-!
# Tail buffer

Keeps the last octets written to it, up to a limit: the end of a decoder's error output.
-/

namespace BlitReel

/-- The last octets written, at most `limit` of them. -/
structure TailBuffer where
  limit : Int64
  content : Octets := []
  deriving DecidableEq

namespace TailBuffer

/-- A cut that would start beyond the end. -/
def badCut (start length : Int) : Collapse :=
  .words s!"runtime error: slice bounds out of range [{start}:{length}]"

/-- Append octets and cut to the last `limit`. All octets are reported as written. -/
def write (t : TailBuffer) (p : Octets) : Except Collapse (Nat × TailBuffer) :=
  let all := t.content ++ p
  if (all.length : Int) > t.limit.toInt then
    if t.limit < 0 then .error (badCut (all.length - t.limit.toInt) all.length)
    else .ok (p.length, { t with content := all.drop (all.length - t.limit.toInt.toNat) })
  else .ok (p.length, { t with content := all })

end TailBuffer

end BlitReel
