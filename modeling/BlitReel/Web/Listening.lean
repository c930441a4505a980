import BlitReel.Failure

/-!
# Listening addresses

A server listens at a host and a service. The host may be empty and is put in square brackets when it
contains colons. The service is a number or a known name.
-/

namespace BlitReel.Web

/-- A colon. -/
def colon : UInt8 := 0x3A

/-- An opening square bracket. -/
def opening : UInt8 := 0x5B

/-- A closing square bracket. -/
def closing : UInt8 := 0x5D

/-- A fault of an address. -/
def addressFault (address : Octets) (reason : String) : Failure :=
  .plain ((if address.isEmpty then "" else "address " ++ Utf8.text address ++ ": ") ++ reason)

/-- The place of the last colon. -/
def lastColon? (s : Octets) : Option Nat := (s.reverse.idxOf? colon).map fun i => s.length - 1 - i

/-- The host of an address whose last colon stands at `i`, with the places from which brackets may not
occur. -/
def hostPart (s : Octets) (i : Nat) : Except Failure (Octets × Nat × Nat) :=
  if s.head? == some opening then
    match s.idxOf? closing with
    | none => .error (addressFault s "missing ']' in address")
    | some stop =>
      if stop + 1 == s.length then .error (addressFault s "missing port in address")
      else if stop + 1 == i then .ok ((s.take stop).drop 1, 1, stop + 1)
      else if s[stop + 1]? == some colon then .error (addressFault s "too many colons in address")
      else .error (addressFault s "missing port in address")
  else
    let host := s.take i
    if host.contains colon then .error (addressFault s "too many colons in address") else .ok (host, 0, 0)

/-- The host and the service of an address. -/
def splitAddress (s : Octets) : Except Failure (Octets × Octets) :=
  match lastColon? s with
  | none => .error (addressFault s "missing port in address")
  | some i => do
    let (host, afterOpening, afterClosing) ← hostPart s i
    if (s.drop afterOpening).contains opening then throw (addressFault s "unexpected '[' in address")
    if (s.drop afterClosing).contains closing then throw (addressFault s "unexpected ']' in address")
    return (host, s.drop (i + 1))

/-- The numbers of known services. -/
def knownServices : List (String × Nat) := [
  ("ftp", 21), ("ftps", 990), ("gopher", 70), ("http", 80), ("https", 443), ("imap2", 143), ("imap3", 220),
  ("imaps", 993), ("pop3", 110), ("pop3s", 995), ("smtp", 25), ("submissions", 465), ("ssh", 22), ("telnet", 23)]

/-- The number of a service. -/
def serviceNumber (s : Octets) : Except Failure Nat :=
  let (negative, digits) := match s with
    | 0x2B :: rest => (false, rest)
    | 0x2D :: rest => (true, rest)
    | _ => (false, s)
  if digits.all Octets.isDigit then
    let n := digits.foldl (fun n d => n * 10 + (d.toNat - 48)) 0
    if n > 65535 || (negative && n > 0) then .error (addressFault s "invalid port") else .ok n
  else match knownServices.find? fun (name, _) => Octets.ofString name == s.map Octets.lowerAscii with
    | some (_, n) => .ok n
    | none => .error (.plain ("lookup tcp/" ++ Utf8.text s ++ ": unknown port"))

/-- Whether one can listen at an address. No address at all leaves the choice to the system. -/
def checkListening (address : Octets) : Except Failure Unit :=
  if address.isEmpty then .ok ()
  else
    let checked : Except Failure Unit := do
      let (_, service) ← splitAddress address
      let _ ← serviceNumber service
    checked.mapError (·.within "listen tcp")

end BlitReel.Web
