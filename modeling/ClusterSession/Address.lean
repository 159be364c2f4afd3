/-
  ClusterSession: addresses of cluster members.

  * `Address`: a host and a port.
  * `Address.display`: the text of an address, `host:port`; a host that holds a
    colon stands in brackets.
  * `Address.parse`: reads that text.  The port stands after the last colon;
    one pair of brackets around the host is dropped.
  * `Address.before`: the order of addresses, by host and then by port.
-/

namespace ClusterSession

/-- Network address of a cluster member. -/
structure Address where
  host : String
  port : UInt16
deriving DecidableEq, Repr

/-- The text that was no address. -/
structure InvalidAddress where
  text : String
deriving DecidableEq, Repr

/-- The wording of the refusal; it carries the text unchanged. -/
def InvalidAddress.message (e : InvalidAddress) : String :=
  "invalid address \x27" ++ e.text ++ "\x27: expected host:port"

namespace Address

/-! ## Writing -/

/-- The host as it stands before the port: in brackets if it holds a colon. -/
def hostChars (host : List Char) : List Char :=
  if ':' ∈ host then '[' :: (host ++ [']']) else host

/-- The characters of the text of an address. -/
def chars (a : Address) : List Char :=
  hostChars a.host.toList ++ ':' :: Nat.toDigits 10 a.port.toNat

def display (a : Address) : String :=
  String.ofList a.chars

/-! ## Reading -/

/-- What stands before and after the last `c`. -/
def splitLast (c : Char) : List Char → Option (List Char × List Char)
  | [] => none
  | x :: xs =>
    match splitLast c xs with
    | some (front, back) => some (x :: front, back)
    | none => if x = c then some ([], xs) else none

/-- Drops one pair of brackets; text without both of them stays as it is. -/
def unbracket : List Char → List Char
  | '[' :: rest => if rest.getLast? = some ']' then rest.dropLast else '[' :: rest
  | host => host

/-- The value of a nonempty run of decimal digits. -/
def decimal? (ds : List Char) : Option Nat :=
  if ds ≠ [] ∧ ds.all Char.isDigit then some (Nat.ofDigitChars 10 ds 0) else none

/-- A port: decimal digits, after at most one plus sign, of a value below `2 ^ 16`. -/
def parsePort (cs : List Char) : Option UInt16 :=
  let ds := match cs with
    | '+' :: ds => ds
    | ds => ds
  match decimal? ds with
  | some n => if n < UInt16.size then some (UInt16.ofNat n) else none
  | none => none

/-- The address that a sequence of characters denotes. -/
def ofChars? (cs : List Char) : Option Address :=
  match splitLast ':' cs with
  | none => none
  | some (front, back) =>
    let host := unbracket front
    if host = [] then none
    else (parsePort back).map fun port => { host := String.ofList host, port }

def parse (s : String) : Except InvalidAddress Address :=
  match ofChars? s.toList with
  | some a => .ok a
  | none => .error { text := s }

/-! ## Order -/

/-- Hosts by code points, then ports by number. -/
def before (a b : Address) : Bool :=
  a.host < b.host || (a.host == b.host && a.port ≤ b.port)

/-- Addresses in order; equal ones keep their places. -/
def sorted (addresses : List Address) : List Address :=
  addresses.mergeSort before

end Address

end ClusterSession
