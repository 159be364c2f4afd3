/-
  ClusterSession: JSON values.

  * `Value`: a JSON document; the members of an object stand in the order in
    which they were written, and a name may occur twice.
  * `Value.canonical`: the same document with the members of every object in
    order of their names and without repetition, the last value of a name
    standing for it.
  * `Fault` and `Mismatch`: why a text, or a value, cannot be read.
-/

namespace ClusterSession.Json

/-- A number: an integer that was written without fraction and exponent and fits 64 bits,
    or a floating-point number. -/
inductive Number where
  | natural (n : Nat)
  /-- The integer `-n`. -/
  | negative (n : Nat)
  | real (x : Float)
deriving DecidableEq, Inhabited

/-- A JSON document. -/
inductive Value where
  | null
  | bool (b : Bool)
  | number (n : Number)
  | string (s : String)
  | array (items : List Value)
  | object (members : List (String × Value))
deriving Inhabited

/-! ## Order and repetition of names -/

/-- Puts a member at its place among members in order of their names; it replaces the one
    that has its name. -/
def insertMember (name : String) (v : Value) : List (String × Value) → List (String × Value)
  | [] => [(name, v)]
  | (n, w) :: rest =>
    if name = n then (name, v) :: rest
    else if name < n then (name, v) :: (n, w) :: rest
    else (n, w) :: insertMember name v rest

/-- The members in order of their names, the last value of a name standing for it. -/
def arrange (members : List (String × Value)) : List (String × Value) :=
  members.foldl (fun sorted m => insertMember m.1 m.2 sorted) []

mutual

/-- The document with the members of every object arranged. -/
def Value.canonical : Value → Value
  | .array items => .array (canonicalItems items)
  | .object members => .object (arrange (canonicalMembers members))
  | v => v

/-- The items of an array, each with its members arranged. -/
def canonicalItems : List Value → List Value
  | [] => []
  | v :: vs => v.canonical :: canonicalItems vs

/-- The members of an object, each with its own members arranged. -/
def canonicalMembers : List (String × Value) → List (String × Value)
  | [] => []
  | (name, v) :: rest => (name, v.canonical) :: canonicalMembers rest

end

/-- The value of the last member of that name. -/
def member? (name : String) (members : List (String × Value)) : Option Value :=
  (members.reverse.find? (·.1 = name)).map (·.2)

/-- The value of a member of an object. -/
def Value.get? (v : Value) (name : String) : Option Value :=
  match v with
  | .object members => member? name members
  | _ => none

/-! ## What can go wrong -/

/-- Why a well-formed value is not of the wanted shape. -/
inductive Mismatch where
  | invalidType
  /-- A value of the right kind that is out of range. -/
  | invalidValue
  | invalidLength
  | missingField (name : String)
  | duplicateField (name : String)
  | unknownVariant (name : String) (expected : List String)
  | refused (text : String)
deriving DecidableEq, Repr

def ticked (name : String) : String :=
  "\x60" ++ name ++ "\x60"

def oneOf : List String → String
  | [] => "there are no variants"
  | [a] => "expected " ++ ticked a
  | [a, b] => "expected " ++ ticked a ++ " or " ++ ticked b
  | names => "expected one of " ++ ", ".intercalate (names.map ticked)

/-- The wording of a mismatch; of the first three it names the kind only. -/
def Mismatch.message : Mismatch → String
  | .invalidType => "invalid type"
  | .invalidValue => "invalid value"
  | .invalidLength => "invalid length"
  | .missingField name => "missing field " ++ ticked name
  | .duplicateField name => "duplicate field " ++ ticked name
  | .unknownVariant name expected => "unknown variant " ++ ticked name ++ ", " ++ oneOf expected
  | .refused text => text

/-- Why a text cannot be read. -/
inductive Fault where
  | truncated
  | malformed
  /-- The text is JSON as far as it was read, and not of the wanted shape. -/
  | unfit (mismatch : Mismatch)
deriving DecidableEq, Repr

def Fault.message : Fault → String
  | .truncated => "unexpected end of text"
  | .malformed => "malformed text"
  | .unfit mismatch => mismatch.message

/-- A reader takes a value from the front of a text and leaves the rest. -/
abbrev Read (α : Type) : Type := List Char → Except Fault (α × List Char)

/-- Reads with `r` and puts what was read through `f`. -/
def Read.map {α β : Type} (f : α → β) (r : Read α) : Read β := fun cs =>
  match r cs with
  | .ok (a, rest) => .ok (f a, rest)
  | .error e => .error e

/-! ## Blanks and fixed words -/

/-- The four characters that may stand around values. -/
def isBlank (c : Char) : Bool :=
  c = ' ' || c = '\t' || c = '\n' || c = '\r'

/-- The text after the blanks at its front. -/
def skipBlank (cs : List Char) : List Char :=
  cs.dropWhile isBlank

def word : List Char → List Char → Except Fault (List Char)
  | [], cs => .ok cs
  | _ :: _, [] => .error .truncated
  | w :: ws, c :: cs => if c = w then word ws cs else .error .malformed

end ClusterSession.Json
