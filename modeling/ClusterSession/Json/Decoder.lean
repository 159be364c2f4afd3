/-
  ClusterSession: reading values of a wanted shape.

  A decoder has two ways: `read` takes a value from the front of a text, so
  that the first problem met from left to right decides; `ofValue` takes it
  from a document that has been read before.

  * `Decoder.text`, `Decoder.natural`, `Decoder.nullable`, `Decoder.list`: the
    simple shapes.
  * `Decoder.name`: one of a closed set of names.
  * `Record.decoder`: an object with known members, or an array of their values.
  * `Decoder.tagged`: an object with one member that says how to read the rest.
-/
import ClusterSession.Json.Reader

namespace ClusterSession.Json

/-- Where a document comes from: read as such, or set aside while a tag was sought. -/
inductive Origin where
  | document
  | aside
deriving DecidableEq, Repr

/-- The two ways to read an `α`. -/
structure Decoder (α : Type) where
  /-- From the front of a text, with at most `depth` nested arrays and objects. -/
  read : (depth : Nat) → Read α
  ofValue : Origin → Value → Except Mismatch α

/-- A mismatch, as a fault of the text. -/
def unfit {α : Type} : Except Mismatch α → Except Fault α
  | .ok a => .ok a
  | .error m => .error (.unfit m)

/-- Reads with `r`; what was read is a mismatch. -/
def mismatchAfter {α : Type} : Except Fault α → Fault
  | .ok _ => .unfit .invalidType
  | .error e => e

/-- The fault of a text whose front is not of the wanted type.  A scalar is read first, and its
    own fault comes before the mismatch. -/
def unfitFault (cs : List Char) : Fault :=
  match cs with
  | [] => .truncated
  | 'n' :: rest => mismatchAfter (word ['u', 'l', 'l'] rest)
  | 't' :: rest => mismatchAfter (word ['r', 'u', 'e'] rest)
  | 'f' :: rest => mismatchAfter (word ['a', 'l', 's', 'e'] rest)
  | '\x22' :: rest => mismatchAfter (readString rest)
  | '-' :: rest => mismatchAfter (readNumber false rest)
  | '[' :: _ | '{' :: _ => .unfit .invalidType
  | c :: rest => if c.isDigit then mismatchAfter (readNumber true (c :: rest)) else .malformed

namespace Decoder

variable {α β : Type}

/-- Reads an `α` and makes a `β` of it, or refuses it. -/
def refine (d : Decoder α) (f : α → Except Mismatch β) : Decoder β where
  read depth cs := do
    let (a, rest) ← d.read depth cs
    let b ← unfit (f a)
    .ok (b, rest)
  ofValue origin v := do f (← d.ofValue origin v)

/-- Reads an `α` and makes a `β` of it. -/
def map (f : α → β) (d : Decoder α) : Decoder β :=
  d.refine fun a => .ok (f a)

/-! ## Simple shapes -/

def document : Decoder Value where
  read depth := (readValue depth).map Value.canonical
  ofValue _ v := .ok v

/-- Reads a string from the front of a text. -/
def readText : Read String := fun cs =>
  match skipBlank cs with
  | '\x22' :: rest => readString rest
  | cs => .error (unfitFault cs)

def text : Decoder String where
  read _ := readText
  ofValue _
    | .string s => .ok s
    | _ => .error .invalidType

/-- The natural number that a number is, if it is below `bound`. -/
def below (bound : Nat) : Number → Except Mismatch Nat
  | .natural n => if n < bound then .ok n else .error .invalidValue
  | .negative _ => .error .invalidValue
  | .real _ => .error .invalidType

/-- Reads a number from the front of a text. -/
def readSigned : Read Number := fun cs =>
  match skipBlank cs with
  | '-' :: rest => readNumber false rest
  | c :: rest => if c.isDigit then readNumber true (c :: rest) else .error (unfitFault (c :: rest))
  | [] => .error .truncated

/-- A natural number below `bound`. -/
def natural (bound : Nat) : Decoder Nat where
  read _ cs := do
    let (n, rest) ← readSigned cs
    let n ← unfit (below bound n)
    .ok (n, rest)
  ofValue _
    | .number n => below bound n
    | _ => .error .invalidType

def uint64 : Decoder UInt64 := (natural UInt64.size).map UInt64.ofNat

def uint32 : Decoder UInt32 := (natural UInt32.size).map UInt32.ofNat

def nullable (d : Decoder α) : Decoder (Option α) where
  read depth cs :=
    match skipBlank cs with
    | 'n' :: rest => do
      let rest ← word ['u', 'l', 'l'] rest
      .ok (none, rest)
    | cs => (d.read depth).map some cs
  ofValue origin
    | .null => .ok none
    | v => (d.ofValue origin v).map some

/-- Reads the items of an array that are left, and its end. -/
def readList (d : Decoder α) : (fuel : Nat) → (depth : Nat) → (first : Bool) → Read (List α)
  | 0, _, _, _ => .error .truncated
  | fuel + 1, depth, first, cs => do
    match ← nextItem first cs with
    | (none, rest) => .ok ([], rest)
    | (some _, rest) =>
      let (a, rest) ← d.read depth rest
      let (as, rest) ← readList d fuel depth false rest
      .ok (a :: as, rest)

def list (d : Decoder α) : Decoder (List α) where
  read depth cs :=
    match skipBlank cs with
    | '[' :: rest =>
      match depth with
      | 0 => .error .malformed
      | depth + 1 => readList d (rest.length + 1) depth true rest
    | cs => .error (unfitFault cs)
  ofValue origin
    | .array items => items.mapM (d.ofValue origin)
    | _ => .error .invalidType

/-! ## Names -/

/-- What a name of a closed set stands for. -/
def ofName (names : List (String × α)) (name : String) : Except Mismatch α :=
  match names.lookup name with
  | some a => .ok a
  | none => .error (.unknownVariant name (names.map (·.1)))

def readNull (cs : List Char) : Except Fault (List Char) :=
  match skipBlank cs with
  | 'n' :: rest => word ['u', 'l', 'l'] rest
  | cs => .error (unfitFault cs)

/-- Whether a document says nothing; an empty object set aside says nothing either. -/
def saysNothing : Origin → Value → Bool
  | _, .null => true
  | .aside, .object [] => true
  | _, _ => false

/-- Reads the only member of an object, a name with the value `null`, and the end. -/
def readNamedNull (names : List (String × α)) : Read α := fun cs => do
  let (name, rest) ← readText cs
  let a ← unfit (ofName names name)
  let rest ← colon rest
  let rest ← readNull rest
  match skipBlank rest with
  | [] => .error .truncated
  | '}' :: rest => .ok (a, rest)
  | _ => .error .malformed

/-- One of a closed set of names: the name as a string, or as the only member of an object,
    with the value `null`. -/
def name (names : List (String × α)) : Decoder α where
  read depth cs :=
    match skipBlank cs with
    | [] => .error .truncated
    | '\x22' :: rest => do
      let (name, rest) ← readString rest
      let a ← unfit (ofName names name)
      .ok (a, rest)
    | '{' :: rest => if depth = 0 then .error .malformed else readNamedNull names rest
    | _ => .error .malformed
  ofValue origin
    | .string s => ofName names s
    | .object [(name, v)] => do
      let a ← ofName names name
      if saysNothing origin v then .ok a else .error .invalidType
    | .object _ => .error .invalidValue
    | _ => .error .invalidType

end Decoder

/-! ## Records -/

/-- A member of a record: how its value is read and put into the record. -/
structure Field (α : Type) where
  name : String
  required : Bool
  setter : Decoder (α → α)

/-- A record: what it holds before any member is read, and its members in order. -/
structure Record (α : Type) where
  blank : α
  fields : List (Field α)

namespace Record

variable {α : Type}

/-- The first required member that has not been seen. -/
def missing? (r : Record α) (seen : List String) : Option String :=
  (r.fields.find? fun f => f.required && !seen.contains f.name).map (·.name)

/-- The record at the end of its members. -/
def finish (r : Record α) (seen : List String) (a : α) : Except Mismatch α :=
  match r.missing? seen with
  | some name => .error (.missingField name)
  | none => .ok a

def field? (r : Record α) (name : String) : Option (Field α) :=
  r.fields.find? (·.name = name)

/-- Reads the members of an object that are left, and its end.  A member that the record does
    not know is passed over. -/
def readNamed (r : Record α) :
    (fuel : Nat) → (depth : Nat) → (first : Bool) → (seen : List String) → α → Read α
  | 0, _, _, _, _, _ => .error .truncated
  | fuel + 1, depth, first, seen, a, cs => do
    match ← nextName first cs with
    | (none, rest) =>
      let a ← unfit (r.finish seen a)
      .ok (a, rest)
    | (some name, rest) =>
      match r.field? name with
      | none =>
        let rest ← colon rest
        let rest ← skipValue rest
        r.readNamed fuel depth false seen a rest
      | some f =>
        if name ∈ seen then .error (.unfit (.duplicateField name))
        else
          let rest ← colon rest
          let (set, rest) ← f.setter.read depth rest
          r.readNamed fuel depth false (name :: seen) (set a) rest

/-- Reads the items of an array that are left, as the values of `fields` in order, and its
    end.  Members that are not required may be left out from the end. -/
def readListed : (fields : List (Field α)) → (depth : Nat) → (first : Bool) → α → Read α
  | [], _, _, a, cs => do
    let rest ← closeItems cs
    .ok (a, rest)
  | f :: fs, depth, first, a, cs => do
    match ← nextItem first cs with
    | (none, rest) =>
      if (f :: fs).any (·.required) then .error (.unfit .invalidLength) else .ok (a, rest)
    | (some _, rest) =>
      let (set, rest) ← f.setter.read depth rest
      readListed fs depth false (set a) rest

/-- The record that the members of an object make. -/
def ofMembers (r : Record α) (origin : Origin) :
    (seen : List String) → α → List (String × Value) → Except Mismatch α
  | seen, a, [] => r.finish seen a
  | seen, a, (name, v) :: rest =>
    match r.field? name with
    | none => r.ofMembers origin seen a rest
    | some f =>
      if name ∈ seen then .error (.duplicateField name)
      else do
        let set ← f.setter.ofValue origin v
        r.ofMembers origin (name :: seen) (set a) rest

/-- The record that the items of an array make, as the values of `fields` in order. -/
def ofItems (origin : Origin) : (fields : List (Field α)) → α → List Value → Except Mismatch α
  | [], a, [] => .ok a
  | [], _, _ :: _ => .error .invalidLength
  | f :: fs, a, [] => if (f :: fs).any (·.required) then .error .invalidLength else .ok a
  | f :: fs, a, v :: vs => do
    let set ← f.setter.ofValue origin v
    ofItems origin fs (set a) vs

/-- The record that a document denotes. -/
def ofValue (r : Record α) (origin : Origin) : Value → Except Mismatch α
  | .object members => r.ofMembers origin [] r.blank members
  | .array items => ofItems origin r.fields r.blank items
  | _ => .error .invalidType

/-- A record, as an object or as an array. -/
def decoder (r : Record α) : Decoder α where
  read depth cs :=
    match skipBlank cs, depth with
    | '[' :: _, 0 | '{' :: _, 0 => .error .malformed
    | '[' :: rest, depth + 1 => readListed r.fields depth true r.blank rest
    | '{' :: rest, depth + 1 => r.readNamed (rest.length + 1) depth true [] r.blank rest
    | cs, _ => .error (unfitFault cs)
  ofValue := r.ofValue

end Record

/-! ## Tagged objects -/

/-- One form of a tagged object: what the rest of the object says. -/
structure Variant (α : Type) where
  tag : String
  content : Value → Except Mismatch α

namespace Variant

variable {α β : Type}

def ofRecord (tag : String) (r : Record β) (f : β → α) : Variant α where
  tag := tag
  content v := (r.ofValue .aside v).map f

/-- A form whose rest says nothing: members are passed over, items are too many. -/
def constant (tag : String) (a : α) : Variant α where
  tag := tag
  content
    | .array (_ :: _) => .error .invalidLength
    | _ => .ok a

end Variant

namespace Decoder

variable {α : Type}

def variant (variants : List (Variant α)) (tag : String) : Except Mismatch (Variant α) :=
  ofName (variants.map fun v => (v.tag, v)) tag

/-- Reads the members of an object that are left, and its end: the form that the tag names, and
    the other members, which are set aside. -/
def readTagged (tagName : String) (variants : List (Variant α)) :
    (fuel : Nat) → (depth : Nat) → (first : Bool) → (found : Option (Variant α)) →
      Read (Variant α × List (String × Value))
  | 0, _, _, _, _ => .error .truncated
  | fuel + 1, depth, first, found, cs => do
    match ← nextName first cs with
    | (none, rest) =>
      match found with
      | none => .error (.unfit (.missingField tagName))
      | some v => .ok ((v, []), rest)
    | (some name, rest) =>
      if name = tagName then
        if found.isSome then .error (.unfit (.duplicateField tagName))
        else
          let rest ← colon rest
          let (tag, rest) ← readText rest
          let v ← unfit (variant variants tag)
          readTagged tagName variants fuel depth false (some v) rest
      else
        let rest ← colon rest
        let (value, rest) ← readValue depth rest
        let ((v, others), rest) ← readTagged tagName variants fuel depth false found rest
        .ok ((v, (name, value) :: others), rest)

/-- The form that the tag among the members names, and the other members. -/
def splitTag (tagName : String) (variants : List (Variant α)) :
    (found : Option (Variant α)) → List (String × Value) →
      Except Mismatch (Variant α × List (String × Value))
  | none, [] => .error (.missingField tagName)
  | some v, [] => .ok (v, [])
  | found, (name, value) :: rest =>
    if name = tagName then
      if found.isSome then .error (.duplicateField tagName)
      else match value with
        | .string tag => do
          let v ← variant variants tag
          splitTag tagName variants (some v) rest
        | _ => .error .invalidType
    else do
      let (v, others) ← splitTag tagName variants found rest
      .ok (v, (name, value) :: others)

/-- An object whose member `tagName` names the form of the rest, wherever it stands; or an
    array whose first item is the tag. -/
def tagged (tagName : String) (variants : List (Variant α)) : Decoder α where
  read depth cs :=
    match skipBlank cs, depth with
    | '[' :: _, 0 | '{' :: _, 0 => .error .malformed
    | '[' :: rest, depth + 1 => do
      match ← nextItem true rest with
      | (none, _) => .error (.unfit (.missingField tagName))
      | (some _, rest) =>
        let (tag, rest) ← readText rest
        let v ← unfit (variant variants tag)
        let (items, rest) ← readItems (2 * rest.length + 2) depth false rest
        let a ← unfit (v.content (.array items))
        .ok (a, rest)
    | '{' :: rest, depth + 1 => do
      let ((v, members), rest) ← readTagged tagName variants (rest.length + 1) depth true none rest
      let a ← unfit (v.content (.object members))
      .ok (a, rest)
    | cs, _ => .error (unfitFault cs)
  ofValue _
    | .object members => do
      let (v, others) ← splitTag tagName variants none members
      v.content (.object others)
    | .array [] => .error (.missingField tagName)
    | .array (.string tag :: items) => do
      let v ← variant variants tag
      v.content (.array items)
    | _ => .error .invalidType

/-! ## Whole texts -/

def fromText (d : Decoder α) (s : String) : Except Fault α :=
  readAll (d.read maxDepth) s

def fromDocument (d : Decoder α) (s : String) : Except Fault α := do
  let v ← parse s
  unfit (d.ofValue .document v)

end Decoder

end ClusterSession.Json
