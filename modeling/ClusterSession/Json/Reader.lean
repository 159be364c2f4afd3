/-
  ClusterSession: reading JSON documents.

  * `readValue`: a document, its members as written; arrays and objects nest at
    most `maxDepth` deep.
  * `skipValue`: passes over a document of any depth.
  * `parse`: a whole text as a document with its members arranged.
-/
import ClusterSession.Json.Text
import ClusterSession.Json.Number

namespace ClusterSession.Json

/-- Deepest nesting of arrays and objects. -/
def maxDepth : Nat := 127

/-! ## Punctuation -/

/-- Goes to the next item of an array; `none` if the array has ended. -/
def nextItem (first : Bool) (cs : List Char) : Except Fault (Option Unit × List Char) :=
  match skipBlank cs with
  | [] => .error .truncated
  | ']' :: rest => .ok (none, rest)
  | c :: rest =>
    if first then .ok (some (), c :: rest)
    else if c = ',' then
      match skipBlank rest with
      | [] => .error .truncated
      | ']' :: _ => .error .malformed
      | rest => .ok (some (), rest)
    else .error .malformed

/-- Ends an array after its last wanted item. -/
def closeItems (cs : List Char) : Except Fault (List Char) :=
  match skipBlank cs with
  | [] => .error .truncated
  | ']' :: rest => .ok rest
  | ',' :: rest => if skipBlank rest = [] then .error .truncated else .error .malformed
  | _ => .error .malformed

/-- Reads the name of a member after its opening mark. -/
def nameAfterMark (cs : List Char) : Except Fault (Option String × List Char) := do
  let (name, rest) ← readString cs
  .ok (some name, rest)

/-- Goes to the next member of an object and reads its name; `none` if the object has ended. -/
def nextName (first : Bool) (cs : List Char) : Except Fault (Option String × List Char) :=
  match skipBlank cs with
  | [] => .error .truncated
  | '}' :: rest => .ok (none, rest)
  | c :: rest =>
    if first then
      if c = '\x22' then nameAfterMark rest else .error .malformed
    else if c = ',' then
      match skipBlank rest with
      | [] => .error .truncated
      | '\x22' :: rest => nameAfterMark rest
      | _ => .error .malformed
    else .error .malformed

def colon (cs : List Char) : Except Fault (List Char) :=
  match skipBlank cs with
  | [] => .error .truncated
  | ':' :: rest => .ok rest
  | _ => .error .malformed

/-! ## Documents -/

mutual

/-- Reads a value with at most `depth` nested arrays and objects. -/
def readValueWith : (fuel : Nat) → (depth : Nat) → Read Value
  | 0, _, _ => .error .truncated
  | fuel + 1, depth, cs =>
    match skipBlank cs with
    | [] => .error .truncated
    | 'n' :: rest => do
      let rest ← word ['u', 'l', 'l'] rest
      .ok (.null, rest)
    | 't' :: rest => do
      let rest ← word ['r', 'u', 'e'] rest
      .ok (.bool true, rest)
    | 'f' :: rest => do
      let rest ← word ['a', 'l', 's', 'e'] rest
      .ok (.bool false, rest)
    | '\x22' :: rest => readString.map .string rest
    | '-' :: rest => (readNumber false).map .number rest
    | '[' :: rest =>
      match depth with
      | 0 => .error .malformed
      | depth + 1 => (readItems fuel depth true).map .array rest
    | '{' :: rest =>
      match depth with
      | 0 => .error .malformed
      | depth + 1 => (readMembers fuel depth true).map .object rest
    | c :: rest => if c.isDigit then (readNumber true).map .number (c :: rest)
      else .error .malformed

/-- Reads the items of an array that are left, and its end. -/
def readItems : (fuel : Nat) → (depth : Nat) → (first : Bool) → Read (List Value)
  | 0, _, _, _ => .error .truncated
  | fuel + 1, depth, first, cs => do
    match ← nextItem first cs with
    | (none, rest) => .ok ([], rest)
    | (some _, rest) =>
      let (v, rest) ← readValueWith fuel depth rest
      let (vs, rest) ← readItems fuel depth false rest
      .ok (v :: vs, rest)

/-- Reads the members of an object that are left, and its end. -/
def readMembers : (fuel : Nat) → (depth : Nat) → (first : Bool) → Read (List (String × Value))
  | 0, _, _, _ => .error .truncated
  | fuel + 1, depth, first, cs => do
    match ← nextName first cs with
    | (none, rest) => .ok ([], rest)
    | (some name, rest) =>
      let rest ← colon rest
      let (v, rest) ← readValueWith fuel depth rest
      let (ms, rest) ← readMembers fuel depth false rest
      .ok ((name, v) :: ms, rest)

end

/-- Reads a value; every step of the reader takes a character, so the length of the text is
    fuel enough. -/
def readValue (depth : Nat) : Read Value := fun cs =>
  readValueWith (2 * cs.length + 2) depth cs

/-! ## Passing over -/

/-- Goes to the next member of an object and passes over its name; `none` if the object has
    ended. -/
def skipName (first : Bool) (cs : List Char) : Except Fault (Option Unit × List Char) :=
  match skipBlank cs with
  | [] => .error .truncated
  | '}' :: rest => .ok (none, rest)
  | c :: rest =>
    if first then
      if c = '\x22' then do
        let rest ← skipString rest
        .ok (some (), rest)
      else .error .malformed
    else if c = ',' then
      match skipBlank rest with
      | [] => .error .truncated
      | '\x22' :: rest => do
        let rest ← skipString rest
        .ok (some (), rest)
      | _ => .error .malformed
    else .error .malformed

mutual

def skipValueWith : (fuel : Nat) → List Char → Except Fault (List Char)
  | 0, _ => .error .truncated
  | fuel + 1, cs =>
    match skipBlank cs with
    | [] => .error .truncated
    | 'n' :: rest => word ['u', 'l', 'l'] rest
    | 't' :: rest => word ['r', 'u', 'e'] rest
    | 'f' :: rest => word ['a', 'l', 's', 'e'] rest
    | '\x22' :: rest => skipString rest
    | '-' :: rest => skipNumber rest
    | '[' :: rest => skipItems fuel true rest
    | '{' :: rest => skipMembers fuel true rest
    | c :: rest => if c.isDigit then skipNumber (c :: rest) else .error .malformed

/-- Passes over the items of an array that are left, and its end. -/
def skipItems : (fuel : Nat) → (first : Bool) → List Char → Except Fault (List Char)
  | 0, _, _ => .error .truncated
  | fuel + 1, first, cs => do
    match ← nextItem first cs with
    | (none, rest) => .ok rest
    | (some _, rest) =>
      let rest ← skipValueWith fuel rest
      skipItems fuel false rest

/-- Passes over the members of an object that are left, and its end. -/
def skipMembers : (fuel : Nat) → (first : Bool) → List Char → Except Fault (List Char)
  | 0, _, _ => .error .truncated
  | fuel + 1, first, cs => do
    match ← skipName first cs with
    | (none, rest) => .ok rest
    | (some _, rest) =>
      let rest ← colon rest
      let rest ← skipValueWith fuel rest
      skipMembers fuel false rest

end

def skipValue (cs : List Char) : Except Fault (List Char) :=
  skipValueWith (2 * cs.length + 2) cs

/-! ## Whole texts -/

/-- Reads a whole text with `r`; only blanks may follow. -/
def readAll {α : Type} (r : Read α) (text : String) : Except Fault α :=
  match r text.toList with
  | .error e => .error e
  | .ok (a, rest) => if skipBlank rest = [] then .ok a else .error .malformed

/-- Reads a text as a document with its members arranged. -/
def parse (text : String) : Except Fault Value :=
  readAll ((readValue maxDepth).map Value.canonical) text

end ClusterSession.Json
